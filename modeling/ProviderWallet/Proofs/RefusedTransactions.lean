import ProviderWallet.Proofs.NumberText
import ProviderWallet.Proofs.Outgoing
import ProviderWallet.Proofs.ProblemHints
import ProviderWallet.Proofs.SubmissionCourse

namespace ProviderWallet

open Command (Action Inputs Report Session Settings Task)
open Storage (Files)
open Workflow

def Transaction.refusal (tx : Transaction) (method reason : String) : Failure :=
  .submission tx.sender.text method (Failure.connection reason).message

/-- If a transaction was refused, this is the result. -/
def TellsRefusal (acts : List Act) (result : Except Failure TxHash) : Prop :=
  ∀ tx reason, .hand tx (some (.error reason)) ∈ acts →
    ∃ method, result = .error (tx.refusal method reason)

theorem mem_handed {tx : Transaction} {reply : Option (Except String TxHash)} {acts : List Act}
    (among : .hand tx reply ∈ acts) : tx ∈ handed acts :=
  List.mem_filterMap.mpr ⟨_, among, rfl⟩

/-- A submission that is refused says why. -/
theorem Submission.Handing.tellsRefusal {s : Submission} {acts : List Act}
    {result : Except Failure TxHash} (h : s.Handing acts result) : TellsRefusal acts result := by
  intro tx reason among
  cases h with
  | stopped f => cases among
  | handed other reply payload sender =>
    cases List.mem_singleton.mp among
    exact ⟨s.method, rfl⟩

/-- Only the last transaction of a deposit can have been refused. -/
theorem Depositing.tellsRefusal {w : Waiter} {approval deposit : Submission} {acts : List Act}
    {result : Except Failure TxHash} (h : Depositing w approval deposit acts result) :
    TellsRefusal acts result := by
  intro tx reason among
  cases h with
  | unapproved first => exact first.tellsRefusal tx reason among
  | unconfirmed other hash payload waiting =>
    obtain same | among := List.mem_cons.mp among
    · cases same
    · have among := mem_handed among
      rw [waiting.handed_eq_nil] at among
      cases among
  | confirmed other hash n payload second =>
    refine second.tellsRefusal tx reason ?_
    simpa [Act.absent, Act.success] using among

theorem Operator.invoke_tellsRefusal (op : Operator) (key : KeyText) (contract : Address)
    (i : Contract.Invocation) (value : Option Wei) :
    (op.invoke key contract i value).Does TellsRefusal :=
  (Submission.submit_does _ op.timeLimit).mono fun _ _ handing => handing.tellsRefusal

theorem Operator.withKey_tellsRefusal {op : Operator} {account : Address} {task : String}
    {f : KeyText → Workflow (Except Failure TxHash)} (h : ∀ key, (f key).Does TellsRefusal) :
    (op.withKey account task f).Does TellsRefusal := by
  unfold withKey
  split
  · exact does_done fun _ _ among => nomatch among
  · exact h _

open Operator in
/-- Whatever the work is, it fails with the reason of the node. -/
theorem Job.run_tellsRefusal (op : Operator) (job : Job) : (job.run op).Does TellsRefusal := by
  cases job with
  | send sender recipient amount =>
    refine withKey_tellsRefusal fun key => ?_
    exact (Submission.submit_does _ op.timeLimit).mono fun _ _ handing => handing.tellsRefusal
  | addCollateral sender amount target =>
    refine withKey_tellsRefusal fun key => ?_
    cases target with
    | token collateral token =>
      exact (op.depositTokens_does key sender amount collateral token).mono
        fun _ _ depositing => depositing.tellsRefusal
    | native collateral account => exact op.invoke_tellsRefusal _ _ _ _
  | withdrawCollateral owner amount target =>
    refine withKey_tellsRefusal fun key => ?_
    cases target <;> exact op.invoke_tellsRefusal _ _ _ _
  | sendTokens sender recipient amount token =>
    exact withKey_tellsRefusal fun key => op.invoke_tellsRefusal _ _ _ _
  | changeAccount key contract mutation => exact op.invoke_tellsRefusal _ _ _ _

namespace Command

def doing : Command → List String
  | addCollateral _ _ kind => [kind.text ++ " collateral deposit"]
  | withdrawCollateral _ _ kind => [kind.text ++ " collateral withdrawal"]
  | _ => []

/-- If a transaction was refused, this is the result, with what was being done in front. -/
def SaysRefusal (doing : List String) (acts : List Act) (result : Except Problem Report) : Prop :=
  ∀ tx reason, .hand tx (some (.error reason)) ∈ acts →
    ∃ method, result = .error ((Problem.failure (tx.refusal method reason)).within doing)

theorem reporting_saysRefusal {w : Workflow (Except Failure TxHash)} (h : w.Does TellsRefusal)
    (report : TxHash → Report) : (reporting report w).Does (SaysRefusal []) := by
  refine h.bind fun acts result tells => does_done ?_
  rw [List.append_nil]
  intro tx reason among
  obtain ⟨method, rfl⟩ := tells tx reason among
  exact ⟨method, rfl⟩

/-- What was being done stands in front of what was said before. -/
theorem whileDoing_saysRefusal {w : Workflow (Except Problem Report)} {doing : List String}
    (h : w.Does (SaysRefusal doing)) (step : String) :
    (whileDoing step w).Does (SaysRefusal (step :: doing)) := by
  refine h.bind fun acts result told => does_done ?_
  rw [List.append_nil]
  intro tx reason among
  obtain ⟨method, rfl⟩ := told tx reason among
  exact ⟨method, rfl⟩

/-- Who hands nothing over is refused nothing. -/
theorem saysRefusal_of_quiet {w : Workflow (Except Problem Report)} (h : w.HandsAtMost 0)
    (doing : List String) : w.Does (SaysRefusal doing) := by
  refine Yields.mono h ?_
  intro trace result few tx reason among
  have among := mem_handed among
  rw [handed_acts, List.eq_nil_of_length_eq_zero (Nat.le_zero.mp few)] at among
  cases among

namespace Action

variable {α : Type} {kind : Workflow (Except Problem Report) → Prop}

def Leaves (kind : Workflow (Except Problem Report) → Prop) (m : Action Task) : Prop :=
  ∀ files endpoint work files', m.run.run files = (.ok (.remote endpoint work), files') → kind work

theorem leaves_bind {m : Action α} {f : α → Action Task} (h : ∀ a, (f a).Leaves kind) :
    (m >>= f).Leaves kind := by
  intro files endpoint work files' run
  obtain ⟨a, files'', -, rest⟩ := run_bind_inv run
  exact h a files'' endpoint work files' rest

theorem leaves_done (report : Report) : Leaves kind (pure (.done report)) :=
  fun _ _ _ _ run => nomatch run

theorem leaves_remote {work : Workflow (Except Problem Report)} (h : kind work)
    (endpoint : Http.Url) : Leaves kind (pure (.remote endpoint work)) := by
  intro files endpoint' work' files' run
  cases run
  exact h

end Action

open Command.Action

namespace Session

variable {kind : Workflow (Except Problem Report) → Prop}

theorem remotely_leaves {work : Operator → Workflow (Except Problem Report)}
    (h : ∀ op, kind (work op)) (s : Session) (folder : Keystore.Folder) :
    (s.remotely folder work).Leaves kind :=
  leaves_bind fun endpoint => leaves_bind fun files =>
    leaves_remote (h (s.operator folder files)) endpoint

/-- Every command that hands a transaction over says when it is refused. -/
theorem perform_saysRefusal (s : Session) (inputs : Inputs) (command : Command) :
    (s.perform inputs command).Leaves fun work => work.Does (SaysRefusal command.doing) := by
  cases command with
  | newKey => exact leaves_bind fun _ => leaves_done _
  | listKeys inTokens =>
    have listing (folder : Keystore.Folder) (token : Option Address) :
        (s.remotely folder fun op => reporting .balances (op.listBalances token)).Leaves
          fun work => work.Does (SaysRefusal []) := by
      refine remotely_leaves (fun op => ?_) s folder
      exact saysRefusal_of_quiet
        ((op.rows_handsAtMost (Operator.balanceRow_handsAtMost token)).map _) _
    refine leaves_bind fun folder => ?_
    cases inTokens with
    | false => exact leaves_bind fun _ => listing folder _
    | true => exact leaves_bind fun token => listing folder token
  | importKey path =>
    refine leaves_bind fun text => ?_
    dsimp only
    split
    · exact leaves_bind fun _ => leaves_bind fun _ => leaves_done _
    · exact leaves_bind fun _ => leaves_done _
  | revealKey account => exact leaves_bind fun _ => leaves_bind fun _ => leaves_done _
  | deleteKey account isCertain =>
    refine leaves_bind fun account => ?_
    dsimp only
    split
    · exact leaves_bind fun _ => leaves_bind fun _ => leaves_done _
    · exact leaves_bind fun _ => leaves_done _
  | sign account message => exact leaves_bind fun _ => leaves_bind fun _ => leaves_done _
  | verify account signature message =>
    refine leaves_bind fun account => leaves_bind fun bytes => leaves_bind fun folder => ?_
    split
    · exact leaves_done _
    · exact fun _ _ _ _ run => nomatch run
  | send sender recipient amount =>
    refine leaves_bind fun sender => leaves_bind fun recipient => leaves_bind fun amount =>
      leaves_bind fun folder => remotely_leaves (fun op => ?_) s folder
    exact reporting_saysRefusal ((Job.send sender recipient amount).run_tellsRefusal op) _
  | addCollateral sender amount kind =>
    refine leaves_bind fun sender => leaves_bind fun amount => leaves_bind fun target =>
      leaves_bind fun folder => remotely_leaves (fun op => ?_) s folder
    exact whileDoing_saysRefusal (reporting_saysRefusal
      ((Job.addCollateral sender amount target).run_tellsRefusal op) _) _
  | withdrawCollateral owner amount kind =>
    refine leaves_bind fun owner => leaves_bind fun amount => leaves_bind fun target =>
      leaves_bind fun folder => remotely_leaves (fun op => ?_) s folder
    exact whileDoing_saysRefusal (reporting_saysRefusal
      ((Job.withdrawCollateral owner amount target).run_tellsRefusal op) _) _
  | sendCollateral sender recipient amount =>
    refine leaves_bind fun sender => leaves_bind fun recipient => leaves_bind fun amount =>
      leaves_bind fun token => leaves_bind fun folder => remotely_leaves (fun op => ?_) s folder
    exact reporting_saysRefusal
      ((Job.sendTokens sender recipient amount token).run_tellsRefusal op) _
  | listCollateral kind =>
    refine leaves_bind fun target => leaves_bind fun folder =>
      remotely_leaves (fun op => ?_) s folder
    exact saysRefusal_of_quiet ((op.rows_handsAtMost (Operator.collateralRow_handsAtMost target
      (Hub.escrow_handsAtMost s.config.hub))).map _) _
  | showAccount =>
    refine leaves_bind fun contract => leaves_bind fun folder =>
      remotely_leaves (fun op => ?_) s folder
    exact saysRefusal_of_quiet
      ((Contract.Account.state.ask_handsAtMost contract Contract.Account.readState?).map _) _
  | changeAccount signer change =>
    refine leaves_bind fun contract => leaves_bind fun invocation => leaves_bind fun folder =>
      leaves_bind fun signer => leaves_bind fun endpoint => leaves_bind fun files =>
      leaves_bind fun key => leaves_remote ?_ endpoint
    exact reporting_saysRefusal (Operator.invoke_tellsRefusal _ _ _ _ _) _

end Session

end Command

namespace Program

variable {σ : Type}

/-- In a run of a command the node refuses a transaction, for a reason. -/
def Refuses (env : Environment) (inputs : Inputs) (peers : Http.Url → Network.Peers σ)
    (settings : Settings) (command : Command) (files : Files) (state : Network.State σ)
    (tx : Transaction) (reason : String) : Prop :=
  ∃ endpoint work files',
    (prepare env inputs settings command).run.run files = (.ok (.remote endpoint work), files') ∧
      .hand tx (some (.error reason)) ∈
        (work.play (Network.outside (peers endpoint) state)).2.acts

theorem prepare_saysRefusal (env : Environment) (inputs : Inputs) (settings : Settings)
    (command : Command) : (prepare env inputs settings command).Leaves fun work =>
      work.Does (Command.SaysRefusal command.doing) :=
  Command.Action.leaves_bind fun s => s.perform_saysRefusal inputs command

/-- A run of which a transaction is refused ends with that, and with what was being done. -/
theorem outcome_of_refuses {env : Environment} {inputs : Inputs}
    {peers : Http.Url → Network.Peers σ} {settings : Settings} {command : Command} {files : Files}
    {state : Network.State σ} {tx : Transaction} {reason : String}
    (refuses : Refuses env inputs peers settings command files state tx reason) :
    ∃ method, (runCommand env inputs peers settings command files state).1 =
      ⟨.failure, "", Command.problemText settings.json
        ((Problem.failure (tx.refusal method reason)).within command.doing)⟩ := by
  obtain ⟨endpoint, work, files', prepared, among⟩ := refuses
  have answers := prepare_saysRefusal env inputs settings command _ _ _ _ prepared
  obtain ⟨method, result⟩ := answers.play (Network.outside (peers endpoint) state) tx reason among
  have run : finish peers state (.remote endpoint work) = _ :=
    Network.run_eq_play (peers endpoint) state work []
  refine ⟨method, ?_⟩
  rw [runCommand_prepared prepared, run]
  change Outcome.ofResult settings (work.play (Network.outside (peers endpoint) state)).1 = _
  have behind : ((Problem.failure (tx.refusal method reason)).within command.doing).failure? =
      some (tx.refusal method reason) := Problem.failure?_within ..
  have told : (tx.refusal method reason).IsReturned := fun _ same => nomatch same
  rw [result, ofResult_returned behind told]
  rfl

end Program

namespace Problem

theorem messages_within (doing : List String) (p : Problem) :
    (p.within doing).messages = doing ++ p.messages := by
  induction doing with
  | nil => rfl
  | cons step doing ih => exact congrArg (step :: ·) ih

/-- A failure of the wallet that is no common mistake is shown as it is. -/
theorem advice_refusal (tx : Transaction) (method reason : String) (doing : List String) :
    ((failure (tx.refusal method reason)).within doing).advice =
      String.intercalate ": " (doing ++ ["address: " ++ tx.sender.text ++ ", " ++ method ++
        " transaction failed: " ++ ("chain connection error: " ++ reason)]) := by
  have known : ((failure (tx.refusal method reason)).within doing).failure? =
      some (tx.refusal method reason) := failure?_within ..
  rw [advice, known]
  change message _ = _
  rw [message, messages_within]
  rfl

end Problem

theorem Command.doing_cases (command : Command) :
    command.doing = [] ∨ ∃ (kind : Collateral.Kind) (task : String),
      command.doing = [kind.text ++ task] := by
  cases command with
  | addCollateral sender amount kind => exact .inr ⟨kind, _, rfl⟩
  | withdrawCollateral owner amount kind => exact .inr ⟨kind, _, rfl⟩
  | _ => exact .inl rfl

/-- Hints begin with a capital letter. What a command was doing does not, and neither does the
refusal itself. -/
theorem refusal_without_hint (command : Command) (tx : Transaction) (method reason : String)
    (hint : Problem.Hint) : ¬ hint.text.toList <+:
      ((Problem.failure (tx.refusal method reason)).within command.doing).advice.toList := by
  have first : ∃ c ∈ ['a', 'e', 'f'],
      ((Problem.failure (tx.refusal method reason)).within command.doing).advice.toList.head? =
        some c := by
    rw [Problem.advice_refusal]
    rcases command.doing_cases with none | ⟨kind, task, some⟩
    · rw [none, List.nil_append, String.intercalate_singleton]
      simp only [String.toList_append, List.head?_append]
      exact ⟨'a', by decide, rfl⟩
    · rw [some, List.singleton_append, String.intercalate_cons_cons]
      simp only [String.toList_append, List.head?_append]
      cases kind with
      | token => exact ⟨'f', by decide, rfl⟩
      | native => exact ⟨'e', by decide, rfl⟩
  rintro ⟨rest, whole⟩
  obtain ⟨c, small, begins⟩ := first
  rw [← whole, List.head?_append] at begins
  cases hint with
  | funds =>
    obtain rfl : 'I' = c := Option.some.inj begins
    exact absurd small (by decide)
  | conflict =>
    obtain rfl : 'T' = c := Option.some.inj begins
    exact absurd small (by decide)

/-- Hints go by the outermost text of what is no failure of the wallet. When the node refuses a
transaction this is a failure of the wallet, and so the reason is shown and no hint, whatever the
reason is. -/
theorem refusal_shown_as_it_is {σ : Type} (env : Environment) (inputs : Inputs)
    (peers : Http.Url → Network.Peers σ) (settings : Settings) (command : Command) (files : Files)
    (state : Network.State σ) :
    (∀ (p : Problem) (doing : List String) (hint : Problem.Hint),
      (p.within doing).Shows hint ↔
        p.failure? = none ∧ hint.Fits (doing.head?.getD p.outermost)) ∧
    ∀ (tx : Transaction) (reason : String),
      Program.Refuses env inputs peers settings command files state tx reason →
      ∃ method,
        let p := (Problem.failure (tx.refusal method reason)).within command.doing
        (Program.runCommand env inputs peers settings command files state).1 =
          ⟨.failure, "", Command.problemText settings.json p⟩ ∧
        p.advice = String.intercalate ": " (command.doing ++ ["address: " ++ tx.sender.text ++
          ", " ++ method ++ " transaction failed: " ++ ("chain connection error: " ++ reason)]) ∧
        ∀ hint : Problem.Hint, ¬ hint.text.toList <+: p.advice.toList := by
  refine ⟨fun p doing hint => Problem.shows_within_iff doing p, ?_⟩
  intro tx reason refuses
  obtain ⟨method, outcome⟩ := Program.outcome_of_refuses refuses
  refine ⟨method, outcome, Problem.advice_refusal .., ?_⟩
  exact refusal_without_hint command tx method reason

/-- If the node answers the questions of a submission and refuses the transaction, that one was
handed over. -/
theorem Submission.submit_refused {s : Submission} {signer : SecretKey}
    (known : s.key.secret = .ok signer) {outside : Outside} {terms : Terms} {reason : String}
    (answered : ∀ past deadline (q : Question),
      outside past (.askUntil deadline (q.call signer.address)) =
        some (.ok (q.reply signer.address terms)))
    (refused : ∀ past deadline tx,
      outside past (.askUntil deadline (.send signer tx)) = some (.error reason))
    {start timeLimit : Millis} (clock : outside [⟨.enter signer.address, ()⟩] .clock = start)
    (within : start + timeLimit ≤ Millis.last) :
    ∃ tx, .hand tx (some (.error reason)) ∈ ((s.submit timeLimit).play outside).2.acts := by
  have nonce := fun past deadline => answered past deadline .nonce
  have price := fun past deadline => answered past deadline .price
  have tip := fun past deadline => answered past deadline .tip
  have chain := fun past deadline => answered past deadline .chain
  dsimp only [Question.call, Question.reply] at nonce price tip chain
  rw [submit_play known start clock within]
  simp only [of, bind_eq, bind_request, bind_done, pure_eq, playFrom, sendInTurn, fetchFor,
    parameter, askBy, ExceptT.run_bind, ExceptT.run_mk, ExceptT.run_pure, nonce, price, tip, chain,
    send, refused]
  exact ⟨_, List.mem_singleton_self _⟩

namespace Network

def oneBody : String :=
  "\x7b\"result\":\"0x1\"\x7d"

def poorBody : String :=
  "\x7b\"error\":\x7b\"code\":-32000,\"message\":\"insufficient funds for transfer\"\x7d\x7d"

def poorReason : String :=
  "server returned an error response: error code -32000: insufficient funds for transfer"

/-- A node that answers every question with 1, but refuses to say what gas a transaction takes. -/
def poor : Peers Unit where
  node _ q := ((.ok (200, if q.method = "eth_estimateGas" then poorBody else oneBody), 0), ())
  hub _ _ := ((.error "no such page", 0), ())

variable (s : State Unit) (past : Trace) (deadline : Millis)

theorem poor_answers (sender : Address) (q : Submission.Question) :
    outside poor s past (.askUntil deadline (q.call sender)) =
      some (.ok (q.reply sender ⟨1, 1, 1, 1⟩)) := by
  have word : Rpc.resultOf Rpc.word64? (.ok (200, oneBody)) = .ok 1 := by decide +kernel
  have price : Rpc.resultOf Rpc.price? (.ok (200, oneBody)) = .ok 1 := by decide +kernel
  cases q <;> simp [outside, answer, exchange, isLate, poor, Submission.Question.call,
    Submission.Question.reply, Rpc.Exchange.ofCall, Rpc.Exchange.single, Rpc.Query.nonce,
    Rpc.Query.gasPrice, Rpc.Query.gasTip, Rpc.Query.chainId, word, price]

theorem poor_refuses (signer : SecretKey) (tx : Transaction) :
    outside poor s past (.askUntil deadline (.send signer tx)) = some (.error poorReason) := by
  have reason : Rpc.resultOf Rpc.word64? (.ok (200, poorBody)) = .error poorReason := by
    decide +kernel
  simp [outside, answer, exchange, isLate, poor, Rpc.Exchange.ofCall, Rpc.Exchange.send,
    Rpc.Query.gas, reason]

end Network

/-- A payment for which all is there gets as far as the network. -/
theorem Command.Session.send_of_found {s : Session} {sender recipient amount : String}
    {files files' : Files} {account other : Address} {wei : Wei} {endpoint : Http.Url}
    (parsed : Address.parse sender = .ok account) (parsed' : Address.parse recipient = .ok other)
    (read : Amount.parse amount = .ok wei)
    (prepared : Keystore.Folder.prepare (s.config.keystorePath s.folder) files = .ok files')
    (reached : s.endpoint.run.run files' = (.ok endpoint, files')) :
    (s.send sender recipient amount).run.run files = (.ok (.remote endpoint (reporting .sent
      ((s.operator s.keystore files').send account other wei))), files') := by
  have amount_run : (amountArgument amount).run.run files = (.ok wei, files) := by
    rw [amountArgument, read]
    rfl
  rw [Session.send, Action.run_bind_ok ((addressArgument_iff _).mpr parsed),
    Action.run_bind_ok ((addressArgument_iff _).mpr parsed'), Action.run_bind_ok amount_run,
    Action.run_bind_ok (openKeystore_of_ok prepared), Session.remotely, Action.run_bind_ok reached]
  rfl

open Network in
/-- A payment for which the funds are missing: the line says so at its end, and it has no hint. -/
theorem poor_payment_shown :
    let env : Environment := ⟨some "/c", none, none, none, none, none⟩
    let s : Session := ⟨"/c", .standard, none, none⟩
    let secret : SecretKey := ⟨1, by decide, by decide⟩
    let files := firstStored s.keystore (Files.withFolder ["c", "keystore"]) ["c", "keystore"]
      ⟨0, 0, 0⟩ ⟨5⟩ ⟨secret.text⟩
    let inputs : Inputs := ⟨[], ⟨0, 0, 0⟩, secret⟩
    let command := Command.send "0x0000000000000000000000000000000000000005"
      "0x0000000000000000000000000000000000000009" "1"
    ∃ tx method,
      Program.Refuses env inputs (fun _ => poor) ⟨none, false⟩ command files ⟨(), 0, []⟩ tx
        poorReason ∧
      (Program.runCommand env inputs (fun _ => poor) ⟨none, false⟩ command files ⟨(), 0, []⟩).1 =
        ⟨.failure, "", "Error: " ++ ("address: " ++ tx.sender.text ++ ", " ++ method ++
          " transaction failed: " ++ ("chain connection error: " ++ poorReason)) ++ "\n"⟩ := by
  intro env s secret files inputs command
  have reaches : s.keystore.Reaches (Files.withFolder ["c", "keystore"]) ["c", "keystore"] :=
    ⟨by decide +kernel, ⟨0o755, rfl⟩, by decide⟩
  have found := get_firstStored reaches (fun _ => rfl) ⟨0, 0, 0⟩ ⟨5⟩ ⟨secret.text⟩
  have prepared : Keystore.Folder.prepare (s.config.keystorePath s.folder) files = .ok files :=
    Keystore.Folder.prepare_of_exists (by decide +kernel)
  have loaded : (Session.load env none).run.run files = (.ok s, files) := by
    have there : files.exists? "/c" = true := by decide +kernel
    have absent : files.exists? (Storage.Path.join "/c" "config.toml") = false := by
      decide +kernel
    exact (Command.Action.run_of_ok (Config.load_standard rfl there absent rfl) _).trans rfl
  obtain ⟨endpoint, named⟩ : ∃ endpoint,
      Network.endpointOf "https://mainnet-rpc.swanchain.org" = .ok endpoint :=
    exists_of_isOk (by decide +kernel)
  have url : s.config.endpoint s.chain = .ok "https://mainnet-rpc.swanchain.org" := by
    decide +kernel
  have five : Address.parse "0x0000000000000000000000000000000000000005" = .ok ⟨5⟩ := by
    decide +kernel
  have nine : Address.parse "0x0000000000000000000000000000000000000009" = .ok ⟨9⟩ := by
    decide +kernel
  obtain ⟨wei, one⟩ : ∃ wei, Amount.parse "1" = .ok wei := exists_of_isOk (by decide +kernel)
  have reached : s.endpoint.run.run files = (.ok endpoint, files) :=
    Command.Session.endpoint_of_ok url named
  have run : (Program.prepare env inputs ⟨none, false⟩ command).run.run files = _ :=
    (Program.prepare_run loaded).trans
      (Command.Session.send_of_found five nine one prepared reached)
  let op := s.operator s.keystore files
  have keyed : op.keyOf ⟨5⟩ = .ok (some ⟨secret.text⟩) :=
    (Command.Session.keyOf_operator s files ⟨5⟩).trans found
  have known : (Submission.payment ⟨secret.text⟩ ⟨9⟩ wei).key.secret = .ok secret :=
    secret.secret_text
  have within : 0 + op.timeLimit ≤ Millis.last := by decide
  obtain ⟨tx, among⟩ := Submission.submit_refused known
    (fun past deadline => poor_answers ⟨(), 0, []⟩ past deadline secret.address)
    (fun past deadline => poor_refuses ⟨(), 0, []⟩ past deadline secret) rfl within
  have refuses : Program.Refuses env inputs (fun _ => poor) ⟨none, false⟩ command files
      ⟨(), 0, []⟩ tx poorReason := by
    refine ⟨endpoint, _, files, run, ?_⟩
    rw [Command.reporting_trace, Operator.send, Operator.withKey_found keyed]
    exact among
  obtain ⟨method, outcome, advice, -⟩ :=
    (refusal_shown_as_it_is env inputs (fun _ => poor) _ command files _).2 tx poorReason refuses
  refine ⟨tx, method, refuses, outcome.trans ?_⟩
  rw [Command.problemText, if_neg Bool.false_ne_true, advice]
  rfl

/-- A lack of funds that the node tells of has no hint, and one that is told of alone loses its hint
when it is said what was being done. -/
theorem lack_of_funds_without_hint :
    let refused : Problem := .failure (.submission "0x7E5F4552091A69125d5DfCb7b8C2659029395Bdf"
      "transfer" "chain connection error: insufficient funds for gas * price + value")
    let alone : Problem := .plain "insufficient funds"
    Problem.Says "insufficient funds" refused.message ∧ refused.advice = refused.message ∧
      ¬ refused.Shows .funds ∧ alone.Shows .funds ∧ ¬ (alone.within ["sending"]).Shows .funds := by
  intro refused alone
  refine ⟨Problem.mentions_iff.mp (by decide +kernel), rfl, ?_, ?_, ?_⟩
  · exact Problem.not_shows_of_failure rfl .funds
  · exact Problem.shows_of_fits rfl (Problem.mentions_iff.mp (by decide))
  · rw [Problem.shows_within_iff]
    rintro ⟨-, fits⟩
    exact absurd (Problem.mentions_iff.mpr fits) (by decide)

end ProviderWallet
