import ProviderWallet.Http.Url
import ProviderWallet.Rpc.Client
import ProviderWallet.Workflow

namespace ProviderWallet.Network

structure Peers (σ : Type) where
  node : σ → Rpc.Query → (Rpc.Reply × Millis) × σ
  hub : σ → Hub.Page → (Hub.Answer × Millis) × σ

inductive Message where
  | toNode (q : Rpc.Query)
  | toHub (page : Hub.Page)

structure State (σ : Type) where
  peers : σ
  now : Millis
  sent : List Message

namespace State

variable {σ : Type}

def after (s : State σ) (message : Message) (peers : σ) (span : Millis) : State σ :=
  ⟨peers, s.now + span, s.sent ++ [message]⟩

end State

variable {σ α : Type}

/-- Whether a reply that takes some time is too late. One that takes no time never is. -/
def isLate (deadline : Option Millis) (now span : Millis) : Bool :=
  match deadline with
  | none => false
  | some time => span ≠ 0 && time < now + span

def State.giveUp (s : State σ) (deadline : Option Millis) (message : Message) (peers : σ) :
    State σ :=
  ⟨peers, max s.now (deadline.getD 0), s.sent ++ [message]⟩

def exchange (peers : Peers σ) (deadline : Option Millis) :
    Rpc.Exchange α → State σ → Option α × State σ
  | .done a, s => (some a, s)
  | .query q next, s =>
    let ((reply, span), state) := peers.node s.peers q
    if isLate deadline s.now span then (none, s.giveUp deadline (.toNode q) state)
    else exchange peers deadline (next reply) (s.after (.toNode q) state span)

def noAnswer : String := "no answer"

/-- Answers one request. Nobody else sends transactions, so that every turn comes at once. -/
def answer (peers : Peers σ) (s : State σ) : (q : Request) → q.Answer × State σ
  | .ask call =>
    let (answer, s) := exchange peers none (Rpc.Exchange.ofCall call) s
    (answer.getD (.error noAnswer), s)
  | .askUntil deadline call => exchange peers (some deadline) (Rpc.Exchange.ofCall call) s
  | .fetch page =>
    let ((answer, span), state) := peers.hub s.peers page
    (answer, s.after (.toHub page) state span)
  | .sleep span => ((), { s with now := s.now + span })
  | .clock => (s.now, s)
  | .enter _ | .leave _ => ((), s)

def run (peers : Peers σ) : Workflow α → State σ → α × State σ
  | .done a, s => (a, s)
  | .request q next, s =>
    let (reply, s) := answer peers s q
    run peers (next reply) s

def endpointOf (url : String) : Except Failure Http.Url :=
  (Http.Url.read url).mapError fun fault =>
    .connection ("invalid endpoint " ++ url ++ ": " ++ fault.message)

def notSent (endpoint : Http.Url) : String :=
  if endpoint.isWeb then "error sending request for url (" ++ endpoint.text ++ ")"
  else "builder error for url (" ++ endpoint.text ++ ")"

def unreachable (endpoint : Http.Url) : Peers Unit where
  node _ _ := ((.error (notSent endpoint), 0), ())
  hub _ page := ((.error ("request failed: error sending request for url (" ++ page.url ++ ")"),
    0), ())

end ProviderWallet.Network
