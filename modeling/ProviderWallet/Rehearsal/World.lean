import ProviderWallet.Rehearsal.Script
import ProviderWallet.Workflow

namespace ProviderWallet.Rehearsal

structure World where
  script : Script
  hub : Hub.Page → Hub.Answer
  now : Millis
  asked : List Node.Call
  sent : List Transaction
  /-- For each account who sends its transactions, the first of the list, and who is next. -/
  turns : Address → List Nat

inductive Wait where
  /-- A point in time. The request may have been given up then. -/
  | time (wake : Millis) (givenUp : Bool)
  | turn (account : Address)
  deriving DecidableEq, Repr

namespace World

def count (w : World) (call : Node.Call) : Nat :=
  (w.asked.filter fun other => topicOf other = topicOf call).length

def ask (w : World) (call : Node.Call) : World :=
  { w with asked := w.asked ++ [call] }

/-- When a question that is asked now is answered, or when it is given up. A question that is
answered at once is never given up. -/
def waitFor (w : World) (deadline : Option Millis) (call : Node.Call) : Wait :=
  let delay := w.script.delay call (w.count call)
  let wake := w.now + delay
  match deadline with
  | none => .time wake false
  | some time =>
    if delay ≠ 0 ∧ time < wake then .time (max w.now time) true else .time wake false

def begin (w : World) (task : Nat) : Request → Wait × World
  | .ask call => (w.waitFor none call, w.ask call)
  | .askUntil deadline call => (w.waitFor (some deadline) call, w.ask call)
  | .sleep span => (.time (w.now + span) false, w)
  | .enter account =>
    (.turn account,
      { w with turns := fun a =>
          if a = account then w.turns a ++ [task] else w.turns a })
  | .fetch _ | .clock | .leave _ => (.time w.now false, w)

def isOver (w : World) (task : Nat) : Wait → Bool
  | .time wake _ => wake ≤ w.now
  | .turn account => (w.turns account).head? = some task

def answerCall (w : World) (call : Node.Call) (k : Nat) : call.Answer × World :=
  let (answer, sent) := w.script.answer w.sent call k
  (answer, { w with sent })

/-- Answers a request that was waited for. The number of a question is that of the questions about
its topic before it. -/
def finish (w : World) (k : Nat) (givenUp : Bool) :
    (q : Request) → q.Answer × World
  | .ask call => w.answerCall call k
  | .askUntil _ call =>
    if givenUp then (none, w)
    else
      let (answer, w) := w.answerCall call k
      (some answer, w)
  | .fetch page => (w.hub page, w)
  | .clock => (w.now, w)
  | .sleep _ | .enter _ => ((), w)
  | .leave account =>
    ((), { w with turns := fun a => if a = account then (w.turns a).tail else w.turns a })

end World

end ProviderWallet.Rehearsal
