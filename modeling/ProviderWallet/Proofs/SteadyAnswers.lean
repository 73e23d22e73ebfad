import ProviderWallet.Proofs.Outgoing
import ProviderWallet.Proofs.Timing

namespace ProviderWallet

/-- Who answers each request in the same way, whatever happened before. -/
abbrev Responder := (q : Request) → q.Answer

namespace Workflow

variable {α β : Type} {r r' : Responder}

def value (r : Responder) : Workflow α → α
  | done a => a
  | request q next => (next (r q)).value r

/-- Whatever is answered, only requests of some kind are made. -/
def AsksOnly (kind : Request → Prop) (w : Workflow α) : Prop :=
  w.Yields fun trace _ => ∀ event ∈ trace, kind event.request

variable {kind : Request → Prop}

theorem asksOnly_done (a : α) : (done a).AsksOnly kind :=
  yields_done fun _ among => nomatch among

theorem AsksOnly.bind {w : Workflow α} {f : α → Workflow β} (h : w.AsksOnly kind)
    (rest : ∀ a, (f a).AsksOnly kind) : (w.bind f).AsksOnly kind := by
  refine Yields.bind h ?_
  intro first a only
  refine Yields.mono (rest a) ?_
  intro trace b only'
  exact List.forall_mem_append.mpr ⟨only, only'⟩

theorem AsksOnly.mono {kind' : Request → Prop} {w : Workflow α} (h : w.AsksOnly kind)
    (le : ∀ {q}, kind q → kind' q) : w.AsksOnly kind' :=
  Yields.mono h fun _ _ only event among => le (only event among)

theorem AsksOnly.map {w : Workflow α} (h : w.AsksOnly kind) (f : α → β) :
    (w.bind fun a => done (f a)).AsksOnly kind :=
  h.bind fun a => asksOnly_done (f a)

end Workflow

namespace Network

variable {α : Type}

end Network

end ProviderWallet
