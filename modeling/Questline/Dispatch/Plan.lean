import Questline.Dispatch.Builtin
import Questline.Quest.Manager

/-!
# Plans

A built-in command looks at the state and answers with a plan: the writes and notices it wants, in
order, the quest manager it leaves, and its decision. A plan does not depend on where the flags are
stored; a store carries it out.
-/

namespace Questline

structure Call where
  args : List String := []
  site : CallSite := {}
  time : Instant := default

structure View (μ : Type) where
  flags : FlagReader
  quests : μ
  keys : EngineKeys

/-- Quest bits and flags as a quest manager sees them. -/
def View.ledger {μ : Type} (v : View μ) : Ledger := ⟨v.flags, v.keys.quests⟩

inductive Effect where
  | write (key : String) (value : Int32)
  /-- A notice about what the flags read as when its turn comes. -/
  | report (notice : FlagReader → Notice)

namespace Effect

def note (n : Notice) : Effect := report fun _ => n

def ofLog (log : List Event) : List Effect := log.map fun e => note e.notice

def ofWrites (writes : List (String × Int32)) : List Effect := writes.map fun w => write w.1 w.2

def write? : Effect → Option (String × Int32)
  | write key value => some (key, value)
  | report _ => none

variable {σ : Type} [FlagStore σ]

def apply (s : σ) : Effect → Logged σ
  | write key value => FlagStore.set s key value
  | report notice => do
    Logged.note (notice (FlagStore.get s))
    pure s

def applyAll (s : σ) (effects : List Effect) : Logged σ := effects.foldlM apply s

@[simp] theorem applyAll_nil (s : σ) : applyAll s [] = pure s := rfl

@[simp] theorem applyAll_cons (s : σ) (e : Effect) (es : List Effect) :
    applyAll s (e :: es) = apply s e >>= fun s => applyAll s es := rfl

end Effect

structure Plan (μ : Type) where
  effects : List Effect
  quests : μ
  answer : Except CommandError Decision

namespace Plan

variable {μ : Type}

def writes (p : Plan μ) : List (String × Int32) := p.effects.filterMap Effect.write?

/-- A plan that decides and leaves the quest manager as it is. -/
def decide (v : View μ) (effects : List Effect) (decision : Decision := .none) : Plan μ :=
  ⟨effects, v.quests, .ok decision⟩

/-- A plan that does nothing about malformed arguments but log them. -/
def malformed (v : View μ) (b : Builtin) (call : Call) (reason : String)
    (decision : Decision := .none) : Plan μ :=
  decide v [.note (.malformed b.name b.usage call.site reason)] decision

end Plan

end Questline
