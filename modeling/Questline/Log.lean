import Questline.Log.Notice

/-!
# Logged Results

A result together with the events that were logged on the way to it, oldest first. Sequencing
concatenates the events.
-/

namespace Questline

/-- The invocation during which an event was logged. -/
structure Span where
  command : String
  site : CallSite
deriving DecidableEq, Repr

structure Event where
  notice : Notice
  span : Option Span := none

structure Logged (α : Type) where
  val : α
  log : List Event := []

namespace Logged

variable {α β : Type}

instance : Monad Logged where
  pure a := ⟨a, []⟩
  bind x f := ⟨(f x.val).val, x.log ++ (f x.val).log⟩

def note (n : Notice) : Logged Unit := ⟨(), [⟨n, none⟩]⟩

/-- Marks the events of a result as logged during an invocation. -/
def within (span : Span) (x : Logged α) : Logged α :=
  ⟨x.val, x.log.map fun e => { e with span := some span }⟩

@[simp] theorem val_pure (a : α) : (pure a : Logged α).val = a := rfl

@[simp] theorem log_pure (a : α) : (pure a : Logged α).log = [] := rfl

@[simp] theorem val_bind (x : Logged α) (f : α → Logged β) :
    (x >>= f).val = (f x.val).val := rfl

@[simp] theorem log_bind (x : Logged α) (f : α → Logged β) :
    (x >>= f).log = x.log ++ (f x.val).log := rfl

@[simp] theorem val_map (f : α → β) (x : Logged α) : (f <$> x).val = f x.val := rfl

@[simp] theorem log_map (f : α → β) (x : Logged α) : (f <$> x).log = x.log := List.append_nil _

@[simp] theorem val_note (n : Notice) : (note n).val = () := rfl

@[simp] theorem log_note (n : Notice) : (note n).log = [⟨n, none⟩] := rfl

@[simp] theorem val_within (span : Span) (x : Logged α) : (x.within span).val = x.val := rfl

theorem ext {x y : Logged α} (h : x.val = y.val) (h' : x.log = y.log) : x = y := by
  cases x
  cases y
  simp_all

instance : LawfulMonad Logged :=
  LawfulMonad.mk' Logged (fun _ => ext rfl (by simp)) (fun _ _ => ext rfl (by simp))
    (fun _ _ _ => ext rfl (by simp))

end Logged

end Questline
