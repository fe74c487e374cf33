import Questline.Flags.Store

/-!
# Flags in a Save

A flag store over the save of a host program, which owns the storage and may refuse a write. Without
a loaded save every read yields its default and every write is dropped with a warning.
-/

namespace Questline

class SaveHost (H : Type) where
  value? : H → String → Option Int32
  /-- The save after a write, or the reason for which the host refuses it. -/
  write : H → String → Int32 → Except String H
  contains : H → String → Bool := fun h key => (value? h key).isSome
  isLoaded : H → Bool := fun _ => true

structure SaveFlags (H : Type) where
  host : Option H := none

namespace SaveFlags

variable {H : Type}

/-- Attaches a save and gives back the one attached before. -/
def attach (s : SaveFlags H) (host : H) : SaveFlags H × Option H := (⟨some host⟩, s.host)

def detach (s : SaveFlags H) : SaveFlags H × Option H := (⟨none⟩, s.host)

variable [SaveHost H]

def loaded? (s : SaveFlags H) : Option H := s.host.filter SaveHost.isLoaded

instance : FlagStore (SaveFlags H) where
  get s key default := ((s.loaded?.bind fun h => SaveHost.value? h key)).getD default
  set s key value :=
    match s.loaded? with
    | none => do
      Logged.note (.writeDropped key value)
      pure s
    | some h =>
      match SaveHost.write h key value with
      | .ok h => pure ⟨some h⟩
      | .error reason => do
        Logged.note (.writeRejected key value reason)
        pure s
  has s key := s.loaded?.any fun h => SaveHost.contains h key

end SaveFlags

/-- A save held in memory, with switches for being loaded and for refusing writes. -/
structure MapSave where
  values : FlagMap := ∅
  loaded : Bool := true
  readOnly : Bool := false

instance : SaveHost MapSave where
  value? h key := h.values[key]?
  write h key value :=
    if h.readOnly then .error "save is read-only"
    else .ok { h with values := h.values.insert key value }
  isLoaded := MapSave.loaded

end Questline
