import Questline.Log
import Std.Data.ExtTreeMap

/-!
# Flag Stores

Integer flags under string keys hold all story state. A missing key is never a fault: a read names
the value to use instead, and absence shows only in `has`. A store may drop a write, and then logs
that it did.
-/

namespace Questline

/-- The value of a key, or the given default when there is none. -/
abbrev FlagReader := String → Int32 → Int32

abbrev FlagMap := Std.ExtTreeMap String Int32

class FlagStore (σ : Type) where
  get : σ → FlagReader
  set : σ → String → Int32 → Logged σ
  has : σ → String → Bool

namespace FlagStore

variable {σ : Type} [FlagStore σ]

def setAll (s : σ) (writes : List (String × Int32)) : Logged σ :=
  writes.foldlM (fun s w => set s w.1 w.2) s

@[simp] theorem setAll_nil (s : σ) : setAll s [] = pure s := rfl

@[simp] theorem setAll_cons (s : σ) (w : String × Int32) (ws : List (String × Int32)) :
    setAll s (w :: ws) = set s w.1 w.2 >>= fun s => setAll s ws := rfl

end FlagStore

structure MemoryFlags where
  entries : FlagMap := ∅

namespace MemoryFlags

instance : FlagStore MemoryFlags where
  get s key default := (s.entries[key]?).getD default
  set s key value := pure ⟨s.entries.insert key value⟩
  has s key := s.entries.contains key

/-- A store holding the given flags; of two with one key the later counts. -/
def ofList (flags : List (String × Int32)) : MemoryFlags := ⟨Std.ExtTreeMap.ofList flags⟩

/-- The number of distinct keys written so far. -/
def count (s : MemoryFlags) : Nat := s.entries.size

def clear (_ : MemoryFlags) : MemoryFlags := {}

end MemoryFlags

end Questline
