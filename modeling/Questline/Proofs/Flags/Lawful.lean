import Mathlib.Data.List.Nodup
import Mathlib.Tactic.Lemma
import Mathlib.Tactic.SplitIfs
import Questline.Flags.Save

/-!
Flag stores that treat every write as a whole: it is kept, and the store then reads the new value
under one key and everything else as before, or it is dropped and nothing changes. Memory keeps
every write; a save keeps those that its host takes.
-/

namespace Questline

lemma FlagMap.getElem?_insert (m : FlagMap) (k key : String) (value : Int32) :
    (m.insert k value)[key]? = if key = k then some value else m[key]? := by
  rw [Std.ExtTreeMap.getElem?_insert]
  by_cases h : key = k
  · rw [if_pos h, if_pos (Std.LawfulEqCmp.compare_eq_iff_eq.2 h.symm)]
  · rw [if_neg h, if_neg fun hc => h (Std.LawfulEqCmp.compare_eq_iff_eq.1 hc).symm]

namespace FlagReader

def write (flags : FlagReader) (w : String × Int32) : FlagReader :=
  fun key default => if key = w.1 then w.2 else flags key default

def writeAll (flags : FlagReader) (ws : List (String × Int32)) : FlagReader :=
  ws.foldl write flags

variable (flags : FlagReader)

@[simp] lemma writeAll_nil : flags.writeAll [] = flags := rfl

@[simp] lemma writeAll_cons (w : String × Int32) (ws : List (String × Int32)) :
    flags.writeAll (w :: ws) = (flags.write w).writeAll ws := rfl

@[simp] lemma write_self (key : String) (value d : Int32) :
    flags.write (key, value) key d = value := if_pos rfl

lemma write_of_ne {w : String × Int32} {key : String} (h : key ≠ w.1) (d : Int32) :
    flags.write w key d = flags key d := if_neg h

lemma writeAll_of_notMem {ws : List (String × Int32)} {key : String}
    (h : key ∉ ws.map Prod.fst) (d : Int32) : flags.writeAll ws key d = flags key d := by
  induction ws generalizing flags with
  | nil => rfl
  | cons w ws ih =>
    rw [List.map_cons, List.mem_cons, not_or] at h
    rw [writeAll_cons, ih _ h.2, write_of_ne flags h.1]

/-- A key to which all writes give one value reads as that value, if there is such a write. -/
lemma writeAll_of_forall_eq {ws : List (String × Int32)} {key : String} {value : Int32}
    (hv : ∀ w ∈ ws, w.2 = value) (hk : key ∈ ws.map Prod.fst) (d : Int32) :
    flags.writeAll ws key d = value := by
  induction ws generalizing flags with
  | nil => simp at hk
  | cons w ws ih =>
    have hv' : ∀ w ∈ ws, w.2 = value := fun w hw => hv w (List.mem_cons_of_mem _ hw)
    rw [writeAll_cons]
    by_cases hin : key ∈ ws.map Prod.fst
    · exact ih _ hv' hin
    · have hw : key = w.1 := by
        rw [List.map_cons, List.mem_cons] at hk
        exact hk.resolve_right hin
      rw [writeAll_of_notMem _ hin, write, if_pos hw]
      exact hv w List.mem_cons_self

end FlagReader

namespace FlagStore

variable {σ : Type} [FlagStore σ]

lemma setAll_append (s : σ) (xs ys : List (String × Int32)) :
    setAll s (xs ++ ys) = setAll s xs >>= fun s => setAll s ys := List.foldlM_append

/-- Whether a store keeps a write; it logs that it drops one. -/
def keeps (s : σ) (w : String × Int32) : Bool := (set s w.1 w.2).log.isEmpty

def Drops (s : σ) (ws : List (String × Int32)) : Prop := ∀ w ∈ ws, keeps s w = false

end FlagStore

open FlagStore

/-- A store that keeps or drops each write as a whole. -/
class LawfulFlagStore (σ : Type) [FlagStore σ] : Prop where
  get_set_of_keeps (s : σ) (w : String × Int32) :
    keeps s w = true → get (set s w.1 w.2).val = FlagReader.write (get s) w
  set_of_drops (s : σ) (w : String × Int32) : keeps s w = false → (set s w.1 w.2).val = s

/-- A host that reads back what it has taken, and stays loaded while it takes it. -/
class LawfulSaveHost (H : Type) [SaveHost H] : Prop where
  isLoaded_write {h h' : H} {key : String} {value : Int32} :
    SaveHost.write h key value = .ok h' → SaveHost.isLoaded h' = SaveHost.isLoaded h
  value?_write {h h' : H} {key : String} {value : Int32} (k : String) :
    SaveHost.write h key value = .ok h' →
      SaveHost.value? h' k = if k = key then some value else SaveHost.value? h k

namespace FlagStore

variable {σ : Type} [FlagStore σ] [LawfulFlagStore σ]

lemma get_set_of_ne (s : σ) {key k : String} (h : k ≠ key) (value d : Int32) :
    get (set s key value).val k d = get s k d := by
  cases hw : keeps s (key, value) with
  | true => rw [LawfulFlagStore.get_set_of_keeps s (key, value) hw, FlagReader.write_of_ne _ h]
  | false => rw [LawfulFlagStore.set_of_drops s (key, value) hw]

lemma get_set_of_keeps {s : σ} {key : String} {value : Int32} (h : keeps s (key, value) = true)
    (d : Int32) : get (set s key value).val key d = value := by
  rw [LawfulFlagStore.get_set_of_keeps s (key, value) h, FlagReader.write_self]

/-- A write is seen if it is kept, or the value was there before. -/
lemma get_set_eq_iff {s : σ} {key : String} {value d : Int32} :
    get (set s key value).val key d = value ↔
      keeps s (key, value) = true ∨ get s key d = value := by
  cases hw : keeps s (key, value) with
  | true => simp only [get_set_of_keeps hw, true_or]
  | false =>
    have hdrop : (set s key value).val = s := LawfulFlagStore.set_of_drops s (key, value) hw
    simp only [hdrop, Bool.false_eq_true, false_or]

/-- A key that no write names reads as before, kept or dropped as they are. -/
lemma get_setAll_of_notMem (s : σ) {ws : List (String × Int32)} {key : String}
    (h : key ∉ ws.map Prod.fst) (d : Int32) : get (setAll s ws).val key d = get s key d := by
  induction ws generalizing s with
  | nil => rfl
  | cons w ws ih =>
    rw [List.map_cons, List.mem_cons, not_or] at h
    rw [setAll_cons, Logged.val_bind, ih _ h.2, get_set_of_ne s h.1]

/-- Of some writes under different keys, each is seen at the end if it is kept in its turn. -/
lemma get_setAll_of_nodup (s : σ) {xs ys : List (String × Int32)} {key : String} {value : Int32}
    (h : ((xs ++ (key, value) :: ys).map Prod.fst).Nodup) (d : Int32) :
    get (setAll s (xs ++ (key, value) :: ys)).val key d =
      if keeps (setAll s xs).val (key, value) = true then value else get s key d := by
  rw [List.map_append, List.map_cons, List.nodup_middle, List.nodup_cons, List.mem_append,
    not_or] at h
  obtain ⟨⟨hxs, hys⟩, -⟩ := h
  rw [setAll_append, Logged.val_bind, setAll_cons, Logged.val_bind, get_setAll_of_notMem _ hys]
  split_ifs with hkeeps
  · exact get_set_of_keeps hkeeps d
  · rw [LawfulFlagStore.set_of_drops _ (key, value) (Bool.eq_false_iff.2 hkeeps),
      get_setAll_of_notMem s hxs]

end FlagStore

namespace MemoryFlags

@[simp] lemma keeps_eq_true (s : MemoryFlags) (w : String × Int32) : keeps s w = true := rfl

lemma get_set (s : MemoryFlags) (w : String × Int32) :
    get (set s w.1 w.2).val = FlagReader.write (get s) w := by
  funext key d
  change ((s.entries.insert w.1 w.2)[key]?).getD d = _
  rw [FlagMap.getElem?_insert, FlagReader.write]
  split <;> rfl

instance : LawfulFlagStore MemoryFlags where
  get_set_of_keeps s w _ := get_set s w
  set_of_drops s w h := by simp at h

lemma get_setAll (s : MemoryFlags) (ws : List (String × Int32)) :
    get (setAll s ws).val = FlagReader.writeAll (get s) ws := by
  induction ws generalizing s with
  | nil => rfl
  | cons w ws ih => rw [setAll_cons, Logged.val_bind, ih, get_set, FlagReader.writeAll_cons]

/-- Writing the value that a key has changes nothing; the default shows that it has it. -/
lemma set_of_get {s : MemoryFlags} {key : String} {value d : Int32} (h : get s key d = value)
    (hne : value ≠ d) : (set s key value).val = s := by
  have hentry : s.entries[key]? = some value := by
    change (s.entries[key]?).getD d = value at h
    cases he : s.entries[key]? with
    | none => rw [he] at h; exact absurd h.symm hne
    | some v => rw [he] at h; rw [← h]; rfl
  have hmap : s.entries.insert key value = s.entries := by
    refine Std.ExtTreeMap.ext_getElem? fun k => ?_
    rw [FlagMap.getElem?_insert]
    split_ifs with hk
    · rw [hk, hentry]
    · rfl
  exact congrArg MemoryFlags.mk hmap

end MemoryFlags

namespace SaveFlags

variable {H : Type} [SaveHost H]

lemma set_of_not_loaded {s : SaveFlags H} (h : s.loaded? = none) (key : String) (value : Int32) :
    set s key value = ⟨s, [⟨.writeDropped key value, none⟩]⟩ := by
  simp only [FlagStore.set, h]
  rfl

lemma set_of_refused {s : SaveFlags H} {h : H} (hs : s.loaded? = some h) {key : String}
    {value : Int32} {reason : String} (hw : SaveHost.write h key value = .error reason) :
    set s key value = ⟨s, [⟨.writeRejected key value reason, none⟩]⟩ := by
  simp only [FlagStore.set, hs, hw]
  rfl

lemma set_of_taken {s : SaveFlags H} {h h' : H} (hs : s.loaded? = some h) {key : String}
    {value : Int32} (hw : SaveHost.write h key value = .ok h') :
    set s key value = pure ⟨some h'⟩ := by
  simp only [FlagStore.set, hs, hw]

lemma keeps_iff (s : SaveFlags H) (w : String × Int32) :
    keeps s w = true ↔ ∃ h h', s.loaded? = some h ∧ SaveHost.write h w.1 w.2 = .ok h' := by
  rw [keeps]
  cases hs : s.loaded? with
  | none => simp [set_of_not_loaded hs]
  | some h =>
    cases hw : SaveHost.write h w.1 w.2 with
    | error reason => simp [set_of_refused hs hw, hw]
    | ok h' => simp [set_of_taken hs hw, hw]

lemma get_of_loaded {s : SaveFlags H} {h : H} (hs : s.loaded? = some h) (key : String)
    (d : Int32) : get s key d = (SaveHost.value? h key).getD d := by
  simp only [FlagStore.get, hs, Option.bind_some]

lemma has_of_loaded {s : SaveFlags H} {h : H} (hs : s.loaded? = some h) (key : String) :
    has s key = SaveHost.contains h key := by
  simp only [FlagStore.has, hs, Option.any_some]

lemma get_of_not_loaded {s : SaveFlags H} (hs : s.loaded? = none) (key : String) (d : Int32) :
    get s key d = d := by
  simp only [FlagStore.get, hs, Option.bind_none, Option.getD_none]

lemma has_of_not_loaded {s : SaveFlags H} (hs : s.loaded? = none) (key : String) :
    has s key = false := by
  simp only [FlagStore.has, hs, Option.any_none]

instance [LawfulSaveHost H] : LawfulFlagStore (SaveFlags H) where
  get_set_of_keeps s w hk := by
    obtain ⟨h, h', hs, hw⟩ := (keeps_iff s w).1 hk
    -- the host that took the write is attached and still loaded
    have hl : loaded? (⟨some h'⟩ : SaveFlags H) = some h' := by
      refine Option.filter_eq_some_iff.2 ⟨rfl, ?_⟩
      rw [LawfulSaveHost.isLoaded_write hw]
      exact (Option.filter_eq_some_iff.1 hs).2
    funext key d
    rw [set_of_taken hs hw, Logged.val_pure, get_of_loaded hl, LawfulSaveHost.value?_write key hw,
      FlagReader.write, get_of_loaded hs]
    split <;> rfl
  set_of_drops s w hk := by
    cases hs : s.loaded? with
    | none => rw [set_of_not_loaded hs]
    | some h =>
      cases hw : SaveHost.write h w.1 w.2 with
      | error reason => rw [set_of_refused hs hw]
      | ok h' => rw [(keeps_iff s w).2 ⟨h, h', hs, hw⟩] at hk; cases hk

end SaveFlags

instance : LawfulSaveHost MapSave where
  isLoaded_write {h h' key value} hw := by
    simp only [SaveHost.write] at hw
    split at hw
    · cases hw
    · cases hw; rfl
  value?_write {h h' key value} k hw := by
    simp only [SaveHost.write] at hw
    split at hw
    · cases hw
    · cases hw
      exact FlagMap.getElem?_insert _ _ _ _

end Questline
