import Questline.Proofs.Flags.Mirror

/-!
Stores in which a write concerns its key alone: every other key keeps its value, and stays present
or absent. Memory is such a store, and so is a save whose host stores what it takes under the key.
-/

namespace Questline

open FlagStore

/-- A store in which a write leaves all other keys as they are. -/
class FramedFlagStore (σ : Type) [FlagStore σ] : Prop where
  get_set_other (s : σ) {key k : String} (value d : Int32) :
    k ≠ key → get (set s key value).val k d = get s k d
  has_set_other (s : σ) {key k : String} (value : Int32) :
    k ≠ key → has (set s key value).val k = has s k

/-- A host that stays loaded when it takes a write, and leaves all other keys as they are. -/
class FramedSaveHost (H : Type) [SaveHost H] : Prop where
  isLoaded_write {h h' : H} {key : String} {value : Int32} :
    SaveHost.write h key value = .ok h' → SaveHost.isLoaded h' = SaveHost.isLoaded h
  value?_write_other {h h' : H} {key k : String} {value : Int32} :
    SaveHost.write h key value = .ok h' → k ≠ key → SaveHost.value? h' k = SaveHost.value? h k
  contains_write_other {h h' : H} {key k : String} {value : Int32} :
    SaveHost.write h key value = .ok h' → k ≠ key →
      SaveHost.contains h' k = SaveHost.contains h k

namespace FlagStore

variable {σ : Type} [FlagStore σ] [FramedFlagStore σ]

/-- Keys that no write names keep their values and stay present or absent. -/
lemma get_has_setAll_other (s : σ) {ws : List (String × Int32)} {key : String}
    (h : key ∉ ws.map Prod.fst) :
    (∀ d, get (setAll s ws).val key d = get s key d) ∧
      has (setAll s ws).val key = has s key := by
  induction ws generalizing s with
  | nil => exact ⟨fun _ => rfl, rfl⟩
  | cons w ws ih =>
    rw [List.map_cons, List.mem_cons, not_or] at h
    obtain ⟨hget, hhas⟩ := ih (set s w.1 w.2).val h.2
    rw [setAll_cons, Logged.val_bind]
    exact ⟨fun d => (hget d).trans (FramedFlagStore.get_set_other s w.2 d h.1),
      hhas.trans (FramedFlagStore.has_set_other s w.2 h.1)⟩

lemma get_setAll_of_outside (s : σ) {ws : List (String × Int32)} {keys : List String}
    (h : ∀ w ∈ ws, w.1 ∉ keys) {key : String} (hkey : key ∈ keys) (d : Int32) :
    get (setAll s ws).val key d = get s key d := by
  have hother : key ∉ ws.map Prod.fst := by
    intro hmem
    obtain ⟨w, hw, rfl⟩ := List.mem_map.1 hmem
    exact h w hw hkey
  exact (get_has_setAll_other s hother).1 d

end FlagStore

namespace MemoryFlags

instance : FramedFlagStore MemoryFlags where
  get_set_other s _ _ value d h := FlagStore.get_set_of_ne s h value d
  has_set_other s key k value h := by
    change (s.entries.insert key value).contains k = s.entries.contains k
    simp only [Std.ExtTreeMap.contains_eq_isSome_getElem?, FlagMap.getElem?_insert, if_neg h]

lemma has_setAll_of_has {s : MemoryFlags} {key : String} (h : has s key = true)
    (ws : List (String × Int32)) : has (setAll s ws).val key = true := by
  change (setAll s ws).val.entries.contains key = true
  rw [entries_setAll, FlagMap.contains_writeAll_iff]
  exact .inl h

end MemoryFlags

namespace SaveFlags

variable {H : Type} [SaveHost H] [FramedSaveHost H]

/-- After a write the store is as before, or has a host that took the write. -/
lemma set_cases (s : SaveFlags H) (key : String) (value : Int32) :
    (set s key value).val = s ∨ ∃ h h', s.loaded? = some h ∧
      SaveHost.write h key value = .ok h' ∧ (set s key value).val.loaded? = some h' := by
  cases hs : s.loaded? with
  | none => exact .inl (by rw [set_of_not_loaded hs])
  | some h =>
    cases hw : SaveHost.write h key value with
    | error reason => exact .inl (by rw [set_of_refused hs hw])
    | ok h' =>
      refine .inr ⟨h, h', rfl, hw, ?_⟩
      rw [set_of_taken hs hw]
      refine loaded?_of_isLoaded rfl ?_
      rw [FramedSaveHost.isLoaded_write hw]
      exact (Option.filter_eq_some_iff.1 hs).2

instance : FramedFlagStore (SaveFlags H) where
  get_set_other s key k value d hne := by
    rcases set_cases s key value with hset | ⟨h, h', hs, hw, hs'⟩
    · rw [hset]
    · rw [get_of_loaded hs', get_of_loaded hs, FramedSaveHost.value?_write_other hw hne]
  has_set_other s key k value hne := by
    rcases set_cases s key value with hset | ⟨h, h', hs, hw, hs'⟩
    · rw [hset]
    · rw [has_of_loaded hs', has_of_loaded hs, FramedSaveHost.contains_write_other hw hne]

end SaveFlags

instance : FramedSaveHost MapSave where
  isLoaded_write := LawfulSaveHost.isLoaded_write
  value?_write_other hw hne := (LawfulSaveHost.value?_write _ hw).trans (if_neg hne)
  contains_write_other hw hne :=
    congrArg Option.isSome ((LawfulSaveHost.value?_write _ hw).trans (if_neg hne))

end Questline
