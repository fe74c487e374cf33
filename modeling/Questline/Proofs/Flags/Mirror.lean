import Questline.Proofs.Flags.Lawful

/-!
Stores that behave like flags in memory. Memory holds the last value written to each key, and a save
that takes every write and reads it back mirrors it, whatever writes they get in common.
-/

namespace Questline

def lastValue? (ws : List (String × Int32)) (key : String) : Option Int32 := ws.reverse.lookup key

lemma lastValue?_cons (w : String × Int32) (ws : List (String × Int32)) (key : String) :
    lastValue? (w :: ws) key = (lastValue? ws key).or (if key = w.1 then some w.2 else none) := by
  obtain ⟨k, value⟩ := w
  rw [lastValue?, List.reverse_cons, List.lookup_append, List.lookup_cons, List.lookup_nil]
  by_cases h : key = k
  · simp [lastValue?, h]
  · have hbeq : (key == k) = false := by simpa using h
    simp [lastValue?, h, hbeq]

lemma isSome_lastValue?_iff {ws : List (String × Int32)} {key : String} :
    (lastValue? ws key).isSome = true ↔ key ∈ ws.map Prod.fst := by
  rw [lastValue?, List.lookup_isSome_iff]
  simp only [List.mem_reverse, beq_iff_eq, List.mem_map, @eq_comm _ key]

lemma lastValue?_eq_some_iff_mem {ws : List (String × Int32)} (h : (ws.map Prod.fst).Nodup)
    {key : String} {value : Int32} : lastValue? ws key = some value ↔ (key, value) ∈ ws := by
  induction ws with
  | nil => simp [lastValue?]
  | cons w ws ih =>
    rw [List.map_cons, List.nodup_cons] at h
    rw [lastValue?_cons, Option.or_eq_some_iff, ih h.2, List.mem_cons]
    constructor
    · rintro (hmem | ⟨-, hif⟩)
      · exact .inr hmem
      · split_ifs at hif with hkey
        exact .inl (Prod.ext hkey (Option.some.inj hif).symm)
    · rintro (rfl | hmem)
      · refine .inr ⟨Option.not_isSome_iff_eq_none.1 fun hsome => ?_, if_pos rfl⟩
        exact h.1 (isSome_lastValue?_iff.1 hsome)
      · exact .inl hmem

namespace FlagMap

def writeAll (m : FlagMap) (ws : List (String × Int32)) : FlagMap :=
  ws.foldl (fun m w => m.insert w.1 w.2) m

@[simp] lemma writeAll_cons (m : FlagMap) (w : String × Int32) (ws : List (String × Int32)) :
    m.writeAll (w :: ws) = writeAll (m.insert w.1 w.2) ws := rfl

lemma writeAll_append (m : FlagMap) (xs ys : List (String × Int32)) :
    m.writeAll (xs ++ ys) = (m.writeAll xs).writeAll ys := List.foldl_append

/-- A map holds the last value written to a key, or what it held before. -/
lemma getElem?_writeAll (m : FlagMap) (ws : List (String × Int32)) (key : String) :
    (m.writeAll ws)[key]? = (lastValue? ws key).or m[key]? := by
  induction ws generalizing m with
  | nil => rfl
  | cons w ws ih =>
    rw [writeAll_cons, ih, getElem?_insert, lastValue?_cons, Option.or_assoc]
    by_cases h : key = w.1 <;> simp [h]

lemma contains_writeAll_iff (m : FlagMap) (ws : List (String × Int32)) (key : String) :
    (m.writeAll ws).contains key = true ↔ m.contains key = true ∨ key ∈ ws.map Prod.fst := by
  rw [Std.ExtTreeMap.contains_eq_isSome_getElem?, getElem?_writeAll, Option.isSome_or,
    Bool.or_eq_true, isSome_lastValue?_iff, Std.ExtTreeMap.contains_eq_isSome_getElem?, or_comm]

lemma writeAll_comm (m : FlagMap) {xs ys : List (String × Int32)}
    (h : ∀ key ∈ xs.map Prod.fst, key ∉ ys.map Prod.fst) :
    (m.writeAll xs).writeAll ys = (m.writeAll ys).writeAll xs := by
  refine Std.ExtTreeMap.ext_getElem? fun key => ?_
  simp only [getElem?_writeAll]
  cases hx : lastValue? xs key with
  | none => rw [Option.none_or, Option.none_or]
  | some x =>
    -- a key of the one side is not written by the other
    have hy : lastValue? ys key = none := by
      refine Option.not_isSome_iff_eq_none.1 fun hy => ?_
      exact h key (isSome_lastValue?_iff.1 (by rw [hx]; rfl)) (isSome_lastValue?_iff.1 hy)
    rw [hy, Option.none_or, Option.none_or]

end FlagMap

namespace MemoryFlags

lemma entries_setAll (s : MemoryFlags) (ws : List (String × Int32)) :
    (FlagStore.setAll s ws).val.entries = s.entries.writeAll ws := by
  induction ws generalizing s with
  | nil => rfl
  | cons w ws ih => exact ih _

lemma setAll_comm (s : MemoryFlags) (xs ys : List (String × Int32))
    (h : ∀ key ∈ xs.map Prod.fst, key ∉ ys.map Prod.fst) :
    (FlagStore.setAll (FlagStore.setAll s xs).val ys).val =
      (FlagStore.setAll (FlagStore.setAll s ys).val xs).val := by
  have hentries := s.entries.writeAll_comm h
  rw [← entries_setAll, ← entries_setAll, ← entries_setAll, ← entries_setAll] at hentries
  exact congrArg MemoryFlags.mk hentries

end MemoryFlags

/-! ### Stores like memory -/

/-- A relation under which a store reads like memory, and goes on to when both get one write. -/
structure FlagStore.Mirrors {σ : Type} [FlagStore σ] (R : σ → MemoryFlags → Prop) : Prop where
  get {s : σ} {m : MemoryFlags} : R s m → FlagStore.get s = FlagStore.get m
  has {s : σ} {m : MemoryFlags} : R s m → FlagStore.has s = FlagStore.has m
  set {s : σ} {m : MemoryFlags} (key : String) (value : Int32) :
    R s m → R (FlagStore.set s key value).val (FlagStore.set m key value).val

lemma FlagStore.Mirrors.setAll {σ : Type} [FlagStore σ] {R : σ → MemoryFlags → Prop}
    (hR : FlagStore.Mirrors R) {s : σ} {m : MemoryFlags} (h : R s m)
    (ws : List (String × Int32)) : R (FlagStore.setAll s ws).val (FlagStore.setAll m ws).val := by
  induction ws generalizing s m with
  | nil => exact h
  | cons w ws ih => exact ih (hR.set w.1 w.2 h)

/-- Saves that are loaded, take every write and read it back, have what they read, and stay so. -/
structure SaveHost.Reliable {H : Type} [SaveHost H] (P : H → Prop) : Prop where
  isLoaded {h : H} : P h → SaveHost.isLoaded h = true
  contains {h : H} (key : String) :
    P h → SaveHost.contains h key = (SaveHost.value? h key).isSome
  write {h : H} (key : String) (value : Int32) : P h →
    ∃ h', SaveHost.write h key value = .ok h' ∧ P h' ∧
      ∀ k, SaveHost.value? h' k = if k = key then some value else SaveHost.value? h k

namespace SaveFlags

variable {H : Type} [SaveHost H]

/-- A save of some kind is attached that holds what memory holds. -/
def Holds (P : H → Prop) (s : SaveFlags H) (m : MemoryFlags) : Prop :=
  ∃ h, s.host = some h ∧ P h ∧ ∀ key, SaveHost.value? h key = m.entries[key]?

lemma loaded?_of_isLoaded {s : SaveFlags H} {h : H} (hs : s.host = some h)
    (hl : SaveHost.isLoaded h = true) : s.loaded? = some h :=
  Option.filter_eq_some_iff.2 ⟨hs, hl⟩

theorem mirrors_holds {P : H → Prop} (hP : SaveHost.Reliable P) :
    FlagStore.Mirrors (Holds P) where
  get := by
    rintro s m ⟨h, hs, hp, hread⟩
    funext key d
    rw [get_of_loaded (loaded?_of_isLoaded hs (hP.isLoaded hp)), hread]
    rfl
  has := by
    rintro s m ⟨h, hs, hp, hread⟩
    funext key
    rw [has_of_loaded (loaded?_of_isLoaded hs (hP.isLoaded hp)), hP.contains key hp, hread]
    exact Std.ExtTreeMap.contains_eq_isSome_getElem?.symm
  set := by
    rintro s m key value ⟨h, hs, hp, hread⟩
    obtain ⟨h', hw, hp', hread'⟩ := hP.write key value hp
    rw [set_of_taken (loaded?_of_isLoaded hs (hP.isLoaded hp)) hw]
    refine ⟨h', rfl, hp', fun k => ?_⟩
    change _ = (m.entries.insert key value)[k]?
    rw [hread', hread, FlagMap.getElem?_insert]

end SaveFlags

lemma MapSave.reliable :
    SaveHost.Reliable fun h : MapSave => h.loaded = true ∧ h.readOnly = false where
  isLoaded h := h.1
  contains _ _ := rfl
  write {h} key value hp := by
    refine ⟨{ h with values := h.values.insert key value }, ?_, hp, fun k => ?_⟩
    · simp [SaveHost.write, hp.2]
    · exact FlagMap.getElem?_insert _ _ _ _

end Questline
