import Mathlib.Data.List.Nodup
import Mathlib.Data.List.Perm.Basic
import Questline.Quest.Catalog

/-!
A quest table answers every query as a list of definitions under different ids would: the map gives
the definition of an id, the order gives the ids, and an insertion replaces in place or appends.
That the two are in step is what makes it so.
-/

namespace Questline

/-! ### Definitions in a list -/

namespace QuestDefinition

def replace (qs : List QuestDefinition) (q : QuestDefinition) : List QuestDefinition :=
  qs.map fun p => if p.id = q.id then q else p

/-- Some definitions with one more. It takes the place of one with its id, or comes last. -/
def put (qs : List QuestDefinition) (q : QuestDefinition) : List QuestDefinition :=
  if q.id ∈ qs.map QuestDefinition.id then replace qs q else qs ++ [q]

variable {qs : List QuestDefinition} {q : QuestDefinition} {id : String}

lemma ids_replace (qs : List QuestDefinition) (q : QuestDefinition) :
    (replace qs q).map QuestDefinition.id = qs.map QuestDefinition.id := by
  rw [replace, List.map_map]
  refine List.map_congr_left fun p _ => ?_
  by_cases h : p.id = q.id <;> simp [h]

lemma ids_put (qs : List QuestDefinition) (q : QuestDefinition) :
    (put qs q).map QuestDefinition.id =
      if q.id ∈ qs.map QuestDefinition.id then qs.map QuestDefinition.id
      else qs.map QuestDefinition.id ++ [q.id] := by
  rw [put]
  split
  · exact ids_replace qs q
  · rw [List.map_append, List.map_singleton]

lemma nodup_put (h : (qs.map QuestDefinition.id).Nodup) (q : QuestDefinition) :
    ((put qs q).map QuestDefinition.id).Nodup := by
  rw [ids_put]
  split
  · exact h
  · next hnew => exact List.nodup_append'.2 ⟨h, by simp, by simpa using hnew⟩

lemma find?_eq_none_iff :
    qs.find? (fun p => p.id == id) = none ↔ id ∉ qs.map QuestDefinition.id := by
  simp [List.find?_eq_none]

lemma find?_replace (hq : q.id ∈ qs.map QuestDefinition.id) (id : String) :
    (replace qs q).find? (fun p => p.id == id) =
      if q.id = id then some q else qs.find? fun p => p.id == id := by
  have hid (p : QuestDefinition) : (if p.id = q.id then q else p).id = p.id := by
    split_ifs with hp
    · exact hp.symm
    · rfl
  simp only [replace, List.find?_map, Function.comp_def, hid]
  cases hf : qs.find? fun p => p.id == id with
  | none =>
    have hne : q.id ≠ id := fun h => find?_eq_none_iff.1 hf (h ▸ hq)
    rw [if_neg hne, Option.map_none]
  | some p =>
    have hp : p.id = id := by simpa using List.find?_some hf
    rw [Option.map_some, hp]
    by_cases h : q.id = id
    · rw [if_pos h.symm, if_pos h]
    · rw [if_neg (Ne.symm h), if_neg h]

lemma find?_put (qs : List QuestDefinition) (q : QuestDefinition) (id : String) :
    (put qs q).find? (fun p => p.id == id) =
      if q.id = id then some q else qs.find? fun p => p.id == id := by
  rw [put]
  split
  · next hq => exact find?_replace hq id
  · next hnew =>
    rw [List.find?_append, List.find?_singleton]
    by_cases h : q.id = id
    · have hnone : qs.find? (fun p => p.id == id) = none := find?_eq_none_iff.2 (h ▸ hnew)
      simp [hnone, h]
    · simp [h]

/-- Under different ids, an id finds the definition that has it. -/
lemma find?_eq_some_iff (hn : (qs.map QuestDefinition.id).Nodup) :
    qs.find? (fun p => p.id == id) = some q ↔ q ∈ qs ∧ q.id = id := by
  constructor
  · exact fun h => ⟨List.mem_of_find?_eq_some h, by simpa using List.find?_some h⟩
  · rintro ⟨hq, rfl⟩
    cases hf : qs.find? fun p => p.id == q.id with
    | none => exact absurd (List.mem_map_of_mem hq) (find?_eq_none_iff.1 hf)
    | some p =>
      have hid : p.id = q.id := by simpa using List.find?_some hf
      rw [List.inj_on_of_nodup_map hn (List.mem_of_find?_eq_some hf) hq hid]

end QuestDefinition

/-! ### A table as a list -/

namespace QuestTable

/-- A table stands for a list of definitions under different ids: its order is the ids of the list,
and an id has the definition that the list has for it. -/
structure Represents (t : QuestTable) (qs : List QuestDefinition) : Prop where
  nodup : (qs.map QuestDefinition.id).Nodup
  order_eq : t.order = qs.map QuestDefinition.id
  find?_eq : ∀ id, t.find? id = qs.find? fun q => q.id == id

variable {t t' : QuestTable} {qs : List QuestDefinition} {q : QuestDefinition} {id : String}

namespace Represents

lemma empty : Represents {} [] where
  nodup := .nil
  order_eq := rfl
  find?_eq id := by simp [find?]

lemma contains_iff (h : t.Represents qs) :
    t.contains id = true ↔ id ∈ qs.map QuestDefinition.id := by
  rw [← isSome_find?, h.find?_eq, Option.isSome_iff_ne_none, Ne,
    QuestDefinition.find?_eq_none_iff, not_not]

/-- An insertion into a table is one into its list. -/
lemma put (h : t.Represents qs) (q : QuestDefinition) :
    (t.put q).Represents (QuestDefinition.put qs q) where
  nodup := QuestDefinition.nodup_put h.nodup q
  order_eq := by
    rw [QuestDefinition.ids_put, QuestTable.put, h.order_eq]
    simp only [h.contains_iff]
  find?_eq id := by rw [find?_put, QuestDefinition.find?_put, h.find?_eq]

lemma foldl_put (h : t.Represents qs) (ps : List QuestDefinition) :
    (ps.foldl QuestTable.put t).Represents (ps.foldl QuestDefinition.put qs) := by
  induction ps generalizing t qs with
  | nil => exact h
  | cons p ps ih => exact ih (h.put p)

lemma quests_eq (h : t.Represents qs) : t.quests = qs := by
  rw [quests, h.order_eq, List.filterMap_map]
  refine (List.filterMap_congr fun q hq => ?_).trans List.filterMap_some
  rw [Function.comp_apply, h.find?_eq, (QuestDefinition.find?_eq_some_iff h.nodup).2 ⟨hq, rfl⟩]

/-- The keys of the map are the ids of the list, so there are as many. -/
lemma size_eq (h : t.Represents qs) : t.size = qs.length := by
  have hmem (id : String) : id ∈ t.definitions.keys ↔ id ∈ qs.map QuestDefinition.id := by
    rw [Std.ExtTreeMap.mem_keys, ← h.contains_iff]
    rfl
  have hperm : t.definitions.keys.Perm (qs.map QuestDefinition.id) :=
    (List.perm_ext_iff_of_nodup Std.ExtTreeMap.nodup_keys h.nodup).2 hmem
  rw [size, ← Std.ExtTreeMap.length_keys, hperm.length_eq, List.length_map]

/-- The list determines the table. -/
lemma table_eq (h : t.Represents qs) (h' : t'.Represents qs) : t = t' := by
  have hdefs : t.definitions = t'.definitions :=
    Std.ExtTreeMap.ext_getElem? fun id => (h.find?_eq id).trans (h'.find?_eq id).symm
  have horder : t.order = t'.order := h.order_eq.trans h'.order_eq.symm
  cases t
  cases t'
  exact congrArg₂ QuestTable.mk hdefs horder

end Represents

namespace InStep

lemma find?_eq_some_iff (h : t.InStep) : t.find? id = some q ↔ q ∈ t.quests ∧ q.id = id := by
  rw [quests, List.mem_filterMap]
  constructor
  · intro hq
    refine ⟨⟨id, (h.mem_order id).2 ?_, hq⟩, h.id_of_find? id q hq⟩
    rw [← isSome_find?, hq, Option.isSome_some]
  · rintro ⟨⟨a, -, hq⟩, rfl⟩
    rwa [h.id_of_find? a q hq]

lemma order_eq (h : t.InStep) : t.order = t.quests.map QuestDefinition.id := by
  rw [quests, List.map_filterMap]
  refine (List.filterMap_some.symm.trans (List.filterMap_congr fun id hid => ?_))
  have hsome : (t.find? id).isSome := by rw [isSome_find?, ← h.mem_order]; exact hid
  obtain ⟨q, hq⟩ := Option.isSome_iff_exists.1 hsome
  rw [hq, Option.map_some, h.id_of_find? id q hq]

/-- A table in step stands for its definitions in order. -/
lemma represents (h : t.InStep) : t.Represents t.quests := by
  have hn : (t.quests.map QuestDefinition.id).Nodup := h.order_eq ▸ h.nodup
  refine ⟨hn, h.order_eq, fun id => Option.ext fun q => ?_⟩
  rw [h.find?_eq_some_iff, QuestDefinition.find?_eq_some_iff hn]

end InStep

/-- An order that is not in step lists an id that no look-up finds. -/
example : let t : QuestTable := { order := ["herbs"] }
    t.contains "herbs" = false ∧ t.quests = [] ∧ t.order = ["herbs"] := by
  decide

end QuestTable

/-! ### A catalog as a list -/

namespace QuestCatalog

variable {c c' : QuestCatalog} {q : QuestDefinition} {id : String}

lemma represents (c : QuestCatalog) : c.table.Represents c.quests := c.inStep.represents

lemma table_eq (h : c'.quests = c.quests) : c'.table = c.table :=
  c'.represents.table_eq (h ▸ c.represents)

lemma contains_congr (h : c'.quests = c.quests) (id : String) : c'.contains id = c.contains id :=
  congrArg (QuestTable.contains · id) (table_eq h)

lemma find?_congr (h : c'.quests = c.quests) (id : String) : c'.find? id = c.find? id :=
  congrArg (QuestTable.find? · id) (table_eq h)

lemma find?_eq_some_iff : c.find? id = some q ↔ q ∈ c.quests ∧ q.id = id :=
  c.inStep.find?_eq_some_iff

lemma table_insert (c : QuestCatalog) (q : QuestDefinition) :
    (c.insert q).val.table = c.table.put q := by
  rw [insert]
  split <;> rfl

def insertAll (c : QuestCatalog) (qs : List QuestDefinition) : QuestCatalog :=
  qs.foldl (fun c q => (c.insert q).val) c

@[simp] lemma insertAll_nil (c : QuestCatalog) : c.insertAll [] = c := rfl

@[simp] lemma insertAll_cons (c : QuestCatalog) (q : QuestDefinition) (qs : List QuestDefinition) :
    c.insertAll (q :: qs) = (c.insert q).val.insertAll qs := rfl

lemma table_insertAll (c : QuestCatalog) (qs : List QuestDefinition) :
    (c.insertAll qs).table = qs.foldl QuestTable.put c.table := by
  induction qs generalizing c with
  | nil => rfl
  | cons q qs ih => rw [insertAll_cons, ih, table_insert, List.foldl_cons]

lemma quests_insertAll (c : QuestCatalog) (qs : List QuestDefinition) :
    (c.insertAll qs).quests = qs.foldl QuestDefinition.put c.quests := by
  rw [quests, table_insertAll]
  exact (c.represents.foldl_put qs).quests_eq

end QuestCatalog

end Questline
