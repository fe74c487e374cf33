import Questline.Quest.Definition
import Std.Data.ExtTreeMap

/-!
# Quest Tables

Quest definitions by id, and beside them the order in which the ids first came. A look-up reads the
one, a listing goes through the other, and only an insertion that writes both keeps them in step.
-/

namespace Questline

structure QuestTable where
  definitions : Std.ExtTreeMap String QuestDefinition := ∅
  order : List String := []

namespace QuestTable

def find? (t : QuestTable) (id : String) : Option QuestDefinition := t.definitions[id]?

def contains (t : QuestTable) (id : String) : Bool := t.definitions.contains id

def size (t : QuestTable) : Nat := t.definitions.size

/-- The definitions in the order of their ids. An id that has none is passed over. -/
def quests (t : QuestTable) : List QuestDefinition := t.order.filterMap t.find?

/-- Puts a definition in the place of its id. An id that is new comes last. -/
def put (t : QuestTable) (q : QuestDefinition) : QuestTable where
  definitions := t.definitions.insert q.id q
  order := if t.contains q.id then t.order else t.order ++ [q.id]

/-- The order has the ids of the definitions, each once. -/
structure InStep (t : QuestTable) : Prop where
  nodup : t.order.Nodup
  mem_order : ∀ id, id ∈ t.order ↔ t.contains id = true
  id_of_find? : ∀ id q, t.find? id = some q → q.id = id

theorem isSome_find? (t : QuestTable) (id : String) : (t.find? id).isSome = t.contains id :=
  Std.ExtTreeMap.isSome_getElem?_eq_contains

theorem find?_put (t : QuestTable) (q : QuestDefinition) (id : String) :
    (t.put q).find? id = if q.id = id then some q else t.find? id := by
  rw [find?, put, Std.ExtTreeMap.getElem?_insert]
  simp only [Std.LawfulEqCmp.compare_eq_iff_eq]
  rfl

theorem contains_put (t : QuestTable) (q : QuestDefinition) (id : String) :
    (t.put q).contains id = true ↔ q.id = id ∨ t.contains id = true := by
  rw [← isSome_find?, find?_put, ← isSome_find?]
  split <;> simp [*]

theorem mem_order_put (t : QuestTable) (q : QuestDefinition) (id : String) :
    id ∈ (t.put q).order ↔ id ∈ t.order ∨ q.id = id ∧ t.contains q.id = false := by
  rw [put]
  split <;> simp [*, eq_comm]

theorem InStep.empty : InStep {} where
  nodup := .nil
  mem_order id := by simp [contains]
  id_of_find? id q h := by simp [find?] at h

/-- A definition goes to the map and, if its id is new, to the order. -/
theorem InStep.put {t : QuestTable} (h : t.InStep) (q : QuestDefinition) : (t.put q).InStep where
  nodup := by
    rw [QuestTable.put]
    split
    · exact h.nodup
    · next hnew =>
      refine List.nodup_append.2 ⟨h.nodup, by simp, fun a ha b hb => ?_⟩
      rw [List.mem_singleton.1 hb]
      rintro rfl
      exact hnew ((h.mem_order _).1 ha)
  mem_order id := by
    rw [mem_order_put, contains_put, h.mem_order]
    constructor
    · rintro (hid | ⟨hid, -⟩)
      · exact .inr hid
      · exact .inl hid
    · rintro (rfl | hid)
      · cases hc : t.contains q.id
        · exact .inr ⟨rfl, rfl⟩
        · exact .inl rfl
      · exact .inl hid
  id_of_find? id p hp := by
    rw [find?_put] at hp
    split at hp
    · next hid => rwa [← Option.some.inj hp]
    · exact h.id_of_find? id p hp

end QuestTable

end Questline
