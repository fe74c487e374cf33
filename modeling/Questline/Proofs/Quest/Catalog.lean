import Mathlib.Data.List.Induction
import Questline.Proofs.Quest.Loading

/-!
What a catalog holds after any updates, and what it offers. Every update keeps the map and the order
of its table in step: the ids stand in the order in which they first came, each with the definition
that came last, and starts and completions change neither. So the three ways to ask for offers
agree, though one looks an id up and two go through the order: each offered quest stands once in the
list of offers, in the order of the ids, with the type and priority of its current definition.
-/

namespace Questline.QuestCatalog

variable {c : QuestCatalog} {q : QuestDefinition} {id : String}

/-! ### Updates -/

inductive Update where
  | insert (q : QuestDefinition)
  | load (files : Files) (folder : String)
  | start (l : Ledger) (now : Instant) (id : String)
  | complete (now : Instant) (id : String)

/-- The catalog after an update. One that is refused leaves it as it is. -/
def update (c : QuestCatalog) : Update → QuestCatalog
  | .insert q => (c.insert q).val
  | .load files folder => (c.loadFolder files folder).val.2
  | .start l now id => (c.start l now id).val.toOption.getD c
  | .complete now id => (c.complete now id).val.toOption.getD c

def Update.definitions : Update → List QuestDefinition
  | insert q => [q]
  | load files folder =>
    match (files folder).map FileTree.sortedTomlFiles with
    | some (.ok found) => QuestCatalog.definitions found
    | _ => []
  | start .. | complete .. => []

def history (us : List Update) : List QuestDefinition := us.flatMap Update.definitions

/-! ### Ids and definitions -/

/-- Only what was not there before is kept of one more item. -/
lemma eraseDups_concat (ids : List String) (id : String) :
    (ids ++ [id]).eraseDups = if id ∈ ids then ids.eraseDups else ids.eraseDups ++ [id] := by
  rw [List.eraseDups_append, List.removeAll, List.filter_singleton]
  by_cases h : id ∈ ids
  · simp [h]
  · simp [h, List.eraseDups_cons]

/-- The ids stand in the order in which they first came. -/
lemma ids_foldl_put (qs : List QuestDefinition) :
    (qs.foldl QuestDefinition.put []).map QuestDefinition.id =
      (qs.map QuestDefinition.id).eraseDups := by
  induction qs using List.reverseRecOn with
  | nil => rfl
  | append_singleton qs q ih =>
    rw [List.foldl_append, List.foldl_cons, List.foldl_nil, QuestDefinition.ids_put, ih,
      List.map_append, List.map_singleton, eraseDups_concat]
    simp only [List.mem_eraseDups]

/-- An id has the definition that came last. -/
lemma find?_foldl_put (qs : List QuestDefinition) (id : String) :
    (qs.foldl QuestDefinition.put []).find? (fun p => p.id == id) =
      qs.reverse.find? fun q => q.id == id := by
  induction qs using List.reverseRecOn with
  | nil => rfl
  | append_singleton qs q ih =>
    rw [List.foldl_append, List.foldl_cons, List.foldl_nil, QuestDefinition.find?_put, ih,
      List.reverse_append]
    by_cases h : q.id = id <;> simp [h]

/-! ### The table after updates -/

lemma table_load (c : QuestCatalog) (files : Files) (folder : String) :
    (c.update (.load files folder)).table =
      ((Update.load files folder).definitions).foldl QuestTable.put c.table := by
  rw [update, val_loadFolder, Update.definitions]
  cases files folder with
  | none => rfl
  | some t =>
    simp only [Option.map_some]
    cases t.sortedTomlFiles with
    | error e => rfl
    | ok found => exact table_insertAll c _

lemma table_start (c : QuestCatalog) (l : Ledger) (now : Instant) (id : String) :
    (c.update (.start l now id)).table = c.table := by
  rw [update, start]
  split_ifs <;> rfl

lemma table_complete (c : QuestCatalog) (now : Instant) (id : String) :
    (c.update (.complete now id)).table = c.table := by
  rw [update, complete]
  split_ifs <;> rfl

/-- An update puts the definitions it brings into the table, and changes no other. -/
lemma table_update (c : QuestCatalog) (u : Update) :
    (c.update u).table = u.definitions.foldl QuestTable.put c.table := by
  cases u with
  | insert q => exact table_insert c q
  | load files folder => exact table_load c files folder
  | start l now id => exact table_start c l now id
  | complete now id => exact table_complete c now id

variable {qs : List QuestDefinition}

/-- **An update keeps the map and the order in step**: if they stand for a list of definitions,
they stand for the list with those that the update brings. -/
lemma represents_update (h : c.table.Represents qs) (u : Update) :
    (c.update u).table.Represents (u.definitions.foldl QuestDefinition.put qs) :=
  table_update c u ▸ h.foldl_put u.definitions

lemma represents_foldl_update (h : c.table.Represents qs) (us : List Update) :
    (us.foldl update c).table.Represents ((history us).foldl QuestDefinition.put qs) := by
  induction us generalizing c qs with
  | nil => exact h
  | cons u us ih =>
    rw [history, List.flatMap_cons, List.foldl_append]
    exact ih (represents_update h u)

/-! ### What a catalog holds -/

/-- What a catalog holds of the definitions that were brought to it: each id once, at the place of
the first that had it, with the last that had it. -/
structure Holds (c : QuestCatalog) (history : List QuestDefinition) : Prop where
  ids_eq : c.ids = (history.map QuestDefinition.id).eraseDups
  find?_eq : ∀ id, c.find? id = history.reverse.find? fun q => q.id == id
  nodup_ids : c.ids.Nodup
  mem_ids : ∀ id, id ∈ c.ids ↔ (c.find? id).isSome = true
  contains_eq : ∀ id, c.contains id = (c.find? id).isSome
  size_eq : c.size = c.ids.length
  id_of_find? : ∀ id q, c.find? id = some q → q.id = id

lemma holds_of_represents {history : List QuestDefinition}
    (h : c.table.Represents (history.foldl QuestDefinition.put [])) : c.Holds history where
  ids_eq := h.order_eq.trans (ids_foldl_put history)
  find?_eq id := (h.find?_eq id).trans (find?_foldl_put history id)
  nodup_ids := by
    rw [ids, h.order_eq]
    exact h.nodup
  mem_ids id := by
    rw [find?, QuestTable.isSome_find?, h.contains_iff, ids, h.order_eq]
  contains_eq id := (c.table.isSome_find? id).symm
  size_eq := by rw [size, h.size_eq, ids, h.order_eq, List.length_map]
  id_of_find? id q hq := by
    rw [find?, h.find?_eq] at hq
    simpa using List.find?_some hq

/-! ### What a catalog offers -/

/-- The three ways to ask a catalog for its offers say the same, and what an offer says about a
quest is what the catalog holds. -/
structure Agrees (c : QuestCatalog) (l : Ledger) : Prop where
  isAvailable_iff : ∀ id, QuestManager.isAvailable c l id = true ↔
    ∃ i ∈ QuestManager.available c l, i.id = id
  count : ∀ id, (QuestManager.available c l).countP (fun i => i.id == id) =
    if QuestManager.isAvailable c l id then 1 else 0
  sublist : ((QuestManager.available c l).map QuestInfo.id).Sublist c.ids
  current : ∀ i ∈ QuestManager.available c l, ∃ q, c.find? i.id = some q ∧ i.type = q.type ∧
    i.priority = q.priority
  availableFrom_eq : ∀ npc, QuestManager.availableFrom c l npc =
    (QuestManager.available c l).filter fun i => (c.find? i.id).any fun q => q.giver == some npc

variable {l : Ledger} {i : QuestInfo}

lemma mem_available :
    i ∈ QuestManager.available c l ↔ ∃ q ∈ c.quests, q.isEligible l = true ∧ q.info = i := by
  simp only [QuestManager.available, List.mem_map, List.mem_filter, and_assoc]

lemma isAvailable_of_find? (h : c.find? id = some q) :
    QuestManager.isAvailable c l id = q.isEligible l := by
  simp only [QuestManager.isAvailable, h, Option.any_some]

lemma isAvailable_iff_mem :
    QuestManager.isAvailable c l id = true ↔ ∃ i ∈ QuestManager.available c l, i.id = id := by
  constructor
  · intro h
    obtain ⟨q, hq, he⟩ := (Option.any_eq_true _ _).1 h
    obtain ⟨hmem, hid⟩ := find?_eq_some_iff.1 hq
    exact ⟨q.info, mem_available.2 ⟨q, hmem, he, rfl⟩, hid⟩
  · rintro ⟨i, hi, rfl⟩
    obtain ⟨q, hq, he, rfl⟩ := mem_available.1 hi
    exact (isAvailable_of_find? (find?_eq_some_iff.2 ⟨hq, rfl⟩)).trans he

lemma sublist_ids (c : QuestCatalog) (l : Ledger) :
    ((QuestManager.available c l).map QuestInfo.id).Sublist c.ids := by
  have hids : (QuestManager.available c l).map QuestInfo.id =
      (c.quests.filter fun q => q.isEligible l).map QuestDefinition.id := List.map_map
  rw [hids, ids, c.represents.order_eq]
  exact List.filter_sublist.map _

lemma count_available (c : QuestCatalog) (l : Ledger) (id : String) :
    (QuestManager.available c l).countP (fun i => i.id == id) =
      if QuestManager.isAvailable c l id then 1 else 0 := by
  have hcount : (QuestManager.available c l).countP (fun i => i.id == id) =
      ((QuestManager.available c l).map QuestInfo.id).count id := by
    rw [List.count, List.countP_map]
    rfl
  rw [hcount, ((sublist_ids c l).nodup c.inStep.nodup).count]
  simp only [isAvailable_iff_mem, List.mem_map]

/-- The offers of a giver are those whose current definition names it. -/
lemma availableFrom_eq_filter (c : QuestCatalog) (l : Ledger) (npc : String) :
    QuestManager.availableFrom c l npc = (QuestManager.available c l).filter fun i =>
      (c.find? i.id).any fun q => q.giver == some npc := by
  simp only [QuestManager.availableFrom, QuestManager.available, List.filter_map]
  rw [List.filter_comm]
  refine congrArg _ (List.filter_congr fun q hq => ?_)
  have hf : c.find? q.info.id = some q := find?_eq_some_iff.2 ⟨(List.mem_filter.1 hq).1, rfl⟩
  rw [Function.comp_apply, hf, Option.any_some]

lemma agrees (c : QuestCatalog) (l : Ledger) : c.Agrees l where
  isAvailable_iff _ := isAvailable_iff_mem
  count := count_available c l
  sublist := sublist_ids c l
  current i hi := by
    obtain ⟨q, hq, -, rfl⟩ := mem_available.1 hi
    exact ⟨q, find?_eq_some_iff.2 ⟨hq, rfl⟩, rfl, rfl⟩
  availableFrom_eq := availableFrom_eq_filter c l

/-- **Whatever is done to an empty catalog**, its map and its order stand for the list of what was
brought to it, each id once at its first place with its last definition, and for every state of the
flags its offers agree. -/
theorem holds_and_agrees_of_updates (us : List Update) :
    (us.foldl update empty).table.Represents ((history us).foldl QuestDefinition.put []) ∧
      (us.foldl update empty).Holds (history us) ∧ ∀ l, (us.foldl update empty).Agrees l := by
  have h := represents_foldl_update (c := empty) .empty us
  exact ⟨h, holds_of_represents h, agrees _⟩

/-- A quest that comes again keeps its place. -/
example :
    let q (id name : String) : QuestDefinition := { id, name, type := .subQuest, priority := 0 }
    let c := [Update.insert (q "herbs" "Herbs"), .insert (q "duel" "Duel"),
      .insert (q "herbs" "Rare Herbs")].foldl update empty
    c.ids = ["herbs", "duel"] ∧ (c.find? "herbs").map QuestDefinition.name = some "Rare Herbs" := by
  decide

end Questline.QuestCatalog
