import Questline.Proofs.Quest.Record

/-!
The journal of a catalog and the flags tell the same story. From an empty journal, a run that spares
quest bits keeps each entry in agreement with the bits of its quest, so a start is never refused for
a quest that is on offer, and a second start of an active quest changes nothing.
-/

namespace Questline

namespace QuestRecord

/-- The journal entry of a quest agrees with its bits, and only known quests have one. -/
structure Coherent (known : Bool) (r : QuestRecord) : Prop where
  completed : ∀ e ∈ r.entry, e.status = .completed → r.done = true ∧ r.active = false
  active : ∀ e ∈ r.entry, e.status = .active → r.active = true ∧ r.done = false
  unknown : known = false → r.entry = none

variable {known : Bool} {id : String} {r r' : QuestRecord}

lemma Coherent.of_none (h : r.entry = none) : r.Coherent known where
  completed e he := by simp [h] at he
  active e he := by simp [h] at he
  unknown _ := h

lemma Step.coherent (h : Step known id r r') (hr : r.Coherent known) : r'.Coherent known := by
  cases h with
  | stay => exact hr
  | start now hk hd he =>
    refine ⟨fun e hmem hstatus => ?_, fun _ _ _ => ⟨rfl, rfl⟩, fun hu => ?_⟩
    · -- neither an old entry nor a new one says that the quest is completed
      obtain rfl := Option.some.inj hmem
      cases hentry : r.entry with
      | none => simp [hentry] at hstatus
      | some old => exact absurd (by simpa [hentry] using hstatus) (he old (by simp [hentry]))
    · simp [hu] at hk
  | complete now hk =>
    refine ⟨fun _ _ _ => ⟨rfl, rfl⟩, fun e hmem hstatus => ?_, fun hu => ?_⟩
    · obtain rfl := Option.some.inj hmem
      cases hstatus
    · simp [hu] at hk

lemma coherent_of_steps (h : Relation.ReflTransGen (Step known id) r r') (hr : r.Coherent known) :
    r'.Coherent known := by
  induction h with
  | refl => exact hr
  | tail _ hstep ih => exact hstep.coherent ih

end QuestRecord

/-! ### Offers and starts -/

namespace Context

variable {σ : Type} [FlagStore σ] {ctx : Context σ QuestCatalog} {id : String}

lemma known_of_isAvailable (h : ctx.isAvailable id = true) :
    ctx.quests.contains id = true ∧ ctx.ledger.isCompleted id = false ∧
      ctx.ledger.isActive id = false := by
  obtain ⟨q, hq, he⟩ := (Option.any_eq_true _ _).1 h
  have hid : q.id = id := (QuestCatalog.find?_eq_some_iff.1 hq).2
  simp only [QuestDefinition.isEligible, Bool.and_eq_true, Bool.not_eq_true', hid] at he
  refine ⟨?_, he.1.1.1, he.1.1.2⟩
  exact (ctx.quests.table.isSome_find? id).symm.trans (Option.isSome_of_eq_some hq)

lemma mem_available_of_isAvailable (h : ctx.isAvailable id = true) :
    id ∈ ctx.available.map QuestInfo.id := by
  obtain ⟨q, hq, he⟩ := (Option.any_eq_true _ _).1 h
  obtain ⟨hmem, hid⟩ := QuestCatalog.find?_eq_some_iff.1 hq
  exact List.mem_map.2 ⟨q.info, List.mem_map_of_mem (List.mem_filter.2 ⟨hmem, he⟩), hid⟩

lemma notMem_available_of_isActive (h : ctx.ledger.isActive id = true) :
    id ∉ ctx.available.map QuestInfo.id := by
  intro hmem
  obtain ⟨i, hi, hid⟩ := List.mem_map.1 hmem
  obtain ⟨q, hq, rfl⟩ := List.mem_map.1 hi
  have hid : q.id = id := hid
  have he := (List.mem_filter.1 hq).2
  simp [QuestDefinition.isEligible, hid, h] at he

/-- A coherent journal does not keep a quest from being started whose done bit is not set. -/
lemma startable_of_coherent (hr : (ctx.record id).Coherent (ctx.quests.contains id))
    (hknown : ctx.quests.contains id = true) (hd : ctx.ledger.isCompleted id = false) :
    ctx.quests.Startable ctx.ledger id where
  known := hknown
  notDone := hd
  notRecorded := (Journal.isCompleted_eq_false _).2 fun e he hstatus => by
    have hdone : (ctx.record id).done = true := (hr.completed e he hstatus).1
    exact Bool.false_ne_true (hd.symm.trans hdone)

end Context

namespace Engine

variable {ctx : Context MemoryFlags QuestCatalog} {id : String} {call : Call}

lemma start_of_isAvailable (hr : (ctx.record id).Coherent (ctx.quests.contains id))
    (ha : ctx.isAvailable id = true) (hid : call.args.head? = some id) (hne : call.args ≠ [""]) :
    ∃ ctx', ((ofContext ctx).val.invoke "start_quest" call).val =
        (some .none, (ofContext ctx').val) ∧ ctx'.ledger.isActive id = true := by
  obtain ⟨hknown, hd, -⟩ := Context.known_of_isAvailable ha
  have hq := Context.startable_of_coherent hr hknown hd
  refine ⟨_, invoke_start_accepted ctx call hid hne hq, ?_⟩
  exact (Context.isActive_started_iff _).2 (.inl rfl)

/-- A quest that the journal has as active can be started again, to no effect. -/
lemma start_of_active (hr : (ctx.record id).Coherent (ctx.quests.contains id))
    {entry : JournalEntry} (he : ctx.quests.journal.get? id = some entry)
    (hstatus : entry.status = .active) (hid : call.args.head? = some id) :
    ((ofContext ctx).val.invoke "start_quest" call).val = (some .none, (ofContext ctx).val) := by
  by_cases hne : call.args = [""]
  · exact invoke_start_idle ctx call (.inr hne)
  have hknown : ctx.quests.contains id = true := eq_true_of_ne_false fun hu => by
    cases he.symm.trans (hr.unknown hu)
  obtain ⟨ha, hd⟩ := hr.active entry he hstatus
  have hq := Context.startable_of_coherent hr hknown hd
  -- the active bit is set already, and the journal keeps its entry
  have hflags : (FlagStore.set ctx.flags (ctx.keys.quests.activeKey id) 1).val = ctx.flags :=
    MemoryFlags.set_of_get (eq_of_beq (show (_ == _) = true from ha)) (by decide)
  have hquests : ctx.quests.started call.time id = ctx.quests := by
    rw [QuestCatalog.started, Journal.recordStart_of_isSome _ _ (by rw [he]; rfl)]
  rw [invoke_start_accepted ctx call hid hne hq, Context.started, hflags, hquests]

/-- **The journal agrees with the flags**: with separated keys and an empty journal at first, after
every run that spares quest bits an entry says of its quest what the bits say, and there is none of
an unknown quest. So a quest on offer can be started and is then on offer no more, and starting a
quest whose entry is active changes nothing. -/
theorem journal_coherent_of_run {ctx : Context MemoryFlags QuestCatalog}
    (hk : ctx.keys.Separated) (hj : ctx.quests.journal = {}) (calls : List (String × Call))
    (hspare : ∀ c ∈ calls, SparesQuestBits ctx.keys.quests c.1 c.2) (id : String) :
    let e := (ofContext ctx).val.run calls
    (∀ entry ∈ e.context.quests.journal.get? id,
      (entry.status = .completed →
        e.context.ledger.isCompleted id = true ∧ e.context.ledger.isActive id = false) ∧
      (entry.status = .active →
        e.context.ledger.isActive id = true ∧ e.context.ledger.isCompleted id = false)) ∧
    (e.context.quests.contains id = false → e.context.quests.journal.get? id = none) ∧
    ∀ call : Call, call.args.head? = some id →
      (e.context.isAvailable id = true → id ≠ "" →
        (e.invoke "start_quest" call).val.1 = some .none ∧
        (e.invoke "start_quest" call).val.2.context.ledger.isActive id = true ∧
        id ∈ e.context.available.map QuestInfo.id ∧
        id ∉ (e.invoke "start_quest" call).val.2.context.available.map QuestInfo.id) ∧
      ((∃ entry ∈ e.context.quests.journal.get? id, entry.status = .active) →
        (e.invoke "start_quest" call).val = (some .none, e)) := by
  obtain ⟨ctx', hrun, hev⟩ := exists_evolves_run hk hspare
  rw [hrun]
  have hr : (ctx'.record id).Coherent (ctx.quests.contains id) := by
    refine QuestRecord.coherent_of_steps (hev.record id) (.of_none ?_)
    rw [Context.record, hj]
    exact Std.ExtTreeMap.getElem?_empty
  have hknown : ctx'.quests.contains id = ctx.quests.contains id := hev.contains id
  rw [← hknown] at hr
  refine ⟨fun entry he => ⟨hr.completed entry he, hr.active entry he⟩, hr.unknown,
    fun call hid => ⟨fun ha hne => ?_, fun hentry => ?_⟩⟩
  · obtain ⟨ctx'', hstart, hactive⟩ :=
      start_of_isAvailable hr ha hid (Call.args_ne_of_head hid hne)
    rw [hstart]
    exact ⟨rfl, hactive, Context.mem_available_of_isAvailable ha,
      Context.notMem_available_of_isActive hactive⟩
  · obtain ⟨entry, he, hstatus⟩ := hentry
    exact start_of_active hr he hstatus hid

/-- A quest on offer after a run, and one that is active after it. -/
theorem journal_coherent_of_run_start :
    let ctx : Context MemoryFlags QuestCatalog := { Context.inMemory with quests := .single "q1" }
    let offered := (ofContext ctx).val.run [("set_flag", { args := ["met_smith", "1"] })]
    let active := (ofContext ctx).val.run [("start_quest", { args := ["q1"] })]
    let call : Call := { args := ["q1"], time := ⟨5, 0⟩ }
    (offered.invoke "start_quest" call).val.1 = some .none ∧
      "q1" ∉ (offered.invoke "start_quest" call).val.2.context.available.map QuestInfo.id ∧
      (active.invoke "start_quest" call).val = (some .none, active) := by
  intro ctx offered active call
  have hk : ctx.keys.Separated := by decide
  have ho := (journal_coherent_of_run hk rfl [("set_flag", { args := ["met_smith", "1"] })]
    (by decide) "q1").2.2 call rfl
  have ha := (journal_coherent_of_run hk rfl [("start_quest", { args := ["q1"] })]
    (by decide) "q1").2.2 call rfl
  have hoffer := ho.1 (by decide +kernel) (by decide)
  exact ⟨hoffer.1, hoffer.2.2.2, ha.2 ⟨_, rfl, by decide +kernel⟩⟩

end Engine

end Questline
