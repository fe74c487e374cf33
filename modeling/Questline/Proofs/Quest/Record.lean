import Mathlib.Logic.Relation
import Questline.Proofs.Flags.Lawful
import Questline.Proofs.Quest.Transition

/-!
One quest as the flags and the journal have it. Over a lawful store every command keeps the records
of the quests it does not name. Over flags in memory and with separated keys, a command leaves a
quest alone, starts it or completes it, and a run takes it from step to step.
-/

namespace Questline

/-- What the flags and the journal say of one quest. -/
structure QuestRecord where
  done : Bool
  active : Bool
  entry : Option JournalEntry

/-- What a command may do to the record of a quest, which the catalog knows or does not. -/
inductive QuestRecord.Step (known : Bool) (id : String) : QuestRecord → QuestRecord → Prop
  | stay (r : QuestRecord) : Step known id r r
  | start (r : QuestRecord) (now : Instant) (hk : known = true) (hd : r.done = false)
      (he : ∀ e ∈ r.entry, e.status ≠ .completed) :
      Step known id r ⟨false, true, some (r.entry.getD ⟨id, .active, some now, none⟩)⟩
  | complete (r : QuestRecord) (now : Instant) (hk : known = true) :
      Step known id r
        ⟨true, false, some ⟨id, .completed, r.entry.bind JournalEntry.startedAt, some now⟩⟩

namespace Context

variable {σ : Type} [FlagStore σ]

def record (ctx : Context σ QuestCatalog) (id : String) : QuestRecord where
  done := ctx.ledger.isCompleted id
  active := ctx.ledger.isActive id
  entry := ctx.quests.journal.get? id

lemma isCompleted_eq (ctx : Context σ QuestCatalog) (id : String) :
    ctx.ledger.isCompleted id =
      (FlagStore.get ctx.flags (ctx.keys.quests.doneKey id) 0 == 1) := rfl

lemma isActive_eq (ctx : Context σ QuestCatalog) (id : String) :
    ctx.ledger.isActive id =
      (FlagStore.get ctx.flags (ctx.keys.quests.activeKey id) 0 == 1) := rfl

/-! ### The bits after a transition -/

section Lawful

variable [LawfulFlagStore σ] {ctx : Context σ QuestCatalog} {id : String} (now : Instant)

lemma isCompleted_started (hk : ctx.keys.quests.doneStem ≠ ctx.keys.quests.activeStem) :
    (ctx.started now id).ledger.isCompleted id = ctx.ledger.isCompleted id := by
  have hne := QuestKeys.doneKey_ne_activeKey_self hk id
  simp only [isCompleted_eq, started, FlagStore.get_set_of_ne _ hne]

lemma isActive_started_iff :
    (ctx.started now id).ledger.isActive id = true ↔
      FlagStore.keeps ctx.flags (ctx.keys.quests.activeKey id, 1) = true ∨
        ctx.ledger.isActive id = true := by
  simp only [isActive_eq, beq_iff_eq]
  exact FlagStore.get_set_eq_iff

lemma isCompleted_completed_iff (hk : ctx.keys.quests.doneStem ≠ ctx.keys.quests.activeStem) :
    (ctx.completed now id).ledger.isCompleted id = true ↔
      FlagStore.keeps ctx.flags (ctx.keys.quests.doneKey id, 1) = true ∨
        ctx.ledger.isCompleted id = true := by
  have hne := QuestKeys.doneKey_ne_activeKey_self hk id
  simp only [isCompleted_eq, beq_iff_eq, completed, FlagStore.get_set_of_ne _ hne]
  exact FlagStore.get_set_eq_iff

lemma isActive_completed_iff (hk : ctx.keys.quests.doneStem ≠ ctx.keys.quests.activeStem) :
    (ctx.completed now id).ledger.isActive id = false ↔
      FlagStore.keeps (ctx.markedDone id) (ctx.keys.quests.activeKey id, 0) = true ∨
        ctx.ledger.isActive id = false := by
  have hne := QuestKeys.doneKey_ne_activeKey_self hk id
  have hbefore : FlagStore.get (ctx.markedDone id) (ctx.keys.quests.activeKey id) 0 =
      FlagStore.get ctx.flags (ctx.keys.quests.activeKey id) 0 :=
    FlagStore.get_set_of_ne _ hne.symm _ _
  simp only [isActive_eq, completed]
  cases hw : FlagStore.keeps (ctx.markedDone id) (ctx.keys.quests.activeKey id, 0) with
  | true => simp [FlagStore.get_set_of_keeps hw]
  | false => simp [LawfulFlagStore.set_of_drops _ (ctx.keys.quests.activeKey id, 0) hw, hbefore]

/-! ### The records of other quests -/

lemma record_started_of_ne (hk : ctx.keys.quests.Apart) {a : String} (hid : a ≠ id) :
    (ctx.started now a).record id = ctx.record id := by
  have hd : ctx.keys.quests.doneKey id ≠ ctx.keys.quests.activeKey a :=
    hk.doneKey_ne_activeKey id a
  have ha : ctx.keys.quests.activeKey id ≠ ctx.keys.quests.activeKey a :=
    mt QuestKeys.activeKey_inj.1 hid.symm
  have hj : (ctx.quests.started now a).journal.get? id = ctx.quests.journal.get? id :=
    Journal.get?_recordStart_of_ne _ _ hid
  simp only [record, isCompleted_eq, isActive_eq, started, FlagStore.get_set_of_ne _ hd,
    FlagStore.get_set_of_ne _ ha, hj]

lemma record_completed_of_ne (hk : ctx.keys.quests.Apart) {a : String} (hid : a ≠ id) :
    (ctx.completed now a).record id = ctx.record id := by
  have hdd : ctx.keys.quests.doneKey id ≠ ctx.keys.quests.doneKey a :=
    mt QuestKeys.doneKey_inj.1 hid.symm
  have hda : ctx.keys.quests.doneKey id ≠ ctx.keys.quests.activeKey a :=
    hk.doneKey_ne_activeKey id a
  have had : ctx.keys.quests.activeKey id ≠ ctx.keys.quests.doneKey a :=
    (hk.doneKey_ne_activeKey a id).symm
  have haa : ctx.keys.quests.activeKey id ≠ ctx.keys.quests.activeKey a :=
    mt QuestKeys.activeKey_inj.1 hid.symm
  have hj : (ctx.quests.completed now a).journal.get? id = ctx.quests.journal.get? id :=
    Journal.get?_recordCompletion_of_ne _ _ hid
  simp only [record, isCompleted_eq, isActive_eq, completed, markedDone,
    FlagStore.get_set_of_ne _ hdd, FlagStore.get_set_of_ne _ hda, FlagStore.get_set_of_ne _ had,
    FlagStore.get_set_of_ne _ haa, hj]

variable {b : Builtin} {call : Call}

theorem record_transition_of_ne (hk : ctx.keys.quests.Apart)
    (hb : b = .startQuest ∨ b = .completeQuest) {a : String}
    (ha : call.args.head? = some a) (hid : a ≠ id) :
    (ctx.after b call).record id = ctx.record id := by
  cases b.conduct ctx.view call with
  | other hs hc h => exact (hb.elim hs hc).elim
  | nothing answer h => rw [after_of_does_nothing h]
  | start a' hb' ha' hq h =>
    obtain rfl := Option.some.inj (ha.symm.trans ha')
    rw [after_of_does_start h, record_started_of_ne _ hk hid]
  | complete a' hb' ha' hq h =>
    obtain rfl := Option.some.inj (ha.symm.trans ha')
    rw [after_of_does_complete h, record_completed_of_ne _ hk hid]

/-- A command whose footprint holds no quest bit keeps every record. -/
theorem record_after_of_footprint (hs : b ≠ .startQuest) (hc : b ≠ .completeQuest)
    (hkeys : ∀ key ∈ b.footprint ctx.keys call.args, ¬ ctx.keys.quests.Owns key) (id : String) :
    (ctx.after b call).record id = ctx.record id := by
  have h := Builtin.plan_within hs hc ctx.view call
  have hquests : (ctx.after b call).quests = ctx.quests := h.quests
  -- a key that is written is no quest bit
  have hread : ∀ key, ctx.keys.quests.Owns key →
      FlagStore.get (ctx.after b call).flags key 0 = FlagStore.get ctx.flags key 0 := by
    refine fun key hkey => FlagStore.get_setAll_of_notMem ctx.flags (fun hmem => ?_) 0
    obtain ⟨w, hw, rfl⟩ := List.mem_map.1 hmem
    exact hkeys w.1 (h.writes w hw) hkey
  simp only [record, isCompleted_eq, isActive_eq, keys_after, hquests,
    hread _ (QuestKeys.owns_doneKey id), hread _ (QuestKeys.owns_activeKey id)]

end Lawful

/-! ### The record of the quest itself -/

variable {ctx : Context MemoryFlags QuestCatalog} {id : String} (now : Instant)

lemma record_started_self (hk : ctx.keys.quests.doneStem ≠ ctx.keys.quests.activeStem)
    (hd : ctx.ledger.isCompleted id = false) :
    (ctx.started now id).record id =
      ⟨false, true, some ((ctx.record id).entry.getD ⟨id, .active, some now, none⟩)⟩ := by
  have hdone : (ctx.started now id).ledger.isCompleted id = false := by
    rw [isCompleted_started now hk, hd]
  have hactive : (ctx.started now id).ledger.isActive id = true :=
    (isActive_started_iff now).2 (.inl rfl)
  have hj : (ctx.started now id).quests.journal.get? id =
      some ((ctx.quests.journal.get? id).getD ⟨id, .active, some now, none⟩) :=
    Journal.get?_recordStart_self _ _ _
  rw [record, hdone, hactive, hj]
  rfl

lemma record_completed_self (hk : ctx.keys.quests.doneStem ≠ ctx.keys.quests.activeStem) :
    (ctx.completed now id).record id = ⟨true, false,
      some ⟨id, .completed, (ctx.record id).entry.bind JournalEntry.startedAt, some now⟩⟩ := by
  have hdone : (ctx.completed now id).ledger.isCompleted id = true :=
    (isCompleted_completed_iff now hk).2 (.inl rfl)
  have hactive : (ctx.completed now id).ledger.isActive id = false :=
    (isActive_completed_iff now hk).2 (.inl rfl)
  have hj : (ctx.completed now id).quests.journal.get? id =
      some ⟨id, .completed, (ctx.quests.journal.get? id).bind JournalEntry.startedAt, some now⟩ :=
    Journal.get?_recordCompletion_self _ _ _
  rw [record, hdone, hactive, hj]
  rfl

/-! ### Steps and runs -/

variable {b : Builtin} {call : Call}

/-- **One step of one quest**: with separated keys, a command that spares quest bits leaves a quest
alone, starts it or completes it. -/
theorem record_after (hk : ctx.keys.Separated)
    (hspare : SparesQuestBits ctx.keys.quests b.name call) (id : String) :
    QuestRecord.Step (ctx.quests.contains id) id (ctx.record id)
      ((ctx.after b call).record id) := by
  cases b.conduct ctx.view call with
  | other hs hc h =>
    rw [record_after_of_footprint hs hc (Builtin.not_owns_of_mem_footprint hk hs hc hspare)]
    exact .stay _
  | nothing answer h =>
    rw [after_of_does_nothing h]
    exact .stay _
  | start a hb ha hq h =>
    rw [after_of_does_start h]
    by_cases hid : a = id
    · subst hid
      rw [record_started_self _ hk.apart.stems_ne hq.notDone]
      exact .start _ _ hq.known hq.notDone ((Journal.isCompleted_eq_false _).1 hq.notRecorded)
    · rw [record_started_of_ne _ hk.apart hid]
      exact .stay _
  | complete a hb ha hq h =>
    rw [after_of_does_complete h]
    by_cases hid : a = id
    · subst hid
      rw [record_completed_self _ hk.apart.stems_ne]
      exact .complete _ _ hq
    · rw [record_completed_of_ne _ hk.apart hid]
      exact .stay _

/-- A later context of the same keys and definitions, in which each quest has got by steps of its
own. -/
structure Evolves (ctx ctx' : Context MemoryFlags QuestCatalog) : Prop where
  keys : ctx'.keys = ctx.keys
  quests : ctx'.quests.quests = ctx.quests.quests
  record (id : String) : Relation.ReflTransGen (QuestRecord.Step (ctx.quests.contains id) id)
    (ctx.record id) (ctx'.record id)

lemma Evolves.refl (ctx : Context MemoryFlags QuestCatalog) : ctx.Evolves ctx :=
  ⟨rfl, rfl, fun _ => .refl⟩

lemma Evolves.contains {ctx ctx' : Context MemoryFlags QuestCatalog} (h : ctx.Evolves ctx')
    (id : String) : ctx'.quests.contains id = ctx.quests.contains id :=
  QuestCatalog.contains_congr h.quests id

lemma Evolves.after {ctx ctx' : Context MemoryFlags QuestCatalog} (h : ctx.Evolves ctx')
    (hk : ctx.keys.Separated) {b : Builtin} {call : Call}
    (hspare : SparesQuestBits ctx.keys.quests b.name call) : ctx.Evolves (ctx'.after b call) where
  keys := h.keys
  quests := (quests_after ctx' b call).trans h.quests
  record id := by
    have hk' : ctx'.keys.Separated := h.keys.symm ▸ hk
    have hspare' : SparesQuestBits ctx'.keys.quests b.name call := h.keys.symm ▸ hspare
    have hstep := record_after hk' hspare' id
    rw [h.contains] at hstep
    exact (h.record id).tail hstep

end Context

namespace Engine

/-- **Every run of one quest**: with separated keys, a run that spares quest bits takes each quest
from step to step. -/
theorem exists_evolves_run {ctx : Context MemoryFlags QuestCatalog}
    (hk : ctx.keys.Separated) {calls : List (String × Call)}
    (hspare : ∀ c ∈ calls, SparesQuestBits ctx.keys.quests c.1 c.2) :
    ∃ ctx', (ofContext ctx).val.run calls = (ofContext ctx').val ∧ ctx.Evolves ctx' :=
  run_invariant (fun _ _ _ hmem h => h.after hk (hspare _ hmem)) (.refl ctx)

end Engine

end Questline
