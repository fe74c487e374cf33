import Questline.Proofs.Quest.Record

/-!
Whether a transition is done as a whole or not at all. The catalog records it in the journal before
the flags are written, and nothing takes the record back when the store drops the writes. So a
transition is all or nothing just when the store keeps those of its writes that change a bit.
-/

namespace Questline

namespace Journal

variable (j : Journal)

lemma recordStart_eq_self_iff (now : Instant) (id : String) :
    j.recordStart now id = j ↔ (j.get? id).isSome = true := by
  refine ⟨fun h => ?_, j.recordStart_of_isSome now⟩
  rw [← h, get?_recordStart_self]
  rfl

/-- A journal that two completions leave as it is has them at one time. -/
lemma time_eq_of_recordCompletion {t₁ t₂ : Instant} {id : String}
    (h₁ : j.recordCompletion t₁ id = j) (h₂ : j.recordCompletion t₂ id = j) : t₁ = t₂ := by
  have he := congrArg (fun j => (get? j id).bind JournalEntry.completedAt) (h₁.trans h₂.symm)
  simpa only [get?_recordCompletion_self, Option.bind_some, Option.some.injEq] using he

end Journal

namespace Context

variable {σ : Type} [FlagStore σ]

section Lawful

variable [LawfulFlagStore σ] {ctx : Context σ QuestCatalog} {id : String}

lemma drops_completed_iff :
    FlagStore.Drops ctx.flags (ctx.keys.quests.completed id) ↔
      FlagStore.keeps ctx.flags (ctx.keys.quests.doneKey id, 1) = false ∧
        FlagStore.keeps (ctx.markedDone id) (ctx.keys.quests.activeKey id, 0) = false := by
  simp only [FlagStore.Drops, QuestKeys.completed_eq, List.forall_mem_cons, List.not_mem_nil,
    false_implies, implies_true, and_true]
  -- once the first write is dropped, the second finds the flags as they were
  refine and_congr_right fun hd => ?_
  rw [markedDone, LawfulFlagStore.set_of_drops _ _ hd]

end Lawful

/-- What a store has to keep for the transitions of a quest to be all or nothing. -/
structure KeepsTransitions (ctx : Context σ QuestCatalog) (id : String) : Prop where
  /-- A completion sets the done bit, or finds it set and clears the active bit. -/
  done : FlagStore.keeps ctx.flags (ctx.keys.quests.doneKey id, 1) = true ∨
    ctx.ledger.isCompleted id = true ∧
      FlagStore.keeps (ctx.markedDone id) (ctx.keys.quests.activeKey id, 0) = true
  /-- A completion clears the active bit, or finds it clear. -/
  cleared : FlagStore.keeps (ctx.markedDone id) (ctx.keys.quests.activeKey id, 0) = true ∨
    ctx.ledger.isActive id = false
  /-- A start that is accepted sets the active bit, or finds it set and the quest in the journal. -/
  started : ctx.quests.Startable ctx.ledger id →
    FlagStore.keeps ctx.flags (ctx.keys.quests.activeKey id, 1) = true ∨
      ctx.ledger.isActive id = true ∧ (ctx.quests.journal.get? id).isSome = true

lemma KeepsTransitions.not_drops [LawfulFlagStore σ] {ctx : Context σ QuestCatalog} {id : String}
    (h : ctx.KeepsTransitions id) :
    ¬ FlagStore.Drops ctx.flags (ctx.keys.quests.completed id) := by
  intro hdrop
  obtain ⟨hd, ha⟩ := drops_completed_iff.1 hdrop
  rcases h.done with hkeep | ⟨-, hkeep⟩
  · exact Bool.false_ne_true (hd.symm.trans hkeep)
  · exact Bool.false_ne_true (ha.symm.trans hkeep)

end Context

/-! ### All or nothing -/

namespace Engine

variable {σ : Type} [FlagStore σ]

/-- The transitions of a quest are all or nothing: an accepted one shows in the flags, and one whose
writes the store drops leaves the journal as it was. -/
structure AllOrNothing (e : Engine σ QuestCatalog) (id : String) : Prop where
  complete (call : Call) : call.args.head? = some id →
    (e.invoke "complete_quest" call).val.1.isSome = true →
    (e.invoke "complete_quest" call).val.2.context.ledger.isCompleted id = true ∧
      (e.invoke "complete_quest" call).val.2.context.ledger.isActive id = false
  start (call : Call) : call.args.head? = some id →
    (e.invoke "start_quest" call).val.1.isSome = true →
    (e.invoke "start_quest" call).val.2.context.ledger.isActive id = true
  completeDropped (call : Call) : call.args.head? = some id →
    FlagStore.Drops e.context.flags (e.context.keys.quests.completed id) →
    (e.invoke "complete_quest" call).val.2.context.quests.journal = e.context.quests.journal
  startDropped (call : Call) : call.args.head? = some id →
    FlagStore.Drops e.context.flags [(e.context.keys.quests.active id).write true] →
    (e.invoke "start_quest" call).val.2.context.quests.journal = e.context.quests.journal

variable [LawfulFlagStore σ] {ctx : Context σ QuestCatalog} {id : String}

lemma keepsTransitions_of_allOrNothing
    (hk : ctx.keys.quests.doneStem ≠ ctx.keys.quests.activeStem) (hne : id ≠ "")
    (h : (ofContext ctx).val.AllOrNothing id) (hknown : ctx.quests.contains id = true) :
    ctx.KeepsTransitions id := by
  have hargs : [id] ≠ [""] := by simpa using hne
  -- completions at any time are accepted, so their bits show
  have hc := fun t : Instant =>
    invoke_complete_accepted ctx { args := [id], time := t } rfl hargs hknown
  have hbits := h.complete { args := [id] } rfl (by rw [hc]; rfl)
  rw [hc] at hbits
  have hdone := (Context.isCompleted_completed_iff _ hk).1 hbits.1
  have hclear := (Context.isActive_completed_iff _ hk).1 hbits.2
  refine ⟨?_, hclear, fun hq => ?_⟩
  · by_cases hkeep : FlagStore.keeps ctx.flags (ctx.keys.quests.doneKey id, 1) = true
    · exact .inl hkeep
    refine .inr ⟨hdone.resolve_left hkeep, eq_true_of_ne_false fun hdrop => ?_⟩
    -- otherwise all is dropped, and the journal would have the completion at every time
    have hdrops := Context.drops_completed_iff.2 ⟨by simpa using hkeep, hdrop⟩
    have hj : ∀ t, ctx.quests.journal.recordCompletion t id = ctx.quests.journal := fun t => by
      have := h.completeDropped { args := [id], time := t } rfl hdrops
      rwa [hc] at this
    exact absurd (Journal.time_eq_of_recordCompletion _ (hj ⟨0, 0⟩) (hj ⟨1, 0⟩)) (by decide)
  · have hs := invoke_start_accepted ctx { args := [id] } rfl hargs hq
    have hactive := h.start { args := [id] } rfl (by rw [hs]; rfl)
    rw [hs] at hactive
    by_cases hkeep : FlagStore.keeps ctx.flags (ctx.keys.quests.activeKey id, 1) = true
    · exact .inl hkeep
    refine .inr ⟨((Context.isActive_started_iff _).1 hactive).resolve_left hkeep, ?_⟩
    have hdrops : FlagStore.Drops ctx.flags [(ctx.keys.quests.active id).write true] := by
      simpa [FlagStore.Drops] using hkeep
    have hj := h.startDropped { args := [id] } rfl hdrops
    rw [hs] at hj
    exact (Journal.recordStart_eq_self_iff _ _ _).1 hj

lemma allOrNothing_of_keepsTransitions
    (hk : ctx.keys.quests.doneStem ≠ ctx.keys.quests.activeStem) (hne : id ≠ "")
    (h : ctx.quests.contains id = true → ctx.KeepsTransitions id) :
    (ofContext ctx).val.AllOrNothing id where
  complete call hid hsome := by
    have hargs := Call.args_ne_of_head hid hne
    cases hknown : ctx.quests.contains id with
    | false => rw [invoke_complete_refused ctx call hid hargs hknown] at hsome; cases hsome
    | true =>
      have hkeep := h hknown
      rw [invoke_complete_accepted ctx call hid hargs hknown]
      exact ⟨(Context.isCompleted_completed_iff _ hk).2 (hkeep.done.imp_right And.left),
        (Context.isActive_completed_iff _ hk).2 hkeep.cleared⟩
  start call hid hsome := by
    have hargs := Call.args_ne_of_head hid hne
    by_cases hq : ctx.quests.Startable ctx.ledger id
    · rw [invoke_start_accepted ctx call hid hargs hq]
      exact (Context.isActive_started_iff _).2 (((h hq.known).started hq).imp_right And.left)
    · rw [invoke_start_refused ctx call hid hargs hq] at hsome
      cases hsome
  completeDropped call hid hdrop := by
    have hargs := Call.args_ne_of_head hid hne
    cases hknown : ctx.quests.contains id with
    | false => rw [invoke_complete_refused ctx call hid hargs hknown]
    | true => exact absurd hdrop (h hknown).not_drops
  startDropped call hid hdrop := by
    have hargs := Call.args_ne_of_head hid hne
    by_cases hq : ctx.quests.Startable ctx.ledger id
    · rw [invoke_start_accepted ctx call hid hargs hq]
      have hdrop := hdrop _ List.mem_cons_self
      rcases (h hq.known).started hq with hkeep | ⟨-, hentry⟩
      · exact (Bool.false_ne_true (hdrop.symm.trans hkeep)).elim
      · exact (Journal.recordStart_eq_self_iff _ _ _).2 hentry
    · rw [invoke_start_refused ctx call hid hargs hq]

/-- In memory, where no write is dropped, transitions are all or nothing. -/
theorem allOrNothing_memory {ctx : Context MemoryFlags QuestCatalog}
    (hk : ctx.keys.quests.doneStem ≠ ctx.keys.quests.activeStem) {id : String} (hne : id ≠ "") :
    (ofContext ctx).val.AllOrNothing id :=
  allOrNothing_of_keepsTransitions hk hne fun _ => ⟨.inl rfl, .inl rfl, fun _ => .inl rfl⟩

/-- A store that drops the writes of a completion breaks it for every known quest. -/
theorem not_allOrNothing_of_drops (hk : ctx.keys.quests.doneStem ≠ ctx.keys.quests.activeStem)
    (hne : id ≠ "") (hknown : ctx.quests.contains id = true)
    (hdrop : FlagStore.Drops ctx.flags (ctx.keys.quests.completed id)) :
    ¬ (ofContext ctx).val.AllOrNothing id :=
  fun h => (keepsTransitions_of_allOrNothing hk hne h hknown).not_drops hdrop

/-- **When transitions are all or nothing**: over a store that keeps or drops each write as a whole,
after every run the transitions of a quest are all or nothing if and only if the catalog does not
know the quest or the store keeps what they need. -/
theorem allOrNothing_run_iff {ctx : Context σ QuestCatalog}
    (hk : ctx.keys.quests.doneStem ≠ ctx.keys.quests.activeStem) (calls : List (String × Call))
    {id : String} (hne : id ≠ "") :
    ((ofContext ctx).val.run calls).AllOrNothing id ↔
      (((ofContext ctx).val.run calls).context.quests.contains id = true →
        ((ofContext ctx).val.run calls).context.KeepsTransitions id) := by
  -- no command changes the keys
  have hinv : ∃ ctx', (ofContext ctx).val.run calls = (ofContext ctx').val ∧
      ctx'.keys = ctx.keys :=
    run_invariant (P := fun c => c.keys = ctx.keys)
      (fun c b call _ h => (Context.keys_after c b call).trans h) rfl
  obtain ⟨ctx', hrun, hkeys⟩ := hinv
  rw [hrun]
  have hk' : ctx'.keys.quests.doneStem ≠ ctx'.keys.quests.activeStem := by rwa [hkeys]
  exact ⟨keepsTransitions_of_allOrNothing hk' hne, allOrNothing_of_keepsTransitions hk' hne⟩

/-- A save that takes writes. -/
theorem allOrNothing_run_iff_save :
    let ctx : Context (SaveFlags MapSave) QuestCatalog :=
      { flags := ⟨some {}⟩, quests := .single "q1" }
    ctx.keys.quests.doneStem ≠ ctx.keys.quests.activeStem ∧ "q1" ≠ "" ∧
      ((ofContext ctx).val.run [("start_quest", { args := ["q1"] })]).AllOrNothing "q1" := by
  intro ctx
  have hk : ctx.keys.quests.doneStem ≠ ctx.keys.quests.activeStem := by decide
  refine ⟨hk, by decide, (allOrNothing_run_iff hk _ (by decide)).2 fun _ => ?_⟩
  exact ⟨.inl (by decide +kernel), .inl (by decide +kernel), fun _ => .inl (by decide +kernel)⟩

/-- A read-only save loses the bits of a completion that the journal has. -/
theorem not_allOrNothing_readOnly :
    let ctx : Context (SaveFlags MapSave) QuestCatalog :=
      { flags := ⟨some { readOnly := true }⟩, quests := .single "q1" }
    ¬ (ofContext ctx).val.AllOrNothing "q1" := by
  intro ctx h
  have hbits := h.complete { args := ["q1"] } rfl (by decide +kernel)
  exact absurd hbits.1 (by decide +kernel)

end Engine

end Questline
