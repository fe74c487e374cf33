import Questline.Proofs.Quest.Record

/-!
The life of a quest: not started, then active, then completed. With separated keys, no run that
spares quest bits makes a quest both completed and active or moves its status back.
-/

namespace Questline

def QuestStatus.rank : QuestStatus → Nat
  | notStarted => 0
  | active => 1
  | completed => 2

namespace QuestRecord

def Exclusive (r : QuestRecord) : Prop := ¬ (r.done = true ∧ r.active = true)

def status (r : QuestRecord) : QuestStatus :=
  if r.done then .completed else if r.active then .active else .notStarted

variable {known : Bool} {id : String} {r r' : QuestRecord}

lemma Step.exclusive (h : Step known id r r') (hr : r.Exclusive) : r'.Exclusive := by
  cases h with
  | stay => exact hr
  | start now hk hd he => simp [Exclusive]
  | complete now hk => simp [Exclusive]

lemma Step.rank_le (h : Step known id r r') : r.status.rank ≤ r'.status.rank := by
  cases h with
  | stay => exact Nat.le_refl _
  | start now hk hd he =>
    -- a quest that starts was not completed
    cases ha : r.active <;> simp [status, hd, ha, QuestStatus.rank]
  | complete now hk =>
    cases hd : r.done <;> cases ha : r.active <;> simp [status, hd, ha, QuestStatus.rank]

lemma exclusive_of_steps (h : Relation.ReflTransGen (Step known id) r r') (hr : r.Exclusive) :
    r'.Exclusive := by
  induction h with
  | refl => exact hr
  | tail _ hstep ih => exact hstep.exclusive ih

lemma rank_le_of_steps (h : Relation.ReflTransGen (Step known id) r r') :
    r.status.rank ≤ r'.status.rank := by
  induction h with
  | refl => exact Nat.le_refl _
  | tail _ hstep ih => exact Nat.le_trans ih hstep.rank_le

end QuestRecord

namespace Engine

lemma status_record {ctx : Context MemoryFlags QuestCatalog} (id : String) :
    (ctx.record id).status = ctx.ledger.status id := rfl

/-- **Quests only move forward**: with separated keys and no quest both completed and active at
first, no run that spares quest bits makes a quest both, and the status of a quest after a run is
not behind its status after any part of the run. -/
theorem status_forward_of_run {ctx : Context MemoryFlags QuestCatalog} (hk : ctx.keys.Separated)
    (hx : ∀ id, ¬ (ctx.ledger.isCompleted id = true ∧ ctx.ledger.isActive id = true))
    (xs ys : List (String × Call))
    (hspare : ∀ c ∈ xs ++ ys, SparesQuestBits ctx.keys.quests c.1 c.2) (id : String) :
    let soon := ((ofContext ctx).val.run xs).context.ledger
    let late := ((ofContext ctx).val.run (xs ++ ys)).context.ledger
    ¬ (soon.isCompleted id = true ∧ soon.isActive id = true) ∧
      (soon.status id).rank ≤ (late.status id).rank := by
  obtain ⟨ctx₁, h₁, e₁⟩ :=
    exists_evolves_run hk fun c hc => hspare c (List.mem_append_left ys hc)
  -- the rest of the run starts from the context after the first part
  have hk₁ : ctx₁.keys.Separated := e₁.keys.symm ▸ hk
  have hspare₁ : ∀ c ∈ ys, SparesQuestBits ctx₁.keys.quests c.1 c.2 :=
    fun c hc => e₁.keys.symm ▸ hspare c (List.mem_append_right xs hc)
  obtain ⟨ctx₂, h₂, e₂⟩ := exists_evolves_run hk₁ hspare₁
  intro soon late
  have hsoon : soon = ctx₁.ledger := congrArg (fun e => e.context.ledger) h₁
  have hlate : late = ctx₂.ledger := by
    have h := run_append (ofContext ctx).val xs ys
    rw [h₁, h₂] at h
    exact congrArg (fun e => e.context.ledger) h
  rw [hsoon, hlate]
  refine ⟨QuestRecord.exclusive_of_steps (e₁.record id) (hx id), ?_⟩
  rw [← status_record, ← status_record]
  exact QuestRecord.rank_le_of_steps (e₂.record id)

/-- From no flags at all, a quest is active once it is started and then gets completed. -/
theorem status_forward_of_run_start_complete :
    let ctx : Context MemoryFlags QuestCatalog := { Context.inMemory with quests := .single "q1" }
    let xs : List (String × Call) :=
      [("set_flag", { args := ["met_smith", "1"] }), ("start_quest", { args := ["q1"] })]
    let ys : List (String × Call) := [("complete_quest", { args := ["q1"] })]
    let soon := ((ofContext ctx).val.run xs).context.ledger
    let late := ((ofContext ctx).val.run (xs ++ ys)).context.ledger
    (soon.status "q1" = .active ∧ late.status "q1" = .completed) ∧
      ¬ (soon.isCompleted "q1" = true ∧ soon.isActive "q1" = true) ∧
      (soon.status "q1").rank ≤ (late.status "q1").rank := by
  intro ctx xs ys soon late
  have hx : ∀ id, ¬ (ctx.ledger.isCompleted id = true ∧ ctx.ledger.isActive id = true) := by
    intro id h
    cases h.1
  have hk : ctx.keys.Separated := by decide
  have hspare : ∀ c ∈ xs ++ ys, SparesQuestBits ctx.keys.quests c.1 c.2 := by decide
  exact ⟨by decide +kernel, status_forward_of_run hk hx xs ys hspare "q1"⟩

end Engine

end Questline
