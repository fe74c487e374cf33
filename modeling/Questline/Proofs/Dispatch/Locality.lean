import Questline.Proofs.Flags.Frame
import Questline.Proofs.Quest.Transition

/-!
What an invocation leaves alone: the flags outside of the footprint of its command, the journal
entries of all quests but the one that a transition names, and the definitions of the catalog. Flags
in memory are never lost.
-/

namespace Questline

/-- The quest whose journal entry a command may change. -/
def Builtin.quest? : Builtin → List String → Option String
  | startQuest, args | completeQuest, args => args.head?
  | _, _ => none

namespace Builtin

variable {b : Builtin} {v : View QuestCatalog} {call : Call}

lemma writes_plan (b : Builtin) (v : View QuestCatalog) (call : Call) :
    ∀ w ∈ (b.plan v call).writes, w.1 ∈ b.footprint v.keys call.args := by
  intro w hw
  cases b.conduct v call with
  | other hs hc h => exact h.writes w hw
  | nothing answer h => simp [h.writes] at hw
  | start id hb hid hq h =>
    subst hb
    rw [h.writes] at hw
    simp_all [footprint]
  | complete id hb hid hq h =>
    subst hb
    rw [h.writes, QuestKeys.completed_eq] at hw
    simp only [List.mem_cons, List.not_mem_nil, or_false] at hw
    rcases hw with rfl | rfl <;> simp [footprint, hid]

/-- A command changes no journal entry but the one of its quest. -/
lemma journal_plan {id : String} (hid : b.quest? call.args ≠ some id) :
    (b.plan v call).quests.journal.get? id = v.quests.journal.get? id := by
  cases b.conduct v call with
  | other hs hc h => rw [h.quests]
  | nothing answer h => rw [h.quests]
  | start a hb ha hq h =>
    subst hb
    have hne : a ≠ id := fun heq => hid (ha.trans (congrArg some heq))
    rw [h.quests]
    exact Journal.get?_recordStart_of_ne _ _ hne
  | complete a hb ha hq h =>
    subst hb
    have hne : a ≠ id := fun heq => hid (ha.trans (congrArg some heq))
    rw [h.quests]
    exact Journal.get?_recordCompletion_of_ne _ _ hne

end Builtin

/-- Two contexts that differ in the flags under some keys and in the journal entry of one quest. -/
structure Context.DiffersWithin {σ : Type} [FlagStore σ] (ctx ctx' : Context σ QuestCatalog)
    (footprint : List String) (quest? : Option String) : Prop where
  value (key : String) : key ∉ footprint →
    ∀ d, FlagStore.get ctx'.flags key d = FlagStore.get ctx.flags key d
  presence (key : String) : key ∉ footprint →
    FlagStore.has ctx'.flags key = FlagStore.has ctx.flags key
  entry (id : String) : quest? ≠ some id →
    ctx'.quests.journal.get? id = ctx.quests.journal.get? id
  definitions : ctx'.quests.quests = ctx.quests.quests
  keys : ctx'.keys = ctx.keys

lemma Context.get_after {μ : Type} [QuestManager μ] (ctx : Context MemoryFlags μ) (b : Builtin)
    (call : Call) : FlagStore.get (ctx.after b call).flags =
      FlagReader.writeAll (FlagStore.get ctx.flags) (b.plan ctx.view call).writes :=
  MemoryFlags.get_setAll _ _

namespace Engine

lemma exists_context_run {σ μ : Type} [FlagStore σ] [QuestManager μ] (ctx : Context σ μ)
    (calls : List (String × Call)) :
    ∃ ctx', (ofContext ctx).val.run calls = (ofContext ctx').val := by
  have h : ∃ ctx', (ofContext ctx).val.run calls = (ofContext ctx').val ∧ True :=
    run_invariant (fun _ _ _ _ _ => trivial) trivial
  exact h.imp fun _ => And.left

/-- A flag in memory that is present stays so in every run. -/
lemma has_run_of_has {ctx : Context MemoryFlags QuestCatalog} {key : String}
    (h : FlagStore.has ctx.flags key = true) (calls : List (String × Call)) :
    FlagStore.has ((ofContext ctx).val.run calls).context.flags key = true := by
  have hinv : ∃ ctx', (ofContext ctx).val.run calls = (ofContext ctx').val ∧
      FlagStore.has ctx'.flags key = true :=
    run_invariant (P := fun c => FlagStore.has c.flags key = true)
      (fun _ _ _ _ h => MemoryFlags.has_setAll_of_has h _) h
  obtain ⟨ctx', hrun, hkey⟩ := hinv
  rw [hrun]
  exact hkey

/-- **Invocations are local**: over a store in which a write concerns its key alone, an invocation
of a built-in command changes flags within the footprint of the command and at most the journal
entry of the quest it names. A flag in memory that was present once is so after every longer run. -/
theorem invocations_local {σ : Type} [FlagStore σ] [FramedFlagStore σ] :
    (∀ (ctx : Context σ QuestCatalog) (b : Builtin) (call : Call),
      ctx.DiffersWithin ((ofContext ctx).val.invoke b.name call).val.2.context
        (b.footprint ctx.keys call.args) (b.quest? call.args)) ∧
    ∀ (ctx : Context MemoryFlags QuestCatalog) (xs ys : List (String × Call)) (key : String),
      FlagStore.has ((ofContext ctx).val.run xs).context.flags key = true →
        FlagStore.has ((ofContext ctx).val.run (xs ++ ys)).context.flags key = true := by
  constructor
  · intro ctx b call
    rw [val_invoke_name]
    have hother : ∀ key ∉ b.footprint ctx.keys call.args,
        key ∉ (b.plan ctx.view call).writes.map Prod.fst := by
      intro key hkey hmem
      obtain ⟨w, hw, rfl⟩ := List.mem_map.1 hmem
      exact hkey (b.writes_plan ctx.view call w hw)
    exact {
      value := fun key hkey => (FlagStore.get_has_setAll_other ctx.flags (hother key hkey)).1
      presence := fun key hkey => (FlagStore.get_has_setAll_other ctx.flags (hother key hkey)).2
      entry := fun id hid => Builtin.journal_plan hid
      definitions := Context.quests_after ctx b call
      keys := rfl }
  · intro ctx xs ys key hkey
    obtain ⟨ctx', hxs⟩ := exists_context_run ctx xs
    rw [hxs] at hkey
    rw [run_append, hxs]
    exact has_run_of_has hkey ys

/-- On a save, completing a quest changes neither the gold nor the entry of another quest. -/
theorem invocations_local_save :
    let ctx : Context (SaveFlags MapSave) QuestCatalog :=
      { flags := ⟨some { values := (∅ : FlagMap).insert "gold" 3 }⟩, quests := .single "q1" }
    let after := ((ofContext ctx).val.invoke "complete_quest" { args := ["q1"] }).val.2.context
    after.ledger.isCompleted "q1" = true ∧ FlagStore.get after.flags "gold" 0 = 3 ∧
      FlagStore.has after.flags "iron" = false ∧ after.quests.journal.get? "q2" = none := by
  intro ctx after
  have h := invocations_local.1 ctx .completeQuest { args := ["q1"] }
  have hgold := h.value "gold" (by decide) 0
  have hiron := h.presence "iron" (by decide)
  have hentry := h.entry "q2" (by decide)
  exact ⟨by decide +kernel, hgold.trans (by decide +kernel), hiron.trans (by decide +kernel),
    hentry.trans (by decide +kernel)⟩

end Engine

end Questline
