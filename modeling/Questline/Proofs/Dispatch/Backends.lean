import Questline.Proofs.Flags.Mirror
import Questline.Proofs.Quest.Transition

/-!
Engines over different flag stores. A command plans from what it reads, so an engine over a store
that mirrors memory answers, writes and journals as one over flags in memory does, invocation by
invocation.
-/

namespace Questline

namespace Engine

variable {σ μ : Type} [FlagStore σ] [QuestManager μ]

/-- The writes that the built-in commands of some invocations make, in order. -/
def written (e : Engine σ μ) : List (String × Call) → List (String × Int32)
  | [] => []
  | c :: calls =>
    ((Builtin.ofName? c.1).elim [] fun b => (b.plan e.context.view c.2).writes) ++
      (e.invoke c.1 c.2).val.2.written calls

lemma written_cons_name (ctx : Context σ μ) (b : Builtin) (call : Call)
    (calls : List (String × Call)) :
    (ofContext ctx).val.written ((b.name, call) :: calls) =
      (b.plan ctx.view call).writes ++ (ofContext (ctx.after b call)).val.written calls := by
  rw [written, Builtin.ofName?_name, val_invoke_name]
  rfl

lemma written_cons_unknown (ctx : Context σ μ) {name : String}
    (h : Builtin.ofName? name = none) (call : Call) (calls : List (String × Call)) :
    (ofContext ctx).val.written ((name, call) :: calls) = (ofContext ctx).val.written calls := by
  rw [written, h, val_invoke_unknown ctx h]
  rfl

end Engine

/-! ### Contexts over mirrored flags -/

namespace Context

variable {σ μ : Type} [FlagStore σ]

/-- A context that differs from one over flags in memory in the store alone, which mirrors them. -/
structure Mirrors (R : σ → MemoryFlags → Prop) (ctx : Context σ μ) (mem : Context MemoryFlags μ) :
    Prop where
  flags : R ctx.flags mem.flags
  quests : ctx.quests = mem.quests
  keys : ctx.keys = mem.keys

variable {R : σ → MemoryFlags → Prop} (hR : FlagStore.Mirrors R) {ctx : Context σ μ}
  {mem : Context MemoryFlags μ}

include hR

lemma Mirrors.view (h : ctx.Mirrors R mem) : ctx.view = mem.view := by
  rw [Context.view, hR.get h.flags, h.quests, h.keys]
  rfl

variable [QuestManager μ]

lemma Mirrors.after (h : ctx.Mirrors R mem) (b : Builtin) (call : Call) :
    (ctx.after b call).Mirrors R (mem.after b call) := by
  -- both stores get the writes of one plan
  have hplan : b.plan ctx.view call = b.plan mem.view call := by rw [h.view hR]
  refine ⟨?_, congrArg Plan.quests hplan, h.keys⟩
  simp only [Context.after, hplan]
  exact hR.setAll h.flags _

end Context

namespace Engine

variable {σ μ : Type} [FlagStore σ] [QuestManager μ]

/-- Engines over a store and over flags in memory that it mirrors do the same in every run. -/
theorem mirrors_run {R : σ → MemoryFlags → Prop} (hR : FlagStore.Mirrors R) {ctx : Context σ μ}
    {mem : Context MemoryFlags μ} (h : ctx.Mirrors R mem) (calls : List (String × Call)) :
    (ofContext ctx).val.answers calls = (ofContext mem).val.answers calls ∧
      (ofContext ctx).val.written calls = (ofContext mem).val.written calls ∧
      ((ofContext ctx).val.run calls).context.Mirrors R
        ((ofContext mem).val.run calls).context := by
  induction calls generalizing ctx mem with
  | nil => exact ⟨rfl, rfl, h⟩
  | cons c calls ih =>
    obtain ⟨name, call⟩ := c
    cases hb : Builtin.ofName? name with
    | none =>
      rw [written_cons_unknown ctx hb, written_cons_unknown mem hb]
      simp only [answers_cons, run_cons, val_invoke_unknown _ hb]
      obtain ⟨ha, hw, hrun⟩ := ih h
      exact ⟨congrArg _ ha, hw, hrun⟩
    | some b =>
      obtain rfl := Builtin.name_of_ofName? hb
      rw [written_cons_name, written_cons_name]
      simp only [answers_cons, run_cons, val_invoke_name, h.view hR]
      obtain ⟨ha, hw, hrun⟩ := ih (h.after hR b call)
      exact ⟨congrArg _ ha, congrArg _ hw, hrun⟩

/-- After a run, flags in memory are those of the start with the writes of the run. -/
theorem entries_run (ctx : Context MemoryFlags μ) (calls : List (String × Call)) :
    ((ofContext ctx).val.run calls).context.flags.entries =
      ctx.flags.entries.writeAll ((ofContext ctx).val.written calls) := by
  induction calls generalizing ctx with
  | nil => rfl
  | cons c calls ih =>
    obtain ⟨name, call⟩ := c
    cases hb : Builtin.ofName? name with
    | none => rw [written_cons_unknown ctx hb, run_cons, val_invoke_unknown ctx hb, ih]
    | some b =>
      obtain rfl := Builtin.name_of_ofName? hb
      have hafter : (ctx.after b call).flags.entries =
          ctx.flags.entries.writeAll (b.plan ctx.view call).writes :=
        MemoryFlags.entries_setAll _ _
      rw [written_cons_name, run_cons, val_invoke_name, ih, hafter, FlagMap.writeAll_append]

/-- **Backends are interchangeable**: over a reliable save that holds some flags and over memory
with the same flags, every run gives the same answers, flags and journal. In both a key reads as the
last value that the run wrote to it, else as it did at first, and is present if it was or was
written. -/
theorem backends_agree_on_run {H : Type} [SaveHost H] {P : H → Prop} (hP : SaveHost.Reliable P)
    {save : H} (hsave : P save) {m : FlagMap}
    (hm : ∀ key, SaveHost.value? save key = m[key]?) (quests : QuestCatalog) (keys : EngineKeys)
    (calls : List (String × Call)) :
    let inMemory : Engine MemoryFlags QuestCatalog := (ofContext ⟨⟨m⟩, quests, keys⟩).val
    let inSave : Engine (SaveFlags H) QuestCatalog := (ofContext ⟨⟨some save⟩, quests, keys⟩).val
    let memory := (inMemory.run calls).context
    let saved := (inSave.run calls).context
    let ws := inMemory.written calls
    inSave.answers calls = inMemory.answers calls ∧ inSave.written calls = ws ∧
      saved.quests = memory.quests ∧
      ∀ key,
        (∀ d, FlagStore.get memory.flags key d = ((lastValue? ws key).or m[key]?).getD d ∧
          FlagStore.get saved.flags key d = FlagStore.get memory.flags key d) ∧
        (FlagStore.has memory.flags key = true ↔
          m.contains key = true ∨ key ∈ ws.map Prod.fst) ∧
        FlagStore.has saved.flags key = FlagStore.has memory.flags key ∧
        (Field.bool key).get saved.flags = (Field.bool key).get memory.flags := by
  intro inMemory inSave memory saved ws
  have hR := SaveFlags.mirrors_holds hP
  have hstart : Context.Mirrors (SaveFlags.Holds P)
      (⟨⟨some save⟩, quests, keys⟩ : Context (SaveFlags H) QuestCatalog) ⟨⟨m⟩, quests, keys⟩ :=
    ⟨⟨save, rfl, hsave, hm⟩, rfl, rfl⟩
  obtain ⟨hanswers, hwritten, hrun⟩ := mirrors_run hR hstart calls
  have hget : FlagStore.get saved.flags = FlagStore.get memory.flags := hR.get hrun.flags
  have hhas : FlagStore.has saved.flags = FlagStore.has memory.flags := hR.has hrun.flags
  have hentries : memory.flags.entries = m.writeAll ws := entries_run _ calls
  refine ⟨hanswers, hwritten, hrun.quests, fun key =>
    ⟨fun d => ⟨?_, by rw [hget]⟩, ?_, by rw [hhas], by rw [Field.get, Field.get, hget]⟩⟩
  · change (memory.flags.entries[key]?).getD d = _
    rw [hentries, FlagMap.getElem?_writeAll]
  · change memory.flags.entries.contains key = true ↔ _
    rw [hentries, FlagMap.contains_writeAll_iff]

/-- A save with some gold, in a run that adds to it, fails to start one quest and starts another. -/
theorem backends_agree_on_run_gold :
    let save : MapSave := { values := (∅ : FlagMap).insert "gold" 3 }
    let inSave : Engine (SaveFlags MapSave) QuestCatalog :=
      (ofContext { flags := ⟨some save⟩, quests := .single "q1" }).val
    let calls : List (String × Call) :=
      [("add_flag", { args := ["gold", "4"] }), ("start_quest", { args := ["ghost"] }),
        ("start_quest", { args := ["q1"] })]
    (save.loaded = true ∧ save.readOnly = false) ∧
      inSave.answers calls = [some .none, none, some .none] ∧
      FlagStore.get (inSave.run calls).context.flags "gold" 0 = 7 ∧
      FlagStore.has (inSave.run calls).context.flags "ghost" = false := by
  intro save inSave calls
  have hopen : save.loaded = true ∧ save.readOnly = false := ⟨rfl, rfl⟩
  obtain ⟨hanswers, -, -, hkeys⟩ := backends_agree_on_run MapSave.reliable hopen
    (fun _ => rfl) (.single "q1") {} calls
  have hmemory :
      let inMemory : Engine MemoryFlags QuestCatalog :=
        (ofContext ⟨⟨save.values⟩, .single "q1", {}⟩).val
      inMemory.answers calls = [some .none, none, some .none] ∧
        FlagStore.get (inMemory.run calls).context.flags "gold" 0 = 7 ∧
        FlagStore.has (inMemory.run calls).context.flags "ghost" = false := by
    decide +kernel
  rw [hanswers, ((hkeys "gold").1 0).2, (hkeys "ghost").2.2.1]
  exact ⟨hopen, hmemory⟩

end Engine

end Questline
