import Mathlib.Tactic.Lemma
import Questline.Dispatch.Registry

/-!
Invocations of an engine that has the built-in commands and no others: each carries out the plan of
the command of its name, and one of an unknown name changes nothing. A run makes invocations in
order, and what every command preserves holds after every run.
-/

namespace Questline

namespace Builtin

lemma ofName?_name (b : Builtin) : ofName? b.name = some b := by
  cases b <;> decide

lemma name_of_ofName? {name : String} {b : Builtin} (h : ofName? name = some b) :
    b.name = name := by
  simpa using List.find?_some h

lemma name_injective {a b : Builtin} (h : a.name = b.name) : a = b := by
  have := ofName?_name a
  rw [h, ofName?_name b] at this
  exact (Option.some.inj this).symm

end Builtin

namespace Registry

variable {σ μ : Type}

lemma commands_bind (r : Registry σ μ) (c : Command σ μ) (name : String) :
    (r.bind c).commands[name]? = if c.name = name then some c else r.commands[name]? := by
  rw [bind, Std.ExtTreeMap.getElem?_insert]
  by_cases h : c.name = name
  · rw [if_pos h, if_pos (Std.LawfulEqCmp.compare_eq_iff_eq.2 h)]
  · rw [if_neg h, if_neg fun hc => h (Std.LawfulEqCmp.compare_eq_iff_eq.1 hc)]

variable [FlagStore σ] [QuestManager μ]

/-- Of some built-in commands bound in turn, each is found under its name. -/
lemma commands_foldl_bind (bs : List Builtin) (hbs : bs.Nodup) (r : Registry σ μ)
    (name : String) :
    (bs.foldl (fun r b => r.bind b.command) r).commands[name]? =
      ((bs.find? fun b => b.name == name).map Builtin.command).or r.commands[name]? := by
  induction bs generalizing r with
  | nil => rfl
  | cons b bs ih =>
    obtain ⟨hb, hbs⟩ := List.nodup_cons.1 hbs
    rw [List.foldl_cons, ih hbs, commands_bind, List.find?_cons]
    by_cases h : b.name = name
    · -- no later command of the same name takes its place
      have hnone : (bs.find? fun b => b.name == name) = none := by
        refine List.find?_eq_none.2 fun c hc hname => hb ?_
        have : c.name = b.name := by rw [h]; simpa using hname
        rwa [← Builtin.name_injective this]
      have hname : b.command.name = name := (rfl : (b.command : Command σ μ).name = b.name).trans h
      simp [h, hnone, hname]
    · have hname : ¬ (b.command : Command σ μ).name = name := h
      have hbeq : (b.name == name) = false := by simpa using h
      simp [hname, hbeq]

def standard : Registry σ μ := (prepare {}).val

lemma commands_standard (name : String) :
    (standard : Registry σ μ).commands[name]? = (Builtin.ofName? name).map Builtin.command := by
  have h := commands_foldl_bind (σ := σ) (μ := μ) Builtin.all (by decide) { ready := true } name
  rw [Std.ExtTreeMap.getElem?_empty, Option.or_none] at h
  exact h

lemma ready_foldl_bind (bs : List Builtin) (r : Registry σ μ) :
    (bs.foldl (fun r b => r.bind b.command) r).ready = r.ready := by
  induction bs generalizing r with
  | nil => rfl
  | cons b bs ih => rw [List.foldl_cons, ih]; rfl

lemma prepare_standard : (standard : Registry σ μ).prepare = pure standard := by
  have h : (standard : Registry σ μ).ready = true := ready_foldl_bind _ _
  rw [prepare, if_pos h]

end Registry

/-! ### Plans on a store -/

namespace Effect

variable {σ : Type} [FlagStore σ]

/-- Only the writes among some effects change a store. -/
lemma val_applyAll (s : σ) (es : List Effect) :
    (applyAll s es).val = (FlagStore.setAll s (es.filterMap write?)).val := by
  induction es generalizing s with
  | nil => rfl
  | cons e es ih =>
    rw [applyAll_cons, Logged.val_bind, ih]
    cases e <;> rfl

end Effect

namespace Context

variable {σ μ : Type} [FlagStore σ] [QuestManager μ]

def after (ctx : Context σ μ) (b : Builtin) (call : Call) : Context σ μ :=
  let plan := b.plan ctx.view call
  { ctx with flags := (FlagStore.setAll ctx.flags plan.writes).val, quests := plan.quests }

@[simp] lemma keys_after (ctx : Context σ μ) (b : Builtin) (call : Call) :
    (ctx.after b call).keys = ctx.keys := rfl

lemma val_perform (ctx : Context σ μ) (b : Builtin) (call : Call) :
    (ctx.perform (b.plan ctx.view call)).val =
      (.ofAnswer (b.plan ctx.view call).answer, ctx.after b call) := by
  simp only [perform, Logged.val_bind, Effect.val_applyAll]
  rfl

end Context

/-! ### Invocations and runs -/

namespace Engine

variable {σ μ : Type} [FlagStore σ] [QuestManager μ]

lemma val_ofContext (ctx : Context σ μ) : (ofContext ctx).val = ⟨.standard, ctx⟩ := rfl

lemma val_settle (name : String) (site : CallSite) (answer : Except CommandError Decision) :
    (Registry.settle name site (.ofAnswer answer)).val = answer.toOption := by
  cases answer <;> rfl

/-- An invocation by the name of a built-in command carries out its plan. -/
theorem val_invoke_name (ctx : Context σ μ) (b : Builtin) (call : Call) :
    ((ofContext ctx).val.invoke b.name call).val =
      ((b.plan ctx.view call).answer.toOption, (ofContext (ctx.after b call)).val) := by
  have hb : (Registry.standard : Registry σ μ).commands[b.name]? = some b.command := by
    rw [Registry.commands_standard, Builtin.ofName?_name]
    rfl
  simp only [val_ofContext, invoke, Registry.execute, Registry.prepare_standard, pure_bind, hb,
    Registry.invoke, Builtin.command, Logged.val_bind, Logged.val_within, Logged.val_pure,
    Context.val_perform, val_settle]

theorem val_invoke_unknown (ctx : Context σ μ) {name : String} (h : Builtin.ofName? name = none)
    (call : Call) : ((ofContext ctx).val.invoke name call).val = (none, (ofContext ctx).val) := by
  have hb : (Registry.standard : Registry σ μ).commands[name]? = none := by
    rw [Registry.commands_standard, h]
    rfl
  simp only [val_ofContext, invoke, Registry.execute, Registry.prepare_standard, pure_bind, hb,
    Logged.val_bind, Logged.val_pure]

def run (e : Engine σ μ) (calls : List (String × Call)) : Engine σ μ :=
  calls.foldl (fun e c => (e.invoke c.1 c.2).val.2) e

@[simp] lemma run_nil (e : Engine σ μ) : e.run [] = e := rfl

@[simp] lemma run_cons (e : Engine σ μ) (c : String × Call) (calls : List (String × Call)) :
    e.run (c :: calls) = (e.invoke c.1 c.2).val.2.run calls := rfl

lemma run_append (e : Engine σ μ) (xs ys : List (String × Call)) :
    e.run (xs ++ ys) = (e.run xs).run ys := List.foldl_append

def answers (e : Engine σ μ) : List (String × Call) → List (Option Decision)
  | [] => []
  | c :: calls => (e.invoke c.1 c.2).val.1 :: (e.invoke c.1 c.2).val.2.answers calls

@[simp] lemma answers_cons (e : Engine σ μ) (c : String × Call) (calls : List (String × Call)) :
    e.answers (c :: calls) =
      (e.invoke c.1 c.2).val.1 :: (e.invoke c.1 c.2).val.2.answers calls := rfl

@[simp] lemma length_answers (e : Engine σ μ) (calls : List (String × Call)) :
    (e.answers calls).length = calls.length := by
  induction calls generalizing e with
  | nil => rfl
  | cons c calls ih => rw [answers_cons, List.length_cons, ih, List.length_cons]

/-- Each call is answered in the state that all earlier ones leave. -/
lemma getElem?_answers (e : Engine σ μ) (calls : List (String × Call)) (n : Nat) :
    (e.answers calls)[n]? =
      calls[n]?.map fun c => ((e.run (calls.take n)).invoke c.1 c.2).val.1 := by
  induction calls generalizing e n with
  | nil => rfl
  | cons c calls ih =>
    cases n with
    | zero => rfl
    | succ n => exact ih (e.invoke c.1 c.2).val.2 n

lemma answers_append (e : Engine σ μ) (xs ys : List (String × Call)) :
    e.answers (xs ++ ys) = e.answers xs ++ (e.run xs).answers ys := by
  induction xs generalizing e with
  | nil => rfl
  | cons c xs ih =>
    rw [List.cons_append, answers_cons, ih, answers_cons, run_cons, List.cons_append]

/-- A run ends in an engine of the same commands, whose context has every property that the context
had at first and that the commands of the run preserve. -/
theorem run_invariant {P : Context σ μ → Prop} {calls : List (String × Call)}
    (hstep : ∀ ctx b call, (Builtin.name b, call) ∈ calls → P ctx → P (ctx.after b call))
    {ctx : Context σ μ} (h : P ctx) :
    ∃ ctx', (ofContext ctx).val.run calls = (ofContext ctx').val ∧ P ctx' := by
  induction calls generalizing ctx with
  | nil => exact ⟨ctx, rfl, h⟩
  | cons c calls ih =>
    obtain ⟨name, call⟩ := c
    have hrest : ∀ ctx b call, (Builtin.name b, call) ∈ calls → P ctx → P (ctx.after b call) :=
      fun ctx b call hc => hstep ctx b call (List.mem_cons_of_mem _ hc)
    rw [run_cons]
    cases hb : Builtin.ofName? name with
    | none =>
      rw [val_invoke_unknown ctx hb]
      exact ih hrest h
    | some b =>
      obtain rfl := Builtin.name_of_ofName? hb
      rw [val_invoke_name]
      exact ih hrest (hstep ctx b call List.mem_cons_self h)

end Engine

end Questline
