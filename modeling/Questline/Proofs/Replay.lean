import Mathlib.Data.List.Induction
import Questline.Proofs.Dispatch.Timing
import Questline.Proofs.Flags.Lawful
import Questline.Replay

/-!
Replays as runs. A replay seeds the flags and then makes the invocations of its trace in order,
whatever comes of each, and it reports the answer to each and the watched flags at the end. So a
replay in two parts, the second without seeds, is a replay of the whole.
-/

namespace Questline

/-! ### Seeds and watched flags -/

namespace FlagStore

variable {σ : Type} [FlagStore σ]

def value? (s : σ) (key : String) : Option Int32 := if has s key then some (get s key 0) else none

end FlagStore

def Engine.seeded {σ μ : Type} [FlagStore σ] (e : Engine σ μ) (flags : FlagMap) : Engine σ μ :=
  let seeded := (FlagStore.setAll e.context.flags flags.toList).val
  { e with context := { e.context with flags := seeded } }

@[simp] lemma Engine.seeded_empty {σ μ : Type} [FlagStore σ] (e : Engine σ μ) :
    e.seeded ∅ = e := rfl

lemma getElem?_ofList_map {β : Type} (f : String → β) (keys : List String) (key : String) :
    (Std.ExtTreeMap.ofList (keys.map fun k => (k, f k)) compare)[key]? =
      if key ∈ keys then some (f key) else none := by
  rw [Std.ExtTreeMap.ofList_eq_insertMany_empty]
  induction keys using List.reverseRecOn with
  | nil => rfl
  | append_singleton keys k ih =>
    rw [List.map_append, List.map_singleton, Std.ExtTreeMap.insertMany_append,
      Std.ExtTreeMap.insertMany_list_singleton, Std.ExtTreeMap.getElem?_insert, ih]
    simp only [Std.LawfulEqCmp.compare_eq_iff_eq, List.mem_append, List.mem_singleton]
    by_cases hk : k = key
    · simp [hk]
    · simp [hk, Ne.symm hk]

/-! ### Invocations of a trace -/

namespace Invocation

def call (i : Invocation) (time : Instant) : Call := ⟨i.args, i.site, time⟩

def report (i : Invocation) (answer : Option Decision) : StepReport := ⟨i.site, i.command, answer⟩

lemma map_decision_report {is : List Invocation} {answers : List (Option Decision)}
    (h : answers.length = is.length) :
    (is.zipWith report answers).map StepReport.decision = answers := by
  rw [← List.map_uncurry_zip_eq_zipWith, List.map_map]
  exact List.map_snd_zip (Nat.le_of_eq h)

end Invocation

namespace Trace

/-- The calls of some invocations; a clock times each by its position. -/
def calls (clock : Nat → Instant) (is : List Invocation) : List (String × Call) :=
  is.mapIdx fun n i => (i.command, i.call (clock n))

lemma calls_cons (clock : Nat → Instant) (i : Invocation) (is : List Invocation) :
    calls clock (i :: is) =
      (i.command, i.call (clock 0)) :: calls (fun n => clock (n + 1)) is := List.mapIdx_cons

lemma calls_append (clock : Nat → Instant) (xs ys : List Invocation) :
    calls clock (xs ++ ys) = calls clock xs ++ calls (fun n => clock (n + xs.length)) ys :=
  List.mapIdx_append

@[simp] lemma length_calls (clock : Nat → Instant) (is : List Invocation) :
    (calls clock is).length = is.length := List.length_mapIdx

lemma take_calls (clock : Nat → Instant) (is : List Invocation) (n : Nat) :
    (calls clock is).take n = calls clock (is.take n) := by
  induction is generalizing clock n with
  | nil => rw [List.take_nil]; exact List.take_nil
  | cons i is ih =>
    cases n with
    | zero => rfl
    | succ n => rw [calls_cons, List.take_succ_cons, ih, List.take_succ_cons, calls_cons]

lemma untimed_calls (clock clock' : Nat → Instant) (is : List Invocation) :
    (calls clock is).map Engine.untimed = (calls clock' is).map Engine.untimed := by
  induction is generalizing clock clock' with
  | nil => rfl
  | cons i is ih => rw [calls_cons, calls_cons, List.map_cons, List.map_cons, ih]; rfl

variable {σ μ : Type} [FlagStore σ] [QuestManager μ]

lemma val_step (e : Engine σ μ) (time : Instant) (i : Invocation) :
    (step e time i).val = (i.report (e.invoke i.command (i.call time)).val.1,
      (e.invoke i.command (i.call time)).val.2) := by
  have hcall : (⟨i.args, i.site, time⟩ : Call) = i.call time := rfl
  rw [step, Logged.val_bind, hcall]
  -- the note that is made depends on the answer, the result does not
  rcases (e.invoke i.command (i.call time)).val with ⟨_ | d, next⟩ <;> rfl

lemma val_steps (e : Engine σ μ) (clock : Nat → Instant) (is : List Invocation) :
    (steps e clock is).val =
      (is.zipWith Invocation.report (e.answers (calls clock is)), e.run (calls clock is)) := by
  induction is generalizing e clock with
  | nil => rfl
  | cons i is ih =>
    rw [steps]
    simp only [Logged.val_bind, Logged.val_pure, val_step, ih, calls_cons]
    rfl

/-- **A replay is a run** from the seeded engine. -/
lemma val_run (t : Trace) (clock : Nat → Instant) (e : Engine σ μ) :
    (t.run clock e).val =
      let e' := (e.seeded t.flags).run (calls clock t.invocations)
      (⟨t.invocations.zipWith Invocation.report
          ((e.seeded t.flags).answers (calls clock t.invocations)),
        watched e'.context.flags t.watch⟩, e') := by
  simp only [run, Logged.val_bind, Logged.val_pure, val_steps]
  rfl

/-! ### What a replay reports -/

lemma getElem?_watched (s : σ) (watch : List String) (key : String) :
    (watched s watch)[key]? =
      if key ∈ watch then some (FlagStore.value? s key) else none :=
  getElem?_ofList_map (FlagStore.value? s) watch key

structure Replays (t : Trace) (clock : Nat → Instant) (e : Engine σ μ) (r : ReplayReport)
    (e' : Engine σ μ) : Prop where
  /-- A seed that the store keeps is read before the first invocation. -/
  seed [LawfulFlagStore σ] (xs ys : List (String × Int32)) (key : String) (value : Int32) :
    t.flags.toList = xs ++ (key, value) :: ys → ∀ d,
      FlagStore.get (e.seeded t.flags).context.flags key d =
        if FlagStore.keeps (FlagStore.setAll e.context.flags xs).val (key, value) = true then value
        else FlagStore.get e.context.flags key d
  noSeed [LawfulFlagStore σ] (key : String) : key ∉ t.flags → ∀ d,
    FlagStore.get (e.seeded t.flags).context.flags key d = FlagStore.get e.context.flags key d
  /-- There is one step for each invocation. -/
  length : r.steps.length = t.invocations.length
  /-- Each is answered in the state that the seeds and all earlier invocations leave. -/
  step (n : Nat) (i : Invocation) : t.invocations[n]? = some i →
    let before := (e.seeded t.flags).run (calls clock (t.invocations.take n))
    r.steps[n]? = some ⟨i.site, i.command, (before.invoke i.command (i.call (clock n))).val.1⟩
  final : e' = (e.seeded t.flags).run (calls clock t.invocations)
  failures : r.failures = ((e.seeded t.flags).answers (calls clock t.invocations)).count none
  watched (key : String) : r.watched[key]? =
    if key ∈ t.watch then some (FlagStore.value? e'.context.flags key) else none

variable (t : Trace) (clock : Nat → Instant) (e : Engine σ μ)

lemma nodup_flags (flags : FlagMap) : (flags.toList.map Prod.fst).Nodup := by
  rw [Std.ExtTreeMap.map_fst_toList_eq_keys]
  exact Std.ExtTreeMap.nodup_keys

lemma getElem?_steps {n : Nat} {i : Invocation} (hn : t.invocations[n]? = some i) :
    (t.run clock e).val.1.steps[n]? = some (i.report
      (((e.seeded t.flags).run (calls clock (t.invocations.take n))).invoke i.command
        (i.call (clock n))).val.1) := by
  have hcall : (calls clock t.invocations)[n]? = some (i.command, i.call (clock n)) := by
    rw [calls, List.getElem?_mapIdx, hn]
    rfl
  rw [val_run, List.getElem?_zipWith, hn, Engine.getElem?_answers, hcall, take_calls]
  rfl

lemma failures_eq : (t.run clock e).val.1.failures =
    ((e.seeded t.flags).answers (calls clock t.invocations)).count none := by
  have hdecisions := Invocation.map_decision_report
    (((e.seeded t.flags).length_answers _).trans (length_calls clock t.invocations))
  rw [ReplayReport.failures, val_run, ← hdecisions, List.count, List.countP_map, hdecisions]
  refine List.countP_congr fun s _ => ?_
  rw [Option.isNone_iff_eq_none, Function.comp_apply, beq_iff_eq]

theorem replays : t.Replays clock e (t.run clock e).val.1 (t.run clock e).val.2 where
  seed xs ys key value h d := by
    have hnodup := nodup_flags t.flags
    rw [h] at hnodup
    have := FlagStore.get_setAll_of_nodup e.context.flags hnodup d
    rwa [← h] at this
  noSeed key h d := by
    refine FlagStore.get_setAll_of_notMem e.context.flags ?_ d
    rwa [Std.ExtTreeMap.map_fst_toList_eq_keys, Std.ExtTreeMap.mem_keys]
  length := by simp [val_run]
  step n i hn := t.getElem?_steps clock e hn
  final := by rw [val_run]
  failures := t.failures_eq clock e
  watched key := by
    rw [val_run]
    exact getElem?_watched _ t.watch key

/-! ### Replays in parts -/

variable (flags : FlagMap) (xs ys : List Invocation) (watch watch' : List String)

/-- Two replays, the second without seeds on the engine that the first leaves, are one run of all
the calls. -/
lemma run_run (clock' : Nat → Instant) :
    let first := (run ⟨flags, xs, watch'⟩ clock e).val
    let second := (run ⟨∅, ys, watch⟩ clock' first.2).val
    let all := calls clock xs ++ calls clock' ys
    first.1.steps ++ second.1.steps =
        (xs ++ ys).zipWith Invocation.report ((e.seeded flags).answers all) ∧
      second.2 = (e.seeded flags).run all ∧
      second.1.watched = watched second.2.context.flags watch := by
  intro first second all
  have hfirst : first.2 = (e.seeded flags).run (calls clock xs) := by
    simp only [first, val_run]
  have hsecond : second.2 = (e.seeded flags).run all := by
    simp only [second, val_run, Engine.seeded_empty, hfirst]
    rw [Engine.run_append]
  refine ⟨?_, hsecond, ?_⟩
  · rw [Engine.answers_append, List.zipWith_append, ← hfirst]
    · simp only [first, second, val_run, Engine.seeded_empty]
    · rw [Engine.length_answers, length_calls]
  · simp only [second, val_run]

/-- A replay in two parts on a clock that goes on is the replay of the whole. -/
lemma run_append :
    let whole := (run ⟨flags, xs ++ ys, watch⟩ clock e).val
    let first := (run ⟨flags, xs, watch'⟩ clock e).val
    let second := (run ⟨∅, ys, watch⟩ (fun n => clock (n + xs.length)) first.2).val
    whole.1.steps = first.1.steps ++ second.1.steps ∧ whole.1.watched = second.1.watched ∧
      whole.2 = second.2 := by
  intro whole first second
  obtain ⟨hsteps, hlast, hwatched⟩ :=
    run_run clock e flags xs ys watch watch' fun n => clock (n + xs.length)
  rw [← calls_append] at hsteps hlast
  have hwhole : whole.2 = second.2 := by
    rw [hlast]
    simp only [whole, val_run]
  refine ⟨?_, ?_, hwhole⟩
  · rw [hsteps]
    simp only [whole, val_run]
  · rw [hwatched, ← hwhole]
    simp only [whole, val_run]

/-- With timeless commands it does not matter on which clocks the parts are. -/
lemma run_append_of_timeless {e : Engine σ QuestCatalog} (he : e.Timeless)
    (clock₁ clock₂ : Nat → Instant) :
    let whole := (run ⟨flags, xs ++ ys, watch⟩ clock e).val
    let first := (run ⟨flags, xs, watch'⟩ clock₁ e).val
    let second := (run ⟨∅, ys, watch⟩ clock₂ first.2).val
    whole.1.steps = first.1.steps ++ second.1.steps ∧ whole.1.watched = second.1.watched ∧
      second.2.SameButTimes whole.2 := by
  intro whole first second
  obtain ⟨hsteps, hlast, hwatched⟩ := run_run clock₁ e flags xs ys watch watch' clock₂
  have huntimed : (calls clock (xs ++ ys)).map Engine.untimed =
      (calls clock₁ xs ++ calls clock₂ ys).map Engine.untimed := by
    rw [calls_append, List.map_append, List.map_append, untimed_calls clock clock₁ xs,
      untimed_calls _ clock₂ ys]
  -- the seeds are no commands, so the seeded engine has the same ones
  have hseeded : (e.seeded flags).Timeless := he
  obtain ⟨hanswers, hsame⟩ := (Engine.SameButTimes.refl _).run hseeded huntimed
  have hwhole : second.2.SameButTimes whole.2 := by
    rw [hlast]
    simpa only [whole, val_run] using hsame
  refine ⟨?_, ?_, hwhole⟩
  · rw [hsteps, ← hanswers]
    simp only [whole, val_run]
  · rw [hwatched, ← hwhole.context.flags]
    simp only [whole, val_run]

/-- **A replay is step-by-step invocation, and composes**: it reports of each invocation what comes
of it in its turn, whatever came of the earlier ones. Cut in two, with the seeds in the first part
alone, it has the same steps, watched flags and last engine on a clock that goes on. On any other
clocks it has them but for the times in the journal, unless some command of the host, other than the
built-in ones, looks at times. -/
theorem replay_is_invocation :
    (∀ (t : Trace) (clock : Nat → Instant) (e : Engine σ μ),
      t.Replays clock e (t.run clock e).val.1 (t.run clock e).val.2) ∧
    (∀ flags xs ys watch watch' clock (e : Engine σ μ),
      let whole := (run ⟨flags, xs ++ ys, watch⟩ clock e).val
      let first := (run ⟨flags, xs, watch'⟩ clock e).val
      let second := (run ⟨∅, ys, watch⟩ (fun n => clock (n + xs.length)) first.2).val
      whole.1.steps = first.1.steps ++ second.1.steps ∧ whole.1.watched = second.1.watched ∧
        whole.2 = second.2) ∧
    (∀ ctx : Context σ QuestCatalog, (Engine.ofContext ctx).val.Timeless) ∧
    ∀ flags xs ys watch watch' clock clock₁ clock₂ (e : Engine σ QuestCatalog), e.Timeless →
      let whole := (run ⟨flags, xs ++ ys, watch⟩ clock e).val
      let first := (run ⟨flags, xs, watch'⟩ clock₁ e).val
      let second := (run ⟨∅, ys, watch⟩ clock₂ first.2).val
      whole.1.steps = first.1.steps ++ second.1.steps ∧ whole.1.watched = second.1.watched ∧
        second.2.SameButTimes whole.2 := by
  refine ⟨fun t clock e => t.replays clock e, ?_, Engine.timeless_ofContext, ?_⟩
  · intro flags xs ys watch watch' clock e
    exact run_append clock e flags xs ys watch watch'
  · intro flags xs ys watch watch' clock clock₁ clock₂ e he
    exact run_append_of_timeless clock flags xs ys watch watch' he clock₁ clock₂

/-- A replay with a call for no command and one that panics half-way, cut in two at other times. -/
theorem replay_is_invocation_boom :
    let boom : Command MemoryFlags QuestCatalog :=
      { name := "boom"
        execute := fun ctx _ => do
          let flags ← FlagStore.set ctx.flags "marker" 1
          pure (.panicked none, { ctx with flags }) }
    let ctx : Context MemoryFlags QuestCatalog := { flags := {}, quests := .single "herbs" }
    let e := ((Engine.ofContext ctx).val.register boom).val
    let flags : FlagMap := (∅ : FlagMap).insert "gold" 7
    let xs : List Invocation := [
      { command := "if_flag", args := ["gold", ">=5"] }, { command := "no_such_command" },
      { command := "boom" }, { command := "start_quest", args := ["herbs"] }]
    let ys : List Invocation := [
      { command := "if_flag", args := ["marker", "==1"] },
      { command := "complete_quest", args := ["herbs"] }]
    let watch := ["gold", "marker", "gold", "untouched"]
    let clock (second : Int) (n : Nat) : Instant := ⟨second + n, 0⟩
    let whole := (run ⟨flags, xs ++ ys, watch⟩ (clock 0) e).val
    let first := (run ⟨flags, xs, []⟩ (clock 100) e).val
    let second := (run ⟨∅, ys, watch⟩ (clock 200) first.2).val
    whole.1.steps = first.1.steps ++ second.1.steps ∧ second.2.SameButTimes whole.2 ∧
      whole.1.steps.map StepReport.decision =
        [some (.condition true), none, none, some .none, some (.condition true), some .none] ∧
      whole.1.failures = 2 ∧
      watch.map (whole.1.watched[·]?) = [some (some 7), some (some 1), some (some 7), some none] ∧
      whole.1.watched["route"]? = none := by
  intro boom ctx e flags xs ys watch clock whole first second
  have hboom : boom.Timeless := fun ctx ctx' h args site now now' => by
    refine ⟨rfl, ?_, h.keys, h.quests⟩
    exact congrArg (fun flags => (FlagStore.set flags "marker" 1).val) h.flags
  obtain ⟨hreplays, -, hbuiltins, hparts⟩ :=
    replay_is_invocation (σ := MemoryFlags) (μ := QuestCatalog)
  have he : e.Timeless := (hbuiltins ctx).register hboom
  have hreport : Replays ⟨flags, xs ++ ys, watch⟩ (clock 0) e whole.1 whole.2 := hreplays _ _ _
  have hsame : whole.1.steps = first.1.steps ++ second.1.steps ∧ second.2.SameButTimes whole.2 := by
    -- nothing has to be evaluated here
    clear_value clock xs ys flags watch e
    have h := hparts flags xs ys watch [] (clock 0) (clock 100) (clock 200) e he
    exact ⟨h.1, h.2.2⟩
  refine ⟨hsame.1, hsame.2, by decide +kernel, ?_, ?_, ?_⟩
  · rw [hreport.failures]
    decide +kernel
  · simp only [hreport.watched]
    decide +kernel
  · rw [hreport.watched]
    decide +kernel

end Trace

end Questline
