import Mathlib.Tactic.Lemma
import Questline.Proofs.Dispatch.Invocation

/-!
Switching on a flag. The value of the flag selects the target at its position, counted from 0. Where
no target stands, or an empty one, the last argument is the target, and if that is empty too the
script goes on.
-/

namespace Questline

namespace Branches

/-- A value selects a target: it is the position, from 0, of one that is not empty. -/
def Selects (targets : List String) (value : Int) (target : String) : Prop :=
  target ≠ "" ∧ ∃ i : Nat, value = i ∧ targets[i]? = some target

lemma Selects.mem_range {targets : List String} {value : Int} {target : String}
    (h : Selects targets value target) : 0 ≤ value ∧ value < targets.length := by
  obtain ⟨-, i, rfl, hi⟩ := h
  have hlt : i < targets.length := (List.getElem?_eq_some_iff.1 hi).1
  omega

/-! ### The pick -/

variable {targets : List String} {fallback target : String} {value : Int32}

lemma targetAt?_eq_some_iff :
    targetAt? targets value = some target ↔
      ∃ i : Nat, value.toInt = i ∧ targets[i]? = some target := by
  rw [targetAt?]
  constructor
  · intro h
    split at h
    · next hpos => exact ⟨value.toInt.toNat, (Int.toNat_of_nonneg hpos).symm, h⟩
    · cases h
  · rintro ⟨i, hi, htarget⟩
    rw [hi, if_pos (Int.natCast_nonneg i), Int.toNat_natCast, htarget]

lemma filter_targetAt?_eq_some_iff :
    (targetAt? targets value).filter (· ≠ "") = some target ↔
      Selects targets value.toInt target := by
  rw [Option.filter_eq_some_iff, targetAt?_eq_some_iff, decide_eq_true_iff, and_comm]
  exact Iff.rfl

lemma pick?_of_selects (h : Selects targets value.toInt target) :
    pick? targets fallback value = some target := by
  rw [pick?, filter_targetAt?_eq_some_iff.2 h, Option.some_or]

/-- If the value selects no target, the fallback is picked unless it is empty. -/
lemma pick?_of_not_selects (h : ∀ target, ¬ Selects targets value.toInt target) :
    pick? targets fallback value = if fallback = "" then none else some fallback := by
  have hnone : (targetAt? targets value).filter (· ≠ "") = none := by
    refine Option.eq_none_iff_forall_ne_some.2 fun target htarget => ?_
    exact h target (filter_targetAt?_eq_some_iff.1 htarget)
  rw [pick?, hnone, Option.none_or]
  by_cases hfallback : fallback = "" <;> simp [hfallback]

/-- What is picked is not empty, and stands among the targets and the fallback. -/
lemma mem_of_pick?_eq_some (h : pick? targets fallback value = some target) :
    target ≠ "" ∧ target ∈ targets ++ [fallback] := by
  by_cases hselects : ∃ t, Selects targets value.toInt t
  · obtain ⟨t, ht⟩ := hselects
    rw [pick?_of_selects ht] at h
    cases h
    obtain ⟨hne, i, -, hi⟩ := ht
    exact ⟨hne, List.mem_append_left _ (List.mem_of_getElem? hi)⟩
  · rw [pick?_of_not_selects (not_exists.1 hselects)] at h
    split at h
    · cases h
    · next hne =>
      cases h
      exact ⟨hne, List.mem_append_right _ (List.mem_singleton.2 rfl)⟩

/-! ### The command -/

variable {μ : Type}

lemma answer_switchFlag (v : View μ) (call : Call) (key fallback : String) (targets : List String) :
    (switchFlag v { call with args := key :: (targets ++ [fallback]) }).answer =
      .ok ((pick? targets fallback (v.flags key 0)).elim .none .jump) := by
  simp only [switchFlag, List.getLast?_concat, List.dropLast_concat]
  cases pick? targets fallback (v.flags key 0) <;> rfl

end Branches

namespace Engine

variable {σ μ : Type} [FlagStore σ] [QuestManager μ]

def switchAnswer (ctx : Context σ μ) (call : Call) (args : List String) : Option Decision :=
  ((ofContext ctx).val.invoke Builtin.switchFlag.name { call with args }).val.1

variable (ctx : Context σ μ) (call : Call)

lemma switchAnswer_concat (key : String) (targets : List String) (fallback : String) :
    switchAnswer ctx call (key :: (targets ++ [fallback])) =
      some ((Branches.pick? targets fallback (FlagStore.get ctx.flags key 0)).elim
        .none .jump) := by
  have hplan := Branches.answer_switchFlag ctx.view call key fallback targets
  rw [switchAnswer, val_invoke_name]
  exact congrArg Except.toOption hplan

lemma switchAnswer_nil : switchAnswer ctx call [] = some .none := by
  rw [switchAnswer, val_invoke_name]
  rfl

lemma switchAnswer_singleton (key : String) : switchAnswer ctx call [key] = some .none := by
  rw [switchAnswer, val_invoke_name]
  rfl

/-- If the value selects no target, the answer hangs on the fallback alone. -/
lemma switchAnswer_of_not_selects {key : String} {targets : List String}
    (h : ∀ target, ¬ Branches.Selects targets (FlagStore.get ctx.flags key 0).toInt target)
    (fallback : String) : switchAnswer ctx call (key :: (targets ++ [fallback])) =
      some (if fallback = "" then .none else .jump fallback) := by
  rw [switchAnswer_concat, Branches.pick?_of_not_selects h]
  split <;> rfl

lemma mem_of_switchAnswer_eq_jump {args : List String} {target : String}
    (h : switchAnswer ctx call args = some (.jump target)) : target ≠ "" ∧ target ∈ args.tail := by
  rcases args with _ | ⟨key, rest⟩
  · rw [switchAnswer_nil] at h
    cases h
  rcases List.eq_nil_or_concat rest with rfl | ⟨targets, fallback, rfl⟩
  · rw [switchAnswer_singleton] at h
    cases h
  · rw [List.concat_eq_append, switchAnswer_concat] at h
    cases hpick : Branches.pick? targets fallback (FlagStore.get ctx.flags key 0) with
    | none =>
      rw [hpick] at h
      cases h
    | some t =>
      rw [hpick] at h
      cases h
      rw [List.tail_cons, List.concat_eq_append]
      exact Branches.mem_of_pick?_eq_some hpick

/-- **Switching**: over every flag store, the value of the flag decides between the targets and the
fallback after them. The target it selects is the one to jump to; if it selects none, the fallback
is, and nothing if the fallback is empty. So it is for every value below zero, and for every value
from the number of targets on. Without an argument after the key there is nothing to jump to. In
every case a jump goes to one of the arguments after the key, and never to an empty one. -/
theorem switch_takes_branch :
    (∀ key targets fallback target,
      Branches.Selects targets (FlagStore.get ctx.flags key 0).toInt target →
        switchAnswer ctx call (key :: (targets ++ [fallback])) = some (.jump target)) ∧
    (∀ key targets fallback,
      (∀ target, ¬ Branches.Selects targets (FlagStore.get ctx.flags key 0).toInt target) →
        switchAnswer ctx call (key :: (targets ++ [fallback])) =
          some (if fallback = "" then .none else .jump fallback)) ∧
    (∀ key targets fallback,
      (FlagStore.get ctx.flags key 0).toInt < 0 ∨
          targets.length ≤ (FlagStore.get ctx.flags key 0).toInt →
        switchAnswer ctx call (key :: (targets ++ [fallback])) =
          some (if fallback = "" then .none else .jump fallback)) ∧
    (switchAnswer ctx call [] = some .none ∧
      ∀ key, switchAnswer ctx call [key] = some .none) ∧
    ∀ args target, switchAnswer ctx call args = some (.jump target) →
      target ≠ "" ∧ target ∈ args.tail := by
  refine ⟨fun key targets fallback target h => ?_, fun key targets fallback h => ?_,
    fun key targets fallback h => ?_, ⟨switchAnswer_nil ctx call, switchAnswer_singleton ctx call⟩,
    fun args target h => mem_of_switchAnswer_eq_jump ctx call h⟩
  · rw [switchAnswer_concat, Branches.pick?_of_selects h]
    rfl
  · exact switchAnswer_of_not_selects ctx call h fallback
  · refine switchAnswer_of_not_selects ctx call (fun target hselects => ?_) fallback
    have hrange := hselects.mem_range
    omega

/-- A flag of 2 jumps to the third of four targets; one of -1 and one of 4 to the fallback, and so
does one of 1, where the target is empty. -/
theorem switch_takes_branch_home :
    let ctx : Context MemoryFlags QuestCatalog :=
      { flags := .ofList [("two", 2), ("below", -1), ("beyond", 4), ("one", 1)], quests := .empty }
    let answer (key : String) := switchAnswer ctx {} (key :: (["a", "", "c", "d"] ++ ["home"]))
    answer "two" = some (.jump "c") ∧ answer "below" = some (.jump "home") ∧
      answer "beyond" = some (.jump "home") ∧ answer "one" = some (.jump "home") := by
  intro ctx answer
  obtain ⟨hselected, hnone, houtside, -, -⟩ := switch_takes_branch ctx {}
  have htwo : FlagStore.get ctx.flags "two" 0 = 2 := by decide +kernel
  have hbelow : FlagStore.get ctx.flags "below" 0 = -1 := by decide +kernel
  have hbeyond : FlagStore.get ctx.flags "beyond" 0 = 4 := by decide +kernel
  have hone : FlagStore.get ctx.flags "one" 0 = 1 := by decide +kernel
  refine ⟨hselected _ _ _ "c" ⟨by decide, 2, ?_, rfl⟩, houtside _ _ _ (.inl ?_),
    houtside _ _ _ (.inr ?_), hnone _ _ _ ?_⟩
  · rw [htwo]
    rfl
  · rw [hbelow]
    decide
  · rw [hbeyond]
    decide
  · rintro target ⟨hne, i, hi, htarget⟩
    rw [hone] at hi
    obtain rfl : 1 = i := by
      have : (1 : Int32).toInt = 1 := rfl
      omega
    exact hne (Option.some.inj htarget).symm

end Engine

end Questline
