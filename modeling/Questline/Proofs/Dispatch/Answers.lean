import Mathlib.Tactic.SplitIfs
import Questline.Proofs.Dispatch.Events

/-!
What the plans of the built-in commands answer. A command has arguments that it takes and decisions
that it comes to; if the arguments are not so, its plan writes nothing and reports a fault.
-/

namespace Questline

namespace Builtin

/-- Whether the arguments of a command are as it takes them. It may ignore further ones. -/
def wellFormed : Builtin → List String → Bool
  | ifFlag, args => (args[1]?.bind fun token => (Comparison.parse token).toOption).isSome
  | switchFlag, args => 2 ≤ args.length
  | setFlag, args | addFlag, args => (args[1]?.bind Writes.number?).isSome
  | addKarma, args | addContribution, args | setAutoDialogNpc, args =>
    (args.head?.bind Writes.number?).isSome
  | setRank, args => (args.head?.bind Rank.parse?).isSome
  | setPhase, args => (args.head?.bind StoryPhase.parse?).isSome
  | setArenaResult, args => (args.head?.bind ArenaResult.parse?).isSome
  | canRejoin, args => (args.head?.bind Companion.parse?).isSome
  | checkQuestAvailable, args | startQuest, args | completeQuest, args =>
    (args.head?.filter (· ≠ "")).isSome
  | checkQuestsForDispatch, args => args.head?.isSome
  | clearSession, _ | checkAvailableQuests, _ => true
  | debugPlayerState, _ | debugQuestState, _ | debugSessionState, _ => true

def Answers : Builtin → Decision → Prop
  | ifFlag, d | canRejoin, d => ∃ holds, d = .condition holds
  | switchFlag, d => d = .none ∨ ∃ target, d = .jump target
  | _, d => d = .none

end Builtin

/-! ### Plans -/

variable {μ : Type}

/-- A plan that comes to a decision of some kind, and that writes nothing and reports a fault if the
arguments are not as the command takes them. -/
structure Plan.Obeys (p : Plan μ) (wellFormed : Bool) (kind : Decision → Prop) : Prop where
  decides : ∃ d, p.answer = .ok d ∧ kind d
  fault : wellFormed = false → p.writes = [] ∧ ∃ n : Notice, n.IsFault ∧ .note n ∈ p.effects

namespace Plan

variable {v : View μ} {w : Bool} {kind : Decision → Prop} {d : Decision}

lemma decide_obeys {es : List Effect} (hw : w = true) (h : kind d) :
    (decide v es d).Obeys w kind where
  decides := ⟨d, rfl, h⟩
  fault hw' := (Bool.false_ne_true (hw'.symm.trans hw)).elim

lemma report_obeys {n : Notice} (hn : n.IsFault) (h : kind d) :
    (decide v [.note n] d).Obeys w kind where
  decides := ⟨d, rfl, h⟩
  fault _ := ⟨rfl, n, hn, List.mem_singleton.2 rfl⟩

lemma malformed_obeys {b : Builtin} {call : Call} {reason : String} (h : kind d) :
    (malformed v b call reason d).Obeys w kind := report_obeys (.inl rfl) h

end Plan

open Plan (decide_obeys report_obeys malformed_obeys)

namespace Branches

lemma ifFlag_obeys (v : View μ) (call : Call) :
    (ifFlag v call).Obeys (Builtin.wellFormed .ifFlag call.args) (Builtin.Answers .ifFlag) := by
  rw [ifFlag]
  split
  · next key token rest hargs =>
    split
    · exact report_obeys (.inl rfl) ⟨_, rfl⟩
    · next test htest =>
      refine decide_obeys ?_ ⟨_, rfl⟩
      simp [Builtin.wellFormed, hargs, htest, Except.toOption]
  · exact malformed_obeys ⟨_, rfl⟩

lemma switchFlag_obeys (v : View μ) (call : Call) :
    (switchFlag v call).Obeys (Builtin.wellFormed .switchFlag call.args)
      (Builtin.Answers .switchFlag) := by
  rw [switchFlag]
  split
  · exact malformed_obeys (.inl rfl)
  · next key rest hargs =>
    split
    · exact malformed_obeys (.inl rfl)
    · next fallback hlast =>
      have hlength : 2 ≤ call.args.length := by
        cases rest with
        | nil => cases hlast
        | cons a rest => simp [hargs]
      have hw : Builtin.wellFormed .switchFlag call.args = true := by
        simpa [Builtin.wellFormed] using hlength
      dsimp only
      split
      · exact decide_obeys hw (.inr ⟨_, rfl⟩)
      · exact decide_obeys hw (.inl rfl)

lemma canRejoin_obeys (v : View μ) (call : Call) :
    (canRejoin v call).Obeys (Builtin.wellFormed .canRejoin call.args)
      (Builtin.Answers .canRejoin) := by
  rw [canRejoin]
  split
  · exact malformed_obeys ⟨_, rfl⟩
  · next companion hc => exact decide_obeys (by simp [Builtin.wellFormed, hc]) ⟨_, rfl⟩

end Branches

namespace Writes

lemma setFlag_obeys (v : View μ) (call : Call) :
    (setFlag v call).Obeys (call.args[1]?.bind number?).isSome (· = .none) := by
  rw [setFlag]
  split
  · next key value rest hargs =>
    split
    · exact malformed_obeys rfl
    · next n hn => exact decide_obeys (by simp [hargs, hn]) rfl
  · exact malformed_obeys rfl

lemma addFlag_obeys (v : View μ) (call : Call) :
    (addFlag v call).Obeys (call.args[1]?.bind number?).isSome (· = .none) := by
  rw [addFlag]
  split
  · next key delta rest hargs =>
    split
    · exact malformed_obeys rfl
    · next n hn => exact decide_obeys (by simp [hargs, hn]) rfl
  · exact malformed_obeys rfl

lemma increase_obeys (b : Builtin) (f : Field Int32) (notice : Int32 → Int32 → Notice)
    (v : View μ) (call : Call) :
    (increase b f notice v call).Obeys (call.args.head?.bind number?).isSome (· = .none) := by
  rw [increase]
  split
  · exact malformed_obeys rfl
  · next delta hdelta => exact decide_obeys (by rw [hdelta]; rfl) rfl

lemma setField_obeys {α : Type} (b : Builtin) (f : Field α) (value? : String → Option α)
    (reason : String) (notices : α → List Notice) (v : View μ) (call : Call) :
    (setField b f value? reason notices v call).Obeys (call.args.head?.bind value?).isSome
      (· = .none) := by
  rw [setField]
  split
  · exact malformed_obeys rfl
  · next a ha => exact decide_obeys (by rw [ha]; rfl) rfl

end Writes

namespace Offers

variable [QuestManager μ]

lemma checkQuestAvailable_obeys (v : View μ) (call : Call) :
    (checkQuestAvailable v call).Obeys (call.args.head?.filter (· ≠ "")).isSome (· = .none) := by
  rw [checkQuestAvailable]
  split
  · exact malformed_obeys rfl
  · next id hid =>
    have hw : (call.args.head?.filter (· ≠ "")).isSome = true := by rw [hid]; rfl
    dsimp only
    split_ifs <;> exact decide_obeys hw rfl

lemma checkQuestsForDispatch_obeys (v : View μ) (call : Call) :
    (checkQuestsForDispatch v call).Obeys call.args.head?.isSome (· = .none) := by
  rw [checkQuestsForDispatch]
  split
  · exact malformed_obeys rfl
  · next key candidates hargs => exact decide_obeys (by rw [hargs]; rfl) rfl

end Offers

namespace Builtin

variable [QuestManager μ]

/-- A command other than the transitions decides, and does nothing about malformed arguments but to
report them. -/
theorem plan_obeys {b : Builtin} (hs : b ≠ startQuest) (hc : b ≠ completeQuest) (v : View μ)
    (call : Call) : (b.plan v call).Obeys (b.wellFormed call.args) b.Answers := by
  cases b with
  | ifFlag => exact Branches.ifFlag_obeys v call
  | switchFlag => exact Branches.switchFlag_obeys v call
  | canRejoin => exact Branches.canRejoin_obeys v call
  | setFlag => exact Writes.setFlag_obeys v call
  | addFlag => exact Writes.addFlag_obeys v call
  | addKarma | addContribution => exact Writes.increase_obeys _ _ _ v call
  | setRank | setPhase | setAutoDialogNpc | setArenaResult =>
    exact Writes.setField_obeys _ _ _ _ _ v call
  | checkQuestAvailable => exact Offers.checkQuestAvailable_obeys v call
  | checkQuestsForDispatch => exact Offers.checkQuestsForDispatch_obeys v call
  | clearSession | checkAvailableQuests => exact decide_obeys rfl rfl
  | debugPlayerState | debugQuestState | debugSessionState => exact decide_obeys rfl rfl
  | startQuest => exact absurd rfl hs
  | completeQuest => exact absurd rfl hc

end Builtin

end Questline
