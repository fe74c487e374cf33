import Mathlib.Tactic.Lemma
import Mathlib.Tactic.SplitIfs
import Questline.Dispatch.Context

/-!
What the built-in commands write. The footprint of a command is the list of keys that it may write
with given arguments, whatever the flags and quests are; only the two transitions change quests.
-/

namespace Questline

namespace Effect

@[simp] lemma write?_write (key : String) (value : Int32) :
    (write key value).write? = some (key, value) := rfl

@[simp] lemma write?_report (notice : FlagReader → Notice) : (report notice).write? = none := rfl

@[simp] lemma write?_note (n : Notice) : (note n).write? = none := rfl

@[simp] lemma filterMap_ofWrites (ws : List (String × Int32)) :
    (ofWrites ws).filterMap write? = ws := by
  simp [ofWrites, List.filterMap_map, Function.comp_def]

@[simp] lemma filterMap_ofLog (log : List Event) : (ofLog log).filterMap write? = [] := by
  simp [ofLog, List.filterMap_map, Function.comp_def]

@[simp] lemma filterMap_notes (ns : List Notice) : (ns.map note).filterMap write? = [] := by
  simp [List.filterMap_map, Function.comp_def]

end Effect

namespace Plan

variable {μ : Type} (v : View μ) (es : List Effect) (d : Decision)

@[simp] lemma writes_decide : (decide v es d).writes = es.filterMap Effect.write? := rfl

variable (b : Builtin) (call : Call) (reason : String)

@[simp] lemma writes_malformed : (malformed v b call reason d).writes = [] := rfl

end Plan

/-- A plan that writes no other keys than these and leaves the quests as they are. -/
structure Plan.Within {μ : Type} (p : Plan μ) (v : View μ) (keys : List String) : Prop where
  quests : p.quests = v.quests
  writes : ∀ w ∈ p.writes, w.1 ∈ keys

def Player.keys : List String :=
  [rank.key, phase.key, motivation.key, karma.key, contribution.key, joinedGuild.key,
    tutorialDone.key, metRival.key, knowsSecret.key, rivalFate.key, alliance.key, mentorChoice.key]

def Session.keys : List String :=
  [questFound.key, jumpTarget.key, autoDialogNpc.key, arenaResult.key]

def EngineKeys.summaryKeys (keys : EngineKeys) : List String :=
  [keys.availableCount, keys.hasRankUp, keys.hasCharacterEvent, keys.hasSubQuest,
    keys.topQuestDigest]

namespace Builtin

/-- The keys that a command may write. -/
def footprint (keys : EngineKeys) (args : List String) : Builtin → List String
  | ifFlag | switchFlag | canRejoin => []
  | debugPlayerState | debugQuestState | debugSessionState => []
  | setFlag | addFlag | checkQuestsForDispatch => args.head?.toList
  | addKarma => [Player.karma.key]
  | addContribution => [Player.contribution.key]
  | setRank => [Player.rank.key]
  | setPhase => [Player.phase.key]
  | setAutoDialogNpc => [Session.autoDialogNpc.key]
  | setArenaResult => [Session.arenaResult.key]
  | clearSession => Session.keys
  | checkQuestAvailable => [Session.questFound.key, Session.jumpTarget.key]
  | checkAvailableQuests => keys.summaryKeys
  | startQuest => args.head?.toList.map keys.quests.activeKey
  | completeQuest =>
    args.head?.toList.flatMap fun id => [keys.quests.doneKey id, keys.quests.activeKey id]

end Builtin

variable {μ : Type}

/-! ### Branches and dumps -/

lemma Branches.ifFlag_within (v : View μ) (call : Call) : (ifFlag v call).Within v [] := by
  rw [ifFlag]
  split
  · split <;> exact ⟨rfl, by simp⟩
  · exact ⟨rfl, by simp⟩

lemma Branches.switchFlag_within (v : View μ) (call : Call) :
    (switchFlag v call).Within v [] := by
  rw [switchFlag]
  split
  · exact ⟨rfl, by simp⟩
  · split
    · exact ⟨rfl, by simp⟩
    · dsimp only
      split <;> exact ⟨rfl, by simp⟩

lemma Branches.canRejoin_within (v : View μ) (call : Call) : (canRejoin v call).Within v [] := by
  rw [canRejoin]
  split <;> exact ⟨rfl, by simp⟩

lemma Dumps.within (v : View μ) (n : Notice) : (Plan.decide v [.note n]).Within v [] :=
  ⟨rfl, by simp⟩

/-! ### Writes -/

namespace Writes

lemma setFlag_within (v : View μ) (call : Call) :
    (setFlag v call).Within v call.args.head?.toList := by
  rw [setFlag]
  split
  · split
    · exact ⟨rfl, by simp⟩
    · exact ⟨rfl, by simp_all⟩
  · exact ⟨rfl, by simp⟩

lemma addFlag_within (v : View μ) (call : Call) :
    (addFlag v call).Within v call.args.head?.toList := by
  rw [addFlag]
  split
  · split
    · exact ⟨rfl, by simp⟩
    · exact ⟨rfl, by simp_all⟩
  · exact ⟨rfl, by simp⟩

lemma increase_within (b : Builtin) (f : Field Int32) (notice : Int32 → Int32 → Notice)
    (v : View μ) (call : Call) : (increase b f notice v call).Within v [f.key] := by
  rw [increase]
  split
  · exact ⟨rfl, by simp⟩
  · exact ⟨rfl, by simp [Field.increase, Field.write]⟩

lemma setField_within {α : Type} (b : Builtin) (f : Field α) (value? : String → Option α)
    (reason : String) (notices : α → List Notice) (v : View μ) (call : Call) :
    (setField b f value? reason notices v call).Within v [f.key] := by
  rw [setField]
  split
  · exact ⟨rfl, by simp⟩
  · exact ⟨rfl, by simp [Field.write]⟩

lemma clearSession_within (v : View μ) (call : Call) :
    (clearSession v call).Within v Session.keys :=
  ⟨rfl, by simp [clearSession, Session.cleared, Session.keys, Field.write]⟩

end Writes

/-! ### Offers -/

namespace Offers

variable [QuestManager μ]

lemma checkQuestAvailable_within (v : View μ) (call : Call) :
    (checkQuestAvailable v call).Within v [Session.questFound.key, Session.jumpTarget.key] := by
  rw [checkQuestAvailable]
  split
  · exact ⟨rfl, by simp⟩
  · dsimp only
    -- the notice about an unknown label writes nothing
    split_ifs <;> exact ⟨rfl, by simp [List.filterMap_cons, Field.write]⟩

lemma keys_summary (keys : EngineKeys) (quests : List QuestInfo) :
    (summary keys quests).map Prod.fst = keys.summaryKeys := rfl

lemma checkAvailableQuests_within (v : View μ) (call : Call) :
    (checkAvailableQuests v call).Within v v.keys.summaryKeys := by
  refine ⟨rfl, fun w hw => ?_⟩
  rw [checkAvailableQuests, Plan.writes_decide, List.filterMap_append,
    Effect.filterMap_ofWrites] at hw
  rw [← keys_summary]
  exact List.mem_map_of_mem (by simpa using hw)

lemma checkQuestsForDispatch_within (v : View μ) (call : Call) :
    (checkQuestsForDispatch v call).Within v call.args.head?.toList := by
  rw [checkQuestsForDispatch]
  split
  · exact ⟨rfl, by simp⟩
  · exact ⟨rfl, by simp_all⟩

end Offers

/-! ### Transitions -/

namespace Transitions

/-- The id of a transition is the first argument, and looking for it writes nothing. -/
lemma questId?_eq (b : Builtin) (args : List String) :
    (questId? b args).1.filterMap Effect.write? = [] ∧
      (questId? b args).2 = if args = [""] then none else args.head? := by
  rw [questId?.eq_def]
  split
  · exact ⟨rfl, rfl⟩
  · split_ifs <;> simp_all
  · simp_all

end Transitions

namespace Builtin

variable [QuestManager μ]

/-- A command other than the transitions writes within its footprint and leaves the quests. -/
theorem plan_within {b : Builtin} (hs : b ≠ startQuest) (hc : b ≠ completeQuest) (v : View μ)
    (call : Call) : (b.plan v call).Within v (b.footprint v.keys call.args) := by
  cases b with
  | ifFlag => exact Branches.ifFlag_within v call
  | switchFlag => exact Branches.switchFlag_within v call
  | canRejoin => exact Branches.canRejoin_within v call
  | setFlag => exact Writes.setFlag_within v call
  | addFlag => exact Writes.addFlag_within v call
  | addKarma | addContribution => exact Writes.increase_within _ _ _ v call
  | setRank | setPhase | setAutoDialogNpc | setArenaResult =>
    exact Writes.setField_within _ _ _ _ _ v call
  | clearSession => exact Writes.clearSession_within v call
  | checkQuestAvailable => exact Offers.checkQuestAvailable_within v call
  | checkAvailableQuests => exact Offers.checkAvailableQuests_within v call
  | checkQuestsForDispatch => exact Offers.checkQuestsForDispatch_within v call
  | debugPlayerState | debugQuestState | debugSessionState => exact Dumps.within v _
  | startQuest => exact absurd rfl hs
  | completeQuest => exact absurd rfl hc

end Builtin

end Questline
