import Mathlib.Data.List.Nodup
import Mathlib.Logic.Function.Basic
import Questline.Proofs.Flags.Fields
import Questline.Proofs.Quest.Keys

/-!
The facets of a story: the fields of the player, the slots of the session, and the two bits of each
quest. They share one space of keys and have no key in common, so that to write a facet is to update
one entry of a record, whatever integers are stored.
-/

namespace Questline

/-- The keys of quest bits are kept apart from each other, and from those of the player and the
session. -/
structure QuestKeys.Clear (keys : QuestKeys) : Prop where
  apart : keys.Apart
  fixed : ∀ key ∈ Player.keys ++ Session.keys, ¬ keys.Owns key

/-- What a story keeps under a flag of its own. -/
inductive Facet where
  | rank | phase | motivation | karma | contribution
  | joinedGuild | tutorialDone | metRival | knowsSecret
  | rivalFate | alliance | mentorChoice
  | questFound | jumpTarget | autoDialogNpc | arenaResult
  | done (id : String)
  | active (id : String)
deriving DecidableEq

namespace Facet

@[reducible]
def Value : Facet → Type
  | rank => Rank
  | phase => StoryPhase
  | motivation => Motivation
  | karma | contribution | autoDialogNpc => Int32
  | joinedGuild | tutorialDone | metRival | knowsSecret | questFound => Bool
  | rivalFate => RivalFate
  | alliance => Alliance
  | mentorChoice => MentorChoice
  | jumpTarget => JumpLabel
  | arenaResult => ArenaResult
  | done _ | active _ => Bool

def field (keys : QuestKeys) : (f : Facet) → Field f.Value
  | rank => Player.rank
  | phase => Player.phase
  | motivation => Player.motivation
  | karma => Player.karma
  | contribution => Player.contribution
  | joinedGuild => Player.joinedGuild
  | tutorialDone => Player.tutorialDone
  | metRival => Player.metRival
  | knowsSecret => Player.knowsSecret
  | rivalFate => Player.rivalFate
  | alliance => Player.alliance
  | mentorChoice => Player.mentorChoice
  | questFound => Session.questFound
  | jumpTarget => Session.jumpTarget
  | autoDialogNpc => Session.autoDialogNpc
  | arenaResult => Session.arenaResult
  | done id => keys.done id
  | active id => keys.active id

/-- The value that a facet keeps of the one it is set to: the karma and the contribution keep the
nearest one within their bounds, all others the value itself. -/
def legal : (f : Facet) → f.Value → f.Value
  | karma, v => Int32.ofInt (nearest (-100) 100 (v : Int32).toInt)
  | contribution, v => Int32.ofInt (nearest 0 1000 (v : Int32).toInt)
  | _, v => v

variable {keys : QuestKeys}

/-! ### Values -/

lemma decode_encode (f : Facet) (v : f.Value) :
    (f.field keys).decode ((f.field keys).encode v) = f.legal v := by
  cases f with
  | rank | phase | motivation | rivalFate | alliance | mentorChoice | jumpTarget | arenaResult =>
    exact Field.decode_encode_coded _ v
  | karma | contribution => exact Field.decode_encode_bounded (by decide) _ v
  | joinedGuild | tutorialDone | metRival | knowsSecret | questFound | done _ | active _ =>
    exact Field.decode_encode_bool _ v
  | autoDialogNpc => rfl

lemma legal_decode (f : Facet) (v : Int32) :
    f.legal ((f.field keys).decode v) = (f.field keys).decode v := by
  cases f with
  | karma | contribution => exact Field.nearest_decode_bounded (by decide) _ v
  | _ => rfl

/-! ### Keys -/

def fixed : List Facet :=
  [rank, phase, motivation, karma, contribution, joinedGuild, tutorialDone, metRival, knowsSecret,
    rivalFate, alliance, mentorChoice, questFound, jumpTarget, autoDialogNpc, arenaResult]

lemma fixed_or_bit (f : Facet) : f ∈ fixed ∨ (∃ id, f = done id) ∨ ∃ id, f = active id := by
  cases f with
  | done id => exact .inr (.inl ⟨id, rfl⟩)
  | active id => exact .inr (.inr ⟨id, rfl⟩)
  | _ => exact .inl (by decide)

lemma keys_fixed (keys : QuestKeys) :
    (fixed.map fun f => (f.field keys).key) = Player.keys ++ Session.keys := rfl

lemma nodup_keys_fixed (keys : QuestKeys) : (fixed.map fun f => (f.field keys).key).Nodup := by
  rw [keys_fixed]
  decide

/-- No other facet has a key like that of a quest bit. -/
lemma not_owns_of_mem_fixed (hk : keys.Clear) {f : Facet} (h : f ∈ fixed) :
    ¬ keys.Owns (f.field keys).key := by
  refine hk.fixed _ ?_
  rw [← keys_fixed keys]
  exact List.mem_map_of_mem h

/-- **Facets have no key in common**, the bits of different quests included. -/
theorem key_injective (hk : keys.Clear) {f g : Facet}
    (h : (f.field keys).key = (g.field keys).key) : f = g := by
  rcases fixed_or_bit f with hf | ⟨a, rfl⟩ | ⟨a, rfl⟩ <;>
    rcases fixed_or_bit g with hg | ⟨b, rfl⟩ | ⟨b, rfl⟩
  · exact List.inj_on_of_nodup_map (nodup_keys_fixed keys) hf hg h
  · exact absurd (h ▸ QuestKeys.owns_doneKey b) (not_owns_of_mem_fixed hk hf)
  · exact absurd (h ▸ QuestKeys.owns_activeKey b) (not_owns_of_mem_fixed hk hf)
  · exact absurd (h ▸ QuestKeys.owns_doneKey a) (not_owns_of_mem_fixed hk hg)
  · exact congrArg done (QuestKeys.doneKey_inj.1 h)
  · exact absurd h (hk.apart.doneKey_ne_activeKey a b)
  · exact absurd (h ▸ QuestKeys.owns_activeKey a) (not_owns_of_mem_fixed hk hg)
  · exact absurd h.symm (hk.apart.doneKey_ne_activeKey b a)
  · exact congrArg active (QuestKeys.activeKey_inj.1 h)

end Facet

/-! ### The record -/

def MemoryFlags.story (s : MemoryFlags) (keys : QuestKeys) (f : Facet) : f.Value :=
  (f.field keys).get s

namespace MemoryFlags

variable {keys : QuestKeys} (s : MemoryFlags)

lemma story_set (hk : keys.Clear) (f : Facet) (v : f.Value) :
    ((f.field keys).set s v).val.story keys =
      Function.update (s.story keys) f (f.legal v) := by
  funext g
  rw [story, Field.get, Field.get_set]
  by_cases h : g = f
  · subst h
    rw [Function.update_self, Field.read_write, Facet.decode_encode]
  · have hkey : (g.field keys).key ≠ (f.field keys).key := mt (Facet.key_injective hk) h
    rw [Function.update_of_ne h, Field.read_write_of_ne _ _ hkey]
    rfl

/-- To write back what a facet reads changes nothing in the record. -/
lemma story_set_self (hk : keys.Clear) (f : Facet) :
    ((f.field keys).set s (s.story keys f)).val.story keys =
      s.story keys := by
  rw [story_set s hk, story, Field.get, Field.read, Facet.legal_decode]
  exact Function.update_eq_self f _

lemma story_completed (hk : keys.Clear) (id : String) :
    (FlagStore.setAll s (keys.completed id)).val.story keys =
      Function.update (Function.update (s.story keys) (.done id) true) (.active id) false := by
  have hdone : ((keys.done id).set s true).val.story keys =
      Function.update (s.story keys) (.done id) true := story_set s hk (.done id) true
  have hactive : (FlagStore.setAll s (keys.completed id)).val.story keys =
      Function.update (((keys.done id).set s true).val.story keys) (.active id) false :=
    story_set _ hk (.active id) false
  rw [hactive, hdone]

/-- **Facets are independent**: whatever integers are stored, legal or not, under the default stems
a facet that is set reads back as the value it keeps, and all others read as before; so do all
facets when one is given back what it reads. To complete a quest sets its done bit and clears its
active bit, and does nothing else; if the two read so before, it changes no reading at all. -/
theorem facets_independent (s : MemoryFlags) :
    let keys : QuestKeys := {}
    (∀ (f : Facet) (v : f.Value),
      let after := ((f.field keys).set s v).val
      after.story keys f = f.legal v ∧ ∀ g ≠ f, after.story keys g = s.story keys g) ∧
    (∀ f : Facet, ((f.field keys).set s (s.story keys f)).val.story keys = s.story keys) ∧
    ∀ id,
      let after := (FlagStore.setAll s (keys.completed id)).val
      (after.story keys (.done id) = true ∧ after.story keys (.active id) = false) ∧
      (∀ g, g ≠ .done id → g ≠ .active id → after.story keys g = s.story keys g) ∧
      (s.story keys (.done id) = true → s.story keys (.active id) = false →
        after.story keys = s.story keys) := by
  intro keys
  have hk : keys.Clear := ⟨by decide, by decide⟩
  refine ⟨fun f v => ?_, s.story_set_self hk, fun id => ?_⟩
  · have hset := s.story_set hk f v
    refine ⟨?_, fun g hg => ?_⟩
    · exact (congrFun hset f).trans (Function.update_self f _ _)
    · exact (congrFun hset g).trans (Function.update_of_ne hg _ _)
  · have hcompleted := s.story_completed hk id
    have hne : Facet.done id ≠ Facet.active id := nofun
    refine ⟨⟨?_, ?_⟩, fun g hdone hactive => ?_, fun hdone hactive => ?_⟩
    · refine (congrFun hcompleted (.done id)).trans ?_
      rw [Function.update_of_ne hne, Function.update_self]
    · exact (congrFun hcompleted (.active id)).trans (Function.update_self _ _ _)
    · refine (congrFun hcompleted g).trans ?_
      rw [Function.update_of_ne hactive, Function.update_of_ne hdone]
    · have hdone' : Function.update (s.story keys) (.done id) true = s.story keys :=
        Function.update_eq_self_iff.2 hdone.symm
      have hactive' : Function.update (s.story keys) (.active id) false = s.story keys :=
        Function.update_eq_self_iff.2 hactive.symm
      refine hcompleted.trans ?_
      rw [hdone', hactive']

/-- Of an illegal rank and a karma out of bounds, to set the karma leaves the rank to read as the
lowest, and to write that back leaves the karma to read as 100. A quest whose done bit is 7 is not
done, and to complete the quest of another id leaves it so. -/
theorem facets_independent_illegal :
    let s : MemoryFlags := .ofList [("player_rank", 99), ("player_karma", 500),
      ("quest_done_a", 7), ("quest_active_b", 1)]
    let keys : QuestKeys := {}
    Player.karma.get (Player.karma.set s (-500)).val = -100 ∧
      Player.rank.get (Player.karma.set s (-500)).val = .g ∧
      Player.karma.get (Player.rank.set s (Player.rank.get s)).val = 100 ∧
      (keys.active "b").get (FlagStore.setAll s (keys.completed "b")).val = false ∧
      (keys.done "a").get (FlagStore.setAll s (keys.completed "b")).val = false := by
  intro s keys
  obtain ⟨hset, hself, hcompleted⟩ := facets_independent s
  obtain ⟨hkarma, hrank⟩ := hset .karma (-500 : Int32)
  obtain ⟨⟨-, hactive⟩, hothers, -⟩ := hcompleted "b"
  exact ⟨hkarma.trans (by decide), (hrank .rank (by decide)).trans (by decide +kernel),
    (congrFun (hself .rank) .karma).trans (by decide +kernel), hactive,
    (hothers (.done "a") (by decide) (by decide)).trans (by decide +kernel)⟩

end MemoryFlags

end Questline
