import Questline.Proofs.Dispatch.Footprint

/-!
The keys of quest bits among all keys. If neither stem begins the other, no done key is an active
key, whatever the ids; and if no other key of the engine begins with a stem, the commands reach
quest bits by the two transitions only.
-/

namespace Questline

namespace QuestKeys

/-- Neither stem begins the other. -/
def Apart (keys : QuestKeys) : Prop :=
  ¬ keys.doneStem.toList <+: keys.activeStem.toList ∧
    ¬ keys.activeStem.toList <+: keys.doneStem.toList

/-- A key begins with one of the stems. -/
def Owns (keys : QuestKeys) (key : String) : Prop :=
  keys.doneStem.toList <+: key.toList ∨ keys.activeStem.toList <+: key.toList

instance (keys : QuestKeys) : Decidable keys.Apart := inferInstanceAs (Decidable (_ ∧ _))

instance (keys : QuestKeys) (key : String) : Decidable (keys.Owns key) :=
  inferInstanceAs (Decidable (_ ∨ _))

lemma prefix_iff_append {stem key : String} :
    stem.toList <+: key.toList ↔ ∃ rest, key = stem ++ rest := by
  constructor
  · rintro ⟨cs, h⟩
    refine ⟨String.ofList cs, String.toList_inj.1 ?_⟩
    rw [String.toList_append, String.toList_ofList, h]
  · rintro ⟨rest, rfl⟩
    rw [String.toList_append]
    exact List.prefix_append _ _

variable {keys : QuestKeys}

/-- The keys that begin with a stem are the keys of quest bits. -/
lemma owns_iff {key : String} :
    keys.Owns key ↔ ∃ id, key = keys.doneKey id ∨ key = keys.activeKey id := by
  simp only [Owns, prefix_iff_append, ← exists_or]
  rfl

lemma owns_doneKey (id : String) : keys.Owns (keys.doneKey id) := owns_iff.2 ⟨id, .inl rfl⟩

lemma owns_activeKey (id : String) : keys.Owns (keys.activeKey id) := owns_iff.2 ⟨id, .inr rfl⟩

@[simp] lemma write_active (keys : QuestKeys) (id : String) :
    (keys.active id).write true = (keys.activeKey id, 1) := rfl

@[simp] lemma completed_eq (keys : QuestKeys) (id : String) :
    keys.completed id = [(keys.doneKey id, 1), (keys.activeKey id, 0)] := rfl

lemma doneKey_inj {a b : String} : keys.doneKey a = keys.doneKey b ↔ a = b :=
  String.append_right_inj _

lemma activeKey_inj {a b : String} : keys.activeKey a = keys.activeKey b ↔ a = b :=
  String.append_right_inj _

lemma doneKey_ne_activeKey_self (h : keys.doneStem ≠ keys.activeStem) (id : String) :
    keys.doneKey id ≠ keys.activeKey id :=
  fun heq => h ((String.append_left_inj id).1 heq)

lemma Apart.stems_ne (h : keys.Apart) : keys.doneStem ≠ keys.activeStem :=
  fun heq => h.1 (heq ▸ List.prefix_rfl)

lemma Apart.doneKey_ne_activeKey (h : keys.Apart) (a b : String) :
    keys.doneKey a ≠ keys.activeKey b := by
  intro heq
  have hd : keys.doneStem.toList <+: (keys.activeKey b).toList :=
    prefix_iff_append.2 ⟨a, heq.symm⟩
  have ha : keys.activeStem.toList <+: (keys.activeKey b).toList := prefix_iff_append.2 ⟨b, rfl⟩
  rcases List.prefix_or_prefix_of_prefix hd ha with hp | hp
  · exact h.1 hp
  · exact h.2 hp

def bits (keys : QuestKeys) (id : String) : List String := [keys.doneKey id, keys.activeKey id]

/-- Different quests have no key in common. -/
lemma Apart.notMem_bits (hk : keys.Apart) {a b : String} (hab : a ≠ b)
    {key : String} (h : key ∈ keys.bits a) : key ∉ keys.bits b := by
  simp only [bits, List.mem_cons, List.not_mem_nil, or_false] at h ⊢
  rcases h with rfl | rfl
  · rw [doneKey_inj, not_or]
    exact ⟨hab, hk.doneKey_ne_activeKey a b⟩
  · rw [activeKey_inj, not_or]
    exact ⟨(hk.doneKey_ne_activeKey b a).symm, hab⟩

/-- Different stems of which one begins the other give two quests a key in common. -/
lemma exists_activeKey_eq_doneKey (hne : keys.doneStem ≠ keys.activeStem) (h : ¬ keys.Apart) :
    ∃ a b, a ≠ b ∧ a ≠ "" ∧ keys.activeKey a = keys.doneKey b := by
  rw [Apart, ← not_or, Classical.not_not] at h
  rcases h with h | h
  · -- the active stem is the done stem and some more, which goes to the other id
    obtain ⟨rest, hrest⟩ := prefix_iff_append.1 h
    refine ⟨"a", rest ++ "a", fun hab => hne ?_, by decide, ?_⟩
    · have : rest = "" := by simpa using hab.symm
      rw [hrest, this, String.append_empty]
    · rw [activeKey, doneKey, hrest, String.append_assoc]
  · obtain ⟨rest, hrest⟩ := prefix_iff_append.1 h
    refine ⟨rest ++ "a", "a", fun hab => hne ?_, ?_, ?_⟩
    · have : rest = "" := by simpa using hab
      rw [hrest, this, String.append_empty]
    · simp
    · rw [activeKey, doneKey, hrest, String.append_assoc]

end QuestKeys

/-- The keys of quest bits are kept apart from each other and from all other keys of the engine. -/
structure EngineKeys.Separated (keys : EngineKeys) : Prop where
  apart : keys.quests.Apart
  others : ∀ key ∈ Player.keys ++ Session.keys ++ keys.summaryKeys, ¬ keys.quests.Owns key

instance (keys : EngineKeys) : Decidable keys.Separated :=
  decidable_of_iff (keys.quests.Apart ∧
      ∀ key ∈ Player.keys ++ Session.keys ++ keys.summaryKeys, ¬ keys.quests.Owns key)
    ⟨fun h => ⟨h.1, h.2⟩, fun h => ⟨h.apart, h.others⟩⟩

example : ({} : EngineKeys).Separated := by decide

/-- The commands that write a flag of the caller's choice. -/
def Builtin.choosers : List Builtin := [.setFlag, .addFlag, .checkQuestsForDispatch]

/-- An invocation by name whose chosen flag, if it has one, is no quest bit. -/
def SparesQuestBits (keys : QuestKeys) (name : String) (call : Call) : Prop :=
  name ∈ Builtin.choosers.map Builtin.name → ∀ key ∈ call.args.head?, ¬ keys.Owns key

instance (keys : QuestKeys) (name : String) (call : Call) :
    Decidable (SparesQuestBits keys name call) := inferInstanceAs (Decidable (_ → _))

namespace Builtin

lemma footprint_subset {b : Builtin} (hs : b ≠ startQuest) (hc : b ≠ completeQuest)
    (hb : b ∉ choosers) (keys : EngineKeys) (args : List String) :
    b.footprint keys args ⊆ Player.keys ++ Session.keys ++ keys.summaryKeys := by
  cases b with
  | ifFlag | switchFlag | canRejoin => exact List.nil_subset _
  | debugPlayerState | debugQuestState | debugSessionState => exact List.nil_subset _
  | setFlag | addFlag | checkQuestsForDispatch => exact absurd (by decide) hb
  | startQuest => exact absurd rfl hs
  | completeQuest => exact absurd rfl hc
  | checkAvailableQuests => exact List.subset_append_right _ _
  | addKarma | addContribution | setRank | setPhase | setAutoDialogNpc | setArenaResult
  | clearSession | checkQuestAvailable =>
    refine fun key hkey => List.mem_append_left _ ?_
    revert key
    simp only [footprint]
    decide

/-- Apart from the two transitions, no command that spares quest bits may write one. -/
lemma not_owns_of_mem_footprint {keys : EngineKeys} (hk : keys.Separated) {b : Builtin}
    {call : Call} (hs : b ≠ startQuest) (hc : b ≠ completeQuest)
    (h : SparesQuestBits keys.quests b.name call) :
    ∀ key ∈ b.footprint keys call.args, ¬ keys.quests.Owns key := by
  intro key hkey
  by_cases hb : b ∈ choosers
  · have hmem : b.footprint keys call.args = call.args.head?.toList := by
      revert hb
      cases b <;> simp [choosers, footprint]
    rw [hmem, Option.mem_toList] at hkey
    exact h (List.mem_map_of_mem hb) key hkey
  · exact hk.others key (footprint_subset hs hc hb keys call.args hkey)

end Builtin

end Questline
