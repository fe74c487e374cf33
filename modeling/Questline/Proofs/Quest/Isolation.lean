import Questline.Proofs.Config
import Questline.Proofs.Quest.Record

/-!
Whether the quests of an engine are isolated: a transition of one quest, or a summary of the offers,
leaves the bits of every other quest alone. The check of a configuration refuses equal stems, but
accepts a stem that begins the other and a summary key that is a quest bit, and those break it.
-/

namespace Questline

/-! ### Accepted configurations -/

namespace EngineConfig

/-- A configuration that is read from a text or from a file. -/
def Accepted (config : EngineConfig) : Prop :=
  (∃ path text, ofText path text = .ok config) ∨
    ∃ files path, (load files path).val = .ok config

lemma Accepted.stems_ne {config : EngineConfig} (h : config.Accepted) :
    config.keys.quests.doneStem ≠ config.keys.quests.activeStem := by
  rcases h with ⟨path, text, h⟩ | ⟨files, path, h⟩
  · exact (ofText_eq_ok_iff.1 h).2.stems_ne
  · exact (load_eq_ok_iff.1 h).valid.stems_ne

end EngineConfig

/-! ### Isolated quests -/

namespace Engine

variable {σ : Type} [FlagStore σ]

def KeepsBits (e : Engine σ QuestCatalog) (name : String) (call : Call) (id : String) : Prop :=
  let after := (e.invoke name call).val.2
  after.context.ledger.isCompleted id = e.context.ledger.isCompleted id ∧
    after.context.ledger.isActive id = e.context.ledger.isActive id

lemma keepsBits_name_iff (ctx : Context σ QuestCatalog) (b : Builtin) {call : Call} {id : String} :
    (ofContext ctx).val.KeepsBits b.name call id ↔
      (ctx.after b call).ledger.isCompleted id = ctx.ledger.isCompleted id ∧
        (ctx.after b call).ledger.isActive id = ctx.ledger.isActive id := by
  rw [KeepsBits, val_invoke_name]
  rfl

lemma keepsBits_of_record {ctx : Context σ QuestCatalog} {b : Builtin} {call : Call} {id : String}
    (h : (ctx.after b call).record id = ctx.record id) :
    (ofContext ctx).val.KeepsBits b.name call id :=
  (keepsBits_name_iff ctx b).2 ⟨congrArg QuestRecord.done h, congrArg QuestRecord.active h⟩

end Engine

namespace EngineKeys

/-- Over flags in memory and any catalog, no transition of a quest and no summary of offers changes
a bit of another quest. -/
structure Isolating (keys : EngineKeys) : Prop where
  start (flags : MemoryFlags) (quests : QuestCatalog) (call : Call) {a b : String} :
    call.args.head? = some a → a ≠ b →
      (Engine.ofContext ⟨flags, quests, keys⟩).val.KeepsBits "start_quest" call b
  complete (flags : MemoryFlags) (quests : QuestCatalog) (call : Call) {a b : String} :
    call.args.head? = some a → a ≠ b →
      (Engine.ofContext ⟨flags, quests, keys⟩).val.KeepsBits "complete_quest" call b
  offers (flags : MemoryFlags) (quests : QuestCatalog) (call : Call) (b : String) :
    (Engine.ofContext ⟨flags, quests, keys⟩).val.KeepsBits "check_available_quests" call b

variable {keys : EngineKeys}

/-- Stems that are apart, and summary keys that are no quest bits, isolate quests. -/
lemma isolating_of_apart (hapart : keys.quests.Apart)
    (hsummary : ∀ key ∈ keys.summaryKeys, ¬ keys.quests.Owns key) : keys.Isolating where
  start flags quests call a b ha hab :=
    Engine.keepsBits_of_record (b := .startQuest)
      (Context.record_transition_of_ne hapart (.inl rfl) ha hab)
  complete flags quests call a b ha hab :=
    Engine.keepsBits_of_record (b := .completeQuest)
      (Context.record_transition_of_ne hapart (.inr rfl) ha hab)
  offers flags quests call b := by
    let ctx : Context MemoryFlags QuestCatalog := ⟨flags, quests, keys⟩
    have hfoot : ∀ key ∈ Builtin.footprint ctx.keys call.args .checkAvailableQuests,
        ¬ ctx.keys.quests.Owns key := hsummary
    have hrecord : (ctx.after .checkAvailableQuests call).record b = ctx.record b :=
      Context.record_after_of_footprint (by decide) (by decide) hfoot b
    exact Engine.keepsBits_of_record (b := .checkAvailableQuests) hrecord

/-- If a stem begins the other, a start sets the done bit of another quest. -/
lemma apart_of_isolating (hne : keys.quests.doneStem ≠ keys.quests.activeStem)
    (h : keys.Isolating) : keys.quests.Apart := by
  refine Decidable.byContradiction fun hnot => ?_
  obtain ⟨a, b, hab, hnempty, heq⟩ := QuestKeys.exists_activeKey_eq_doneKey hne hnot
  let ctx : Context MemoryFlags QuestCatalog := ⟨{}, .single a, keys⟩
  have hq : ctx.quests.Startable ctx.ledger a := ⟨QuestCatalog.contains_single a, rfl, rfl⟩
  have hstart := Engine.invoke_start_accepted ctx { args := [a] } rfl (by simpa using hnempty) hq
  have hkeep := (h.start {} (.single a) { args := [a] } rfl hab).1
  rw [hstart] at hkeep
  have hset : FlagStore.get (FlagStore.set ctx.flags (keys.quests.activeKey a) 1).val
      (keys.quests.doneKey b) 0 = 1 := by
    rw [← heq]
    exact FlagStore.get_set_of_keeps rfl 0
  have hbefore : ctx.ledger.isCompleted b = false := rfl
  exact Bool.false_ne_true ((hkeep.trans hbefore).symm.trans (beq_iff_eq.2 hset))

lemma eq_zero_of_mem_summary : ∀ w ∈ Offers.summary keys [], w.2 = 0 := by
  simp only [Offers.summary, List.forall_mem_cons, List.not_mem_nil, false_implies, implies_true,
    and_true]
  exact ⟨by decide, rfl, rfl, rfl, rfl⟩

/-- If a summary key is a quest bit, a summary of no offers clears the bit. -/
lemma not_owns_of_isolating (h : keys.Isolating) {key : String} (hkey : key ∈ keys.summaryKeys) :
    ¬ keys.quests.Owns key := by
  intro howns
  let flags : MemoryFlags := (FlagStore.set ({} : MemoryFlags) key 1).val
  let ctx : Context MemoryFlags QuestCatalog := ⟨flags, .empty, keys⟩
  have hbefore : FlagStore.get flags key 0 = 1 := FlagStore.get_set_of_keeps rfl 0
  have hafter : FlagStore.get (ctx.after .checkAvailableQuests {}).flags key 0 = 0 := by
    have hset : FlagStore.get (ctx.after .checkAvailableQuests {}).flags =
        FlagReader.writeAll (FlagStore.get flags) (Offers.summary keys []) :=
      MemoryFlags.get_setAll _ _
    rw [hset]
    exact FlagReader.writeAll_of_forall_eq _ eq_zero_of_mem_summary hkey 0
  have hflip : (FlagStore.get (ctx.after .checkAvailableQuests {}).flags key 0 == 1) ≠
      (FlagStore.get flags key 0 == 1) := by
    rw [hafter, hbefore]
    decide
  obtain ⟨id, hid⟩ := QuestKeys.owns_iff.1 howns
  have hkeep := (Engine.keepsBits_name_iff ctx .checkAvailableQuests).1
    (h.offers flags .empty {} id)
  rcases hid with rfl | rfl
  · exact hflip hkeep.1
  · exact hflip hkeep.2

end EngineKeys

namespace EngineConfig

/-- **Which accepted configurations isolate quests**: those in which neither stem begins the other
and no summary key begins with a stem. -/
theorem isolating_iff_of_accepted {config : EngineConfig} (h : config.Accepted) :
    config.keys.Isolating ↔ config.keys.quests.Apart ∧
      ∀ key ∈ config.keys.summaryKeys, ¬ config.keys.quests.Owns key :=
  ⟨fun hi => ⟨EngineKeys.apart_of_isolating h.stems_ne hi,
      fun _ hkey => EngineKeys.not_owns_of_isolating hi hkey⟩,
    fun hk => EngineKeys.isolating_of_apart hk.1 hk.2⟩

/-- The configuration of an empty text isolates quests. -/
theorem isolating_iff_of_accepted_default :
    ofText "<inline>" "" = .ok {} ∧ ({} : EngineConfig).keys.Isolating := by
  have htext : ofText "<inline>" "" = .ok {} := rfl
  have haccepted : ({} : EngineConfig).Accepted := .inl ⟨_, _, htext⟩
  exact ⟨htext, (isolating_iff_of_accepted haccepted).2 ⟨by decide, by decide⟩⟩

/-- An accepted configuration in which completing the quest a_b makes the quest b active. -/
theorem not_isolating_overlapping :
    let config : EngineConfig := { keys := { quests := ⟨"q_", "q_a_"⟩ } }
    config.Accepted ∧ ¬ config.keys.Isolating := by
  intro config
  constructor
  · have htext : (ofText "<inline>"
        "[keys]\nquest_done_prefix = \"q_\"\nquest_active_prefix = \"q_a_\"\n").toOption =
        some config := by decide +kernel
    exact .inl ⟨_, _, eq_ok_of_toOption htext⟩
  · intro h
    let quests : QuestCatalog := .insertAll .empty [
      { id := "a_b", name := "a_b", type := .subQuest, priority := 0 },
      { id := "b", name := "b", type := .subQuest, priority := 0 }]
    have hkeep := h.complete {} quests { args := ["a_b"] } (b := "b") rfl (by decide)
    exact absurd hkeep.2 (by decide +kernel)

end EngineConfig

end Questline
