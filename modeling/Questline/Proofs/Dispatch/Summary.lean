import Mathlib.Data.List.Induction
import Questline.Proofs.Dispatch.Footprint
import Questline.Proofs.Dispatch.Invocation
import Questline.Proofs.Flags.Frame
import Questline.Proofs.Quest.Table

/-!
The summary of available quests says exactly what was on offer before it was written: how many
quests, whether there is one of each type, and the digest of the top one. The top quest is the first
of those whose priority no other exceeds. The five writes are planned from one look at the flags, so
they do not disturb each other even where a requirement reads one of their keys.
-/

namespace Questline

/-! ### Splits of a list -/

/-- A list splits in one way at items that do not stand before each other. -/
lemma split_unique {α : Type} {xs xs' ys ys' : List α} {x x' : α}
    (h : xs ++ x :: ys = xs' ++ x' :: ys') (hx : x ∉ xs') (hx' : x' ∉ xs) : xs = xs' ∧ x = x' := by
  rcases List.append_eq_append_iff.1 h with ⟨zs, rfl, hzs⟩ | ⟨zs, rfl, hzs⟩
  · cases zs with
    | nil => exact ⟨(List.append_nil _).symm, (List.cons.inj hzs).1⟩
    | cons z zs =>
      obtain ⟨rfl, -⟩ := List.cons.inj hzs
      simp at hx
  · cases zs with
    | nil => exact ⟨List.append_nil _, (List.cons.inj hzs).1.symm⟩
    | cons z zs =>
      obtain ⟨rfl, -⟩ := List.cons.inj hzs
      simp at hx'

/-! ### The first of the greatest -/

/-- An item of a list whose value all before it fall short of, and none after it exceeds. -/
def IsFirstMax {α : Type} (value : α → Int32) (xs : List α) (x : α) : Prop :=
  ∃ before after, xs = before ++ x :: after ∧
    (∀ y ∈ before, value y < value x) ∧ ∀ y ∈ after, value y ≤ value x

namespace IsFirstMax

variable {α : Type} {value : α → Int32} {xs : List α} {x y : α}

lemma singleton (x : α) : IsFirstMax value [x] x := ⟨[], [], rfl, by simp, by simp⟩

lemma mem (h : IsFirstMax value xs x) : x ∈ xs := by
  obtain ⟨before, after, rfl, -, -⟩ := h
  exact List.mem_append_right _ List.mem_cons_self

lemma le (h : IsFirstMax value xs x) (hy : y ∈ xs) : value y ≤ value x := by
  obtain ⟨before, after, rfl, hbefore, hafter⟩ := h
  rcases List.mem_append.1 hy with hy | hy
  · exact Int32.le_of_lt (hbefore y hy)
  · rcases List.mem_cons.1 hy with rfl | hy
    · exact Int32.le_refl _
    · exact hafter y hy

lemma unique (hx : IsFirstMax value xs x) (hy : IsFirstMax value xs y) : x = y := by
  have hxy : value x ≤ value y := hy.le hx.mem
  have hyx : value y ≤ value x := hx.le hy.mem
  obtain ⟨before, after, rfl, hbefore, -⟩ := hx
  obtain ⟨before', after', heq, hbefore', -⟩ := hy
  exact (split_unique heq (fun h => Int32.not_lt.2 hyx (hbefore' x h))
    fun h => Int32.not_lt.2 hxy (hbefore y h)).2

lemma concat_of_le (h : IsFirstMax value xs x) (hy : value y ≤ value x) :
    IsFirstMax value (xs ++ [y]) x := by
  obtain ⟨before, after, rfl, hbefore, hafter⟩ := h
  refine ⟨before, after ++ [y], by simp, hbefore, fun z hz => ?_⟩
  rcases List.mem_append.1 hz with hz | hz
  · exact hafter z hz
  · rwa [List.mem_singleton.1 hz]

lemma concat_of_lt (h : IsFirstMax value xs x) (hy : value x < value y) :
    IsFirstMax value (xs ++ [y]) y :=
  ⟨xs, [], rfl, fun _ hz => Int32.lt_of_le_of_lt (h.le hz) hy, by simp⟩

lemma of_map {β : Type} {value : β → Int32} {f : α → β} {b : β}
    (h : IsFirstMax value (xs.map f) b) : ∃ x, IsFirstMax (value ∘ f) xs x ∧ f x = b := by
  obtain ⟨before, after, hxs, hbefore, hafter⟩ := h
  obtain ⟨before, rest, rfl, rfl, hrest⟩ := List.map_eq_append_iff.1 hxs
  obtain ⟨x, after, rfl, rfl, rfl⟩ := List.map_eq_cons_iff.1 hrest
  exact ⟨x, ⟨before, after, rfl, fun y hy => hbefore _ (List.mem_map_of_mem hy),
    fun y hy => hafter _ (List.mem_map_of_mem hy)⟩, rfl⟩

end IsFirstMax

namespace Offers

lemma top?_concat (qs : List QuestInfo) (q : QuestInfo) :
    top? (qs ++ [q]) = match top? qs with
      | some b => if q.priority ≤ b.priority then some b else some q
      | none => some q := by
  rw [top?, List.foldl_append]
  rfl

/-- There is a top quest if there is a quest, and it is the first of highest priority. -/
lemma top?_spec (qs : List QuestInfo) :
    (qs = [] ∧ top? qs = none) ∨
      ∃ q, IsFirstMax QuestInfo.priority qs q ∧ top? qs = some q := by
  induction qs using List.reverseRecOn with
  | nil => exact .inl ⟨rfl, rfl⟩
  | append_singleton qs q ih =>
    right
    rw [top?_concat]
    rcases ih with ⟨rfl, hnone⟩ | ⟨b, hb, hsome⟩
    · rw [hnone]
      exact ⟨q, .singleton q, rfl⟩
    · rw [hsome]
      by_cases hq : q.priority ≤ b.priority
      · exact ⟨b, hb.concat_of_le hq, if_pos hq⟩
      · exact ⟨q, hb.concat_of_lt (Int32.not_le.1 hq), if_neg hq⟩

end Offers

/-! ### What is on offer -/

/-- The quests that can be offered now, in catalog order, all of them or those of one giver. -/
def Context.offered {σ : Type} [FlagStore σ] (ctx : Context σ QuestCatalog) (npc : String) :
    List QuestDefinition :=
  ctx.quests.quests.filter fun q => q.isEligible ctx.ledger && (npc == "" || q.giver == some npc)

/-- Flags that say how many of some quests there are, up to the greatest value of a flag, whether
there is one of each type, and which is the first of highest priority. -/
structure EngineKeys.Summarises (keys : EngineKeys) (flags : FlagReader)
    (qs : List QuestDefinition) : Prop where
  count : ∀ d, (flags keys.availableCount d).toInt = min (qs.length : Int) 2147483647
  rankUp : ∀ d, flags keys.hasRankUp d = if ∃ q ∈ qs, q.type = .rankUp then 1 else 0
  characterEvent : ∀ d,
    flags keys.hasCharacterEvent d = if ∃ q ∈ qs, q.type = .characterEvent then 1 else 0
  subQuest : ∀ d, flags keys.hasSubQuest d = if ∃ q ∈ qs, q.type = .subQuest then 1 else 0
  top : (qs = [] ∧ ∀ d, flags keys.topQuestDigest d = 0) ∨
    ∃ q, IsFirstMax QuestDefinition.priority qs q ∧
      ∀ d, flags keys.topQuestDigest d = Digest.ofText q.id

/-- Of some writes under different keys each is read back. -/
lemma MemoryFlags.get_setAll_of_mem {s : MemoryFlags} {ws : List (String × Int32)}
    {w : String × Int32} (hws : (ws.map Prod.fst).Nodup) (hw : w ∈ ws) (d : Int32) :
    FlagStore.get (FlagStore.setAll s ws).val w.1 d = w.2 := by
  obtain ⟨xs, ys, rfl⟩ := List.append_of_mem hw
  rw [FlagStore.get_setAll_of_nodup s hws, if_pos (keeps_eq_true _ _)]

namespace Offers

variable {σ : Type} [FlagStore σ]

lemma map_info_offered (ctx : Context σ QuestCatalog) (npc : String) :
    (ctx.offered npc).map QuestDefinition.info =
      if npc = "" then QuestManager.available ctx.quests ctx.ledger
      else QuestManager.availableFrom ctx.quests ctx.ledger npc := by
  split_ifs with h
  · simp [QuestManager.available, Context.offered, h]
  · have hnpc : (npc == "") = false := by simpa using h
    simp [QuestManager.availableFrom, Context.offered, hnpc]

lemma writes_checkAvailableQuests (ctx : Context σ QuestCatalog) (call : Call) :
    (Builtin.checkAvailableQuests.plan ctx.view call).writes =
      summary ctx.keys ((ctx.offered (call.args.head?.getD "")).map QuestDefinition.info) := by
  simp only [Builtin.plan, checkAvailableQuests, Plan.writes_decide, List.filterMap_append,
    Effect.filterMap_ofWrites]
  rw [map_info_offered]
  exact List.append_nil _

lemma write_hasType (key : String) (qs : List QuestDefinition) (t : QuestType) :
    (Field.bool key).write ((qs.map QuestDefinition.info).any fun q => q.type == t) =
      (key, if ∃ q ∈ qs, q.type = t then 1 else 0) := by
  have h : ((qs.map QuestDefinition.info).any fun q => q.type == t) =
      decide (∃ q ∈ qs, q.type = t) := by
    simp [List.any_eq, QuestDefinition.info]
  rw [h]
  by_cases ht : ∃ q ∈ qs, q.type = t <;> simp [Field.write, Field.bool, ht]

/-- Read back, a summary says what there was to say of the quests. -/
lemma summarises_setAll (s : MemoryFlags) {keys : EngineKeys} (hkeys : keys.summaryKeys.Nodup)
    (qs : List QuestDefinition) :
    keys.Summarises (FlagStore.get
      (FlagStore.setAll s (summary keys (qs.map QuestDefinition.info))).val) qs := by
  have hnodup : ((summary keys (qs.map QuestDefinition.info)).map Prod.fst).Nodup := by
    rwa [keys_summary]
  have hread : ∀ w ∈ summary keys (qs.map QuestDefinition.info), ∀ d, FlagStore.get
      (FlagStore.setAll s (summary keys (qs.map QuestDefinition.info))).val w.1 d = w.2 :=
    fun w hw d => MemoryFlags.get_setAll_of_mem hnodup hw d
  generalize FlagStore.get (FlagStore.setAll s _).val = flags at hread ⊢
  simp only [summary, write_hasType, List.forall_mem_cons] at hread
  obtain ⟨hcount, hrankUp, hcharacterEvent, hsubQuest, htop, -⟩ := hread
  exact {
    count := fun d => by rw [hcount, toInt_countValue, List.length_map]
    rankUp := hrankUp
    characterEvent := hcharacterEvent
    subQuest := hsubQuest
    top := by
      rcases top?_spec (qs.map QuestDefinition.info) with ⟨hnil, hnone⟩ | ⟨i, hi, hsome⟩
      · rw [hnone] at htop
        exact .inl ⟨List.map_eq_nil_iff.1 hnil, htop⟩
      · obtain ⟨q, hq, rfl⟩ := hi.of_map
        rw [hsome] at htop
        exact .inr ⟨q, hq, htop⟩ }

end Offers

/-- **Offers are summarised**: where the five keys of the summary differ, the command leaves under
them what there is to say of the quests that were on offer before it, and all other flags as they
are. A first argument that is not empty names the giver to whom the offers are limited. -/
theorem Engine.offers_summarised (ctx : Context MemoryFlags QuestCatalog) (call : Call)
    (hkeys : ctx.keys.summaryKeys.Nodup) :
    let after := ((ofContext ctx).val.invoke Builtin.checkAvailableQuests.name call).val
    after.1 = some .none ∧
    ctx.keys.Summarises (FlagStore.get after.2.context.flags)
      (ctx.offered (call.args.head?.getD "")) ∧
    ∀ key ∉ ctx.keys.summaryKeys,
      (∀ d, FlagStore.get after.2.context.flags key d = FlagStore.get ctx.flags key d) ∧
        FlagStore.has after.2.context.flags key = FlagStore.has ctx.flags key := by
  intro after
  have hafter : after = (some .none, (ofContext (ctx.after .checkAvailableQuests call)).val) :=
    val_invoke_name ctx .checkAvailableQuests call
  have hflags : after.2.context.flags = (FlagStore.setAll ctx.flags (Offers.summary ctx.keys
      ((ctx.offered (call.args.head?.getD "")).map QuestDefinition.info))).val := by
    rw [hafter, ← Offers.writes_checkAvailableQuests]
    rfl
  rw [hflags]
  refine ⟨congrArg Prod.fst hafter, Offers.summarises_setAll _ hkeys _, fun key hkey => ?_⟩
  refine FlagStore.get_has_setAll_other ctx.flags ?_
  rwa [Offers.keys_summary]

/-- The smith has two quests of one priority, below zero; the first is the top one, though the
writes make it unavailable. -/
theorem Engine.offers_summarised_smith :
    let herbs : QuestDefinition :=
      { id := "herbs", name := "Herbs", giver := some "smith", type := .subQuest, priority := -3
        requirements := [⟨"available_quest_count", ⟨.eq, 0⟩⟩] }
    let duel : QuestDefinition :=
      { id := "duel", name := "Duel", giver := some "smith", type := .rankUp, priority := -3 }
    let tale : QuestDefinition := { id := "tale", name := "Tale", type := .story, priority := 7 }
    let ctx : Context MemoryFlags QuestCatalog :=
      { flags := {}, quests := .insertAll .empty [herbs, duel, tale] }
    let flags := FlagStore.get ((ofContext ctx).val.invoke "check_available_quests"
      { args := ["smith"] }).val.2.context.flags
    (flags "available_quest_count" 0).toInt = 2 ∧ flags "available_has_rank_up" 0 = 1 ∧
      flags "available_has_character_event" 0 = 0 ∧
      flags "available_top_quest_hash" 0 = Digest.ofText "herbs" ∧ flags "gold" 5 = 5 := by
  intro herbs duel tale ctx flags
  obtain ⟨-, h, hother⟩ := offers_summarised ctx { args := ["smith"] } (by decide)
  have hoffered : ctx.offered "smith" = [herbs, duel] := by decide
  have htop : IsFirstMax QuestDefinition.priority (ctx.offered "smith") herbs :=
    hoffered ▸ ⟨[], [duel], rfl, by simp, by decide⟩
  refine ⟨(h.count 0).trans (by decide), (h.rankUp 0).trans (by decide),
    (h.characterEvent 0).trans (by decide), ?_, (hother "gold" (by decide)).1 5⟩
  rcases h.top with ⟨hnil, -⟩ | ⟨q, hq, hdigest⟩
  · cases hoffered.symm.trans hnil
  · obtain rfl : herbs = q := htop.unique hq
    exact hdigest 0

end Questline
