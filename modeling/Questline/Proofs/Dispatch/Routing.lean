import Questline.Proofs.Dispatch.Summary
import Questline.Proofs.Dispatch.Switching
import Questline.Proofs.Quest.Catalog

/-!
Dispatching candidates and switching on the result. The flag of a dispatch tells the position, from
1, of the first candidate that can be offered when asked for alone, so neither the priorities nor
the order of the catalog count. A switch on that flag has a target for no candidate, then one for
each: it takes the target at the position.
-/

namespace Questline

/-! ### The first candidate on offer -/

/-- The position, from 1, of the first candidate that can be offered now; 0 if none can be. -/
def Context.FirstOffered {σ μ : Type} [FlagStore σ] [QuestManager μ] (ctx : Context σ μ)
    (candidates : List String) (i : Nat) : Prop :=
  (i = 0 ∧ ∀ id ∈ candidates, ctx.isAvailable id = false) ∨
    ∃ before id after, candidates = before ++ id :: after ∧ i = before.length + 1 ∧
      ctx.isAvailable id = true ∧ ∀ p ∈ before, ctx.isAvailable p = false

namespace Context.FirstOffered

variable {σ μ : Type} [FlagStore σ] [QuestManager μ] {ctx : Context σ μ} {candidates : List String}
  {i j : Nat}

lemma le_length (h : ctx.FirstOffered candidates i) : i ≤ candidates.length := by
  rcases h with ⟨rfl, -⟩ | ⟨before, id, after, rfl, rfl, -, -⟩
  · exact Nat.zero_le _
  · rw [List.length_append, List.length_cons]
    omega

lemma unique (hi : ctx.FirstOffered candidates i) (hj : ctx.FirstOffered candidates j) :
    i = j := by
  rcases hi with ⟨rfl, hnone⟩ | ⟨before, id, after, rfl, rfl, hid, hbefore⟩ <;>
    rcases hj with ⟨rfl, hnone'⟩ | ⟨before', id', after', heq, rfl, hid', hbefore'⟩
  · rfl
  · exact absurd hid' (by simp [hnone id' (by simp [heq])])
  · exact absurd hid (by simp [hnone' id (by simp)])
  · have hsplit : before = before' ∧ id = id' := split_unique heq
      (fun h => by simp [hbefore' id h] at hid) fun h => by simp [hbefore id' h] at hid'
    rw [hsplit.1]

end Context.FirstOffered

namespace QuestCatalog

def unranked (q : QuestDefinition) : QuestDefinition := { q with priority := 0 }

/-- Catalogs that hold the same definitions, in whatever order and with whatever priorities. -/
def Rearranges (c c' : QuestCatalog) : Prop := (c.quests.map unranked).Perm (c'.quests.map unranked)

/-- An id is among the offers if it can be offered when asked for alone. -/
lemma any_available (c : QuestCatalog) (l : Ledger) (id : String) :
    ((QuestManager.available c l).any fun q => q.id == id) = QuestManager.isAvailable c l id := by
  rw [Bool.eq_iff_iff, isAvailable_iff_mem, List.any_eq_true]
  simp only [beq_iff_eq]

lemma isAvailable_iff_unranked {c : QuestCatalog} {l : Ledger} {id : String} :
    QuestManager.isAvailable c l id = true ↔
      ∃ q ∈ c.quests.map unranked, q.isEligible l = true ∧ q.id = id := by
  rw [isAvailable_iff_mem]
  constructor
  · rintro ⟨i, hi, rfl⟩
    obtain ⟨q, hq, he, rfl⟩ := mem_available.1 hi
    exact ⟨unranked q, List.mem_map_of_mem hq, he, rfl⟩
  · rintro ⟨p, hp, he, rfl⟩
    obtain ⟨q, hq, rfl⟩ := List.mem_map.1 hp
    exact ⟨q.info, mem_available.2 ⟨q, hq, he, rfl⟩, rfl⟩

lemma Rearranges.isAvailable_eq {c c' : QuestCatalog} (h : c.Rearranges c') (l : Ledger)
    (id : String) : QuestManager.isAvailable c l id = QuestManager.isAvailable c' l id := by
  rw [Bool.eq_iff_iff, isAvailable_iff_unranked, isAvailable_iff_unranked]
  simp only [h.mem_iff]

end QuestCatalog

namespace Offers

/-- Only which ids can be offered counts for the position of the first candidate. -/
lemma position_available (c : QuestCatalog) (l : Ledger) (candidates : List String) :
    position (QuestManager.available c l) candidates =
      ((candidates.findIdx? (QuestManager.isAvailable c l)).map
        fun i => countValue (i + 1)).getD 0 := by
  have hany : (fun id => (QuestManager.available c l).any fun q => q.id == id) =
      QuestManager.isAvailable c l := funext (c.any_available l)
  rw [position, hany]

lemma exists_firstOffered {σ : Type} [FlagStore σ] (ctx : Context σ QuestCatalog)
    (candidates : List String) :
    ∃ i, ctx.FirstOffered candidates i ∧
      position (QuestManager.available ctx.quests ctx.ledger) candidates = countValue i := by
  rw [position_available]
  cases hfind : candidates.findIdx? (QuestManager.isAvailable ctx.quests ctx.ledger) with
  | none => exact ⟨0, .inl ⟨rfl, List.findIdx?_eq_none_iff.1 hfind⟩, rfl⟩
  | some n =>
    obtain ⟨hn, hid, hbefore⟩ := List.findIdx?_eq_some_iff_getElem.1 hfind
    refine ⟨n + 1, .inr ⟨candidates.take n, candidates[n], candidates.drop (n + 1), ?_, ?_, hid,
      fun p hp => ?_⟩, by rw [Option.map_some, Option.getD_some]⟩
    · rw [← List.drop_eq_getElem_cons hn, List.take_append_drop]
    · rw [List.length_take, Nat.min_eq_left (Nat.le_of_lt hn)]
    · obtain ⟨j, hj, rfl⟩ := List.mem_take_iff_getElem.1 hp
      exact Bool.eq_false_iff.2 (hbefore j (by omega))

end Offers

/-! ### Dispatching, then switching -/

namespace Engine

def dispatched (ctx : Context MemoryFlags QuestCatalog) (key : String) (candidates : List String)
    (call : Call) : Engine MemoryFlags QuestCatalog :=
  ((ofContext ctx).val.invoke Builtin.checkQuestsForDispatch.name
    { call with args := key :: candidates }).val.2

def switched (e : Engine MemoryFlags QuestCatalog) (key : String) (targets : List String)
    (fallback : String) (call : Call) : Option Decision :=
  (e.invoke Builtin.switchFlag.name { call with args := key :: (targets ++ [fallback]) }).val.1

lemma exists_dispatched (ctx : Context MemoryFlags QuestCatalog) (key : String)
    (candidates : List String) (call : Call) :
    ∃ ctx', dispatched ctx key candidates call = (ofContext ctx').val ∧
      ∀ d, FlagStore.get ctx'.flags key d =
        Offers.position (QuestManager.available ctx.quests ctx.ledger) candidates := by
  refine ⟨ctx.after .checkQuestsForDispatch { call with args := key :: candidates }, ?_,
    fun d => ?_⟩
  · rw [dispatched, val_invoke_name]
  · change FlagStore.get (FlagStore.setAll ctx.flags [(key, _)]).val key d = _
    rw [MemoryFlags.get_setAll]
    exact FlagReader.write_self _ key _ d

lemma switched_ofContext (ctx : Context MemoryFlags QuestCatalog) (key : String)
    (targets : List String) (fallback : String) (call : Call) :
    (ofContext ctx).val.switched key targets fallback call =
      some ((Branches.pick? targets fallback (FlagStore.get ctx.flags key 0)).elim
        .none .jump) := switchAnswer_concat ctx call key targets fallback

/-- **Dispatch agrees with single checks**: whatever the flag held, it tells the position of the
first candidate that can be offered, up to the greatest value of a flag. A catalog in another order
and with other priorities gives the same. A switch on the flag that has one target for no candidate
and then one for each, none of them empty, takes the target at the position. -/
theorem dispatch_routes (ctx : Context MemoryFlags QuestCatalog) (key : String)
    (candidates : List String) (call : Call) :
    ∃ i, ctx.FirstOffered candidates i ∧
      (∀ d, (FlagStore.get (dispatched ctx key candidates call).context.flags key d).toInt =
        min (i : Int) 2147483647) ∧
      (∀ quests : QuestCatalog, quests.Rearranges ctx.quests → ∀ d,
        FlagStore.get (dispatched { ctx with quests } key candidates call).context.flags key d =
          FlagStore.get (dispatched ctx key candidates call).context.flags key d) ∧
      ∀ (targets : List String) (fallback : String) (next : Call),
        targets.length = candidates.length + 1 → candidates.length ≤ 2147483647 →
        (∀ target ∈ targets, target ≠ "") →
        ∃ target, targets[i]? = some target ∧
          (dispatched ctx key candidates call).switched key targets fallback next =
            some (.jump target) := by
  obtain ⟨i, hi, hposition⟩ := Offers.exists_firstOffered ctx candidates
  obtain ⟨ctx', hctx', hflag⟩ := exists_dispatched ctx key candidates call
  have hvalue (d : Int32) :
      (FlagStore.get ctx'.flags key d).toInt = min (i : Int) 2147483647 := by
    rw [hflag, hposition, Offers.toInt_countValue]
  rw [hctx']
  refine ⟨i, hi, hvalue, fun quests hquests d => ?_,
    fun targets fallback next hlength hmax hne => ?_⟩
  · obtain ⟨ctx'', hctx'', hflag'⟩ := exists_dispatched { ctx with quests } key candidates call
    have havailable : QuestManager.isAvailable quests ctx.ledger =
        QuestManager.isAvailable ctx.quests ctx.ledger :=
      funext (hquests.isAvailable_eq ctx.ledger)
    rw [hctx'']
    refine (hflag' d).trans (Eq.trans ?_ (hflag d).symm)
    rw [Offers.position_available, Offers.position_available, ← havailable]
    rfl
  · have hle : i ≤ candidates.length := hi.le_length
    have hlt : i < targets.length := by omega
    have hvalue' : (FlagStore.get ctx'.flags key 0).toInt = i := by
      rw [hvalue]
      omega
    have hselects : Branches.Selects targets (FlagStore.get ctx'.flags key 0).toInt targets[i] :=
      ⟨hne _ (List.getElem_mem hlt), i, hvalue', List.getElem?_eq_getElem hlt⟩
    refine ⟨targets[i], List.getElem?_eq_getElem hlt, ?_⟩
    rw [switched_ofContext, Branches.pick?_of_selects hselects]
    rfl

/-- Of three candidates the last is the first on offer: one has to wait for it, one is unknown. -/
theorem dispatch_routes_duel :
    let herbs : QuestDefinition :=
      { id := "herbs", name := "Herbs", type := .subQuest, priority := 9, previous := some "duel" }
    let duel (priority : Int32) : QuestDefinition :=
      { id := "duel", name := "Duel", type := .rankUp, priority }
    let ctx : Context MemoryFlags QuestCatalog :=
      { flags := .ofList [("way", 7)], quests := .insertAll .empty [herbs, duel 1] }
    let moved : QuestCatalog := .insertAll .empty [duel 5, herbs]
    let e := dispatched ctx "way" ["herbs", "none", "duel"] {}
    (FlagStore.get e.context.flags "way" 0).toInt = 3 ∧
      FlagStore.get (dispatched { ctx with quests := moved } "way" ["herbs", "none", "duel"]
        {}).context.flags "way" 0 = FlagStore.get e.context.flags "way" 0 ∧
      e.switched "way" ["home", "hills", "void", "arena"] "" {} = some (.jump "arena") := by
  intro herbs duel ctx moved e
  obtain ⟨i, hi, hflag, hmoved, hswitch⟩ := dispatch_routes ctx "way" ["herbs", "none", "duel"] {}
  have hduel : ctx.FirstOffered ["herbs", "none", "duel"] 3 :=
    .inr ⟨["herbs", "none"], "duel", [], rfl, rfl, by decide, by decide⟩
  obtain rfl : i = 3 := hi.unique hduel
  have hrearranged : moved.Rearranges ctx.quests := by
    simp only [QuestCatalog.Rearranges, moved, ctx, QuestCatalog.quests_insertAll]
    exact .swap _ _ []
  obtain ⟨target, htarget, hjump⟩ := hswitch ["home", "hills", "void", "arena"] "" {} rfl
    (by decide) (by decide)
  obtain rfl : "arena" = target := Option.some.inj htarget
  exact ⟨hflag 0, hmoved moved hrearranged 0, hjump⟩

end Engine

end Questline
