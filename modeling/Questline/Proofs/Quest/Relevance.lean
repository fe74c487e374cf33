import Questline.Proofs.Dispatch.Locality
import Questline.Proofs.Dispatch.Summary

/-!
The flags on which offers depend. Each quest names some: its own two bits, the done bit of its
predecessor, and the flags of its requirements. Two states that read alike under the names of a
catalog have the same offers, over any two stores and whatever their journals record, and the
commands that ask for offers write the same values.
-/

namespace Questline

/-- The keys that decide whether a quest can be offered. -/
def QuestDefinition.relevant (q : QuestDefinition) (keys : QuestKeys) : List String :=
  keys.doneKey q.id :: keys.activeKey q.id ::
    (q.previous.toList.map keys.doneKey ++ q.requirements.map Requirement.flag)

def QuestCatalog.relevant (c : QuestCatalog) (keys : QuestKeys) : List String :=
  c.quests.flatMap fun q => q.relevant keys

/-- A ledger that reads like another under some keys. -/
structure Ledger.AgreesOn (l : Ledger) (names : List String) (l' : Ledger) : Prop where
  keys : l'.keys = l.keys
  flags (key : String) : key ∈ names → l'.flags key 0 = l.flags key 0

variable {l l' : Ledger}

/-! ### Ledgers -/

namespace Ledger.AgreesOn

variable {names : List String} {id : String} (h : l.AgreesOn names l')

include h

lemma mono {fewer : List String} (hsub : ∀ key ∈ fewer, key ∈ names) : l.AgreesOn fewer l' :=
  ⟨h.keys, fun key hkey => h.flags key (hsub key hkey)⟩

lemma isCompleted_eq (hid : l.keys.doneKey id ∈ names) : l'.isCompleted id = l.isCompleted id := by
  have hread : l'.flags (l.keys.doneKey id) 0 = l.flags (l.keys.doneKey id) 0 := h.flags _ hid
  simp only [isCompleted, Field.read, QuestKeys.done, Field.bool, h.keys, hread]

lemma isActive_eq (hid : l.keys.activeKey id ∈ names) : l'.isActive id = l.isActive id := by
  have hread : l'.flags (l.keys.activeKey id) 0 = l.flags (l.keys.activeKey id) 0 := h.flags _ hid
  simp only [isActive, Field.read, QuestKeys.active, Field.bool, h.keys, hread]

end Ledger.AgreesOn

/-- Whether a quest can be offered depends on the keys that it names. -/
lemma QuestDefinition.isEligible_congr {q : QuestDefinition}
    (h : l.AgreesOn (q.relevant l.keys) l') : q.isEligible l' = q.isEligible l := by
  have hdone : l'.isCompleted q.id = l.isCompleted q.id :=
    h.isCompleted_eq List.mem_cons_self
  have hactive : l'.isActive q.id = l.isActive q.id :=
    h.isActive_eq (List.mem_cons_of_mem _ List.mem_cons_self)
  have hprevious : q.previous.all l'.isCompleted = q.previous.all l.isCompleted := by
    cases hp : q.previous with
    | none => rfl
    | some id =>
      have hid : l'.isCompleted id = l.isCompleted id :=
        h.isCompleted_eq (by simp [relevant, hp])
      rw [Option.all_some, Option.all_some, hid]
  have hmet : (q.requirements.all fun r => r.isMet l'.flags) =
      q.requirements.all fun r => r.isMet l.flags := by
    rw [Bool.eq_iff_iff, List.all_eq_true, List.all_eq_true]
    refine forall₂_congr fun r hr => ?_
    have hflag : r.flag ∈ q.relevant l.keys := by
      simp only [relevant, List.mem_cons, List.mem_append, List.mem_map]
      exact .inr (.inr (.inr ⟨r, hr, rfl⟩))
    rw [Requirement.isMet, Requirement.isMet, h.flags _ hflag]
  rw [isEligible, isEligible, hdone, hactive, hprevious, hmet]

/-! ### Catalogs -/

namespace QuestCatalog

variable {c c' : QuestCatalog} (hquests : c'.quests = c.quests)
  (h : l.AgreesOn (c.relevant l.keys) l')

include h in
lemma isEligible_congr {q : QuestDefinition} (hq : q ∈ c.quests) :
    q.isEligible l' = q.isEligible l :=
  q.isEligible_congr (h.mono fun _ hkey => List.mem_flatMap.2 ⟨q, hq, hkey⟩)

include hquests h

lemma isAvailable_congr (id : String) :
    QuestManager.isAvailable c' l' id = QuestManager.isAvailable c l id := by
  simp only [QuestManager.isAvailable, find?_congr hquests]
  cases hq : c.find? id with
  | none => rfl
  | some q => exact isEligible_congr h (find?_eq_some_iff.1 hq).1

lemma available_congr : QuestManager.available c' l' = QuestManager.available c l := by
  simp only [QuestManager.available, hquests]
  exact congrArg _ (List.filter_congr fun q hq => isEligible_congr h hq)

lemma availableFrom_congr (npc : String) :
    QuestManager.availableFrom c' l' npc = QuestManager.availableFrom c l npc := by
  simp only [QuestManager.availableFrom, hquests]
  exact congrArg _ (List.filter_congr fun q hq => isEligible_congr h (List.mem_filter.1 hq).1)

end QuestCatalog

/-! ### Contexts -/

namespace Context

variable {σ τ : Type} [FlagStore σ] [FlagStore τ]

/-- A context with the quests and keys of another, that reads like it under the keys which decide
what the quests offer. The journals may differ, and so may all other flags. -/
structure Alike (ctx : Context σ QuestCatalog) (ctx' : Context τ QuestCatalog) : Prop where
  keys : ctx'.keys = ctx.keys
  definitions : ctx'.quests.quests = ctx.quests.quests
  flags (key : String) : key ∈ ctx.quests.relevant ctx.keys.quests →
    FlagStore.get ctx'.flags key 0 = FlagStore.get ctx.flags key 0

/-- Called with some arguments, a command plans the same writes in two contexts, for the keys of its
footprint, and carries them out. -/
def WritesAlike (ctx : Context σ QuestCatalog) (ctx' : Context τ QuestCatalog) (b : Builtin)
    (args : List String) : Prop :=
  ∃ ws, ws.map Prod.fst = b.footprint ctx.keys args ∧ ∀ call : Call, call.args = args →
    ((b.plan ctx.view call).writes = ws ∧ (b.plan ctx'.view call).writes = ws) ∧
      ((Engine.ofContext ctx).val.invoke b.name call).val.2.context.flags =
        (FlagStore.setAll ctx.flags ws).val ∧
      ((Engine.ofContext ctx').val.invoke b.name call).val.2.context.flags =
        (FlagStore.setAll ctx'.flags ws).val

/-- Two contexts that cannot be told apart by asking for offers. -/
structure OffersAlike (ctx : Context σ QuestCatalog) (ctx' : Context τ QuestCatalog) : Prop where
  isAvailable (id : String) : ctx'.isAvailable id = ctx.isAvailable id
  available : ctx'.available = ctx.available
  availableFrom (npc : String) : ctx'.availableFrom npc = ctx.availableFrom npc
  summary (args : List String) : ctx.WritesAlike ctx' .checkAvailableQuests args
  dispatch (args : List String) : ctx.WritesAlike ctx' .checkQuestsForDispatch args

variable {ctx : Context σ QuestCatalog} {ctx' : Context τ QuestCatalog}

lemma writesAlike_of_plan {b : Builtin} {args : List String} {ws : List (String × Int32)}
    (hkeys : ws.map Prod.fst = b.footprint ctx.keys args)
    (h : ∀ call, call.args = args → (b.plan ctx.view call).writes = ws)
    (h' : ∀ call, call.args = args → (b.plan ctx'.view call).writes = ws) :
    ctx.WritesAlike ctx' b args := by
  refine ⟨ws, hkeys, fun call hcall => ⟨⟨h call hcall, h' call hcall⟩, ?_, ?_⟩⟩
  · rw [Engine.val_invoke_name, ← h call hcall]
    rfl
  · rw [Engine.val_invoke_name, ← h' call hcall]
    rfl

lemma writes_checkQuestsForDispatch (ctx : Context σ QuestCatalog) (call : Call) :
    (Builtin.checkQuestsForDispatch.plan ctx.view call).writes =
      call.args.head?.toList.map fun key =>
        (key, Offers.position ctx.available call.args.tail) := by
  simp only [Builtin.plan, Offers.checkQuestsForDispatch]
  cases call.args <;> rfl

namespace Alike

lemma ledger (h : ctx.Alike ctx') :
    ctx.ledger.AgreesOn (ctx.quests.relevant ctx.ledger.keys) ctx'.ledger where
  keys := congrArg EngineKeys.quests h.keys
  flags := h.flags

lemma available_eq (h : ctx.Alike ctx') : ctx'.available = ctx.available :=
  QuestCatalog.available_congr h.definitions h.ledger

lemma availableFrom_eq (h : ctx.Alike ctx') (npc : String) :
    ctx'.availableFrom npc = ctx.availableFrom npc :=
  QuestCatalog.availableFrom_congr h.definitions h.ledger npc

lemma writesAlike_summary (h : ctx.Alike ctx') (args : List String) :
    ctx.WritesAlike ctx' .checkAvailableQuests args := by
  have hoffered (npc : String) : (ctx'.offered npc).map QuestDefinition.info =
      (ctx.offered npc).map QuestDefinition.info := by
    have hall := h.available_eq
    have hnpc := h.availableFrom_eq npc
    unfold available at hall
    unfold availableFrom at hnpc
    rw [Offers.map_info_offered, Offers.map_info_offered, hall, hnpc]
  refine writesAlike_of_plan (Offers.keys_summary ctx.keys
    ((ctx.offered (args.head?.getD "")).map QuestDefinition.info)) (fun call hcall => ?_)
    fun call hcall => ?_
  · rw [Offers.writes_checkAvailableQuests, hcall]
  · rw [Offers.writes_checkAvailableQuests, hcall, hoffered, h.keys]

lemma writesAlike_dispatch (h : ctx.Alike ctx') (args : List String) :
    ctx.WritesAlike ctx' .checkQuestsForDispatch args := by
  have hkeys : (args.head?.toList.map fun key =>
      (key, Offers.position ctx.available args.tail)).map Prod.fst = args.head?.toList := by
    cases args <;> rfl
  refine writesAlike_of_plan hkeys (fun call hcall => ?_) fun call hcall => ?_
  · rw [writes_checkQuestsForDispatch, hcall]
  · rw [writes_checkQuestsForDispatch, hcall, h.available_eq]

/-- **Offers read what the catalog names**: contexts that read alike there offer alike. -/
theorem offersAlike (h : ctx.Alike ctx') : ctx.OffersAlike ctx' where
  isAvailable := QuestCatalog.isAvailable_congr h.definitions h.ledger
  available := h.available_eq
  availableFrom := h.availableFrom_eq
  summary := h.writesAlike_summary
  dispatch := h.writesAlike_dispatch

/-! ### What leaves offers alone -/

lemma refl (ctx : Context σ QuestCatalog) : ctx.Alike ctx := ⟨rfl, rfl, fun _ _ => rfl⟩

/-- Writes to other keys, and any change of the journal, leave contexts alike. -/
lemma setAll [FramedFlagStore τ] (h : ctx.Alike ctx') {ws : List (String × Int32)}
    (hws : ∀ w ∈ ws, w.1 ∉ ctx.quests.relevant ctx.keys.quests) {quests : QuestCatalog}
    (hquests : quests.quests = ctx'.quests.quests) :
    ctx.Alike { ctx' with flags := (FlagStore.setAll ctx'.flags ws).val, quests } where
  keys := h.keys
  definitions := hquests.trans h.definitions
  flags key hkey :=
    (FlagStore.get_setAll_of_outside ctx'.flags hws hkey 0).trans (h.flags key hkey)

lemma after [FramedFlagStore τ] (h : ctx.Alike ctx') {b : Builtin} {call : Call}
    (hb : ∀ key ∈ b.footprint ctx.keys call.args, key ∉ ctx.quests.relevant ctx.keys.quests) :
    ctx.Alike (ctx'.after b call) := by
  refine h.setAll (fun w hw => hb w.1 ?_) (quests_after ctx' b call)
  rw [← h.keys]
  exact b.writes_plan ctx'.view call w hw

end Alike

end Context

namespace Engine

/-- **Offers depend on the flags that a catalog names**: in two contexts that read alike under
these, over any two stores and with any journals, every question for offers has the same answer in
the same order, and the commands that summarise and dispatch offers write the same values. So no
change of other flags and no change of the journal bears on what is offered, nor does a run of
commands that cannot write a flag that the catalog names. -/
theorem offers_depend_on_relevant {σ τ : Type} [FlagStore σ] [FlagStore τ] :
    (∀ (ctx : Context σ QuestCatalog) (ctx' : Context τ QuestCatalog),
      ctx.Alike ctx' → ctx.OffersAlike ctx') ∧
    (FramedFlagStore σ → ∀ (ctx : Context σ QuestCatalog) (ws : List (String × Int32))
      (journal : Journal), (∀ w ∈ ws, w.1 ∉ ctx.quests.relevant ctx.keys.quests) →
        ctx.OffersAlike { ctx with
          flags := (FlagStore.setAll ctx.flags ws).val
          quests := { ctx.quests with journal } }) ∧
    (FramedFlagStore σ → ∀ (ctx : Context σ QuestCatalog) (calls : List (String × Call)),
      (∀ b call, (Builtin.name b, call) ∈ calls →
        ∀ key ∈ b.footprint ctx.keys call.args, key ∉ ctx.quests.relevant ctx.keys.quests) →
      ctx.OffersAlike ((ofContext ctx).val.run calls).context) := by
  refine ⟨fun ctx ctx' h => h.offersAlike, fun _ ctx ws journal hws => ?_,
    fun _ ctx calls hcalls => ?_⟩
  · have halike : ctx.Alike { ctx with
        flags := (FlagStore.setAll ctx.flags ws).val
        quests := { ctx.quests with journal } } := (Context.Alike.refl ctx).setAll hws rfl
    exact halike.offersAlike
  · obtain ⟨ctx', hrun, h⟩ := run_invariant (P := ctx.Alike)
      (fun _ b call hmem h => h.after (hcalls b call hmem)) (Context.Alike.refl ctx)
    rw [hrun]
    exact h.offersAlike

/-- Memory and a save that hold the same gold and the same done bit make the same offers of a quest
that asks for them, though the save has other flags and its journal says that the quest is
completed. Iron, karma and the journal do not bear on them. -/
theorem offers_depend_on_relevant_herbs :
    let herbs : QuestDefinition :=
      { id := "herbs", name := "Herbs", giver := some "smith", type := .subQuest, priority := 3
        previous := some "intro", requirements := [⟨"gold", ⟨.ge, 5⟩⟩] }
    let quests : QuestCatalog := .insertAll .empty [herbs]
    let journal : Journal := Journal.recordCompletion {} default "herbs"
    let ctx : Context MemoryFlags QuestCatalog :=
      { flags := .ofList [("gold", 7), ("quest_done_intro", 1)], quests }
    let ctx' : Context (SaveFlags MapSave) QuestCatalog :=
      { flags := ⟨some { values := (MemoryFlags.ofList
          [("gold", 7), ("quest_done_intro", 1), ("iron", 4)]).entries }⟩
        quests := { quests with journal } }
    let iron : Context MemoryFlags QuestCatalog :=
      { ctx with
        flags := (FlagStore.setAll ctx.flags [("iron", 5), ("karma", 1)]).val
        quests := { quests with journal } }
    let karma := ((ofContext ctx).val.run [("add_karma", { args := ["5"] })]).context
    ctx.available = [herbs.info] ∧ ctx'.available = [herbs.info] ∧
      ctx'.availableFrom "smith" = ctx.availableFrom "smith" ∧
      iron.available = [herbs.info] ∧ karma.available = [herbs.info] := by
  intro herbs quests journal ctx ctx' iron karma
  obtain ⟨hagree, hwrites, hrun⟩ :=
    offers_depend_on_relevant (σ := MemoryFlags) (τ := SaveFlags MapSave)
  have hctx : ctx.available = [herbs.info] := by decide +kernel
  have hsave : ctx.OffersAlike ctx' := hagree ctx ctx' ⟨rfl, rfl, by decide +kernel⟩
  have hiron : ctx.OffersAlike iron :=
    hwrites inferInstance ctx [("iron", 5), ("karma", 1)] journal (by decide)
  have hkarma : ctx.OffersAlike karma := by
    refine hrun inferInstance ctx [("add_karma", { args := ["5"] })] fun b call hmem => ?_
    obtain ⟨hname, rfl⟩ := Prod.ext_iff.1 (List.mem_singleton.1 hmem)
    obtain rfl : b = .addKarma := Builtin.name_injective hname
    decide
  exact ⟨hctx, hsave.available.trans hctx, hsave.availableFrom "smith",
    hiron.available.trans hctx, hkarma.available.trans hctx⟩

end Engine

end Questline
