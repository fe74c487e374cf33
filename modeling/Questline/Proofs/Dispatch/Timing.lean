import Questline.Proofs.Dispatch.Bindings
import Questline.Proofs.Quest.Transition

/-!
What the times of calls bear on. A built-in command writes and decides the same at any time, and of
the journal that it leaves only the times differ. So the same invocations made at other times give
the same answers and the same flags, as long as the commands of the host look at no times either.
-/

namespace Questline

/-! ### Views and plans -/

/-- Two catalogs that differ in the times of their journals at most. -/
structure QuestCatalog.SameButTimes (c c' : QuestCatalog) : Prop where
  definitions : c'.quests = c.quests
  entries (id : String) : (c'.journal.get? id).map JournalEntry.outline =
    (c.journal.get? id).map JournalEntry.outline

namespace QuestCatalog.SameButTimes

lemma refl (c : QuestCatalog) : c.SameButTimes c := ⟨rfl, fun _ => rfl⟩

variable {c c' : QuestCatalog} (h : c.SameButTimes c')

include h

lemma contains (id : String) : c'.contains id = c.contains id :=
  QuestCatalog.contains_congr h.definitions id

lemma isAvailable (l : Ledger) (id : String) :
    QuestManager.isAvailable c' l id = QuestManager.isAvailable c l id :=
  congrArg (Option.any _) (QuestCatalog.find?_congr h.definitions id)

lemma available (l : Ledger) : QuestManager.available c' l = QuestManager.available c l := by
  simp only [QuestManager.available, h.definitions]

lemma availableFrom (l : Ledger) (npc : String) :
    QuestManager.availableFrom c' l npc = QuestManager.availableFrom c l npc := by
  simp only [QuestManager.availableFrom, h.definitions]

lemma startable_iff (l : Ledger) (id : String) : c'.Startable l id ↔ c.Startable l id := by
  have hentry : c'.journal.isCompleted id = c.journal.isCompleted id := by
    rw [Journal.isCompleted_eq_outline, Journal.isCompleted_eq_outline, h.entries]
  constructor
  · exact fun hs => ⟨h.contains id ▸ hs.known, hs.notDone, hentry ▸ hs.notRecorded⟩
  · exact fun hs => ⟨(h.contains id).trans hs.known, hs.notDone, hentry.trans hs.notRecorded⟩

/-- A transition recorded at two times leaves catalogs that differ in times only. -/
lemma recorded (t : Transition) (now now' : Instant) (id : String) :
    SameButTimes { c with journal := t.recorded c.journal now id }
      { c' with journal := t.recorded c'.journal now' id } where
  definitions := h.definitions
  entries id' := by
    simp only [Transition.get?_recorded]
    split_ifs
    · exact congrArg some (t.outline_entry now now' id (h.entries id))
    · exact h.entries id'

end QuestCatalog.SameButTimes

structure View.SameButTimes (v v' : View QuestCatalog) : Prop where
  flags : v'.flags = v.flags
  keys : v'.keys = v.keys
  quests : v.quests.SameButTimes v'.quests

lemma View.SameButTimes.ledger {v v' : View QuestCatalog} (h : v.SameButTimes v') :
    v'.ledger = v.ledger := by
  rw [View.ledger, h.flags, h.keys]
  rfl

/-- Two plans that write and decide the same. -/
structure Plan.Alike {μ : Type} (p p' : Plan μ) : Prop where
  writes : p'.writes = p.writes
  answer : p'.answer.toOption = p.answer.toOption

structure Plan.SameButTimes (p p' : Plan QuestCatalog) : Prop extends p.Alike p' where
  quests : p.quests.SameButTimes p'.quests

lemma Plan.Does.sameButTimes {p p' : Plan QuestCatalog} {quests quests' : QuestCatalog}
    {ws : List (String × Int32)} {answer : Option Decision} (h : p.Does quests ws answer)
    (h' : p'.Does quests' ws answer) (hq : quests.SameButTimes quests') : p.SameButTimes p' where
  writes := h'.writes.trans h.writes.symm
  answer := h'.answer.trans h.answer.symm
  quests := by rwa [h.quests, h'.quests]

section Commands

/-! ### Built-in commands at other times -/

variable {μ : Type} {w w' : View μ} {v v' : View QuestCatalog} {call call' : Call}

namespace Branches

lemma ifFlag_alike (hf : w'.flags = w.flags) (hc : call'.args = call.args) :
    (ifFlag w call).Alike (ifFlag w' call') := by
  rw [ifFlag, ifFlag, hc, hf]
  split
  · split <;> exact ⟨rfl, rfl⟩
  · exact ⟨rfl, rfl⟩

lemma switchFlag_alike (hf : w'.flags = w.flags) (hc : call'.args = call.args) :
    (switchFlag w call).Alike (switchFlag w' call') := by
  rw [switchFlag, switchFlag, hc, hf]
  split
  · exact ⟨rfl, rfl⟩
  · split
    · exact ⟨rfl, rfl⟩
    · dsimp only
      split <;> exact ⟨rfl, rfl⟩

lemma canRejoin_alike (hf : w'.flags = w.flags) (hc : call'.args = call.args) :
    (canRejoin w call).Alike (canRejoin w' call') := by
  rw [canRejoin, canRejoin, hc, hf]
  split <;> exact ⟨rfl, rfl⟩

end Branches

namespace Writes

lemma setFlag_alike (hc : call'.args = call.args) :
    (setFlag w call).Alike (setFlag w' call') := by
  rw [setFlag, setFlag, hc]
  split
  · split <;> exact ⟨rfl, rfl⟩
  · exact ⟨rfl, rfl⟩

lemma addFlag_alike (hf : w'.flags = w.flags) (hc : call'.args = call.args) :
    (addFlag w call).Alike (addFlag w' call') := by
  rw [addFlag, addFlag, hc, hf]
  split
  · split <;> exact ⟨rfl, rfl⟩
  · exact ⟨rfl, rfl⟩

lemma increase_alike (b : Builtin) (f : Field Int32) (notice : Int32 → Int32 → Notice)
    (hf : w'.flags = w.flags) (hc : call'.args = call.args) :
    (increase b f notice w call).Alike (increase b f notice w' call') := by
  rw [increase, increase, hc, hf]
  split <;> exact ⟨rfl, rfl⟩

lemma setField_alike {α : Type} (b : Builtin) (f : Field α) (value? : String → Option α)
    (reason : String) (notices : α → List Notice) (hc : call'.args = call.args) :
    (setField b f value? reason notices w call).Alike
      (setField b f value? reason notices w' call') := by
  rw [setField, setField, hc]
  split <;> exact ⟨rfl, rfl⟩

end Writes

namespace Offers

variable (hv : v.SameButTimes v') (hc : call'.args = call.args)

include hv hc

lemma checkQuestAvailable_alike :
    (checkQuestAvailable v call).Alike (checkQuestAvailable v' call') := by
  rw [checkQuestAvailable, checkQuestAvailable, hc]
  split
  · exact ⟨rfl, rfl⟩
  · simp only [hv.flags, hv.ledger, hv.quests.isAvailable]
    split_ifs <;> exact ⟨rfl, rfl⟩

lemma checkAvailableQuests_alike :
    (checkAvailableQuests v call).Alike (checkAvailableQuests v' call') := by
  simp only [checkAvailableQuests, hc, hv.keys, hv.ledger, hv.quests.available,
    hv.quests.availableFrom]
  exact ⟨rfl, rfl⟩

lemma checkQuestsForDispatch_alike :
    (checkQuestsForDispatch v call).Alike (checkQuestsForDispatch v' call') := by
  rw [checkQuestsForDispatch, checkQuestsForDispatch, hc]
  split
  · exact ⟨rfl, rfl⟩
  · simp only [hv.ledger, hv.quests.available]
    exact ⟨rfl, rfl⟩

end Offers

namespace Transitions

variable (hv : v.SameButTimes v') (hc : call'.args = call.args)

include hv hc

lemma startQuest_sameButTimes : (startQuest v call).SameButTimes (startQuest v' call') := by
  by_cases hi : call.args = [] ∨ call.args = [""]
  · exact (startQuest_idle hi).sameButTimes (startQuest_idle (hc ▸ hi)) hv.quests
  rw [not_or] at hi
  obtain ⟨id, hid⟩ := Option.ne_none_iff_exists'.1 (mt List.head?_eq_none_iff.1 hi.1)
  have hid' : call'.args.head? = some id := hc ▸ hid
  have hne' : call'.args ≠ [""] := hc ▸ hi.2
  have hiff : v'.quests.Startable v'.ledger id ↔ v.quests.Startable v.ledger id := by
    rw [hv.ledger]
    exact hv.quests.startable_iff _ id
  by_cases hq : v.quests.Startable v.ledger id
  · have h' := startQuest_accepted hid' hne' (hiff.2 hq)
    rw [hv.keys] at h'
    exact (startQuest_accepted hid hi.2 hq).sameButTimes h' (hv.quests.recorded .start _ _ id)
  · exact (startQuest_refused hid hi.2 hq).sameButTimes
      (startQuest_refused hid' hne' (mt hiff.1 hq)) hv.quests

lemma completeQuest_sameButTimes :
    (completeQuest v call).SameButTimes (completeQuest v' call') := by
  by_cases hi : call.args = [] ∨ call.args = [""]
  · exact (completeQuest_idle hi).sameButTimes (completeQuest_idle (hc ▸ hi)) hv.quests
  rw [not_or] at hi
  obtain ⟨id, hid⟩ := Option.ne_none_iff_exists'.1 (mt List.head?_eq_none_iff.1 hi.1)
  have hid' : call'.args.head? = some id := hc ▸ hid
  have hne' : call'.args ≠ [""] := hc ▸ hi.2
  cases hq : v.quests.contains id with
  | true =>
    have h' := completeQuest_accepted hid' hne' ((hv.quests.contains id).trans hq)
    rw [hv.keys] at h'
    exact (completeQuest_accepted hid hi.2 hq).sameButTimes h'
      (hv.quests.recorded .complete _ _ id)
  | false =>
    exact (completeQuest_refused hid hi.2 hq).sameButTimes
      (completeQuest_refused hid' hne' ((hv.quests.contains id).trans hq)) hv.quests

end Transitions

namespace Builtin

variable (hv : v.SameButTimes v') (hc : call'.args = call.args)

include hv hc

lemma plan_alike {b : Builtin} (hs : b ≠ startQuest) (hcq : b ≠ completeQuest) :
    (b.plan v call).Alike (b.plan v' call') := by
  cases b with
  | ifFlag => exact Branches.ifFlag_alike hv.flags hc
  | switchFlag => exact Branches.switchFlag_alike hv.flags hc
  | canRejoin => exact Branches.canRejoin_alike hv.flags hc
  | setFlag => exact Writes.setFlag_alike hc
  | addFlag => exact Writes.addFlag_alike hv.flags hc
  | addKarma | addContribution => exact Writes.increase_alike _ _ _ hv.flags hc
  | setRank | setPhase | setAutoDialogNpc | setArenaResult =>
    exact Writes.setField_alike _ _ _ _ _ hc
  | checkQuestAvailable => exact Offers.checkQuestAvailable_alike hv hc
  | checkAvailableQuests => exact Offers.checkAvailableQuests_alike hv hc
  | checkQuestsForDispatch => exact Offers.checkQuestsForDispatch_alike hv hc
  | clearSession | debugPlayerState | debugQuestState | debugSessionState => exact ⟨rfl, rfl⟩
  | startQuest => exact absurd rfl hs
  | completeQuest => exact absurd rfl hcq

/-- **A built-in command does the same at any time**, but for the time that it records. -/
theorem plan_sameButTimes (b : Builtin) : (b.plan v call).SameButTimes (b.plan v' call') := by
  by_cases hs : b = startQuest
  · subst hs
    exact Transitions.startQuest_sameButTimes hv hc
  by_cases hcq : b = completeQuest
  · subst hcq
    exact Transitions.completeQuest_sameButTimes hv hc
  refine ⟨plan_alike hv hc hs hcq, ?_⟩
  rw [(plan_within hs hcq v call).quests, (plan_within hs hcq v' call').quests]
  exact hv.quests

end Builtin

end Commands

/-! ### Commands and engines -/

variable {σ : Type}

structure Context.SameButTimes (ctx ctx' : Context σ QuestCatalog) : Prop where
  flags : ctx'.flags = ctx.flags
  keys : ctx'.keys = ctx.keys
  quests : ctx.quests.SameButTimes ctx'.quests

lemma Context.SameButTimes.refl (ctx : Context σ QuestCatalog) : ctx.SameButTimes ctx :=
  ⟨rfl, rfl, .refl _⟩

structure Engine.SameButTimes (e e' : Engine σ QuestCatalog) : Prop where
  registry : e'.registry = e.registry
  context : e.context.SameButTimes e'.context

lemma Engine.SameButTimes.refl (e : Engine σ QuestCatalog) : e.SameButTimes e := ⟨rfl, .refl _⟩

/-- A command that looks at no times: called with the same arguments from the same place, it comes
to the same decision and leaves the same context, but for times. -/
def Command.Timeless (c : Command σ QuestCatalog) : Prop :=
  ∀ ctx ctx' : Context σ QuestCatalog, ctx.SameButTimes ctx' → ∀ args site now now',
    (c.execute ctx' ⟨args, site, now'⟩).val.1.decision? =
        (c.execute ctx ⟨args, site, now⟩).val.1.decision? ∧
      (c.execute ctx ⟨args, site, now⟩).val.2.SameButTimes (c.execute ctx' ⟨args, site, now'⟩).val.2

variable [FlagStore σ]

def Engine.Timeless (e : Engine σ QuestCatalog) : Prop :=
  ∀ (name : String) (c : Command σ QuestCatalog),
    e.registry.prepare.val.commands[name]? = some c → c.Timeless

lemma Context.SameButTimes.view {ctx ctx' : Context σ QuestCatalog} (h : ctx.SameButTimes ctx') :
    ctx.view.SameButTimes ctx'.view where
  flags := congrArg FlagStore.get h.flags
  keys := h.keys
  quests := h.quests

theorem Builtin.timeless_command (b : Builtin) : (b.command : Command σ QuestCatalog).Timeless := by
  intro ctx ctx' h args site now now'
  have hargs : Call.args ⟨args, site, now'⟩ = Call.args ⟨args, site, now⟩ := rfl
  have hplan := b.plan_sameButTimes h.view hargs
  simp only [command, Context.val_perform, Outcome.decision?_ofAnswer]
  refine ⟨hplan.answer, ?_, h.keys, hplan.quests⟩
  simp only [Context.after, hplan.writes, h.flags]

namespace Engine

theorem timeless_ofContext (ctx : Context σ QuestCatalog) : (ofContext ctx).val.Timeless := by
  intro name c hc
  rw [val_ofContext, Registry.prepare_standard, Logged.val_pure, Registry.commands_standard] at hc
  obtain ⟨b, -, rfl⟩ := Option.map_eq_some_iff.1 hc
  exact b.timeless_command

theorem Timeless.register {e : Engine σ QuestCatalog} (he : e.Timeless)
    {c : Command σ QuestCatalog} (hc : c.Timeless) : (e.register c).val.Timeless := by
  intro name c' hc'
  have hregistry : (e.register c).val.registry.prepare.val = e.registry.prepare.val.bind c := by
    have hready : (e.registry.prepare.val.bind c).ready = true := e.registry.ready_prepare
    exact congrArg Logged.val (Registry.prepare_of_ready hready)
  rw [hregistry, Registry.commands_bind] at hc'
  split_ifs at hc'
  · exact Option.some.inj hc' ▸ hc
  · exact he name c' hc'

lemma Timeless.invoke {e : Engine σ QuestCatalog} (he : e.Timeless) (name : String) (call : Call) :
    (e.invoke name call).val.2.Timeless := by
  intro name' c hc
  rw [registry_invoke, Registry.prepare_prepare] at hc
  exact he name' c hc

lemma SameButTimes.invoke {e e' : Engine σ QuestCatalog} (he : e.Timeless) (h : e.SameButTimes e')
    (name : String) (args : List String) (site : CallSite) (now now' : Instant) :
    (e'.invoke name ⟨args, site, now'⟩).val.1 = (e.invoke name ⟨args, site, now⟩).val.1 ∧
      (e.invoke name ⟨args, site, now⟩).val.2.SameButTimes
        (e'.invoke name ⟨args, site, now'⟩).val.2 := by
  cases hc : e.registry.prepare.val.commands[name]? with
  | none =>
    have hc' : e'.registry.prepare.val.commands[name]? = none := by rwa [h.registry]
    rw [val_invoke_of_unbound hc, val_invoke_of_unbound hc', h.registry]
    exact ⟨rfl, rfl, h.context⟩
  | some c =>
    have hc' : e'.registry.prepare.val.commands[name]? = some c := by rwa [h.registry]
    obtain ⟨hanswer, hctx⟩ := he name c hc _ _ h.context args site now now'
    rw [val_invoke_of_bound hc, val_invoke_of_bound hc', h.registry]
    exact ⟨hanswer, rfl, hctx⟩

def untimed (c : String × Call) : String × List String × CallSite := (c.1, c.2.args, c.2.site)

/-- **Times do not bear on runs**: the same invocations made at other times give the same answers,
and leave the same engine but for times. -/
theorem SameButTimes.run {e e' : Engine σ QuestCatalog} (he : e.Timeless) (h : e.SameButTimes e')
    {calls calls' : List (String × Call)} (hcalls : calls'.map untimed = calls.map untimed) :
    e'.answers calls' = e.answers calls ∧ (e.run calls).SameButTimes (e'.run calls') := by
  induction calls generalizing e e' calls' with
  | nil =>
    obtain rfl := List.map_eq_nil_iff.1 hcalls
    exact ⟨rfl, h⟩
  | cons c calls ih =>
    obtain ⟨⟨name', args', site', now'⟩, calls', rfl, hc, hrest⟩ := List.map_eq_cons_iff.1 hcalls
    obtain ⟨name, args, site, now⟩ := c
    obtain ⟨rfl, rfl, rfl⟩ : name' = name ∧ args' = args ∧ site' = site := by
      simpa [untimed] using hc
    obtain ⟨hanswer, hengine⟩ := h.invoke he name' args' site' now now'
    obtain ⟨hanswers, hrun⟩ := ih (he.invoke _ _) hengine hrest
    exact ⟨by rw [answers_cons, answers_cons, hanswer, hanswers], hrun⟩

end Engine

end Questline
