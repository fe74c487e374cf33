import Questline.Proofs.Dispatch.Invocation
import Questline.Proofs.Quest.Keys
import Questline.Proofs.Quest.Table

/-!
What the built-in commands do to the quests of a catalog. A start or a completion is accepted with a
given journal entry and given writes, or refused without any change, and an invocation by its name
answers and changes just that. All other commands keep to their footprints.
-/

namespace Questline

/-! ### The journal -/

namespace Journal

variable (j : Journal) (now : Instant)

lemma ext_get? {j j' : Journal} (h : ∀ id, j.get? id = j'.get? id) : j = j' :=
  congrArg Journal.mk (Std.ExtTreeMap.ext_getElem? h)

lemma get?_recordStart_self (id : String) :
    (j.recordStart now id).get? id = some ((j.get? id).getD ⟨id, .active, some now, none⟩) := by
  rw [recordStart]
  split
  · next e he => rw [he]; rfl
  · next he => rw [he, get?, Std.ExtTreeMap.getElem?_insert_self]; rfl

lemma get?_recordStart_of_ne {a b : String} (h : a ≠ b) :
    (j.recordStart now a).get? b = j.get? b := by
  rw [recordStart]
  split
  · rfl
  · rw [get?, Std.ExtTreeMap.getElem?_insert,
      if_neg fun hc => h (Std.LawfulEqCmp.compare_eq_iff_eq.1 hc)]
    rfl

/-- A quest that has an entry keeps its journal when it starts again. -/
lemma recordStart_of_isSome {id : String} (h : (j.get? id).isSome) : j.recordStart now id = j := by
  rw [recordStart]
  split
  · rfl
  · next he => simp [he] at h

lemma get?_recordCompletion_self (id : String) :
    (j.recordCompletion now id).get? id =
      some ⟨id, .completed, (j.get? id).bind JournalEntry.startedAt, some now⟩ := by
  rw [recordCompletion, get?, Std.ExtTreeMap.getElem?_insert_self]

lemma get?_recordCompletion_of_ne {a b : String} (h : a ≠ b) :
    (j.recordCompletion now a).get? b = j.get? b := by
  rw [recordCompletion, get?, Std.ExtTreeMap.getElem?_insert,
    if_neg fun hc => h (Std.LawfulEqCmp.compare_eq_iff_eq.1 hc)]
  rfl

lemma isCompleted_eq_false {id : String} :
    j.isCompleted id = false ↔ ∀ e ∈ j.get? id, e.status ≠ .completed := by
  rw [isCompleted]
  cases j.get? id <;> simp

end Journal

/-! ### Transitions of a journal -/

/-- An entry of a journal without its times: the quest and its status, and which times there are. -/
def JournalEntry.outline (e : JournalEntry) : String × JournalStatus × Bool × Bool :=
  (e.questId, e.status, e.startedAt.isSome, e.completedAt.isSome)

inductive Transition where
  | start | complete
deriving DecidableEq, Repr

namespace Transition

def builtin : Transition → Builtin
  | start => .startQuest
  | complete => .completeQuest

def writes (keys : QuestKeys) (id : String) : Transition → List (String × Int32)
  | start => [(keys.active id).write true]
  | complete => keys.completed id

/-- The journal entry of a quest after a transition, from the one before. -/
def entry (now : Instant) (id : String) (before : Option JournalEntry) : Transition → JournalEntry
  | start => before.getD ⟨id, .active, some now, none⟩
  | complete => ⟨id, .completed, before.bind JournalEntry.startedAt, some now⟩

def recorded (j : Journal) (now : Instant) (id : String) : Transition → Journal
  | start => j.recordStart now id
  | complete => j.recordCompletion now id

lemma get?_recorded (t : Transition) (j : Journal) (now : Instant) (a b : String) :
    (t.recorded j now a).get? b =
      if a = b then some (t.entry now a (j.get? a)) else j.get? b := by
  split_ifs with h
  · subst h
    cases t with
    | start => exact j.get?_recordStart_self now a
    | complete => exact j.get?_recordCompletion_self now a
  · cases t with
    | start => exact j.get?_recordStart_of_ne now h
    | complete => exact j.get?_recordCompletion_of_ne now h

end Transition

lemma Journal.isCompleted_eq_outline (j : Journal) (id : String) :
    j.isCompleted id = ((j.get? id).map JournalEntry.outline).any fun o => o.2.1 == .completed := by
  rw [isCompleted, Option.any_map]
  rfl

lemma Transition.outline_entry (t : Transition) (now now' : Instant) (id : String)
    {e e' : Option JournalEntry} (h : e'.map JournalEntry.outline = e.map JournalEntry.outline) :
    (t.entry now' id e').outline = (t.entry now id e).outline := by
  cases e with
  | none =>
    obtain rfl : e' = none := Option.map_eq_none_iff.1 h
    cases t <;> rfl
  | some e =>
    obtain ⟨e', rfl, he⟩ := Option.map_eq_some_iff.1 h
    cases t with
    | start => exact he
    | complete =>
      have hstarted : e'.startedAt.isSome = e.startedAt.isSome := congrArg (·.2.2.1) he
      simp only [entry, JournalEntry.outline, Option.bind_some, hstarted, Option.isSome_some]

/-! ### Transitions of a catalog -/

namespace QuestCatalog

/-- The catalog of one quest that asks for nothing. -/
def single (id : String) : QuestCatalog :=
  empty.insertAll [{ id := id, name := id, type := .subQuest, priority := 0 }]

@[simp] lemma contains_single (id : String) : (single id).contains id = true := by
  rw [contains, single, table_insertAll]
  exact (QuestTable.contains_put _ _ _).2 (.inl rfl)

/-- A quest that the catalog can start: it is known and nothing records that it was completed. -/
structure Startable (c : QuestCatalog) (l : Ledger) (id : String) : Prop where
  known : c.contains id = true
  notDone : l.isCompleted id = false
  notRecorded : c.journal.isCompleted id = false

def started (c : QuestCatalog) (now : Instant) (id : String) : QuestCatalog :=
  { c with journal := c.journal.recordStart now id }

def completed (c : QuestCatalog) (now : Instant) (id : String) : QuestCatalog :=
  { c with journal := c.journal.recordCompletion now id }

variable {c : QuestCatalog} {l : Ledger} {id : String}

lemma val_start_of_startable (h : c.Startable l id) (now : Instant) :
    (c.start l now id).val = .ok (c.started now id) := by
  simp [start, started, h.known, h.notDone, h.notRecorded]

lemma val_start_of_not_startable (h : ¬ c.Startable l id) (now : Instant) :
    ∃ cause, (c.start l now id).val = .error cause := by
  rw [start]
  split_ifs with hk hd
  · exact ⟨_, rfl⟩
  · exact ⟨_, rfl⟩
  · simp only [Bool.not_eq_true', Bool.not_eq_false, Bool.or_eq_true, not_or,
      Bool.not_eq_true] at hk hd
    exact absurd ⟨hk, hd.1, hd.2⟩ h

lemma val_complete_of_contains (h : c.contains id = true) (now : Instant) :
    (c.complete now id).val = .ok (c.completed now id) := by
  simp [complete, completed, h]

lemma val_complete_of_not_contains (h : c.contains id = false) (now : Instant) :
    (c.complete now id).val = .error (.unknownQuest id) := by
  simp [complete, h]

end QuestCatalog

/-- What a plan comes to: the quests it leaves, its writes, and its answer. -/
structure Plan.Does {μ : Type} (p : Plan μ) (quests : μ) (ws : List (String × Int32))
    (answer : Option Decision) : Prop where
  quests : p.quests = quests
  writes : p.writes = ws
  answer : p.answer.toOption = answer

namespace Transitions

lemma questId?_of_head (b : Builtin) {args : List String} {id : String}
    (hid : args.head? = some id) (hne : args ≠ [""]) :
    ∃ notes, questId? b args = (notes, some id) ∧ notes.filterMap Effect.write? = [] := by
  obtain ⟨hn, h⟩ := questId?_eq b args
  rw [if_neg hne, hid] at h
  exact ⟨_, Prod.ext rfl h, hn⟩

lemma questId?_idle (b : Builtin) {args : List String} (h : args = [] ∨ args = [""]) :
    ∃ notes, questId? b args = (notes, none) ∧ notes.filterMap Effect.write? = [] := by
  rcases h with rfl | rfl <;> exact ⟨_, rfl, rfl⟩

variable {μ : Type} (v : View μ)

lemma conclude_of_ok {notes : List Effect} (hn : notes.filterMap Effect.write? = [])
    {reply : Logged (Except QuestError μ)} {quests : μ} (hr : reply.val = .ok quests)
    (es : List Effect) :
    (conclude v notes reply es).Does quests (es.filterMap Effect.write?) (some .none) := by
  simp only [conclude, hr]
  exact ⟨rfl, by simp [Plan.writes, hn], rfl⟩

lemma conclude_of_error {notes : List Effect} (hn : notes.filterMap Effect.write? = [])
    {reply : Logged (Except QuestError μ)} {cause : QuestError} (hr : reply.val = .error cause)
    (es : List Effect) : (conclude v notes reply es).Does v.quests [] none := by
  simp only [conclude, hr]
  exact ⟨rfl, by simp [Plan.writes, hn], rfl⟩

variable {v : View QuestCatalog} {call : Call} {id : String}

lemma startQuest_idle (h : call.args = [] ∨ call.args = [""]) :
    (startQuest v call).Does v.quests [] (some .none) := by
  obtain ⟨notes, hq, hn⟩ := questId?_idle .startQuest h
  rw [startQuest, hq]
  exact ⟨rfl, hn, rfl⟩

lemma startQuest_accepted (hid : call.args.head? = some id) (hne : call.args ≠ [""])
    (h : v.quests.Startable v.ledger id) :
    (startQuest v call).Does (v.quests.started call.time id)
      [(v.keys.quests.active id).write true] (some .none) := by
  obtain ⟨notes, hq, hn⟩ := questId?_of_head .startQuest hid hne
  rw [startQuest, hq]
  dsimp only
  rw [if_neg (by simp [h.notDone])]
  have := conclude_of_ok v hn (QuestCatalog.val_start_of_startable h call.time)
    (Effect.ofWrites [(v.keys.quests.active id).write true] ++ [.note (.questActivated id)])
  rwa [List.filterMap_append, Effect.filterMap_ofWrites] at this

lemma startQuest_refused (hid : call.args.head? = some id) (hne : call.args ≠ [""])
    (h : ¬ v.quests.Startable v.ledger id) : (startQuest v call).Does v.quests [] none := by
  obtain ⟨notes, hq, hn⟩ := questId?_of_head .startQuest hid hne
  rw [startQuest, hq]
  dsimp only
  split_ifs with hd
  · exact ⟨rfl, hn, rfl⟩
  · obtain ⟨cause, hr⟩ := QuestCatalog.val_start_of_not_startable h call.time
    exact conclude_of_error v hn hr _

lemma completeQuest_idle (h : call.args = [] ∨ call.args = [""]) :
    (completeQuest v call).Does v.quests [] (some .none) := by
  obtain ⟨notes, hq, hn⟩ := questId?_idle .completeQuest h
  rw [completeQuest, hq]
  exact ⟨rfl, hn, rfl⟩

lemma completeQuest_accepted (hid : call.args.head? = some id) (hne : call.args ≠ [""])
    (h : v.quests.contains id = true) :
    (completeQuest v call).Does (v.quests.completed call.time id)
      (v.keys.quests.completed id) (some .none) := by
  obtain ⟨notes, hq, hn⟩ := questId?_of_head .completeQuest hid hne
  rw [completeQuest, hq]
  have := conclude_of_ok v hn (QuestCatalog.val_complete_of_contains h call.time)
    (Effect.ofWrites (v.keys.quests.completed id) ++ [.note (.questFinished id)])
  rwa [List.filterMap_append, Effect.filterMap_ofWrites] at this

lemma completeQuest_refused (hid : call.args.head? = some id) (hne : call.args ≠ [""])
    (h : v.quests.contains id = false) : (completeQuest v call).Does v.quests [] none := by
  obtain ⟨notes, hq, hn⟩ := questId?_of_head .completeQuest hid hne
  rw [completeQuest, hq]
  exact conclude_of_error v hn (QuestCatalog.val_complete_of_not_contains h call.time) _

end Transitions

namespace Builtin

/-- All that a command may do to quests: keep to its footprint, do nothing as a transition that is
idle or refused, start a quest, or complete one. -/
inductive Conduct (b : Builtin) (v : View QuestCatalog) (call : Call) : Prop
  | other (hs : b ≠ startQuest) (hc : b ≠ completeQuest)
      (h : (b.plan v call).Within v (b.footprint v.keys call.args))
  | nothing (answer : Option Decision) (h : (b.plan v call).Does v.quests [] answer)
  | start (id : String) (hb : b = startQuest) (hid : call.args.head? = some id)
      (hq : v.quests.Startable v.ledger id)
      (h : (b.plan v call).Does (v.quests.started call.time id)
        [(v.keys.quests.active id).write true] (some .none))
  | complete (id : String) (hb : b = completeQuest) (hid : call.args.head? = some id)
      (hq : v.quests.contains id = true)
      (h : (b.plan v call).Does (v.quests.completed call.time id)
        (v.keys.quests.completed id) (some .none))

theorem conduct (b : Builtin) (v : View QuestCatalog) (call : Call) : b.Conduct v call := by
  by_cases hs : b = startQuest
  · subst hs
    by_cases hi : call.args = [] ∨ call.args = [""]
    · exact .nothing _ (Transitions.startQuest_idle hi)
    rw [not_or] at hi
    obtain ⟨id, hid⟩ := Option.ne_none_iff_exists'.1 (mt List.head?_eq_none_iff.1 hi.1)
    by_cases hq : v.quests.Startable v.ledger id
    · exact .start id rfl hid hq (Transitions.startQuest_accepted hid hi.2 hq)
    · exact .nothing _ (Transitions.startQuest_refused hid hi.2 hq)
  by_cases hc : b = completeQuest
  · subst hc
    by_cases hi : call.args = [] ∨ call.args = [""]
    · exact .nothing _ (Transitions.completeQuest_idle hi)
    rw [not_or] at hi
    obtain ⟨id, hid⟩ := Option.ne_none_iff_exists'.1 (mt List.head?_eq_none_iff.1 hi.1)
    cases hq : v.quests.contains id with
    | true => exact .complete id rfl hid hq (Transitions.completeQuest_accepted hid hi.2 hq)
    | false => exact .nothing _ (Transitions.completeQuest_refused hid hi.2 hq)
  exact .other hs hc (plan_within hs hc v call)

end Builtin

/-! ### On a store -/

namespace Context

variable {σ : Type} [FlagStore σ] (ctx : Context σ QuestCatalog)

def started (now : Instant) (id : String) : Context σ QuestCatalog :=
  { ctx with
    flags := (FlagStore.set ctx.flags (ctx.keys.quests.activeKey id) 1).val
    quests := ctx.quests.started now id }

/-- The flags after the first write of a completion. -/
def markedDone (id : String) : σ :=
  (FlagStore.set ctx.flags (ctx.keys.quests.doneKey id) 1).val

def completed (now : Instant) (id : String) : Context σ QuestCatalog :=
  { ctx with
    flags := (FlagStore.set (ctx.markedDone id) (ctx.keys.quests.activeKey id) 0).val
    quests := ctx.quests.completed now id }

variable {ctx} {b : Builtin} {call : Call} {id : String} {answer : Option Decision}

lemma after_of_does {quests : QuestCatalog} {ws : List (String × Int32)}
    (h : (b.plan ctx.view call).Does quests ws answer) :
    ctx.after b call =
      { ctx with flags := (FlagStore.setAll ctx.flags ws).val, quests := quests } := by
  simp only [after, h.quests, h.writes]

lemma after_of_does_nothing (h : (b.plan ctx.view call).Does ctx.quests [] answer) :
    ctx.after b call = ctx := by
  rw [after_of_does h]
  rfl

lemma after_of_does_start (h : (b.plan ctx.view call).Does (ctx.quests.started call.time id)
    [(ctx.keys.quests.active id).write true] answer) :
    ctx.after b call = ctx.started call.time id := by
  rw [after_of_does h]
  rfl

lemma after_of_does_complete (h : (b.plan ctx.view call).Does
    (ctx.quests.completed call.time id) (ctx.keys.quests.completed id) answer) :
    ctx.after b call = ctx.completed call.time id := by
  rw [after_of_does h]
  rfl

/-- No command changes the definitions of a catalog. -/
lemma quests_after (ctx : Context σ QuestCatalog) (b : Builtin) (call : Call) :
    (ctx.after b call).quests.quests = ctx.quests.quests := by
  cases b.conduct ctx.view call with
  | other hs hc h => exact congrArg QuestCatalog.quests h.quests
  | nothing answer h => rw [after_of_does_nothing h]
  | start id hb hid hq h => rw [after_of_does_start h]; rfl
  | complete id hb hid hq h => rw [after_of_does_complete h]; rfl

end Context

lemma Call.args_ne_of_head {call : Call} {id : String} (hid : call.args.head? = some id)
    (hne : id ≠ "") : call.args ≠ [""] := by
  intro h
  rw [h] at hid
  exact hne (Option.some.inj hid).symm

namespace Engine

variable {σ : Type} [FlagStore σ] (ctx : Context σ QuestCatalog) (call : Call) {id : String}

lemma invoke_start_idle (h : call.args = [] ∨ call.args = [""]) :
    ((ofContext ctx).val.invoke "start_quest" call).val = (some .none, (ofContext ctx).val) := by
  have hd : (Builtin.plan .startQuest ctx.view call).Does ctx.quests [] (some .none) :=
    Transitions.startQuest_idle h
  have hi := val_invoke_name ctx .startQuest call
  rwa [hd.answer, Context.after_of_does_nothing hd] at hi

lemma invoke_start_accepted (hid : call.args.head? = some id) (hne : call.args ≠ [""])
    (hq : ctx.quests.Startable ctx.ledger id) :
    ((ofContext ctx).val.invoke "start_quest" call).val =
      (some .none, (ofContext (ctx.started call.time id)).val) := by
  have hd : (Builtin.plan .startQuest ctx.view call).Does (ctx.quests.started call.time id)
      [(ctx.keys.quests.active id).write true] (some .none) :=
    Transitions.startQuest_accepted hid hne hq
  have hi := val_invoke_name ctx .startQuest call
  rwa [hd.answer, Context.after_of_does_start hd] at hi

lemma invoke_start_refused (hid : call.args.head? = some id) (hne : call.args ≠ [""])
    (hq : ¬ ctx.quests.Startable ctx.ledger id) :
    ((ofContext ctx).val.invoke "start_quest" call).val = (none, (ofContext ctx).val) := by
  have hd : (Builtin.plan .startQuest ctx.view call).Does ctx.quests [] none :=
    Transitions.startQuest_refused hid hne hq
  have hi := val_invoke_name ctx .startQuest call
  rwa [hd.answer, Context.after_of_does_nothing hd] at hi

lemma invoke_complete_idle (h : call.args = [] ∨ call.args = [""]) :
    ((ofContext ctx).val.invoke "complete_quest" call).val =
      (some .none, (ofContext ctx).val) := by
  have hd : (Builtin.plan .completeQuest ctx.view call).Does ctx.quests [] (some .none) :=
    Transitions.completeQuest_idle h
  have hi := val_invoke_name ctx .completeQuest call
  rwa [hd.answer, Context.after_of_does_nothing hd] at hi

lemma invoke_complete_accepted (hid : call.args.head? = some id) (hne : call.args ≠ [""])
    (hq : ctx.quests.contains id = true) :
    ((ofContext ctx).val.invoke "complete_quest" call).val =
      (some .none, (ofContext (ctx.completed call.time id)).val) := by
  have hd : (Builtin.plan .completeQuest ctx.view call).Does
      (ctx.quests.completed call.time id) (ctx.keys.quests.completed id) (some .none) :=
    Transitions.completeQuest_accepted hid hne hq
  have hi := val_invoke_name ctx .completeQuest call
  rwa [hd.answer, Context.after_of_does_complete hd] at hi

lemma invoke_complete_refused (hid : call.args.head? = some id) (hne : call.args ≠ [""])
    (hq : ctx.quests.contains id = false) :
    ((ofContext ctx).val.invoke "complete_quest" call).val = (none, (ofContext ctx).val) := by
  have hd : (Builtin.plan .completeQuest ctx.view call).Does ctx.quests [] none :=
    Transitions.completeQuest_refused hid hne hq
  have hi := val_invoke_name ctx .completeQuest call
  rwa [hd.answer, Context.after_of_does_nothing hd] at hi

end Engine

end Questline
