import Mathlib.Data.List.Induction
import Questline.Proofs.Quest.Transition

/-!
What a journal tells of the events that it recorded. The entry of a quest is a function of its
history alone: it keeps the time of a start that came first and of the last completion, and events
of other quests do not touch it.
-/

namespace Questline

/-- A start or a completion of a quest, as it is reported to a journal. -/
structure JournalEvent where
  kind : Transition
  id : String
  time : Instant
deriving DecidableEq, Repr

namespace JournalEvent

def start? (e : JournalEvent) : Option Instant := if e.kind = .start then some e.time else none

def Completes (e : JournalEvent) (id : String) : Prop := e.id = id ∧ e.kind = .complete

instance (e : JournalEvent) (id : String) : Decidable (e.Completes id) :=
  inferInstanceAs (Decidable (_ ∧ _))

def IsFirst (e : JournalEvent) (es : List JournalEvent) (id : String) : Prop :=
  ∃ before after, es = before ++ e :: after ∧ e.id = id ∧ ∀ b ∈ before, b.id ≠ id

variable {e : JournalEvent} {es : List JournalEvent} {id : String}

lemma find?_eq_some_iff_isFirst : es.find? (fun e => e.id = id) = some e ↔ e.IsFirst es id := by
  rw [List.find?_eq_some_iff_append]
  constructor
  · rintro ⟨hid, before, after, hes, hbefore⟩
    exact ⟨before, after, hes, by simpa using hid, fun b hb => by simpa using hbefore b hb⟩
  · rintro ⟨before, after, hes, hid, hbefore⟩
    exact ⟨by simpa using hid, before, after, hes, fun b hb => by simpa using hbefore b hb⟩

def completions (es : List JournalEvent) (id : String) : List Instant :=
  (es.filter fun e => e.Completes id).map time

lemma completions_ne_nil_iff : completions es id ≠ [] ↔ ∃ e ∈ es, e.Completes id := by
  simp [completions]

end JournalEvent

open JournalEvent (completions)

namespace Journal

def record (j : Journal) (e : JournalEvent) : Journal := e.kind.recorded j e.time e.id

def ofEvents (es : List JournalEvent) : Journal := es.foldl record {}

/-- The entry of a quest, from its first event and the times of its completions. -/
def entryFor (id : String) (first : JournalEvent) (completions : List Instant) : JournalEntry where
  questId := id
  status := if completions = [] then .active else .completed
  startedAt := first.start?
  completedAt := completions.getLast?

/-! ### One more event -/

lemma ofEvents_concat (es : List JournalEvent) (e : JournalEvent) :
    ofEvents (es ++ [e]) = (ofEvents es).record e := List.foldl_concat ..

lemma get?_record (j : Journal) (e : JournalEvent) (id : String) :
    (j.record e).get? id =
      if e.id = id then some (e.kind.entry e.time e.id (j.get? e.id)) else j.get? id :=
  e.kind.get?_recorded j e.time e.id id

lemma entry_first (e : JournalEvent) :
    e.kind.entry e.time e.id none = entryFor e.id e (completions [e] e.id) := by
  obtain ⟨kind, id, time⟩ := e
  cases kind <;> simp [Transition.entry, entryFor, JournalEvent.start?, completions,
    JournalEvent.Completes]

/-- An event that does not come first adds a completion at most. -/
lemma entry_later (e first : JournalEvent) (times : List Instant) :
    e.kind.entry e.time e.id (some (entryFor e.id first times)) =
      entryFor e.id first (times ++ completions [e] e.id) := by
  obtain ⟨kind, id, time⟩ := e
  cases kind <;> simp [Transition.entry, entryFor, completions, JournalEvent.Completes]

/-! ### The history of a quest -/

/-- **The entry of a quest**: it is there from the first event of the quest on, and is made of that
event and of all completions. -/
theorem get?_ofEvents (es : List JournalEvent) (id : String) :
    (ofEvents es).get? id =
      (es.find? fun e => e.id = id).map fun first => entryFor id first (completions es id) := by
  induction es using List.reverseRecOn with
  | nil => exact Std.ExtTreeMap.getElem?_empty
  | append_singleton es e ih =>
    have hcompletions : completions (es ++ [e]) id = completions es id ++ completions [e] id := by
      simp [completions]
    rw [ofEvents_concat, get?_record, List.find?_append, hcompletions]
    by_cases h : e.id = id
    · subst h
      rw [if_pos rfl, ih]
      cases hfirst : es.find? fun a => a.id = e.id with
      | some first => simp [entry_later]
      | none =>
        have hnone : completions es e.id = [] := by
          refine not_not.1 (mt JournalEvent.completions_ne_nil_iff.1 ?_)
          rintro ⟨a, ha, hid, -⟩
          simpa [hid] using List.find?_eq_none.1 hfirst a ha
        simp [entry_first, hnone]
    · have hother : completions [e] id = [] := by simp [completions, JournalEvent.Completes, h]
      rw [if_neg h, ih, hother, List.append_nil]
      simp [h]

end Journal

/-! ### What entries tell -/

/-- What an entry tells of the events of its quest: whether one completed it, and at which time it
was started if a start came first. -/
structure JournalEntry.Recounts (entry : JournalEntry) (es : List JournalEvent) (id : String) :
    Prop where
  questId : entry.questId = id
  status_iff : entry.status = .completed ↔ ∃ e ∈ es, e.Completes id
  startedAt_iff (t : Instant) :
    entry.startedAt = some t ↔ ∃ e : JournalEvent, e.IsFirst es id ∧ e.kind = .start ∧ e.time = t
  completedAt_iff : entry.completedAt.isSome = true ↔ entry.status = .completed
  seconds_iff : entry.completionSeconds.isSome = true ↔
    ∃ before first between last after,
      es = before ++ first :: (between ++ last :: after) ∧ (∀ b ∈ before, b.id ≠ id) ∧
        first.id = id ∧ first.kind = .start ∧ last.Completes id

lemma JournalEntry.isSome_completionSeconds {entry : JournalEntry} :
    entry.completionSeconds.isSome = true ↔
      entry.startedAt.isSome = true ∧ entry.completedAt.isSome = true := by
  obtain ⟨id, status, startedAt, completedAt⟩ := entry
  cases startedAt <;> cases completedAt <;> simp [completionSeconds]

namespace Journal

variable {es : List JournalEvent} {id : String} {first : JournalEvent}

lemma status_entryFor : (entryFor id first (completions es id)).status = .completed ↔
    ∃ e ∈ es, e.Completes id := by
  rw [← JournalEvent.completions_ne_nil_iff]
  by_cases h : completions es id = [] <;> simp [entryFor, h]

lemma isSome_completedAt_entryFor :
    (entryFor id first (completions es id)).completedAt.isSome = true ↔
      ∃ e ∈ es, e.Completes id := by
  rw [← JournalEvent.completions_ne_nil_iff]
  simp [entryFor]

lemma completes_iff_of_isFirst (hfirst : first.IsFirst es id) (hkind : first.kind = .start) :
    (∃ e ∈ es, e.Completes id) ↔ ∃ before start between last after,
      es = before ++ start :: (between ++ last :: after) ∧ (∀ b ∈ before, b.id ≠ id) ∧
        start.id = id ∧ start.kind = .start ∧ last.Completes id := by
  constructor
  · rintro ⟨e, he, hcompletes⟩
    obtain ⟨before, after, rfl, hid, hbefore⟩ := hfirst
    -- the completion is neither before the start nor the start itself
    have hafter : e ∈ after := by
      rcases List.mem_append.1 he with hmem | hmem
      · exact absurd hcompletes.1 (hbefore e hmem)
      · rcases List.mem_cons.1 hmem with rfl | hmem
        · cases hkind.symm.trans hcompletes.2
        · exact hmem
    obtain ⟨between, rest, rfl⟩ := List.append_of_mem hafter
    exact ⟨before, first, between, e, rest, rfl, hbefore, hid, hkind, hcompletes⟩
  · rintro ⟨before, start, between, last, after, rfl, -, -, -, hlast⟩
    exact ⟨last, by simp, hlast⟩

lemma recounts_entryFor (hfirst : es.find? (fun e => e.id = id) = some first) :
    (entryFor id first (completions es id)).Recounts es id where
  questId := rfl
  status_iff := status_entryFor
  startedAt_iff t := by
    have hstart : (entryFor id first (completions es id)).startedAt = some t ↔
        first.kind = .start ∧ first.time = t := by
      simp [entryFor, JournalEvent.start?]
    rw [hstart]
    constructor
    · exact fun h => ⟨first, JournalEvent.find?_eq_some_iff_isFirst.1 hfirst, h⟩
    · rintro ⟨e, he, h⟩
      obtain rfl : first = e :=
        Option.some.inj (hfirst.symm.trans (JournalEvent.find?_eq_some_iff_isFirst.2 he))
      exact h
  completedAt_iff := isSome_completedAt_entryFor.trans status_entryFor.symm
  seconds_iff := by
    rw [JournalEntry.isSome_completionSeconds, isSome_completedAt_entryFor]
    have hisFirst := JournalEvent.find?_eq_some_iff_isFirst.1 hfirst
    by_cases hkind : first.kind = .start
    · simp [entryFor, JournalEvent.start?, hkind, completes_iff_of_isFirst hisFirst hkind]
    · have hno : ¬ (entryFor id first (completions es id)).startedAt.isSome = true := by
        simp [entryFor, JournalEvent.start?, hkind]
      refine iff_of_false (fun h => hno h.1) ?_
      rintro ⟨before, start, between, last, after, hes, hbefore, hid, hstart, -⟩
      have hsome := JournalEvent.find?_eq_some_iff_isFirst.2 ⟨before, _, hes, hid, hbefore⟩
      cases hfirst.symm.trans hsome
      exact hkind hstart

structure Recounts (j : Journal) (es : List JournalEvent) (id : String) : Prop where
  exists_iff : (∃ entry, j.get? id = some entry) ↔ ∃ e ∈ es, e.id = id
  entry : ∀ entry ∈ j.get? id, entry.Recounts es id
  isCompleted_iff :
    j.isCompleted id = true ↔ ∃ entry, j.get? id = some entry ∧ entry.status = .completed

lemma recounts_ofEvents (es : List JournalEvent) (id : String) :
    (ofEvents es).Recounts es id where
  exists_iff := by
    rw [get?_ofEvents, ← Option.isSome_iff_exists, Option.isSome_map]
    simp
  entry entry hentry := by
    rw [get?_ofEvents] at hentry
    obtain ⟨first, hfirst, rfl⟩ := Option.map_eq_some_iff.1 hentry
    exact recounts_entryFor hfirst
  isCompleted_iff := by
    cases h : (ofEvents es).get? id <;> simp [isCompleted, h]

/-- Events of other quests may be left out. -/
lemma get?_ofEvents_filter (es : List JournalEvent) (id : String) :
    (ofEvents (es.filter fun e => e.id = id)).get? id = (ofEvents es).get? id := by
  have hcompletions : completions (es.filter fun e => e.id = id) id = completions es id := by
    refine congrArg (List.map JournalEvent.time) ?_
    rw [List.filter_filter]
    refine List.filter_congr fun e _ => ?_
    by_cases h : e.id = id <;> simp [JournalEvent.Completes, h]
  rw [get?_ofEvents, get?_ofEvents, hcompletions, List.find?_filter]
  simp

/-- An entry stays, with its time of start, whatever is recorded later. -/
lemma startedAt_ofEvents_append (es more : List JournalEvent) {entry : JournalEntry}
    (hentry : (ofEvents es).get? id = some entry) :
    ∃ later, (ofEvents (es ++ more)).get? id = some later ∧ later.startedAt = entry.startedAt := by
  rw [get?_ofEvents] at hentry
  obtain ⟨first, hfirst, rfl⟩ := Option.map_eq_some_iff.1 hentry
  refine ⟨entryFor id first (completions (es ++ more) id), ?_, rfl⟩
  rw [get?_ofEvents, List.find?_append, hfirst]
  rfl

/-- **What a journal tells**: after any events on a new journal it recounts those of each quest. Its
entries keep their times of start from then on, and are those of a journal that never heard of any
other quest. -/
theorem journal_recounts_history (es : List JournalEvent) (id : String) :
    (ofEvents es).Recounts es id ∧
      (∀ more entry, (ofEvents es).get? id = some entry →
        ∃ later, (ofEvents (es ++ more)).get? id = some later ∧
          later.startedAt = entry.startedAt) ∧
      (ofEvents es).get? id = (ofEvents (es.filter fun e => e.id = id)).get? id :=
  ⟨recounts_ofEvents es id, fun more _ => startedAt_ofEvents_append es more,
    (get?_ofEvents_filter es id).symm⟩

/-- A quest is started between events of another one, then started again and completed twice. The
first start counts, and the last completion. -/
theorem journal_recounts_history_wolves :
    let es : List JournalEvent :=
      [⟨.complete, "herbs", ⟨3, 0⟩⟩, ⟨.start, "wolves", ⟨5, 0⟩⟩, ⟨.start, "herbs", ⟨6, 0⟩⟩]
    let more : List JournalEvent :=
      [⟨.start, "wolves", ⟨7, 0⟩⟩, ⟨.complete, "wolves", ⟨8, 0⟩⟩, ⟨.complete, "wolves", ⟨9, 0⟩⟩]
    (ofEvents es).get? "herbs" = some ⟨"herbs", .completed, none, some ⟨3, 0⟩⟩ ∧
      (ofEvents es).get? "wolves" = some ⟨"wolves", .active, some ⟨5, 0⟩, none⟩ ∧
      (ofEvents (es ++ more)).get? "wolves" =
        some ⟨"wolves", .completed, some ⟨5, 0⟩, some ⟨9, 0⟩⟩ ∧
      (ofEvents (es ++ more)).Recounts (es ++ more) "wolves" ∧
      ∃ later, (ofEvents (es ++ more)).get? "wolves" = some later ∧
        later.startedAt = some ⟨5, 0⟩ := by
  intro es more
  have hwolves : (ofEvents es).get? "wolves" = some ⟨"wolves", .active, some ⟨5, 0⟩, none⟩ := by
    rw [get?_ofEvents]
    rfl
  refine ⟨?herbs, hwolves, ?both, (journal_recounts_history (es ++ more) "wolves").1,
    (journal_recounts_history es "wolves").2.1 more _ hwolves⟩
  case herbs =>
    rw [get?_ofEvents]
    rfl
  case both =>
    rw [get?_ofEvents]
    rfl

end Journal

end Questline
