import Questline.Instant
import Questline.Json
import Std.Data.ExtTreeMap

/-!
# The Quest Journal

When quests were started and completed. The flags remain the source of truth for quest bits; the
journal only keeps times, and a first start is never overwritten.
-/

namespace Questline

inductive JournalStatus where
  | active | completed
deriving DecidableEq, Repr

def JournalStatus.name : JournalStatus → String
  | active => "active"
  | completed => "completed"

structure JournalEntry where
  questId : String
  status : JournalStatus
  /-- Absent if the quest was completed without a start. -/
  startedAt : Option Instant
  completedAt : Option Instant
deriving DecidableEq, Repr

namespace JournalEntry

/-- Seconds between start and completion, once both are recorded. -/
def completionSeconds (e : JournalEntry) : Option Int :=
  match e.startedAt, e.completedAt with
  | some start, some finish => some (start.secondsUntil finish)
  | _, _ => none

def time : Option Instant → Json := Json.ofOption fun t => .str t.text

/-- The entry with its fields in order of declaration. -/
def toJson (e : JournalEntry) : Json :=
  .obj [
    ("quest_id", .str e.questId),
    ("status", .str e.status.name),
    ("started_at", time e.startedAt),
    ("completed_at", time e.completedAt)]

/-- The entry as a dump shows it, its members in order of name. -/
def dump (e : JournalEntry) : Json :=
  .obj [
    ("completed_at", time e.completedAt),
    ("completion_secs", Json.ofOption .int e.completionSeconds),
    ("started_at", time e.startedAt),
    ("status", .str e.status.name)]

end JournalEntry

structure Journal where
  entries : Std.ExtTreeMap String JournalEntry := ∅

namespace Journal

def get? (j : Journal) (id : String) : Option JournalEntry := j.entries[id]?

/-- Records a start. A quest that has an entry keeps it. -/
def recordStart (j : Journal) (now : Instant) (id : String) : Journal :=
  match j.get? id with
  | some _ => j
  | none => ⟨j.entries.insert id ⟨id, .active, some now, none⟩⟩

def recordCompletion (j : Journal) (now : Instant) (id : String) : Journal :=
  ⟨j.entries.insert id ⟨id, .completed, (j.get? id).bind JournalEntry.startedAt, some now⟩⟩

def isCompleted (j : Journal) (id : String) : Bool :=
  (j.get? id).any fun e => e.status == .completed

end Journal

end Questline
