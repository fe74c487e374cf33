import Questline.Flags.Field

/-!
# Quest Bits

Each quest has two flags, whether it is done and whether it is active, under keys made of a stem and
its id. A ledger reads them, beside all other flags, for those who decide what to offer. The stems,
and the keys under which offers are summarised, are the host's to choose.
-/

namespace Questline

/-- The stems of the keys under which quest bits are stored. -/
structure QuestKeys where
  doneStem : String := "quest_done_"
  activeStem : String := "quest_active_"
deriving DecidableEq, Repr

namespace QuestKeys

def doneKey (keys : QuestKeys) (id : String) : String := keys.doneStem ++ id

def activeKey (keys : QuestKeys) (id : String) : String := keys.activeStem ++ id

def done (keys : QuestKeys) (id : String) : Field Bool := .bool (keys.doneKey id)

def active (keys : QuestKeys) (id : String) : Field Bool := .bool (keys.activeKey id)

/-- The writes that complete a quest. They always clear its active bit too. -/
def completed (keys : QuestKeys) (id : String) : List (String × Int32) :=
  [(keys.done id).write true, (keys.active id).write false]

end QuestKeys

/-- The keys that a host may rename: the stems of quest bits, and the flags of the summary of
available quests. -/
structure EngineKeys where
  quests : QuestKeys := {}
  availableCount : String := "available_quest_count"
  hasRankUp : String := "available_has_rank_up"
  hasCharacterEvent : String := "available_has_character_event"
  hasSubQuest : String := "available_has_sub_quest"
  topQuestDigest : String := "available_top_quest_hash"
deriving DecidableEq, Repr

inductive QuestStatus where
  | notStarted | active | completed
deriving DecidableEq, Repr

def QuestStatus.name : QuestStatus → String
  | notStarted => "not_started"
  | active => "active"
  | completed => "completed"

/-- A read-only view of flags and quest bits. -/
structure Ledger where
  flags : FlagReader
  keys : QuestKeys

namespace Ledger

def isCompleted (l : Ledger) (id : String) : Bool := (l.keys.done id).read l.flags

def isActive (l : Ledger) (id : String) : Bool := (l.keys.active id).read l.flags

def status (l : Ledger) (id : String) : QuestStatus :=
  if l.isCompleted id then .completed else if l.isActive id then .active else .notStarted

end Ledger

end Questline
