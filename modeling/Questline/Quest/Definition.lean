import Questline.Quest.Keys
import Questline.Text.Keyword

/-!
# Quest Definitions

A quest as its file states it, and the definition that is resolved from it: a known type and parsed
requirements. A quest can be offered when it is neither done nor active, its predecessor is done,
and the flags meet every requirement.
-/

namespace Questline

inductive QuestType where
  | rankUp | characterEvent | subQuest | story
deriving DecidableEq, Repr

namespace QuestType

def name : QuestType → String
  | rankUp => "rank_up"
  | characterEvent => "character_event"
  | subQuest => "sub_quest"
  | story => "story"

/-- The type of exactly this name. -/
def ofName? (text : String) : Option QuestType :=
  [rankUp, characterEvent, subQuest, story].find? fun t => t.name == text

/-- The type that a quest file means by a word, in any case and with several spellings. -/
def parse? (text : String) : Option QuestType :=
  match Text.fold text with
  | "rank_up" | "rankup" => some rankUp
  | "character_event" | "character" => some characterEvent
  | "sub_quest" | "subquest" | "side" => some subQuest
  | "story" | "main" => some story
  | _ => none

end QuestType

structure QuestChain where
  previous : Option String := none
deriving DecidableEq, Repr

structure StatedRequirement where
  flag : String
  condition : String
deriving DecidableEq, Repr

structure StatedQuest where
  id : String
  name : String
  description : String := ""
  giver : Option String := none
  type : String
  priority : Int32 := 0
  chain : Option QuestChain := none
  requires : List StatedRequirement := []
deriving DecidableEq, Repr

structure Requirement where
  flag : String
  test : Comparison
deriving DecidableEq, Repr

def Requirement.isMet (r : Requirement) (flags : FlagReader) : Bool :=
  r.test.accepts (flags r.flag 0)

structure QuestInfo where
  id : String
  type : QuestType
  priority : Int32
deriving DecidableEq, Repr

structure QuestDefinition where
  id : String
  name : String
  description : String := ""
  /-- Who offers the quest; a global quest has no giver. -/
  giver : Option String := none
  type : QuestType
  priority : Int32
  /-- The quest to complete first. -/
  previous : Option String := none
  requirements : List Requirement := []
deriving DecidableEq, Repr

namespace QuestDefinition

/-- The requirements a quest states, or the first bad one with its position. -/
def requirementsOf (id : String) :
    Nat → List StatedRequirement → Except Defect (List Requirement)
  | _, [] => .ok []
  | i, r :: rs =>
    match Comparison.parse r.condition with
    | .error cause => .error (.badRequirement id i cause)
    | .ok test => (requirementsOf id (i + 1) rs).map (⟨r.flag, test⟩ :: ·)

/-- The definition a quest's file states, or its first defect: a blank id, an unknown type, a bad
requirement. -/
def ofStated (q : StatedQuest) : Except Defect QuestDefinition :=
  if q.id.toList.all Text.isBlank then .error (.blankQuestId q.name)
  else
    match QuestType.parse? q.type with
    | none => .error (.unknownQuestType q.id q.type)
    | some type =>
      (requirementsOf q.id 0 q.requires).map fun requirements =>
        { id := q.id
          name := q.name
          description := q.description
          giver := q.giver
          type := type
          priority := q.priority
          previous := q.chain.bind QuestChain.previous
          requirements := requirements }

def isEligible (q : QuestDefinition) (l : Ledger) : Bool :=
  !l.isCompleted q.id && !l.isActive q.id && q.previous.all l.isCompleted &&
    q.requirements.all fun r => r.isMet l.flags

def info (q : QuestDefinition) : QuestInfo := ⟨q.id, q.type, q.priority⟩

end QuestDefinition

end Questline
