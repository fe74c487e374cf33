import Questline.Quest.Manager
import Questline.Quest.Table

/-!
# The Quest Catalog

A table of quest definitions with a journal. Offers are computed anew from the ledger, so the
catalog holds no flags.
-/

namespace Questline

structure QuestCatalog where
  table : QuestTable
  journal : Journal
  inStep : table.InStep

namespace QuestCatalog

def empty : QuestCatalog := ⟨{}, {}, .empty⟩

/-- The definitions, in the order in which their ids first came. -/
def quests (c : QuestCatalog) : List QuestDefinition := c.table.quests

def ids (c : QuestCatalog) : List String := c.table.order

def find? (c : QuestCatalog) (id : String) : Option QuestDefinition := c.table.find? id

def contains (c : QuestCatalog) (id : String) : Bool := c.table.contains id

def size (c : QuestCatalog) : Nat := c.table.size

/-- Adds a definition. One with a known id takes the place of the old one, and this is logged. -/
def insert (c : QuestCatalog) (q : QuestDefinition) : Logged QuestCatalog := do
  if c.contains q.id then Logged.note (.questReplaced q.id)
  pure { c with table := c.table.put q, inStep := c.inStep.put q }

/-- Definitions that name a predecessor the catalog does not have are logged. -/
def checkChains (c : QuestCatalog) : Logged Unit :=
  c.quests.forM fun q =>
    match q.previous with
    | some id => if c.contains id then pure () else Logged.note (.brokenChain q.id id)
    | none => pure ()

def start (c : QuestCatalog) (l : Ledger) (now : Instant) (id : String) :
    Logged (Except QuestError QuestCatalog) :=
  if !c.contains id then pure (.error (.unknownQuest id))
  else if l.isCompleted id || c.journal.isCompleted id then pure (.error (.alreadyCompleted id))
  else do
    Logged.note (.startRecorded id)
    pure (.ok { c with journal := c.journal.recordStart now id })

def complete (c : QuestCatalog) (now : Instant) (id : String) :
    Logged (Except QuestError QuestCatalog) :=
  if !c.contains id then pure (.error (.unknownQuest id))
  else do
    Logged.note (.completionRecorded id)
    pure (.ok { c with journal := c.journal.recordCompletion now id })

instance : QuestManager QuestCatalog where
  isAvailable c l id := (c.find? id).any fun q => q.isEligible l
  available c l := (c.quests.filter fun q => q.isEligible l).map QuestDefinition.info
  availableFrom c l npc :=
    ((c.quests.filter fun q => q.giver == some npc).filter fun q => q.isEligible l).map
      QuestDefinition.info
  start := start
  complete := complete
  journalEntry? c id := c.journal.get? id

end QuestCatalog

end Questline
