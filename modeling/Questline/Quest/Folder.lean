import Questline.Files.Loading
import Questline.Quest.Catalog

/-!
# Quest Folders

Loading quest files into a catalog. Every TOML file below a folder is taken in the order of the
paths. A file that cannot be used is logged and skipped; a folder that cannot be listed is an error,
and one that does not exist holds no quests.
-/

namespace Questline

namespace StatedQuest

open Toml.Shape (string int32 list optional)

def chainShape : Toml.Shape QuestChain :=
  Toml.Fields.shape do
    let previous ← .maybe "previous" string
    pure { previous }

def requirementShape : Toml.Shape StatedRequirement :=
  Toml.Fields.shape do
    let flag ← .required "flag" string
    let condition ← .required "condition" string
    pure { flag, condition }

def questShape : Toml.Shape StatedQuest :=
  Toml.Fields.shape do
    let id ← .required "id" string
    let name ← .required "name" string
    let description ← .withDefault "description" string ""
    let giver ← .withDefault "giver_npc" (optional string) none
    let type ← .required "type" string
    let priority ← .withDefault "priority" int32 0
    let chain ← .withDefault "chain" (optional chainShape) none
    let requires ← .withDefault "requires" (list requirementShape) []
    pure { id, name, description, giver, type, priority, chain, requires }

/-- A quest file has its quest in one table. -/
def shape : Toml.Shape StatedQuest := Toml.Fields.shape (.required "quest" questShape)

end StatedQuest

def QuestDefinition.ofText (path text : String) : Except LoadError QuestDefinition := do
  let quest ← StatedQuest.shape.ofText path text
  (QuestDefinition.ofStated quest).mapError .invalid

namespace QuestCatalog

def readFound (path : String) (node : FileTree) : Except LoadError QuestDefinition := do
  let text ← node.text.mapError (.unreadable path)
  QuestDefinition.ofText path text

/-- Adds the definitions of files in order, and counts them. -/
def loadFiles (c : QuestCatalog) : List (String × FileTree) → Logged (Nat × QuestCatalog)
  | [] => pure (0, c)
  | (path, node) :: files =>
    match readFound path node with
    | .error cause => do
      Logged.note (.questSkipped path cause)
      loadFiles c files
    | .ok quest => do
      Logged.note (.questLoaded quest.name quest.id)
      let c ← c.insert quest
      let (count, c) ← loadFiles c files
      pure (count + 1, c)

/-- Loads every quest below a folder. On an error the catalog is as before. -/
def loadFolder (c : QuestCatalog) (files : Files) (folder : String) :
    Logged (Except LoadError Nat × QuestCatalog) := do
  Logged.note (.questsLoading folder)
  match files folder with
  | none => do
    Logged.note (.questFolderMissing folder)
    pure (.ok 0, c)
  | some t =>
    match t.sortedTomlFiles with
    | .error e => pure (.error (.unreadable (e.names.foldl Path.join folder) e.cause), c)
    | .ok found => do
      let (count, c) ← c.loadFiles (found.map fun f => (f.names.foldl Path.join folder, f.node))
      Logged.note (.questsLoaded count)
      c.checkChains
      pure (.ok count, c)

end QuestCatalog

end Questline
