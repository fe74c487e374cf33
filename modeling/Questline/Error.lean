import Questline.Condition
import Questline.Text.Quoted

/-!
# Errors

Why a quest transition is refused, a command fails, or a file cannot be used. Each error keeps its
cause; the wording is in the `message` functions.
-/

namespace Questline

inductive QuestError where
  | unknownQuest (id : String)
  | alreadyCompleted (id : String)
deriving DecidableEq, Repr

def QuestError.message : QuestError → String
  | unknownQuest id => "unknown quest: " ++ id
  | alreadyCompleted id => "quest already completed: " ++ id

/-- Why a command failed. Malformed arguments are no failure; commands log those. -/
inductive CommandError where
  | quest (cause : QuestError)
  | fault (text : String)
deriving DecidableEq, Repr

def CommandError.message : CommandError → String
  | quest cause => cause.message
  | fault text => text

/-- Why a file cannot be read, or a folder cannot be listed. -/
inductive ReadFault where
  | missing
  | notAFile
  | notAFolder
  | denied
  | notText
deriving DecidableEq, Repr

def ReadFault.message : ReadFault → String
  | missing => "no such file or directory"
  | notAFile => "not a file"
  | notAFolder => "not a folder"
  | denied => "access denied"
  | notText => "not UTF-8 text"

/-- Why text cannot be read as the data expected of it. -/
inductive ParseFault where
  | notToml
  | wrongShape
deriving DecidableEq, Repr

def ParseFault.message : ParseFault → String
  | notToml => "not a TOML document"
  | wrongShape => "missing key or value of the wrong type"

/-- What is wrong with data of the right shape. -/
inductive Defect where
  | blankQuestId (name : String)
  | unknownQuestType (id type : String)
  | badRequirement (id : String) (index : Nat) (cause : ConditionError)
  | emptyStem
  | equalStems (stem : String)
deriving DecidableEq, Repr

def Defect.message : Defect → String
  | blankQuestId name => s!"quest '{name}' has an empty id"
  | unknownQuestType id type => s!"quest '{id}' has unknown type '{type}'"
  | badRequirement id index cause =>
    s!"quest '{id}' requirement {Text.Decimal.printNat index}: {cause.message}"
  | emptyStem => "quest key prefixes must not be empty"
  | equalStems stem => s!"quest done and active prefixes are both '{stem}'"

inductive LoadError where
  | unreadable (path : String) (cause : ReadFault)
  | unparsable (path : String) (cause : ParseFault)
  | invalid (defect : Defect)
deriving DecidableEq, Repr

def LoadError.message : LoadError → String
  | unreadable path cause => s!"failed to read {Text.quote path}: {cause.message}"
  | unparsable path cause => s!"failed to parse {Text.quote path}: {cause.message}"
  | invalid defect => "invalid data: " ++ defect.message

end Questline
