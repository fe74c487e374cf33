import Questline.Text.Quoted

/-!
# Decisions and Call Sites

What a command hands back for the next step of a script, and where in the script it was called.
-/

namespace Questline

inductive Decision where
  /-- Nothing to act on. -/
  | none
  /-- The outcome of a test, for the next conditional jump. -/
  | condition (holds : Bool)
  /-- The target a branch picked. -/
  | jump (target : String)
deriving DecidableEq, Repr, Inhabited

namespace Decision

def condition? : Decision → Option Bool
  | condition b => some b
  | _ => Option.none

def target? : Decision → Option String
  | jump t => some t
  | _ => Option.none

def text : Decision → String
  | none => "None"
  | condition b => s!"Condition({b})"
  | jump t => s!"Jump({Text.quote t})"

end Decision

/-- A script and a node in it; both are empty when the host does not track positions. -/
structure CallSite where
  script : String := ""
  node : String := ""
deriving DecidableEq, Repr, Inhabited

def CallSite.text (site : CallSite) : String :=
  if site.script = "" ∧ site.node = "" then "<host>" else site.script ++ ":" ++ site.node

end Questline
