import Questline.Text.Blank
import Questline.Text.Decimal

/-!
# Flag Conditions

A condition is a comparison of a flag with a fixed operand, written as an operator followed by an
integer: `>=10`. Blanks may stand before the operator and on both sides of the operand.
-/

namespace Questline

inductive Operator where
  | eq | ne | ge | le | gt | lt
deriving DecidableEq, Repr

namespace Operator

/-- In the order in which they are tried on text: no symbol is hidden by a shorter one before it. -/
def all : List Operator := [eq, ne, ge, le, gt, lt]

def symbol : Operator → String
  | eq => "=="
  | ne => "!="
  | ge => ">="
  | le => "<="
  | gt => ">"
  | lt => "<"

def holds : Operator → Int32 → Int32 → Bool
  | eq, a, b => a == b
  | ne, a, b => a != b
  | ge, a, b => b ≤ a
  | le, a, b => a ≤ b
  | gt, a, b => b < a
  | lt, a, b => a < b

/-- The operator at the head of some characters, and the characters after it. -/
def scan? : List Char → Option (Operator × List Char)
  | '=' :: '=' :: cs => some (eq, cs)
  | '!' :: '=' :: cs => some (ne, cs)
  | '>' :: '=' :: cs => some (ge, cs)
  | '<' :: '=' :: cs => some (le, cs)
  | '>' :: cs => some (gt, cs)
  | '<' :: cs => some (lt, cs)
  | _ => none

/-- The operator that opens a token, leading blanks aside, and the text after it. -/
def split? (token : String) : Option (Operator × String) :=
  (scan? (Text.trimStart token.toList)).map fun (op, cs) => (op, String.ofList cs)

end Operator

inductive ConditionError where
  | unknownOperator (token : String)
  | badOperand (op : Operator) (operand : String)
deriving DecidableEq, Repr

def ConditionError.message : ConditionError → String
  | unknownOperator token => s!"no comparison operator in '{token}'"
  | badOperand op operand => s!"operand '{operand}' after '{op.symbol}' is not an integer"

structure Comparison where
  op : Operator
  operand : Int32
deriving DecidableEq, Repr

namespace Comparison

def parse (token : String) : Except ConditionError Comparison :=
  match Operator.split? token with
  | none => .error (.unknownOperator token)
  | some (op, rest) =>
    match Text.Decimal.parse? (Text.trim rest.toList) with
    | none => .error (.badOperand op rest)
    | some operand => .ok ⟨op, operand⟩

def print (c : Comparison) : String := c.op.symbol ++ Text.Decimal.print c.operand

def accepts (c : Comparison) (value : Int32) : Bool := c.op.holds value c.operand

end Comparison

end Questline
