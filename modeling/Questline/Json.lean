import Questline.Text.Decimal
import Questline.Text.Quoted

/-!
# JSON Values

Values without fractions, and their text in two layouts: compact on one line, and indented by two
blanks a level. Members of an object are printed in the order they are listed.
-/

namespace Questline

inductive Json where
  | null
  | bool (value : Bool)
  | int (value : Int)
  | str (text : String)
  | arr (items : List Json)
  | obj (members : List (String × Json))
deriving Inhabited

namespace Json

open Text

/-- A character inside a JSON string: quote, backslash and the controls below U+0020 are escaped. -/
def escape (c : Char) : List Char :=
  match c with
  | '"' => ['\\', '"']
  | '\\' => ['\\', '\\']
  | '\n' => ['\\', 'n']
  | '\r' => ['\\', 'r']
  | '\t' => ['\\', 't']
  | '\x08' => ['\\', 'b']
  | '\x0c' => ['\\', 'f']
  | c =>
    if c.toNat < 0x20 then
      ['\\', 'u', '0', '0'] ++ (if c.toNat < 0x10 then ['0'] else []) ++ Nat.toDigits 16 c.toNat
    else [c]

def literal (s : String) : String := quoteWith escape s

def atom : Json → String
  | bool true => "true"
  | bool false => "false"
  | int i => String.ofList (Decimal.ofInt i)
  | str s => literal s
  | _ => "null"

mutual

/-- A value on one line, without blanks. -/
def compact : Json → String
  | arr items => "[" ++ ",".intercalate (compactItems items) ++ "]"
  | obj members => "\x7b" ++ ",".intercalate (compactMembers members) ++ "\x7d"
  | v => v.atom

def compactItems : List Json → List String
  | [] => []
  | v :: vs => v.compact :: compactItems vs

def compactMembers : List (String × Json) → List String
  | [] => []
  | (k, v) :: ms => (literal k ++ ":" ++ v.compact) :: compactMembers ms

end

/-- A block of lines between brackets, each line but the last followed by a comma. -/
def block (depth : Nat) (opening closing : String) (lines : List String) : String :=
  if lines = [] then opening ++ closing
  else
    let margin := "".pushn ' ' (2 * depth)
    opening ++ "\n" ++ ",\n".intercalate (lines.map (margin ++ "  " ++ ·)) ++ "\n" ++ margin ++
      closing

mutual

/-- A value over several lines, its own lines indented by `depth` levels. -/
def indented (depth : Nat) : Json → String
  | arr items => block depth "[" "]" (indentedItems (depth + 1) items)
  | obj members => block depth "\x7b" "\x7d" (indentedMembers (depth + 1) members)
  | v => v.atom

def indentedItems (depth : Nat) : List Json → List String
  | [] => []
  | v :: vs => v.indented depth :: indentedItems depth vs

def indentedMembers (depth : Nat) : List (String × Json) → List String
  | [] => []
  | (k, v) :: ms => (literal k ++ ": " ++ v.indented depth) :: indentedMembers depth ms

end

def pretty (v : Json) : String := v.indented 0

def ofOption {α : Type} (f : α → Json) : Option α → Json
  | none => null
  | some a => f a

end Json

end Questline
