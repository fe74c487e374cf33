import Questline.Text.Printable

/-!
# Quoted Text

Text between double quotes, as log lines show it. The quote, the backslash and four controls are
escaped by a letter or digit, other characters that are not printable by their code point.
-/

namespace Questline.Text

def escape (c : Char) : List Char :=
  match c with
  | '"' => ['\\', '"']
  | '\\' => ['\\', '\\']
  | '\n' => ['\\', 'n']
  | '\r' => ['\\', 'r']
  | '\t' => ['\\', 't']
  | '\x00' => ['\\', '0']
  | c =>
    if isPrintable c then [c]
    else ['\\', 'u', '\x7b'] ++ Nat.toDigits 16 c.toNat ++ ['\x7d']

/-- Text between quotes, each character in the given escaped form. -/
def quoteWith (form : Char → List Char) (s : String) : String :=
  String.ofList ('"' :: s.toList.flatMap form ++ ['"'])

def quote (s : String) : String := quoteWith escape s

end Questline.Text
