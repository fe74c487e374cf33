import Questline.Toml.Reader
import Questline.Toml.Value

/-!
# TOML Scalars

Readers for what a TOML document is made of below arrays and tables: blanks, comments and line ends,
keys, strings, numbers, and dates and times.
-/

namespace Questline.Toml

open Reader

/-! ### Blanks and lines -/

def isSpace (c : Char) : Bool := c == ' ' || c == '\t'

/-- Characters that may stand in comments and strings: no control but the tab. -/
def isText (c : Char) : Bool := c == '\t' || (0x20 ≤ c.toNat && c != '\x7f')

def spaces : Reader Unit := discard (run isSpace)

def newline : Reader Unit := chars ['\n'] <|> chars ['\r', '\n']

def comment : Reader Unit := do
  discard (char '#')
  discard (run isText)

def lineEnd : Reader Unit := newline <|> finish

/-- The end of a line after its content. -/
def lineRest : Reader Unit := do
  spaces
  discard (optional comment)
  lineEnd

/-- Blanks, comments and line ends between the items of an array. -/
def gap : Reader Unit := discard (many (discard (run1 isSpace) <|> newline <|> comment))

/-! ### Strings -/

def isHex (c : Char) : Bool := c.isDigit || ('a' ≤ c && c ≤ 'f') || ('A' ≤ c && c ≤ 'F')

def hexValue (c : Char) : Nat :=
  if c.isDigit then c.toNat - '0'.toNat else c.toLower.toNat - 'a'.toNat + 10

def numeral (base : Nat) (digits : List Char) : Nat :=
  digits.foldl (fun n c => base * n + hexValue c) 0

/-- A character by its code point in hexadecimal digits; surrogates are no characters. -/
def codePoint (digits : Nat) : Reader Char := do
  let n := numeral 16 (← exactly digits isHex)
  check (n.isValidChar)
  pure (Char.ofNat n)

def escaped : Reader Char := do
  match ← one fun _ => true with
  | 'b' => pure '\x08'
  | 'f' => pure '\x0c'
  | 'n' => pure '\n'
  | 'r' => pure '\r'
  | 't' => pure '\t'
  | 'u' => codePoint 4
  | 'U' => codePoint 8
  | '"' => pure '"'
  | '\\' => pure '\\'
  | _ => failure

def escape : Reader Char := do
  discard (char '\\')
  escaped

def isBasic (c : Char) : Bool := isText c && c != '"' && c != '\\'

def isLiteral (c : Char) : Bool := isText c && c != '\''

def basicString : Reader String := do
  discard (char '"')
  let cs ← many (one isBasic <|> escape)
  discard (char '"')
  pure (String.ofList cs)

def literalString : Reader String := do
  discard (char '\'')
  let cs ← run isLiteral
  discard (char '\'')
  pure (String.ofList cs)

/-- A quote inside a string of several lines, where no three quotes stand. -/
def innerQuote (quote : Char) : Reader Char := do
  let c ← char quote
  match ← get with
  | a :: b :: _ => check !(a == quote && b == quote)
  | _ => pure ()
  pure c

/-- The three quotes that close a string of several lines. Up to two more in front of them belong to
the string. -/
def closing (quote : Char) : Reader (List Char) := do
  let extra ← many do
    let c ← char quote
    match ← get with
    | a :: b :: d :: _ => check (a == quote && b == quote && d == quote)
    | _ => failure
    pure c
  check (extra.length ≤ 2)
  chars [quote, quote, quote]
  pure extra

/-- A backslash at the end of a line takes all blanks and line ends after it away. -/
def continuation : Reader (List Char) := do
  discard (char '\\')
  spaces
  newline
  discard (many (discard (run1 isSpace) <|> newline))
  pure []

/-- A line end inside a string is a line feed. -/
def innerNewline : Reader Char := do
  newline
  pure '\n'

def single (r : Reader Char) : Reader (List Char) := (fun c => [c]) <$> r

/-- A string of several lines between three quotes; a line end right after the first is dropped. -/
def longString (quote : Char) (piece : Reader (List Char)) : Reader String := do
  chars [quote, quote, quote]
  discard (optional newline)
  let pieces ← many (piece <|> single innerNewline <|> single (innerQuote quote))
  let extra ← closing quote
  pure (String.ofList (pieces.flatten ++ extra))

def string : Reader String :=
  longString '"' (run1 isBasic <|> continuation <|> single escape) <|> basicString <|>
    longString '\'' (run1 isLiteral) <|> literalString

/-! ### Keys -/

def isBare (c : Char) : Bool := c.isAlphanum || c == '_' || c == '-'

def simpleKey : Reader String :=
  basicString <|> literalString <|> String.ofList <$> run1 isBare

/-- The greatest depth to which keys and values may nest, plus one. -/
def depthLimit : Nat := 80

/-- A dotted key: the path to its table, and its last part. -/
def key : Reader (List String × String) := do
  let parts ← sepBy1 (do spaces; let k ← simpleKey; spaces; pure k) (char '.')
  check (parts.length < depthLimit)
  match parts.getLast? with
  | some last => pure (parts.dropLast, last)
  | none => failure

/-! ### Numbers -/

/-- Digits, with single underscores between some of them left out. -/
def digits (p : Char → Bool) : Reader (List Char) := do
  let c ← one p
  let cs ← many (one p <|> do discard (char '_'); one p)
  pure (c :: cs)

def sign : Reader Bool := do
  match ← optional (one fun c => c == '+' || c == '-') with
  | some '-' => pure true
  | _ => pure false

/-- The digits of a number without leading zeros. -/
def wholeDigits : Reader (List Char) := do
  match ← peek with
  | some '0' => single (char '0')
  | _ => digits Char.isDigit

def signed (negative : Bool) (n : Nat) : Int := if negative then -n else n

def decimalInteger : Reader Int := do
  let negative ← sign
  let ds ← wholeDigits
  pure (signed negative (numeral 10 ds))

/-- An integer in another base, marked by a letter after a zero. -/
def basedInteger : Reader Int := do
  discard (char '0')
  match ← one fun _ => true with
  | 'x' => (fun ds => (numeral 16 ds : Int)) <$> digits isHex
  | 'o' => (fun ds => (numeral 8 ds : Int)) <$> digits fun c => '0' ≤ c && c ≤ '7'
  | 'b' => (fun ds => (numeral 2 ds : Int)) <$> digits fun c => c == '0' || c == '1'
  | _ => failure

/-- Integers have 64 bits. -/
def integer : Reader Int := do
  let i ← basedInteger <|> decimalInteger
  check (Int64.minValue.toInt ≤ i && i ≤ Int64.maxValue.toInt)
  pure i

/-- Whether a decimal of the given digits and exponent is rounded to infinity as a 64-bit float,
that is, whether it reaches the middle between the greatest float and 2 to the 1024. -/
def overflows (ds : List Char) (exponent : Int) : Bool :=
  let ds := ds.dropWhile (· == '0')
  let n := numeral 10 ds
  let bound := Nat.pow 2 1024 - Nat.pow 2 970
  let magnitude : Int := ds.length + exponent
  if ds.isEmpty || magnitude < 300 then false
  else if 400 < magnitude then true
  else if 0 ≤ exponent then bound ≤ n * Nat.pow 10 exponent.toNat
  else bound * Nat.pow 10 (-exponent).toNat ≤ n

def exponent : Reader Int := do
  discard (one fun c => c == 'e' || c == 'E')
  let negative ← sign
  let ds ← digits Char.isDigit
  pure (signed negative (numeral 10 ds))

/-- A number with a fraction or an exponent. Positive numbers too great for a float are refused. -/
def decimalFloat : Reader Unit := do
  let negative ← sign
  let whole ← wholeDigits
  let fraction ← optional do
    discard (char '.')
    digits Char.isDigit
  let power ← if fraction.isSome then optional exponent else some <$> exponent
  let fraction := fraction.getD []
  check (negative || !overflows (whole ++ fraction) (power.getD 0 - fraction.length))

def specialFloat : Reader Unit := do
  discard sign
  chars ['i', 'n', 'f'] <|> chars ['n', 'a', 'n']

/-! ### Dates and times -/

def fixed (width : Nat) : Reader Nat := numeral 10 <$> exactly width Char.isDigit

def isLeapYear (year : Nat) : Bool := year % 4 == 0 && (year % 100 != 0 || year % 400 == 0)

def daysIn (year month : Nat) : Nat :=
  if month == 2 then if isLeapYear year then 29 else 28
  else if month == 4 || month == 6 || month == 9 || month == 11 then 30
  else 31

def date : Reader Unit := do
  let year ← fixed 4
  discard (char '-')
  let month ← fixed 2
  check (1 ≤ month && month ≤ 12)
  discard (char '-')
  let day ← fixed 2
  check (1 ≤ day && day ≤ daysIn year month)

def hourMinute : Reader Unit := do
  let hour ← fixed 2
  check (hour ≤ 23)
  discard (char ':')
  let minute ← fixed 2
  check (minute ≤ 59)

def time : Reader Unit := do
  hourMinute
  discard (char ':')
  let second ← fixed 2
  check (second ≤ 60)
  discard (optional do
    discard (char '.')
    run1 Char.isDigit)

def offset : Reader Unit :=
  discard (one fun c => c == 'Z' || c == 'z') <|> do
    discard (one fun c => c == '+' || c == '-')
    hourMinute

def dated : Reader Unit := do
  date
  discard (optional do
    discard (one fun c => c == 'T' || c == 't' || c == ' ')
    time
    discard (optional offset))

def moment : Reader Unit := dated <|> time

/-! ### Scalars -/

def scalar : Reader Value := do
  match ← peek with
  | some '"' | some '\'' => .string <$> string
  | some 't' => do chars ['t', 'r', 'u', 'e']; pure (.boolean true)
  | some 'f' => do chars ['f', 'a', 'l', 's', 'e']; pure (.boolean false)
  | _ =>
    (fun _ => .moment) <$> moment <|> (fun _ => .float) <$> (decimalFloat <|> specialFloat) <|>
      .integer <$> integer

end Questline.Toml
