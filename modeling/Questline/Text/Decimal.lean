/-!
# Signed Decimal Text

The text of a flag value: an optional sign and decimal digits, within 32 bits. Reading takes any
number of leading zeros and one `+` or `-`; printing writes the fewest digits.
-/

namespace Questline.Text.Decimal

/-- The number that a non-empty run of the digits `0` to `9` denotes. -/
def nat? (cs : List Char) : Option Nat :=
  if cs ≠ [] ∧ cs.all Char.isDigit then some (Nat.ofDigitChars 10 cs 0) else none

def splitSign : List Char → Bool × List Char
  | '-' :: cs => (true, cs)
  | '+' :: cs => (false, cs)
  | cs => (false, cs)

def int? (cs : List Char) : Option Int :=
  let (negative, digits) := splitSign cs
  (nat? digits).map fun n => if negative then -(n : Int) else n

def ofInt? (i : Int) : Option Int32 :=
  if -2147483648 ≤ i ∧ i < 2147483648 then some (Int32.ofInt i) else none

def parse? (cs : List Char) : Option Int32 := (int? cs).bind ofInt?

/-- The digits of an integer, with `-` before a negative one. -/
def ofInt (i : Int) : List Char :=
  if i < 0 then '-' :: Nat.toDigits 10 i.natAbs else Nat.toDigits 10 i.natAbs

def print (v : Int32) : String := String.ofList (ofInt v.toInt)

/-- The text of a value with its sign written out, also before zero and above. -/
def printSigned (v : Int32) : String :=
  if v.toInt < 0 then print v else "+" ++ print v

def printNat (n : Nat) : String := String.ofList (Nat.toDigits 10 n)

theorem toInt_of_ofInt? {i : Int} {v : Int32} (h : ofInt? i = some v) : v.toInt = i := by
  unfold ofInt? at h
  split at h
  · next hr =>
    cases h
    exact Int32.toInt_ofInt_of_le hr.1 hr.2
  · cases h

@[simp] theorem ofInt?_toInt (v : Int32) : ofInt? v.toInt = some v := by
  have h : -2147483648 ≤ v.toInt ∧ v.toInt < 2147483648 := ⟨v.le_toInt, v.toInt_lt⟩
  rw [ofInt?, if_pos h, Int32.ofInt_toInt]

end Questline.Text.Decimal
