/-!
# Readers

A reader takes characters off the front of its input and yields a value and the rest, or fails and
takes nothing. A repeated reader goes on until it fails.
-/

namespace Questline.Toml

abbrev Reader := StateT (List Char) Option

namespace Reader

variable {α β : Type}

def one (p : Char → Bool) : Reader Char
  | c :: cs => if p c then some (c, cs) else none
  | [] => none

def char (c : Char) : Reader Char := one (· == c)

def chars : List Char → Reader Unit
  | [] => pure ()
  | c :: cs => do
    discard (char c)
    chars cs

/-- The longest run of characters of a class. -/
def run (p : Char → Bool) : Reader (List Char) := fun cs => some (cs.takeWhile p, cs.dropWhile p)

def run1 (p : Char → Bool) : Reader (List Char) := do
  let c ← one p
  let cs ← run p
  pure (c :: cs)

def peek : Reader (Option Char) := fun cs => some (cs.head?, cs)

/-- Nothing, at the end of the input. -/
def finish : Reader Unit
  | [] => some ((), [])
  | _ => none

/-- As many values as follow each other, up to a number. -/
def upTo (r : Reader α) : Nat → List Char → List α × List Char
  | 0, cs => ([], cs)
  | n + 1, cs =>
    match r cs with
    | none => ([], cs)
    | some (a, rest) =>
      let (as, rest) := upTo r n rest
      (a :: as, rest)

/-- As many values as follow each other. Each takes a character, so there are no more of them than
characters. -/
def many (r : Reader α) : Reader (List α) := fun cs => some (upTo r cs.length cs)

def sepBy1 (r : Reader α) (sep : Reader β) : Reader (List α) := do
  let a ← r
  let as ← many (do discard sep; r)
  pure (a :: as)

def sepBy (r : Reader α) (sep : Reader β) : Reader (List α) := sepBy1 r sep <|> pure []

def check (b : Bool) : Reader Unit := if b then pure () else failure

def exactly (n : Nat) (p : Char → Bool) : Reader (List Char) :=
  match n with
  | 0 => pure []
  | n + 1 => do
    let c ← one p
    let cs ← exactly n p
    pure (c :: cs)

end Reader

end Questline.Toml
