import Questline.Toml.Draft
import Questline.Toml.Scalar

/-!
# TOML Documents

Reading a whole document: values with the arrays and inline tables among them, and the lines that
make up the document, each a key with its value, a header, or nothing but a comment.
-/

namespace Questline.Toml

open Reader

/-- The values of an array. They may spread over lines and end with a comma. -/
def arrayOf (item : Reader Value) : Reader Value := do
  discard (char '[')
  let items ← optional (sepBy1 (do gap; let v ← item; gap; pure v) (char ','))
  if items.isSome then discard (optional (char ','))
  gap
  discard (char ']')
  pure (.array (items.getD []))

def pairOf (item : Reader Value) : Reader ((List String × String) × Value) := do
  let k ← key
  discard (char '=')
  spaces
  let v ← item
  pure (k, v)

def inlineTableOf (item : Reader Value) : Reader Value := do
  discard (char '\x7b')
  let pairs ← sepBy (do let p ← pairOf item; spaces; pure p) (char ',')
  spaces
  discard (char '\x7d')
  let members : Option Members :=
    pairs.foldlM (fun ms ((path, k), v) => ms.addValue path k v .defined) []
  match members with
  | some ms => pure (.table (finishMembers ms))
  | none => failure

/-- A value with at most so many arrays and inline tables around each other. -/
def value : Nat → Reader Value
  | 0 => scalar
  | depth + 1 => do
    match ← peek with
    | some '[' => arrayOf (value depth)
    | some '\x7b' => inlineTableOf (value depth)
    | _ => scalar

/-- A document in the making, and the path of the table that keys are added to. -/
structure Page where
  members : Members := []
  path : List String := []

namespace Page

def addValue (page : Page) (path : List String) (key : String) (v : Value) : Option Page :=
  (page.members.editAt .passed (Members.addValue path key v) page.path .defined).map fun ms =>
    { page with members := ms }

def openTable (page : Page) (path : List String) (key : String) : Option Page :=
  (page.members.openTable path key).map fun ms => ⟨ms, path ++ [key]⟩

def openElement (page : Page) (path : List String) (key : String) : Option Page :=
  (page.members.openElement path key).map fun ms => ⟨ms, path ++ [key]⟩

end Page

def header (page : Page) : Reader (Option Page) := do
  discard (char '[')
  match ← peek with
  | some '[' => do
    discard (char '[')
    let (path, k) ← key
    chars [']', ']']
    lineRest
    pure (page.openElement path k)
  | _ => do
    let (path, k) ← key
    discard (char ']')
    lineRest
    pure (page.openTable path k)

def line (page : Page) : Reader Page := do
  spaces
  let edited ← match ← peek with
    | some '#' => do comment; lineEnd; pure (some page)
    | some '[' => header page
    | some '\n' | some '\r' => do newline; pure (some page)
    | _ => do
      let ((path, k), v) ← pairOf (value (depthLimit - 1))
      lineRest
      pure (page.addValue path k v)
  match edited with
  | some page => pure page
  | none => failure

/-- The lines of a document up to its end, as many as a number allows. -/
def lines : Nat → Page → List Char → Option Page
  | n, page, cs =>
    if cs.all isSpace then some page
    else
      match n, line page cs with
      | n + 1, some (page, rest) => lines n page rest
      | _, _ => none

/-- The members of the document that a text holds. A byte order mark in front is skipped. Each line
takes a character, so there are no more of them than characters. -/
def parse? (text : String) : Option (List (String × Value)) :=
  let cs := match text.toList with
    | '\uFEFF' :: cs => cs
    | cs => cs
  (lines cs.length {} cs).map fun page => finishMembers page.members

end Questline.Toml
