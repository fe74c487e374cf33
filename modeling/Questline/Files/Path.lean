/-!
# Paths

The text of a path: its steps between slashes, a name put at its end, and the extension of a name.
-/

namespace Questline.Path

/-- The parts of a list between separators, at least one. -/
def splitAt (sep : Char) : List Char → List (List Char)
  | [] => [[]]
  | c :: cs =>
    if c = sep then [] :: splitAt sep cs
    else match splitAt sep cs with
      | [] => [[c]]
      | part :: parts => (c :: part) :: parts

/-- The steps of a path. A slash at the end, or two in a row, makes an empty step. -/
def steps (path : String) : List String := (splitAt '/' path.toList).map String.ofList

def join (folder name : String) : String :=
  match folder.toList.getLast? with
  | none | some '/' => folder ++ name
  | some _ => folder ++ "/" ++ name

/-- What follows the last dot of a name. A dot in front of the whole name starts no extension. -/
def extension? (name : String) : Option String :=
  let cs := name.toList.reverse
  match cs.dropWhile (· ≠ '.') with
  | [] | ['.'] => none
  | _ => some (String.ofList (cs.takeWhile (· ≠ '.')).reverse)

end Questline.Path
