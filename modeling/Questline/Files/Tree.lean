import Questline.Error
import Questline.Files.Path

/-!
# File Trees

What stands in a file system: files with their bytes and folders with their entries, some of them
closed to the reader. A path is walked step by step, and a folder lists the TOML files below it in
the order of their paths, whatever the order of its entries.
-/

namespace Questline

inductive FileTree where
  | file (bytes : ByteArray)
  /-- A file whose bytes cannot be read. -/
  | closedFile
  | folder (entries : List (String × FileTree))
  /-- A folder whose entries cannot be listed. -/
  | closedFolder

namespace FileTree

def isFolder : FileTree → Bool
  | folder _ | closedFolder => true
  | _ => false

/-- What some steps lead to, with the folders that were passed, the last first. Only folders have
steps below them, the empty step and the dot included. -/
def walk : List FileTree → FileTree → List String → Option FileTree
  | _, t, [] => some t
  | passed, folder entries, step :: steps =>
    if step = "" ∨ step = "." then walk passed (folder entries) steps
    else if step = ".." then
      match passed with
      | [] => none
      | above :: passed => walk passed above steps
    else
      match entries.lookup step with
      | none => none
      | some t => walk (folder entries :: passed) t steps
  | _, _, _ => none

/-- What a path leads to from a folder. Empty and absolute paths lead nowhere. -/
def find? (root : FileTree) (path : String) : Option FileTree :=
  match path.toList with
  | [] | '/' :: _ => none
  | _ => walk [] root (Path.steps path)

def text : FileTree → Except ReadFault String
  | file bytes => match String.fromUTF8? bytes with
    | some text => .ok text
    | none => .error .notText
  | closedFile => .error .denied
  | _ => .error .notAFile

/-- A file below a folder, with the names that lead to it. -/
structure Found where
  names : List String
  node : FileTree

/-- A folder that cannot be listed, with the names that lead to it. -/
structure Unlisted where
  names : List String
  cause : ReadFault

mutual

/-- The TOML files in a folder and all folders below it, or the first of them that cannot be
listed. -/
def tomlFiles (above : List String) : FileTree → Except Unlisted (List Found)
  | folder entries => tomlFilesAmong above entries
  | closedFolder => .error ⟨above, .denied⟩
  | _ => .error ⟨above, .notAFolder⟩

def tomlFilesAmong (above : List String) :
    List (String × FileTree) → Except Unlisted (List Found)
  | [] => .ok []
  | (name, t) :: entries => do
    let names := above ++ [name]
    let own ←
      if t.isFolder then tomlFiles names t
      else .ok (if Path.extension? name = some "toml" then [⟨names, t⟩] else [])
    let others ← tomlFilesAmong above entries
    pure (own ++ others)

end

/-- The TOML files below a folder in ascending order of their paths, compared name by name. -/
def sortedTomlFiles (t : FileTree) : Except Unlisted (List Found) :=
  (tomlFiles [] t).map fun files =>
    files.mergeSort fun a b => (List.compareLex compare a.names b.names).isLE

end FileTree

/-- What stands at each path that a program can name. -/
abbrev Files := String → Option FileTree

end Questline
