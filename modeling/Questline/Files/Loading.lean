import Questline.Files.Tree
import Questline.Toml.Shape

/-!
# Loading Data

Data of some shape from a text or from a file: the file may be unreadable, the text no TOML
document, or the document of another shape.
-/

namespace Questline

variable {α : Type}

def Files.text (files : Files) (path : String) : Except LoadError String :=
  match files path with
  | none => .error (.unreadable path .missing)
  | some t => t.text.mapError (.unreadable path)

/-- Data of some shape from a text; the path is for the error. -/
def Toml.Shape.ofText (shape : Toml.Shape α) (path text : String) : Except LoadError α :=
  match Toml.parse? text with
  | none => .error (.unparsable path .notToml)
  | some members =>
    match shape (.table members) with
    | none => .error (.unparsable path .wrongShape)
    | some a => .ok a

end Questline
