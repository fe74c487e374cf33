import Questline.Text.Decimal
import Questline.Toml.Document

/-!
# Shapes of Data

How typed data is taken from TOML values. A record is read from a table by the names of its fields,
or from an array by their order; unknown names and surplus items are ignored. A time counts as a
table of other names.
-/

namespace Questline.Toml

abbrev Shape (α : Type) := Value → Option α

namespace Shape

variable {α : Type}

def string : Shape String
  | .string text => some text
  | _ => none

def int32 : Shape Int32
  | .integer i => Text.Decimal.ofInt? i
  | _ => none

def list (item : Shape α) : Shape (List α)
  | .array items => items.mapM item
  | _ => none

def map (item : Shape α) : Shape (List (String × α))
  | .table members => members.mapM fun (key, v) => (item v).map (key, ·)
  | _ => none

def optional (item : Shape α) : Shape (Option α) := fun v => some <$> item v

end Shape

inductive Source where
  | named (members : List (String × Value))
  | listed (items : List Value)

/-- Readers of the fields of a record, in order. -/
abbrev Fields := StateT Source Option

namespace Fields

variable {α : Type}

/-- The next field, with the values it takes when its name is absent and when items run out; where
there is none, that is an error. -/
def next (name : String) (shape : Shape α) (absent short : Option α) : Fields α
  | .named members =>
    match members.lookup name with
    | some v => (shape v).map (·, .named members)
    | none => absent.map (·, .named members)
  | .listed (v :: items) => (shape v).map (·, .listed items)
  | .listed [] => short.map (·, .listed [])

def required (name : String) (shape : Shape α) : Fields α := next name shape none none

def withDefault (name : String) (shape : Shape α) (value : α) : Fields α :=
  next name shape (some value) (some value)

/-- A field whose absence is a value, but which has no default. -/
def maybe (name : String) (shape : Shape α) : Fields (Option α) :=
  next name (Shape.optional shape) (some none) none

def shape (fields : Fields α) : Shape α
  | .table members => (·.1) <$> fields (.named members)
  | .array items => (·.1) <$> fields (.listed items)
  | .moment => (·.1) <$> fields (.named [])
  | _ => none

end Fields

end Questline.Toml
