/-!
# TOML Values

The values of a TOML document. Floats and times are told apart from the rest but not kept, since
nothing that is read from a document takes one.
-/

namespace Questline.Toml

inductive Value where
  | string (text : String)
  | integer (value : Int)
  | boolean (value : Bool)
  | float
  | moment
  | array (items : List Value)
  | table (members : List (String × Value))
deriving Inhabited

end Questline.Toml
