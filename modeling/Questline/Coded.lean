/-!
# Coded Enumerations

Enumerations that are stored in a flag as an integer. Every integer decodes: one that is no code
stands for the default member.
-/

namespace Questline

class Coded (α : Type) extends Inhabited α where
  members : List α
  code : α → Int32
  /-- The name of a member in dumps and log lines. -/
  name : α → String

namespace Coded

variable {α : Type} [Coded α]

/-- The member with the given code, the default for every other integer. -/
def decode (v : Int32) : α := (members.find? fun a => code a == v).getD default

end Coded

end Questline
