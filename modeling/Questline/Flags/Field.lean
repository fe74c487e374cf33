import Questline.Coded
import Questline.Flags.Store

/-!
# Fields

A field is a typed view of one flag. Reading decodes whatever integer is stored, so an illegal one
degrades to a legal value; writing stores the code of a legal value. An unset flag reads as zero.
-/

namespace Questline

structure Field (α : Type) where
  key : String
  decode : Int32 → α
  encode : α → Int32

namespace Field

variable {α σ : Type} [FlagStore σ]

def read (f : Field α) (flags : FlagReader) : α := f.decode (flags f.key 0)

def write (f : Field α) (a : α) : String × Int32 := (f.key, f.encode a)

def get (f : Field α) (s : σ) : α := f.read (FlagStore.get s)

def set (f : Field α) (s : σ) (a : α) : Logged σ := FlagStore.set s f.key (f.encode a)

/-- A flag that is set by 1; any other value counts as not set. -/
def bool (key : String) : Field Bool where
  key := key
  decode v := v == 1
  encode b := if b then 1 else 0

/-- An enumeration stored by code. -/
def coded (α : Type) [Coded α] (key : String) : Field α where
  key := key
  decode := Coded.decode
  encode := Coded.code

def int (key : String) : Field Int32 where
  key := key
  decode v := v
  encode v := v

def clamp (lo hi v : Int32) : Int32 := if v < lo then lo else if hi < v then hi else v

/-- An integer held within bounds; values beyond read and write as the nearest bound. -/
def bounded (lo hi : Int32) (key : String) : Field Int32 where
  key := key
  decode := clamp lo hi
  encode := clamp lo hi

end Field

/-- A sum that stops at the ends of the 32-bit range instead of wrapping. -/
def addSaturating (a b : Int32) : Int32 := Int32.ofIntClamp (a.toInt + b.toInt)

namespace Field

variable {σ : Type} [FlagStore σ]

/-- The write that moves an integer field by some amount, from the value it reads as. -/
def increase (f : Field Int32) (flags : FlagReader) (delta : Int32) : String × Int32 :=
  f.write (addSaturating (f.read flags) delta)

def add (f : Field Int32) (s : σ) (delta : Int32) : Logged (Int32 × σ) := do
  let w := f.increase (FlagStore.get s) delta
  let s ← FlagStore.set s w.1 w.2
  pure (f.get s, s)

end Field

end Questline
