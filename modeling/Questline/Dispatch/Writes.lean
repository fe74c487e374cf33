import Questline.Dispatch.Plan
import Questline.Player

/-!
# Writing Commands

The commands that set or move one flag, field or slot, and the one that clears the session. Numbers
may have blanks around them; sums stop at the bounds of a field instead of wrapping.
-/

namespace Questline.Writes

variable {μ : Type}

def number? (arg : String) : Option Int32 := Text.Decimal.parse? (Text.trim arg.toList)

def setFlag (v : View μ) (call : Call) : Plan μ :=
  match call.args with
  | key :: value :: _ =>
    match number? value with
    | none => .malformed v .setFlag call "value is not an integer"
    | some value => .decide v [.write key value]
  | _ => .malformed v .setFlag call "expected a key and a value"

def addFlag (v : View μ) (call : Call) : Plan μ :=
  match call.args with
  | key :: delta :: _ =>
    match number? delta with
    | none => .malformed v .addFlag call "delta is not an integer"
    | some delta =>
      let value := addSaturating (v.flags key 0) delta
      .decide v [.write key value, .note (.flagAdded key value)]
  | _ => .malformed v .addFlag call "expected a key and a delta"

/-- Moves a bounded field by the first argument, and reports what it then reads as. -/
def increase (b : Builtin) (f : Field Int32) (notice : Int32 → Int32 → Notice) (v : View μ)
    (call : Call) : Plan μ :=
  match call.args.head?.bind number? with
  | none => .malformed v b call "delta is missing or not an integer"
  | some delta =>
    .decide v (Effect.ofWrites [f.increase v.flags delta] ++
      [.report fun flags => notice delta (f.read flags)])

def addKarma (v : View μ) (call : Call) : Plan μ :=
  increase .addKarma Player.karma .karmaAdded v call

def addContribution (v : View μ) (call : Call) : Plan μ :=
  increase .addContribution Player.contribution .contributionAdded v call

def setField {α : Type} (b : Builtin) (f : Field α) (value? : String → Option α) (reason : String)
    (notices : α → List Notice) (v : View μ) (call : Call) : Plan μ :=
  match call.args.head?.bind value? with
  | none => .malformed v b call reason
  | some a => .decide v (Effect.ofWrites [f.write a] ++ (notices a).map .note)

def setRank (v : View μ) (call : Call) : Plan μ :=
  setField .setRank Player.rank Rank.parse? "unknown rank" (fun r => [.rankSet r]) v call

def setPhase (v : View μ) (call : Call) : Plan μ :=
  setField .setPhase Player.phase StoryPhase.parse? "unknown story phase"
    (fun p => [.phaseSet p]) v call

def setAutoDialogNpc (v : View μ) (call : Call) : Plan μ :=
  setField .setAutoDialogNpc Session.autoDialogNpc number? "uid is missing or not an integer"
    (fun _ => []) v call

def setArenaResult (v : View μ) (call : Call) : Plan μ :=
  setField .setArenaResult Session.arenaResult ArenaResult.parse? "unknown arena result"
    (fun r => [.arenaResultSet r]) v call

def clearSession (v : View μ) (_ : Call) : Plan μ :=
  .decide v (Effect.ofWrites Session.cleared ++ [.note .sessionCleared])

end Questline.Writes
