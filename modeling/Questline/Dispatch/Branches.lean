import Questline.Dispatch.Plan
import Questline.Player

/-!
# Branching Commands

The commands that decide where a script goes on and write nothing: a test of one flag, a choice of
target by the value of a flag, and the question whether a companion returns.
-/

namespace Questline.Branches

variable {μ : Type}

def ifFlag (v : View μ) (call : Call) : Plan μ :=
  match call.args with
  | key :: token :: _ =>
    match Comparison.parse token with
    | .error cause => .decide v [.note (.badCondition call.site cause)] (.condition false)
    | .ok test =>
      let value := v.flags key 0
      let holds := test.accepts value
      .decide v [.note (.flagTested key value test holds)] (.condition holds)
  | _ => .malformed v .ifFlag call "expected a key and a condition" (.condition false)

def targetAt? (targets : List String) (value : Int32) : Option String :=
  if 0 ≤ value.toInt then targets[value.toInt.toNat]? else none

/-- The target that a value picks, the fallback where it picks none. Empty targets do not count. -/
def pick? (targets : List String) (fallback : String) (value : Int32) : Option String :=
  ((targetAt? targets value).filter (· ≠ "")).or ((some fallback).filter (· ≠ ""))

def switchFlag (v : View μ) (call : Call) : Plan μ :=
  match call.args with
  | [] => .malformed v .switchFlag call "missing key"
  | key :: rest =>
    match rest.getLast? with
    | none => .malformed v .switchFlag call "missing fallback target"
    | some fallback =>
      let value := v.flags key 0
      match pick? rest.dropLast fallback value with
      | some target => .decide v [.note (.switched key value target)] (.jump target)
      | none => .decide v [.note (.noTarget key value)]

def canRejoin (v : View μ) (call : Call) : Plan μ :=
  match call.args.head?.bind Companion.parse? with
  | none => .malformed v .canRejoin call "unknown companion" (.condition false)
  | some companion =>
    let holds := Player.canRejoin v.flags companion
    .decide v [.note (.rejoinTested companion holds)] (.condition holds)

end Questline.Branches
