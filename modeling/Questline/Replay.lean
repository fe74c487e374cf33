import Questline.Dispatch.Registry
import Questline.Files.Loading

/-!
# Replays

A trace is a recorded run: flags to seed, invocations to make in order, and flags to watch.
Replaying it on an engine reports the decision of each step and the watched flags at the end. A step
that fails is reported without a decision, and the run goes on.
-/

namespace Questline

structure Invocation where
  site : CallSite := {}
  command : String
  args : List String := []
deriving DecidableEq, Repr

structure Trace where
  /-- Flags to set before the first invocation. -/
  flags : FlagMap := ∅
  invocations : List Invocation := []
  /-- Flags to report after the last one. -/
  watch : List String := []

structure StepReport where
  site : CallSite
  command : String
  /-- Absent when the command was unknown or failed. -/
  decision : Option Decision
deriving DecidableEq, Repr

structure ReplayReport where
  steps : List StepReport
  /-- The watched flags in order of key, without a value where one was never written. -/
  watched : Std.ExtTreeMap String (Option Int32)

def ReplayReport.failures (r : ReplayReport) : Nat :=
  r.steps.countP fun s => s.decision.isNone

namespace Trace

/-! ### Reading -/

open Toml.Shape (string int32 list map)

def invocationShape : Toml.Shape Invocation :=
  Toml.Fields.shape do
    let script ← .withDefault "script" string ""
    let node ← .withDefault "node" string ""
    let command ← .required "command" string
    let args ← .withDefault "args" (list string) []
    pure { site := ⟨script, node⟩, command, args }

def shape : Toml.Shape Trace :=
  Toml.Fields.shape do
    let flags ← .withDefault "flags" (map int32) []
    let invocations ← .withDefault "invoke" (list invocationShape) []
    let watch ← .withDefault "watch" (list string) []
    pure { flags := Std.ExtTreeMap.ofList flags, invocations, watch }

def ofText (path text : String) : Except LoadError Trace := shape.ofText path text

def load (files : Files) (path : String) : Except LoadError Trace :=
  files.text path >>= ofText path

/-! ### Running -/

variable {σ μ : Type} [FlagStore σ] [QuestManager μ]

def step (e : Engine σ μ) (time : Instant) (i : Invocation) :
    Logged (StepReport × Engine σ μ) := do
  let (decision, e) ← e.invoke i.command ⟨i.args, i.site, time⟩
  match decision with
  | some d => Logged.note (.stepAnswered i.site i.command d)
  | none => Logged.note (.stepFailed i.site i.command)
  pure (⟨i.site, i.command, decision⟩, e)

/-- Makes invocations in order. The clock gives the time of each by its position. -/
def steps (e : Engine σ μ) (clock : Nat → Instant) :
    List Invocation → Logged (List StepReport × Engine σ μ)
  | [] => pure ([], e)
  | i :: is => do
    let (report, e) ← step e (clock 0) i
    let (reports, e) ← steps e (fun n => clock (n + 1)) is
    pure (report :: reports, e)

def watched (s : σ) (watch : List String) : Std.ExtTreeMap String (Option Int32) :=
  Std.ExtTreeMap.ofList (watch.map fun key =>
    (key, if FlagStore.has s key then some (FlagStore.get s key 0) else none)) compare

def run (t : Trace) (clock : Nat → Instant) (e : Engine σ μ) :
    Logged (ReplayReport × Engine σ μ) := do
  let flags ← FlagStore.setAll e.context.flags t.flags.toList
  Logged.note (.flagsSeeded t.flags.size)
  let (reports, e) ← steps { e with context := { e.context with flags } } clock t.invocations
  let report : ReplayReport := ⟨reports, watched e.context.flags t.watch⟩
  Logged.note (.replayed report.steps.length report.failures)
  pure (report, e)

end Trace

end Questline
