import Questline.Config
import Questline.Quest.Folder
import Questline.Replay

/-!
# The Replay Program

A program that replays a trace and reports the watched flags as JSON. Its arguments name the trace
and, optionally, a configuration. The configuration is loaded first, then the quest folder it names,
then the trace; the first that cannot be loaded ends the program.
-/

namespace Questline.Program

inductive Request where
  | replay (trace : String) (config : Option String)
  | help
  | version
  | misuse
deriving DecidableEq, Repr

def Request.ofPaths : List String → Request
  | [trace] => replay trace none
  | [trace, config] => replay trace (some config)
  | _ => misuse

/-- Adds a path, unless it is empty or there are two already. -/
def addPath? (paths : List String) (path : String) : Option (List String) :=
  if path = "" ∨ 2 ≤ paths.length then none else some (paths ++ [path])

def requestOfPaths (paths : List String) : List String → Request
  | [] => .ofPaths paths
  | arg :: args =>
    match addPath? paths arg with
    | none => .misuse
    | some paths => requestOfPaths paths args

/-- The request of arguments after some paths, decided from left to right. Options start with a
dash, a lone dash is a path, and after two dashes all arguments are. -/
def requestFrom (paths : List String) : List String → Request
  | [] => .ofPaths paths
  | arg :: args =>
    match arg.toList with
    | ['-', '-'] => requestOfPaths paths args
    | '-' :: '-' :: _ =>
      if arg = "--help" then .help else if arg = "--version" then .version else .misuse
    | '-' :: 'h' :: _ => .help
    | '-' :: 'V' :: _ => .version
    | '-' :: _ :: _ => .misuse
    | _ =>
      match addPath? paths arg with
      | none => .misuse
      | some paths => requestFrom paths args

def request (args : List String) : Request := requestFrom [] args

/-- The watched flags as JSON, `null` for one that was never written. -/
def watchedJson (watched : Std.ExtTreeMap String (Option Int32)) : Json :=
  .obj (watched.toList.map fun (key, value) => (key, Json.ofOption (fun v => .int v.toInt) value))

def config (files : Files) : Option String → Logged (Except LoadError EngineConfig)
  | none => pure (.ok {})
  | some path => EngineConfig.load files path

def replay (files : Files) (clock : Nat → Instant) (tracePath : String)
    (configPath : Option String) : Logged (Except LoadError Json) := do
  match ← config files configPath with
  | .error e => pure (.error e)
  | .ok config =>
    match ← QuestCatalog.loadFolder .empty files config.questFolder with
    | (.error e, _) => pure (.error e)
    | (.ok _, catalog) =>
      match Trace.load files tracePath with
      | .error e => pure (.error e)
      | .ok trace => do
        let context : Context MemoryFlags QuestCatalog := ⟨{}, catalog, config.keys⟩
        let engine ← Engine.ofContext context
        Logged.note (.replayStarting trace.invocations.length tracePath)
        let (report, _) ← trace.run clock engine
        pure (.ok (watchedJson report.watched))

/-- How the program ends: its exit code, and the report of a replay that was made. -/
structure Ending where
  code : UInt8
  report : Option String := none
deriving DecidableEq, Repr

def run (files : Files) (clock : Nat → Instant) (args : List String) : Logged Ending :=
  match request args with
  | .help | .version => pure ⟨0, none⟩
  | .misuse => pure ⟨2, none⟩
  | .replay trace config => do
    match ← replay files clock trace config with
    | .ok json => pure ⟨0, some json.pretty⟩
    | .error cause => do
      Logged.note (.replayRefused cause)
      pure ⟨1, none⟩

end Questline.Program
