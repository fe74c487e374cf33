import Questline.Dispatch.Context

/-!
# The Command Registry

Commands by the names under which scripts call them. The built-in commands are registered once, on
first use, so a command that a host registers under a built-in name replaces it whenever it comes. A
command that fails or panics is logged and answers nothing; it never takes the caller down.
-/

namespace Questline

structure Registry (σ μ : Type) where
  commands : Std.ExtTreeMap String (Command σ μ) := ∅
  /-- The built-in commands have been registered. -/
  ready : Bool := false

namespace Registry

variable {σ μ : Type} [FlagStore σ] [QuestManager μ]

def bind (r : Registry σ μ) (c : Command σ μ) : Registry σ μ :=
  { r with commands := r.commands.insert c.name c }

/-- Registers the built-in commands, unless that was done before. -/
def prepare (r : Registry σ μ) : Logged (Registry σ μ) :=
  if r.ready then pure r
  else do
    let r := Builtin.all.foldl (fun r b => r.bind b.command) { r with ready := true }
    Logged.note (.builtinsRegistered r.commands.size)
    pure r

/-- Registers a command, in the place of any other of its name. -/
def register (r : Registry σ μ) (c : Command σ μ) : Logged (Registry σ μ) := do
  let r ← r.prepare
  pure (r.bind c)

def contains (r : Registry σ μ) (name : String) : Logged (Bool × Registry σ μ) := do
  let r ← r.prepare
  pure (r.commands.contains name, r)

/-- The registered names in ascending order. -/
def names (r : Registry σ μ) : Logged (List String × Registry σ μ) := do
  let r ← r.prepare
  pure (r.commands.keys, r)

/-- What becomes of a command's outcome: a decision, or nothing and an error in the log. -/
def settle (name : String) (site : CallSite) : Outcome → Logged (Option Decision)
  | .decided decision => do
    Logged.note (.finished decision)
    pure (some decision)
  | .failed cause => do
    Logged.note (.failed name site cause)
    pure none
  | .panicked text => do
    Logged.note (.panicked name site (text.getD "unknown panic"))
    pure none

/-- Executes a command and settles its outcome. All it logs is marked with the invocation. -/
def invoke (c : Command σ μ) (name : String) (ctx : Context σ μ) (call : Call) :
    Logged (Option Decision × Context σ μ) :=
  Logged.within ⟨name, call.site⟩ do
    let (outcome, ctx) ← c.execute ctx call
    let answer ← settle name call.site outcome
    pure (answer, ctx)

/-- Executes the command of a name. The answer is `none` if there is no such command, or if it fails
or panics. -/
def execute (r : Registry σ μ) (name : String) (ctx : Context σ μ) (call : Call) :
    Logged (Option Decision × Registry σ μ × Context σ μ) := do
  let r ← r.prepare
  match r.commands[name]? with
  | none =>
    Logged.note (.unknownCommand name call.site)
    pure (none, r, ctx)
  | some c =>
    let (answer, ctx) ← invoke c name ctx call
    pure (answer, r, ctx)

end Registry

structure Engine (σ μ : Type) where
  registry : Registry σ μ
  context : Context σ μ

namespace Engine

variable {σ μ : Type} [FlagStore σ] [QuestManager μ]

def ofContext (ctx : Context σ μ) : Logged (Engine σ μ) := do
  let registry ← Registry.prepare {}
  pure ⟨registry, ctx⟩

def invoke (e : Engine σ μ) (name : String) (call : Call) :
    Logged (Option Decision × Engine σ μ) := do
  let (answer, registry, context) ← e.registry.execute name e.context call
  pure (answer, ⟨registry, context⟩)

def register (e : Engine σ μ) (c : Command σ μ) : Logged (Engine σ μ) := do
  let registry ← e.registry.register c
  pure { e with registry }

end Engine

end Questline
