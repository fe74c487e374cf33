import Questline.Dispatch.Branches
import Questline.Dispatch.Dumps
import Questline.Dispatch.Offers
import Questline.Dispatch.Transitions
import Questline.Dispatch.Writes
import Questline.Quest.Catalog

/-!
# Contexts and Commands

A context owns the flags and the quests of one run. A command is a named operation on a context; it
ends with a decision, an error or a panic, and keeps what it has changed in every case. The built-in
commands plan first, and the context carries their plans out.
-/

namespace Questline

/-- The flags and quests of one run, over some flag store and quest manager. -/
structure Context (σ μ : Type) where
  flags : σ
  quests : μ
  keys : EngineKeys := {}

inductive Outcome where
  | decided (decision : Decision)
  | failed (cause : CommandError)
  /-- The command broke off; a panic may carry a text. -/
  | panicked (text : Option String)
deriving DecidableEq, Repr

def Outcome.ofAnswer : Except CommandError Decision → Outcome
  | .ok decision => decided decision
  | .error cause => failed cause

structure Command (σ μ : Type) where
  name : String
  usage : String := ""
  execute : Context σ μ → Call → Logged (Outcome × Context σ μ)

namespace Context

variable {σ μ : Type}

/-- Flags in memory, no quests, and the default keys. -/
def inMemory : Context MemoryFlags QuestCatalog := { flags := {}, quests := .empty }

variable [FlagStore σ]

def view (ctx : Context σ μ) : View μ := ⟨FlagStore.get ctx.flags, ctx.quests, ctx.keys⟩

def ledger (ctx : Context σ μ) : Ledger := ctx.view.ledger

def perform (ctx : Context σ μ) (plan : Plan μ) : Logged (Outcome × Context σ μ) := do
  let flags ← Effect.applyAll ctx.flags plan.effects
  pure (.ofAnswer plan.answer, { ctx with flags, quests := plan.quests })

variable [QuestManager μ]

def isAvailable (ctx : Context σ μ) (id : String) : Bool :=
  QuestManager.isAvailable ctx.quests ctx.ledger id

def available (ctx : Context σ μ) : List QuestInfo := QuestManager.available ctx.quests ctx.ledger

def availableFrom (ctx : Context σ μ) (npc : String) : List QuestInfo :=
  QuestManager.availableFrom ctx.quests ctx.ledger npc

end Context

namespace Builtin

variable {σ μ : Type} [QuestManager μ]

def plan : Builtin → View μ → Call → Plan μ
  | ifFlag => Branches.ifFlag
  | switchFlag => Branches.switchFlag
  | setFlag => Writes.setFlag
  | addFlag => Writes.addFlag
  | addKarma => Writes.addKarma
  | addContribution => Writes.addContribution
  | setRank => Writes.setRank
  | setPhase => Writes.setPhase
  | setAutoDialogNpc => Writes.setAutoDialogNpc
  | setArenaResult => Writes.setArenaResult
  | clearSession => Writes.clearSession
  | canRejoin => Branches.canRejoin
  | checkQuestAvailable => Offers.checkQuestAvailable
  | checkAvailableQuests => Offers.checkAvailableQuests
  | checkQuestsForDispatch => Offers.checkQuestsForDispatch
  | startQuest => Transitions.startQuest
  | completeQuest => Transitions.completeQuest
  | debugPlayerState => Dumps.debugPlayerState
  | debugQuestState => Dumps.debugQuestState
  | debugSessionState => Dumps.debugSessionState

def command [FlagStore σ] (b : Builtin) : Command σ μ where
  name := b.name
  usage := b.usage
  execute ctx call := ctx.perform (b.plan ctx.view call)

end Builtin

end Questline
