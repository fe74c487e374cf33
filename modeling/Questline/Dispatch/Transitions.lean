import Questline.Dispatch.Plan

/-!
# Quest Transitions

The commands that start and complete a quest. The quest manager is asked first and may refuse; the
bits of the quest are written after it agreed.
-/

namespace Questline.Transitions

variable {μ : Type} [QuestManager μ]

/-- The quest id among the arguments. A transition takes one; others are ignored with a notice. -/
def questId? (b : Builtin) : List String → List Effect × Option String
  | [] => ([.note (.questIdRequired b.name)], none)
  | [id] => if id = "" then ([.note (.questIdRequired b.name)], none) else ([], some id)
  | id :: extra => ([.note (.extraArguments b.name extra.length)], some id)

/-- What follows from the answer of the quest manager: it refuses, or some effects are due. -/
def conclude (v : View μ) (notes : List Effect) (reply : Logged (Except QuestError μ))
    (effects : List Effect) : Plan μ :=
  let notes := notes ++ Effect.ofLog reply.log
  match reply.val with
  | .error cause => ⟨notes, v.quests, .error (.quest cause)⟩
  | .ok quests => ⟨notes ++ effects, quests, .ok .none⟩

def startQuest (v : View μ) (call : Call) : Plan μ :=
  match questId? .startQuest call.args with
  | (notes, none) => .decide v notes
  | (notes, some id) =>
    if v.ledger.isCompleted id then ⟨notes, v.quests, .error (.quest (.alreadyCompleted id))⟩
    else
      conclude v notes (QuestManager.start v.quests v.ledger call.time id)
        (Effect.ofWrites [(v.keys.quests.active id).write true] ++ [.note (.questActivated id)])

def completeQuest (v : View μ) (call : Call) : Plan μ :=
  match questId? .completeQuest call.args with
  | (notes, none) => .decide v notes
  | (notes, some id) =>
    conclude v notes (QuestManager.complete v.quests call.time id)
      (Effect.ofWrites (v.keys.quests.completed id) ++ [.note (.questFinished id)])

end Questline.Transitions
