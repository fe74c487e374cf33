import Questline.Dispatch.Plan
import Questline.Player

/-!
# Dumps

The commands that log the state as JSON and change nothing. In the dump of quests the members of
every object are in order of name, and what is absent is `null`.
-/

namespace Questline.Dumps

variable {μ : Type}

def offer (q : QuestInfo) : Json :=
  .obj [("id", .str q.id), ("priority", .int q.priority.toInt), ("quest_type", .str q.type.name)]

/-- An object with a member for each distinct id, in order of id. -/
def byId (ids : List String) (value : String → Json) : Json :=
  .obj (Std.ExtTreeMap.ofList (ids.map fun id => (id, value id)) compare).toList

/-- The available quests, and the status and journal entry of each listed quest. -/
def quests [QuestManager μ] (v : View μ) (ids : List String) : Json :=
  let listed (value : String → Json) : Json := if ids = [] then .null else byId ids value
  .obj [
    ("available", .arr ((QuestManager.available v.quests v.ledger).map offer)),
    ("journal", listed fun id =>
      Json.ofOption JournalEntry.dump (QuestManager.journalEntry? v.quests id)),
    ("quests", listed fun id => .str (v.ledger.status id).name)]

def debugPlayerState (v : View μ) (call : Call) : Plan μ :=
  .decide v [.note (.playerState call.site (Player.dump v.flags))]

def debugQuestState [QuestManager μ] (v : View μ) (call : Call) : Plan μ :=
  .decide v [.note (.questState call.site (quests v call.args))]

def debugSessionState (v : View μ) (call : Call) : Plan μ :=
  .decide v [.note (.sessionState call.site (Session.dump v.flags))]

end Questline.Dumps
