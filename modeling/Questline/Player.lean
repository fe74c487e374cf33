import Questline.Flags.Field
import Questline.Json
import Questline.Story

/-!
# The Player and the Session

The fields of the player's story, the slots of one dialogue session, and what follows from them:
who returns for the final battle, and how both are dumped. All of it is read from the flags anew on
every question.
-/

namespace Questline

namespace Player

def rank : Field Rank := .coded Rank "player_rank"

def phase : Field StoryPhase := .coded StoryPhase "player_phase"

def motivation : Field Motivation := .coded Motivation "player_motivation"

def karma : Field Int32 := .bounded (-100) 100 "player_karma"

def contribution : Field Int32 := .bounded 0 1000 "player_contribution"

def joinedGuild : Field Bool := .bool "player_joined_guild"

def tutorialDone : Field Bool := .bool "player_tutorial_done"

def metRival : Field Bool := .bool "player_met_rival"

def knowsSecret : Field Bool := .bool "player_knows_secret"

def rivalFate : Field RivalFate := .coded RivalFate "player_rival_fate"

def alliance : Field Alliance := .coded Alliance "player_alliance"

def mentorChoice : Field MentorChoice := .coded MentorChoice "player_mentor_choice"

def canRejoin (flags : FlagReader) : Companion → Bool
  | .rival => metRival.read flags && rivalFate.read flags == .spared && 0 ≤ karma.read flags
  | .mentor => mentorChoice.read flags == .stay || 500 ≤ contribution.read flags
  | .captain =>
    alliance.read flags == .knights && Coded.code Rank.b ≤ Coded.code (rank.read flags)

def dump (flags : FlagReader) : Json :=
  let coded {α : Type} [Coded α] (f : Field α) : Json := .str (Coded.name (f.read flags))
  .obj [
    ("rank", coded rank),
    ("phase", coded phase),
    ("motivation", coded motivation),
    ("karma", .int (karma.read flags).toInt),
    ("contribution", .int (contribution.read flags).toInt),
    ("joined_guild", .bool (joinedGuild.read flags)),
    ("tutorial_done", .bool (tutorialDone.read flags)),
    ("met_rival", .bool (metRival.read flags)),
    ("knows_secret", .bool (knowsSecret.read flags)),
    ("rival_fate", coded rivalFate),
    ("alliance", coded alliance),
    ("mentor_choice", coded mentorChoice)]

end Player

namespace Session

def questFound : Field Bool := .bool "session_quest_found"

def jumpTarget : Field JumpLabel := .coded JumpLabel "session_quest_jump_target"

/-- The speaker that opens a dialogue on its own, by number. -/
def autoDialogNpc : Field Int32 := .int "session_auto_dialog_npc_uid"

def arenaResult : Field ArenaResult := .coded ArenaResult "session_arena_result"

def cleared : List (String × Int32) :=
  [questFound.write false, jumpTarget.write .none, autoDialogNpc.write 0, arenaResult.write .none]

/-- Every slot of the session, by name; no jump target is `null`. -/
def dump (flags : FlagReader) : Json :=
  let target := jumpTarget.read flags
  .obj [
    ("quest_found", .bool (questFound.read flags)),
    ("quest_jump_target", if target = .none then .null else .str target.canonical),
    ("auto_dialog_npc_uid", .int (autoDialogNpc.read flags).toInt),
    ("arena_result", .str (Coded.name (arenaResult.read flags)))]

end Session

end Questline
