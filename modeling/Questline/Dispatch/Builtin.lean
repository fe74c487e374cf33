/-!
# Built-in Commands

The names by which scripts call the built-in commands, and the shape of their arguments. Names are
part of the script format.
-/

namespace Questline

inductive Builtin where
  | ifFlag | switchFlag | setFlag | addFlag
  | addKarma | addContribution | setRank | setPhase
  | setAutoDialogNpc | setArenaResult | clearSession | canRejoin
  | checkQuestAvailable | checkAvailableQuests | checkQuestsForDispatch
  | startQuest | completeQuest
  | debugPlayerState | debugQuestState | debugSessionState
deriving DecidableEq, Repr

namespace Builtin

def all : List Builtin := [
  ifFlag, switchFlag, setFlag, addFlag,
  addKarma, addContribution, setRank, setPhase,
  setAutoDialogNpc, setArenaResult, clearSession, canRejoin,
  checkQuestAvailable, checkAvailableQuests, checkQuestsForDispatch,
  startQuest, completeQuest,
  debugPlayerState, debugQuestState, debugSessionState]

def name : Builtin → String
  | ifFlag => "if_flag"
  | switchFlag => "switch_flag"
  | setFlag => "set_flag"
  | addFlag => "add_flag"
  | addKarma => "add_karma"
  | addContribution => "add_contribution"
  | setRank => "set_rank"
  | setPhase => "set_phase"
  | setAutoDialogNpc => "set_auto_dialog_npc"
  | setArenaResult => "set_arena_result"
  | clearSession => "clear_session"
  | canRejoin => "can_rejoin"
  | checkQuestAvailable => "check_quest_available"
  | checkAvailableQuests => "check_available_quests"
  | checkQuestsForDispatch => "check_quests_for_dispatch"
  | startQuest => "start_quest"
  | completeQuest => "complete_quest"
  | debugPlayerState => "debug_player_state"
  | debugQuestState => "debug_quest_state"
  | debugSessionState => "debug_session_state"

def usage : Builtin → String
  | ifFlag => "<key> <op><value>"
  | switchFlag => "<key> [targets..] <fallback>"
  | setFlag => "<key> <value>"
  | addFlag => "<key> <delta>"
  | addKarma | addContribution => "<delta>"
  | setRank => "<g|f|e|d|c|b|a|s>"
  | setPhase => "<prologue|act1|act2|act3|finale|epilogue>"
  | setAutoDialogNpc => "<uid>"
  | setArenaResult => "<none|victory|defeat>"
  | clearSession => ""
  | canRejoin => "<rival|mentor|captain>"
  | checkQuestAvailable => "<quest_id> [label]"
  | checkAvailableQuests => "[npc_id]"
  | checkQuestsForDispatch => "<flag> [quest_ids..]"
  | startQuest | completeQuest => "<quest_id>"
  | debugPlayerState => ""
  | debugQuestState => "[quest_ids..]"
  | debugSessionState => ""

def ofName? (text : String) : Option Builtin := all.find? fun b => b.name == text

end Builtin

end Questline
