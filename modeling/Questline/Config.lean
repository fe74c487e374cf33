import Questline.Files.Loading
import Questline.Log
import Questline.Quest.Keys

/-!
# Configuration

The keys an engine uses, the default log filter and the folder of quest files. Every field has a
default, so an empty document is a configuration. The two stems of quest keys must be neither empty
nor equal.
-/

namespace Questline

structure EngineConfig where
  keys : EngineKeys := {}
  logFilter : String := "narrative_dispatch=info"
  questFolder : String := "data/quests"
deriving DecidableEq, Repr

def EngineKeys.check (keys : EngineKeys) : Except Defect Unit :=
  if keys.quests.doneStem = "" ∨ keys.quests.activeStem = "" then .error .emptyStem
  else if keys.quests.doneStem = keys.quests.activeStem then
    .error (.equalStems keys.quests.doneStem)
  else .ok ()

namespace EngineConfig

open Toml.Shape (string)

def keysShape : Toml.Shape EngineKeys :=
  Toml.Fields.shape do
    let d : EngineKeys := {}
    let doneStem ← .withDefault "quest_done_prefix" string d.quests.doneStem
    let activeStem ← .withDefault "quest_active_prefix" string d.quests.activeStem
    let availableCount ← .withDefault "available_count" string d.availableCount
    let hasRankUp ← .withDefault "has_rank_up" string d.hasRankUp
    let hasCharacterEvent ← .withDefault "has_character_event" string d.hasCharacterEvent
    let hasSubQuest ← .withDefault "has_sub_quest" string d.hasSubQuest
    let topQuestDigest ← .withDefault "top_quest_hash" string d.topQuestDigest
    pure { quests := ⟨doneStem, activeStem⟩, availableCount, hasRankUp, hasCharacterEvent,
           hasSubQuest, topQuestDigest }

def textShape (name : String) (value : String) : Toml.Shape String :=
  Toml.Fields.shape (.withDefault name string value)

def shape : Toml.Shape EngineConfig :=
  Toml.Fields.shape do
    let d : EngineConfig := {}
    let keys ← .withDefault "keys" keysShape d.keys
    let logFilter ← .withDefault "logging" (textShape "filter" d.logFilter) d.logFilter
    let questFolder ← .withDefault "quests" (textShape "data_dir" d.questFolder) d.questFolder
    pure { keys, logFilter, questFolder }

def ofText (path text : String) : Except LoadError EngineConfig := do
  let config ← shape.ofText path text
  config.keys.check.mapError .invalid
  pure config

def load (files : Files) (path : String) : Logged (Except LoadError EngineConfig) :=
  match files.text path >>= ofText path with
  | .error e => pure (.error e)
  | .ok config => do
    Logged.note (.configLoaded path)
    pure (.ok config)

end EngineConfig

end Questline
