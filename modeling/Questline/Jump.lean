import Questline.Coded
import Questline.Text.Keyword
import Std.Data.ExtTreeMap

/-!
# Jump Labels

The checkpoints a script can jump to, and tables of the aliases that name them. Several aliases may
name one checkpoint; the first of them is its canonical spelling.
-/

namespace Questline

inductive JumpLabel where
  | none
  | startRankG | startRankF | startRankE | startRankD
  | startRankC | startRankB | startRankA | startRankS
  | storyPrologue | storyAct1 | storyAct2 | storyAct3 | storyFinale
deriving DecidableEq, Repr

instance : Coded JumpLabel where
  default := .none
  members := [.none, .startRankG, .startRankF, .startRankE, .startRankD, .startRankC, .startRankB,
    .startRankA, .startRankS, .storyPrologue, .storyAct1, .storyAct2, .storyAct3, .storyFinale]
  code
    | .none => 0
    | .startRankG => 1 | .startRankF => 2 | .startRankE => 3 | .startRankD => 4
    | .startRankC => 5 | .startRankB => 6 | .startRankA => 7 | .startRankS => 8
    | .storyPrologue => 20 | .storyAct1 => 21 | .storyAct2 => 22 | .storyAct3 => 23
    | .storyFinale => 24
  name
    | .none => "None"
    | .startRankG => "StartRankG" | .startRankF => "StartRankF" | .startRankE => "StartRankE"
    | .startRankD => "StartRankD" | .startRankC => "StartRankC" | .startRankB => "StartRankB"
    | .startRankA => "StartRankA" | .startRankS => "StartRankS"
    | .storyPrologue => "StoryPrologue" | .storyAct1 => "StoryAct1" | .storyAct2 => "StoryAct2"
    | .storyAct3 => "StoryAct3" | .storyFinale => "StoryFinale"

structure AliasTable where
  /-- The label of each alias. -/
  labels : Std.ExtTreeMap String JumpLabel
  /-- The first alias of each label. -/
  canonical? : JumpLabel → Option String

namespace AliasTable

def empty : AliasTable := ⟨∅, fun _ => none⟩

/-- Adds an alias. It replaces an equal alias, but not the canonical one of its label. -/
def add (t : AliasTable) (word : String) (label : JumpLabel) : AliasTable where
  labels := t.labels.insert word label
  canonical? l := if l = label then some ((t.canonical? l).getD word) else t.canonical? l

def ofList (aliases : List (String × JumpLabel)) : AliasTable :=
  aliases.foldl (fun t a => t.add a.1 a.2) empty

/-- The label that an alias names, trimmed and in lower case; an unknown one names no label. -/
def resolve (t : AliasTable) (word : String) : JumpLabel :=
  (t.labels[Text.keyword word]?).getD .none

def canonical (t : AliasTable) (label : JumpLabel) : String :=
  (t.canonical? label).getD "none"

def size (t : AliasTable) : Nat := t.labels.size

def standard : AliasTable := ofList [
  ("none", .none),
  ("start_rank_g", .startRankG), ("quest_rank_up_g", .startRankG),
  ("start_rank_f", .startRankF), ("quest_rank_up_f", .startRankF),
  ("start_rank_e", .startRankE), ("quest_rank_up_e", .startRankE),
  ("start_rank_d", .startRankD), ("quest_rank_up_d", .startRankD),
  ("start_rank_c", .startRankC), ("quest_rank_up_c", .startRankC),
  ("start_rank_b", .startRankB), ("quest_rank_up_b", .startRankB),
  ("start_rank_a", .startRankA), ("quest_rank_up_a", .startRankA),
  ("start_rank_s", .startRankS), ("quest_rank_up_s", .startRankS),
  ("story_prologue", .storyPrologue), ("quest_story_prologue", .storyPrologue),
  ("story_act1", .storyAct1), ("quest_story_act1", .storyAct1),
  ("story_act2", .storyAct2), ("quest_story_act2", .storyAct2),
  ("story_act3", .storyAct3), ("quest_story_act3", .storyAct3),
  ("story_finale", .storyFinale), ("quest_story_finale", .storyFinale)]

end AliasTable

namespace JumpLabel

def ofAlias (word : String) : JumpLabel := AliasTable.standard.resolve word

def canonical (label : JumpLabel) : String := AliasTable.standard.canonical label

end JumpLabel

end Questline
