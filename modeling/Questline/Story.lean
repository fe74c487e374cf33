import Questline.Coded
import Questline.Text.Keyword

/-!
# Story Vocabulary

The enumerations in which a story is told: the player's rank and phase, the choices behind them,
the companions, and the outcome of an arena battle. Those that a script may name are read from
keywords.
-/

namespace Questline

open Text (keyword)

/-- Guild rank, lowest to highest. -/
inductive Rank where
  | g | f | e | d | c | b | a | s
deriving DecidableEq, Repr

namespace Rank

instance : Coded Rank where
  default := g
  members := [g, f, e, d, c, b, a, s]
  code
    | g => 0 | f => 1 | e => 2 | d => 3 | c => 4 | b => 5 | a => 6 | s => 7
  name
    | g => "G" | f => "F" | e => "E" | d => "D" | c => "C" | b => "B" | a => "A" | s => "S"

def parse? (text : String) : Option Rank :=
  match keyword text with
  | "g" => some g
  | "f" => some f
  | "e" => some e
  | "d" => some d
  | "c" => some c
  | "b" => some b
  | "a" => some a
  | "s" => some s
  | _ => none

end Rank

inductive StoryPhase where
  | prologue | act1 | act2 | act3 | finale | epilogue
deriving DecidableEq, Repr

namespace StoryPhase

instance : Coded StoryPhase where
  default := prologue
  members := [prologue, act1, act2, act3, finale, epilogue]
  code
    | prologue => 0 | act1 => 1 | act2 => 2 | act3 => 3 | finale => 4 | epilogue => 5
  name
    | prologue => "Prologue" | act1 => "Act1" | act2 => "Act2" | act3 => "Act3"
    | finale => "Finale" | epilogue => "Epilogue"

def parse? (text : String) : Option StoryPhase :=
  match keyword text with
  | "prologue" => some prologue
  | "act1" => some act1
  | "act2" => some act2
  | "act3" => some act3
  | "finale" => some finale
  | "epilogue" => some epilogue
  | _ => none

end StoryPhase

/-- Why the player joined the guild. -/
inductive Motivation where
  | undecided | glory | duty | revenge
deriving DecidableEq, Repr

instance : Coded Motivation where
  default := .undecided
  members := [.undecided, .glory, .duty, .revenge]
  code
    | .undecided => 0 | .glory => 1 | .duty => 2 | .revenge => 3
  name
    | .undecided => "Undecided" | .glory => "Glory" | .duty => "Duty" | .revenge => "Revenge"

/-- How the rival's story ended. -/
inductive RivalFate where
  | unresolved | spared | defeated
deriving DecidableEq, Repr

instance : Coded RivalFate where
  default := .unresolved
  members := [.unresolved, .spared, .defeated]
  code
    | .unresolved => 0 | .spared => 1 | .defeated => 2
  name
    | .unresolved => "Unresolved" | .spared => "Spared" | .defeated => "Defeated"

/-- The faction the player sided with. -/
inductive Alliance where
  | neutral | merchants | knights
deriving DecidableEq, Repr

instance : Coded Alliance where
  default := .neutral
  members := [.neutral, .merchants, .knights]
  code
    | .neutral => 0 | .merchants => 1 | .knights => 2
  name
    | .neutral => "Neutral" | .merchants => "Merchants" | .knights => "Knights"

/-- Whether the mentor was asked to stay. -/
inductive MentorChoice where
  | stay | leave
deriving DecidableEq, Repr

instance : Coded MentorChoice where
  default := .stay
  members := [.stay, .leave]
  code
    | .stay => 0 | .leave => 1
  name
    | .stay => "Stay" | .leave => "Leave"

inductive ArenaResult where
  | none | victory | defeat
deriving DecidableEq, Repr

namespace ArenaResult

instance : Coded ArenaResult where
  default := none
  members := [none, victory, defeat]
  code
    | none => 0 | victory => 1 | defeat => 2
  name
    | none => "None" | victory => "Victory" | defeat => "Defeat"

def parse? (text : String) : Option ArenaResult :=
  match keyword text with
  | "none" => some none
  | "victory" | "win" => some victory
  | "defeat" | "loss" => some defeat
  | _ => Option.none

end ArenaResult

/-- Companions that may return for the final battle. -/
inductive Companion where
  | rival | mentor | captain
deriving DecidableEq, Repr

namespace Companion

def name : Companion → String
  | rival => "Rival"
  | mentor => "Mentor"
  | captain => "Captain"

def parse? (text : String) : Option Companion :=
  match keyword text with
  | "rival" => some rival
  | "mentor" => some mentor
  | "captain" => some captain
  | _ => none

end Companion

end Questline
