import Questline.Dispatch.Decision
import Questline.Error
import Questline.Json
import Questline.Jump
import Questline.Story

/-!
# Notices

Everything the library can have to report in its log. A notice keeps the values it is about; its
severity and its wording are functions of it.
-/

namespace Questline

open Text (quote)
open Text.Decimal (print printSigned printNat)

/-- Severities, worst first. -/
inductive Level where
  | error | warn | info | debug
deriving DecidableEq, Repr

namespace Level

def name : Level → String
  | error => "ERROR"
  | warn => "WARN"
  | info => "INFO"
  | debug => "DEBUG"

def rank : Level → Nat
  | error => 0
  | warn => 1
  | info => 2
  | debug => 3

end Level

inductive Notice where
  -- flag stores
  | writeRejected (key : String) (value : Int32) (reason : String)
  | writeDropped (key : String) (value : Int32)
  -- commands in general
  | builtinsRegistered (count : Nat)
  | unknownCommand (name : String) (site : CallSite)
  | malformed (name usage : String) (site : CallSite) (reason : String)
  | finished (decision : Decision)
  | failed (name : String) (site : CallSite) (cause : CommandError)
  | panicked (name : String) (site : CallSite) (text : String)
  -- branches
  | badCondition (site : CallSite) (cause : ConditionError)
  | flagTested (key : String) (value : Int32) (test : Comparison) (holds : Bool)
  | switched (key : String) (value : Int32) (target : String)
  | noTarget (key : String) (value : Int32)
  | rejoinTested (companion : Companion) (holds : Bool)
  -- writes
  | flagAdded (key : String) (value : Int32)
  | karmaAdded (delta value : Int32)
  | contributionAdded (delta value : Int32)
  | rankSet (rank : Rank)
  | phaseSet (phase : StoryPhase)
  | arenaResultSet (result : ArenaResult)
  | sessionCleared
  -- offers
  | alreadyFound (id : String)
  | notAvailable (id : String)
  | noLabel (id : String)
  | unknownLabel (label id : String)
  | found (id : String) (target : JumpLabel)
  | offersCounted (count : Int32) (npc : String)
  | dispatched (key : String) (position : Int32)
  -- transitions
  | questIdRequired (name : String)
  | extraArguments (name : String) (count : Nat)
  | startRecorded (id : String)
  | completionRecorded (id : String)
  | questActivated (id : String)
  | questFinished (id : String)
  -- dumps
  | playerState (site : CallSite) (state : Json)
  | questState (site : CallSite) (state : Json)
  | sessionState (site : CallSite) (state : Json)
  -- files
  | configLoaded (path : String)
  | questsLoading (folder : String)
  | questFolderMissing (folder : String)
  | questLoaded (name id : String)
  | questSkipped (path : String) (cause : LoadError)
  | questReplaced (id : String)
  | questsLoaded (count : Nat)
  | brokenChain (id previous : String)
  -- replays
  | flagsSeeded (count : Nat)
  | stepAnswered (site : CallSite) (command : String) (decision : Decision)
  | stepFailed (site : CallSite) (command : String)
  | replayed (steps failures : Nat)
  | replayStarting (steps : Nat) (path : String)
  | replayRefused (cause : LoadError)

namespace Notice

def level : Notice → Level
  | failed .. | panicked .. | questIdRequired .. | replayRefused .. => .error
  | writeRejected .. | writeDropped .. | unknownCommand .. | malformed .. | badCondition ..
  | unknownLabel .. | extraArguments .. | questFolderMissing .. | questSkipped ..
  | questReplaced .. | brokenChain .. | stepFailed .. => .warn
  | startRecorded .. | completionRecorded .. | questActivated .. | questFinished ..
  | playerState .. | questState .. | sessionState .. | configLoaded .. | questsLoading ..
  | questsLoaded .. | replayed .. | replayStarting .. => .info
  | _ => .debug

def message : Notice → String
  | writeRejected key value reason => s!"Save data rejected flag '{key}' = {print value}: {reason}"
  | writeDropped key value => s!"No save data loaded, dropping flag '{key}' = {print value}"
  | builtinsRegistered count => s!"Registered {printNat count} built-in commands"
  | unknownCommand name site => s!"Unknown command '{name}' at {site.text}"
  | malformed name usage site reason => s!"{name} at {site.text}: {reason} (usage: {name} {usage})"
  | finished _ => "Command finished"
  | failed name site cause => s!"Command '{name}' failed at {site.text}: {cause.message}"
  | panicked name site text => s!"Command '{name}' panicked at {site.text}: {text}"
  | badCondition site cause => s!"if_flag at {site.text}: {cause.message}"
  | flagTested key value test holds => s!"if_flag {key} ({print value}) {test.print} -> {holds}"
  | switched key value target => s!"switch_flag {key} = {print value} -> {target}"
  | noTarget key value => s!"switch_flag {key} = {print value}: no usable target"
  | rejoinTested companion holds => s!"can_rejoin {companion.name} -> {holds}"
  | flagAdded key value => s!"add_flag {key} -> {print value}"
  | karmaAdded delta value => s!"Karma {printSigned delta} -> {print value}"
  | contributionAdded delta value => s!"Contribution {printSigned delta} -> {print value}"
  | rankSet rank => s!"Rank set to {Coded.name rank}"
  | phaseSet phase => s!"Story phase set to {Coded.name phase}"
  | arenaResultSet result => s!"Arena result set to {Coded.name result}"
  | sessionCleared => "Session cleared"
  | alreadyFound id => s!"Quest already found this session, skipping '{id}'"
  | notAvailable id => s!"Quest '{id}' not available"
  | noLabel id => s!"Quest '{id}' available, no label given"
  | unknownLabel label id => s!"Unknown jump label '{label}' for quest '{id}'"
  | found id target => s!"Quest '{id}' found, jump target {target.canonical}"
  | offersCounted count npc =>
    s!"{print count} quests available" ++ if npc = "" then "" else s!" from '{npc}'"
  | dispatched key position => s!"Dispatch {key} = {print position}"
  | questIdRequired name => s!"{name} requires a quest id"
  | extraArguments name count =>
    s!"{name} takes one quest id, ignoring {printNat count} extra argument(s)"
  | startRecorded id => s!"Quest started: {id}"
  | completionRecorded id => s!"Quest completed: {id}"
  | questActivated id => s!"Started quest '{id}'"
  | questFinished id => s!"Completed quest '{id}'"
  | playerState site state => s!"[{site.text}] Player state: {state.compact}"
  | questState site state => s!"[{site.text}] Quest state: {state.compact}"
  | sessionState site state => s!"[{site.text}] Session state: {state.compact}"
  | configLoaded path => s!"Loaded engine config from {quote path}"
  | questsLoading folder => s!"Loading quests from {quote folder}"
  | questFolderMissing folder => s!"Quest directory does not exist: {quote folder}"
  | questLoaded name id => s!"Loaded quest: {name} ({id})"
  | questSkipped path cause => s!"Failed to load quest {quote path}: {cause.message}"
  | questReplaced id => s!"Duplicate quest ID '{id}', overwriting"
  | questsLoaded count => s!"Loaded {printNat count} quest definitions"
  | brokenChain id previous =>
    s!"Quest '{id}' references non-existent previous quest '{previous}'"
  | flagsSeeded count => s!"Seeded {printNat count} flags"
  | stepAnswered site command decision => s!"{site.text} {command} -> {decision.text}"
  | stepFailed site command => s!"{site.text} {command} failed"
  | replayed steps failures =>
    s!"Replayed {printNat steps} invocations, {printNat failures} failed"
  | replayStarting steps path =>
    s!"Replaying {printNat steps} invocations from {quote path}"
  | replayRefused cause => cause.message

/-- The decision that a notice of success carries besides its message. -/
def decision? : Notice → Option Decision
  | finished decision => some decision
  | _ => none

end Notice

end Questline
