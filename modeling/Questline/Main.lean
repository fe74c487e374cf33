import Questline.Program
import Std.Time.DateTime.Timestamp

/-!
# The Command Line

Reads the files that a replay names, runs the program on them, and prints its log and its report.
-/

namespace Questline.Main

def usage : String := "usage: questline TRACE [CONFIG]"

/-- What stands at a place of the file system. Of files in folders only the TOML files are read. -/
partial def snapshot (place : IO.FS.DirEntry) (wanted : String → Bool) : IO FileTree := do
  if ← place.path.isDir then
    try
      let entries ← (← place.path.readDir).toList.mapM fun entry => do
        let tree ← snapshot entry fun name => Path.extension? name = some "toml"
        pure (entry.fileName, tree)
      pure (.folder entries)
    catch _ => pure .closedFolder
  else if wanted place.fileName then
    try pure (.file (← IO.FS.readBinFile place.path))
    catch _ => pure .closedFile
  else pure .closedFile

/-- The paths of the working folder that there are, with what stands there. -/
def gather (paths : List String) : IO (List (String × FileTree)) :=
  paths.filterMapM fun path => do
    let place : IO.FS.DirEntry := ⟨".", path⟩
    if path ≠ "" ∧ (← place.path.pathExists) then
      let tree ← snapshot place fun _ => true
      pure (some (path, tree))
    else pure none

def filesOf (trees : List (String × FileTree)) : Files := fun path => trees.lookup path

/-- The files that the arguments need: those they name, and the quest folder. -/
def neededFiles (args : List String) : IO Files :=
  match Program.request args with
  | .replay trace config => do
    let named ← gather (trace :: config.toList)
    let folders := match (Program.config (filesOf named) config).val with
      | .ok config => [config.questFolder]
      | .error _ => []
    pure (filesOf ((← gather folders) ++ named))
  | _ => pure (filesOf [])

def now : IO Instant := do
  let nanos := (← Std.Time.Timestamp.now).toNanosecondsSinceUnixEpoch.val
  pure ⟨nanos.fdiv Instant.billion, (nanos.fmod Instant.billion).toNat⟩

def run (args : List String) : IO UInt32 := do
  let files ← neededFiles args
  let time ← now
  let ending := Program.run files (fun _ => time) args
  for event in ending.log do
    if event.notice.level ≠ .debug then
      IO.eprintln s!"{event.notice.level.name} {event.notice.message}"
  match Program.request args, ending.val.report with
  | .help, _ => IO.println usage
  | .version, _ => IO.println "questline 1.0.0"
  | .misuse, _ => IO.eprintln usage
  | _, some report => IO.println report
  | _, none => pure ()
  pure ending.val.code.toUInt32

end Questline.Main

def main (args : List String) : IO UInt32 := Questline.Main.run args
