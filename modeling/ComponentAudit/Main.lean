import ComponentAudit.CommandLine.Reach
import ComponentAudit.CommandLine.Run
import Std.Time.DateTime.Timestamp

/-!
# The program

A run on the files of the disk. The tree to check comes in on standard input: the paths of its files, one a line. A run
sees those files and what it names itself, and what it changed among them is written back.
-/

namespace ComponentAudit.CommandLine

/-- Adds what the disk has at a path to a tree that has nothing there. -/
def addFromDisk (here : Path) (files : FileTree) (p : Path) : IO FileTree := do
  if files.has (here / p) then return files
  match ← (IO.FS.readBinFile p.text).toBaseIO with
  | .ok bytes => return files.add (here / p) (.file bytes.toList)
  | .error (.inappropriateType ..) => return files.add (here / p) .empty
  | .error (.permissionDenied ..) =>
    -- Only a directory can be closed to a path that goes on from it.
    match ← (IO.FS.readBinFile (p.text ++ "/.")).toBaseIO with
    | .error (.permissionDenied ..) => return files.add (here / p) (.closed true)
    | _ => return files.add (here / p) (.closed false)
  | .error _ => return files

/-- Adds the files whose paths come in, one a line. -/
partial def addListed (input : IO.FS.Stream) (here : Path) (files : FileTree) : IO FileTree := do
  let line ← input.getLine
  if line.isEmpty then return files
  let p : Path := ⟨Text.utf8 (line.toList.filter fun c => c ≠ '\n')⟩
  addListed input here (← addFromDisk here files p)

/-- What a run finds around it, apart from the files. -/
def environment : IO Environment := do
  let now ← Std.Time.Timestamp.now
  return {
    files := .empty
    here := ⟨(← IO.getEnv "PWD").getD "/"⟩
    configDir := (← IO.getEnv "MIGRATION_GUARD_CONFIG_DIR").map (⟨·⟩)
    home := (← IO.getEnv "HOME").map (⟨·⟩)
    now := .sinceEpoch now.toSecondsSinceUnixEpoch.val now.val.nano.val.toNat }

/-- Reads the files that some arguments can reach. -/
def withFiles (env : Environment) (args : List String) : IO Environment := do
  match Invocation.parse args with
  | .error _ => return env
  | .ok i =>
    let files ← (i.reach env).foldlM (addFromDisk env.here) (env.files.add env.here .empty)
    if i.isCheck then return { env with files := ← addListed (← IO.getStdin) env.here files }
    else return { env with files }

/-- Writes the file that some arguments name, if a run changed it. -/
def writeBack (env : Environment) (args : List String) (after : FileTree) : IO Unit := do
  match (Invocation.parse args).toOption.bind (·.target?) with
  | none => return
  | some p => match after.read (env.here / p), env.files.read (env.here / p) with
    | .ok new, .ok old => if new ≠ old then IO.FS.writeBinFile p.text ⟨new.toArray⟩
    | .ok new, .error _ => IO.FS.writeBinFile p.text ⟨new.toArray⟩
    | .error _, _ => return

end ComponentAudit.CommandLine

open ComponentAudit ComponentAudit.CommandLine in
/-- Runs the program on its arguments; the number that it ends with is that of the run's status. -/
def main (args : List String) : IO UInt32 := do
  let env ← withFiles (← environment) args
  let result := run env args
  (← IO.getStdout).putStr result.output
  let errors ← IO.getStderr
  for entry in result.log do
    errors.putStrLn s!"{entry.level.name} {entry.message}"
  match result.error with
  | none => pure ()
  | some text => errors.putStrLn text
  writeBack env args result.files
  return result.status.code.toUInt32
