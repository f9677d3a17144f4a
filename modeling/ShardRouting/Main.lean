import ShardRouting.Command.Program

/-! The program itself: it reads the arguments and the settings, and writes the report, the log and the
    errors. -/

namespace ShardRouting
namespace Command

/-- Runs a step and gives the words of the system if it fails. -/
def attempt (step : IO α) : IO (Except String α) := do
  match ← step.toBaseIO with
  | .ok a => return .ok a
  | .error error => return .error (toString error)

/-- The answers of the surroundings to one invocation. -/
def surroundings (invocation : Invocation) : IO Host := do
  let read (path : String) : IO (Except String String) := attempt (IO.FS.readFile path)
  let text ← match invocation.config with
    | some path => read path
    | none => pure (.ok "")
  let settings := loadSettings { read := fun _ => text, canLog := fun _ => .ok () } invocation.config
  let openLog (path : String) : IO Unit := do
    let parents := (path.splitOn "/").dropLast
    unless parents.isEmpty do IO.FS.createDirAll ("/".intercalate parents)
    discard (IO.FS.Handle.mk path .append)
  let log ← match settings with
    | .ok settings => match settings.logging.filePath with
      | some path => attempt (openLog path)
      | none => pure (.ok ())
    | .error _ => pure (.ok ())
  return { read := fun _ => text, canLog := fun _ => log }

def lineOf (format : Log.Format) (record : Log.Record) : String :=
  match format with
  | .compact => record.level.name ++ " " ++ record.target ++ ": " ++ record.message
  | .json =>
    (Json.object [("level", .string record.level.name),
      ("fields", .object [("message", .string record.message)]), ("target", .string record.target)]).compact

/-- Writes what a run ends with. -/
def write (exit : Exit) : IO UInt32 := do
  let errors ← IO.getStderr
  exit.console.forM fun record => errors.putStrLn (lineOf .compact record)
  if let some file := exit.file then
    let handle ← IO.FS.Handle.mk file.path .append
    file.records.forM fun record => handle.putStrLn (lineOf file.format record)
  IO.print exit.output
  if let some failure := exit.failure then errors.putStr ("Error: " ++ failure)
  return exit.code.toUInt32

end Command
end ShardRouting

open ShardRouting.Command in
def main (arguments : List String) : IO UInt32 := do
  match Invocation.ofArguments arguments with
  | .error stop =>
    let message := stop.message
    unless message.isEmpty do (← IO.getStderr).putStrLn ("error: " ++ message)
    write stop.exit
  | .ok invocation => write (runInvocation (← surroundings invocation) invocation)
