import TeachingEditor.CommandLine.Run

/-!
# The program

The files that a call can read are read here, and what comes of the call is printed.
All decisions are made by the command line module; the configuration is only looked
at to learn which catalog files there are.
-/

namespace TeachingEditor
namespace Program

/-- Whether the system can follow a path to its end. -/
def leadsSomewhere (path : Text) : IO Bool := do
  try
    let _ ← IO.FS.realPath (String.ofList path)
    return true
  catch _ =>
    return false

/-- The number of an error of the system, which comes with or without a sign. -/
def errorNumber (code : UInt32) : UInt32 :=
  min code (-code)

/-- Why a file could not be read; the flag says whether its path leads somewhere. -/
def fileErrorOf (found : Bool) (e : IO.Error) : FileError :=
  let message := (toString e).toList
  let unknown := if found then FileError.other message else FileError.unreachable message
  match e with
  | .noFileOrDirectory _ _ _ => .notFound
  | .inappropriateType _ code _ =>
      if errorNumber code = 20 then .notADirectory
      else if errorNumber code = 21 then .isADirectory
      else unknown
  | _ => unknown

/-- The bytes of a file. -/
def readFile (path : Text) : IO (Except FileError (List UInt8)) := do
  if '\x00' ∈ path then
    return .error .nulInName
  try
    let bytes ← IO.FS.readBinFile (String.ofList path)
    return .ok bytes.toList
  catch e =>
    return .error (fileErrorOf (← leadsSomewhere path) e)

/-- A reader of files that have been read before. -/
def readFiles (paths : List Text) : IO FileReader := do
  let contents ← paths.mapM fun path => do return (path, ← readFile path)
  return fun path => (contents.lookup path).getD (.error .notFound)

/-- The reader and the standard input for a call. -/
def surroundings (args : List Text) : IO (FileReader × List UInt8) := do
  match Request.ofArguments? args with
  | some (.run i) =>
      let read ← readFiles [i.configPath]
      let catalog := match CommandLine.loadConfig read i.configPath with
        | .ok c => c.catalog
        | .error _ => {}
      let paths := [catalog.vocabulary, catalog.completions, catalog.knowledge].filterMap id
      let sources := i.command.sources
      let read ← readFiles (i.configPath :: paths ++ sources.filter (! CommandLine.isStandardInput ·))
      if sources.any CommandLine.isStandardInput then
        let bytes ← (← IO.getStdin).readBinToEnd
        return (read, bytes.toList)
      else
        return (read, [])
  | _ => return (fun _ => .error .notFound, [])

/-- Print what comes of a call and give its exit code. -/
def call (args : List Text) : IO UInt32 := do
  let (read, input) ← surroundings args
  let outcome := CommandLine.outcome read input args
  IO.print (String.ofList outcome.printed)
  if let some report := outcome.report then
    IO.eprintln ("Error: " ++ String.ofList report)
  if outcome.exitCode = 2 then
    IO.eprint (String.ofList CommandLine.helpText)
  return outcome.exitCode.toUInt32

end Program
end TeachingEditor

def main (args : List String) : IO UInt32 :=
  TeachingEditor.Program.call (args.map String.toList)
