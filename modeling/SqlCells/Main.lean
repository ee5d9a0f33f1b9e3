import SqlCells.Program.Reach

/-!
# The command

Gathers the surroundings of a call, runs the program on them, and prints what it says.
-/

namespace SqlCells
namespace Program

/-- The bytes of a file that can be read. -/
def readFile? (path : String) : IO (Option (List UInt8)) := do
  try
    return some (← IO.FS.readBinFile path).toList
  catch _ => return none

/-- The variables that are set, of those with the given names. -/
def readVariables (names : List String) : IO Command.Environment :=
  names.eraseDups.filterMapM fun name => do
    return (← IO.getEnv name).map fun value => (name, value)

/-- The files that can be read, and the directories, at paths. -/
def readFiles (paths : List String) : IO Files := do
  let here ← IO.currentDir
  let mut files : Files := {}
  for path in paths.eraseDups do
    if ← (here / path).isDir then
      files := { files with directories := Files.placeOf path :: files.directories }
    else if let some content ← readFile? path then
      files := files.write (Files.placeOf path) content
  return files

/-- Everything on the standard input. -/
partial def readInput (input : IO.FS.Stream) (before : ByteArray) : IO ByteArray := do
  let chunk ← input.read 65536
  if chunk.isEmpty then return before else readInput input (before ++ chunk)

/-- Empties a log file, the directories on the way to it made first. -/
def emptyLog (path : String) : IO Unit := do
  let file := (← IO.currentDir) / path
  if let some directory := file.parent then IO.FS.createDirAll directory
  IO.FS.writeFile file ""

end Program
end SqlCells

open SqlCells Program in
/-- Runs the command with the words of its command line. -/
def main (args : List String) : IO UInt32 := do
  let input ←
    if readsInput args then readInput (← IO.getStdin) .empty else pure .empty
  let script ← match scriptOf? args with
    | some path => readFile? path
    | none => pure none
  let envFile ← readFile? ".env"
  let texts := [some input.toList, script, envFile].filterMap fun content =>
    (content.bind fun bytes => (Files.decodeText bytes).toOption).map String.toList
  let texts := args.map String.toList ++ texts
  let env ← readVariables (fixedNames ++ texts.flatMap namesIn)
  let home := (env.lookup "HOME").getD "."
  let loaded := EnvFile.load env (envFile.getD [])
  let paths := ".env" :: pathsOf loaded home args ++ texts.flatMap pathsIn
  let files ← readFiles (paths.flatMap Files.ways)
  match Program.run { words := args, env, home, input := input.toList, files } with
  | none =>
    IO.eprintln "error: the command line cannot be read\n\nFor more information, try '--help'."
    return 2
  | some result =>
    if result.logFile.isSome then
      (logOf? args).forM emptyLog
    IO.print (String.ofList result.printed.out)
    IO.eprint (String.ofList result.printed.err)
    return UInt32.ofNat result.code
