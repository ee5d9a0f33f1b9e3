import SqlCells.Program.Run

/-!
# What a call may touch

The variables and the paths that a call of the program can refer to, so that its surroundings can be
gathered beforehand: a path is a word of the command line, of a script or of the standard input, and
a variable is mentioned with a dollar sign.
-/

namespace SqlCells
namespace Program

/-- The names that a text mentions with a dollar sign. -/
def namesIn (text : List Char) : List String :=
  (Text.cut Command.environmentMention text).filterMap fun p =>
    match p.kind with
    | .plain => none
    | .named name => some (String.ofList name)

/-- The words of a text that may be paths: each word of each line, and what follows an equals sign in
it. -/
def pathsIn (text : List Char) : List String :=
  let words := (Text.lines text).flatMap Command.splitWords
  (words ++ words.map (Text.afterFirst ['='])).map String.ofList

/-- The paths that a command line itself names: the files it always looks for, and the values of its
options. -/
def pathsOf (env : Command.Environment) (home : String) (words : List String) : List String :=
  configPath env home :: words.flatMap fun w => w :: pathsIn w.toList

/-- The script that a command line names. -/
def scriptOf? (words : List String) : Option String :=
  match Arguments.read? words with
  | some (.run a) => a.script
  | _ => none

/-- Whether a command line reads the standard input. -/
def readsInput (words : List String) : Bool :=
  match Arguments.read? words with
  | some (.run a) => a.body == some "-"
  | _ => false

/-- The log file that a command line names. -/
def logOf? (words : List String) : Option String :=
  match Arguments.read? words with
  | some (.run a) => a.logFile
  | _ => none

/-- The variables that a call always looks at. -/
def fixedNames : List String :=
  ["HOME", "XDG_CONFIG_HOME", "DATABASE_URL"]

end Program
end SqlCells
