import SqlCells.Command.Words

/-!
# Flags of a header

The flags a header may carry, their long names, their letters, and whether a value follows.
-/

namespace SqlCells
namespace Command

/-- A flag that is on when it is present. -/
inductive Switch where
  | connections
  | persist
  | persistReplace
  | noIndex
  | append
  | noExecute
  deriving DecidableEq, Repr

/-- A flag that takes one value. -/
inductive Setting where
  | closeKey
  | creator
  | sectionName
  | arguments
  | file
  | saveAs
  | withSnippets
  | aliasName
  | interact
  deriving DecidableEq, Repr

/-- A flag of a header. -/
inductive Flag where
  | switch (s : Switch)
  | setting (s : Setting)
  deriving DecidableEq, Repr

/-- All flags. -/
def Flag.all : List Flag :=
  [.switch .connections, .setting .closeKey, .setting .creator, .setting .sectionName, .switch .persist,
   .switch .persistReplace, .switch .noIndex, .switch .append, .setting .arguments,
   .setting .file, .setting .saveAs, .setting .withSnippets, .switch .noExecute, .setting .aliasName,
   .setting .interact]

/-- The long names of a flag. -/
def Flag.names : Flag → List String
  | .switch .connections => ["connections"]
  | .switch .persist => ["persist"]
  | .switch .persistReplace => ["persist-replace"]
  | .switch .noIndex => ["no-index"]
  | .switch .append => ["append"]
  | .switch .noExecute => ["no-execute"]
  | .setting .closeKey => ["close"]
  | .setting .creator => ["creator"]
  | .setting .sectionName => ["section"]
  | .setting .arguments => ["connection_arguments", "connection-arguments"]
  | .setting .file => ["file"]
  | .setting .saveAs => ["save"]
  | .setting .withSnippets => ["with"]
  | .setting .aliasName => ["alias"]
  | .setting .interact => ["interact"]

/-- The letter of a flag, if it has one. -/
def Flag.letter? : Flag → Option Char
  | .switch .connections => some 'l'
  | .switch .persist => some 'p'
  | .switch .persistReplace => some 'P'
  | .switch .noIndex => some 'n'
  | .switch .append => none
  | .switch .noExecute => some 'N'
  | .setting .closeKey => some 'x'
  | .setting .creator => some 'c'
  | .setting .sectionName => some 's'
  | .setting .arguments => some 'a'
  | .setting .file => some 'f'
  | .setting .saveAs => some 'S'
  | .setting .withSnippets => some 'w'
  | .setting .aliasName => some 'A'
  | .setting .interact => none

/-- The flag with a long name. -/
def Flag.ofName? (name : List Char) : Option Flag :=
  Flag.all.find? fun f => f.names.any fun n => n.toList == name

/-- The flag with a letter. -/
def Flag.ofLetter? (letter : Char) : Option Flag :=
  Flag.all.find? fun f => f.letter? == some letter

/-- Whether a word is two dashes and the long name of a flag. -/
def isKnownFlag (word : List Char) : Bool :=
  match Text.dropPrefix? ['-', '-'] word with
  | some name => (Flag.ofName? name).isSome
  | none => false

end Command
end SqlCells
