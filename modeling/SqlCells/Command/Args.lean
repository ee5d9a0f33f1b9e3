import SqlCells.Command.Flag
import SqlCells.Fault

/-!
# Arguments of a header

A header line read as flags and positional words.  The comment is dropped first; the words that are
left are classified, and a flag that takes a value finds it attached or as the next plain word.
-/

namespace SqlCells
namespace Command

/-- The flags and positional words of one header. -/
structure Args where
  /-- Positional words, quotes kept. -/
  line : List String := []
  connections : Bool := false
  closeKey : Option String := none
  creator : Option String := none
  sectionName : Option String := none
  persist : Bool := false
  persistReplace : Bool := false
  noIndex : Bool := false
  append : Bool := false
  arguments : Option String := none
  file : Option String := none
  saveAs : Option String := none
  /-- Names of the snippets the command reads from. -/
  withSnippets : List String := []
  noExecute : Bool := false
  aliasName : Option String := none
  interact : List String := []
  deriving DecidableEq, Repr

/-- Whether a result is to be written to a table. -/
def Args.wantsPersist (a : Args) : Bool :=
  a.persist || a.persistReplace || a.append

/-- Removes one level of matching quotes around a value. -/
def unquote (value : List Char) : List Char :=
  match value with
  | q :: c :: rest =>
    if isQuote q && (c :: rest).getLast? == some q then (c :: rest).dropLast else value
  | _ => value

/-- The names in a list between commas, blanks around them dropped, empty ones left out. -/
def nameList (names : List Char) : List String :=
  (((Text.splitAt (· == ',') names).map Text.trim).filter fun n => !n.isEmpty).map String.ofList

/-- Turns a switch on. -/
def Args.turnOn (a : Args) : Switch → Args
  | .connections => { a with connections := true }
  | .persist => { a with persist := true }
  | .persistReplace => { a with persistReplace := true }
  | .noIndex => { a with noIndex := true }
  | .append => { a with append := true }
  | .noExecute => { a with noExecute := true }

/-- Gives a setting its value. Snippet names and interactive parameters add up; of the others the
last value counts. -/
def Args.assign (a : Args) (value : List Char) : Setting → Args
  | .closeKey => { a with closeKey := some (String.ofList value) }
  | .creator => { a with creator := some (String.ofList value) }
  | .sectionName => { a with sectionName := some (String.ofList value) }
  | .arguments => { a with arguments := some (String.ofList value) }
  | .file => { a with file := some (String.ofList value) }
  | .saveAs => { a with saveAs := some (String.ofList value) }
  | .withSnippets => { a with withSnippets := a.withSnippets ++ nameList value }
  | .aliasName => { a with aliasName := some (String.ofList value) }
  | .interact => { a with interact := a.interact ++ [String.ofList value] }

/-- Adds a positional word. -/
def Args.addWord (a : Args) (word : List Char) : Args :=
  { a with line := a.line ++ [String.ofList word] }

/-- What one item of a header asks for: a flag as it was written, with its attached value. -/
structure Mark where
  flag : Flag
  shown : String
  attached : Option (List Char)

/-- The flag that an item names, or the refusal of one that does not exist; `none` for a word. -/
def Item.mark? : Item → Except Fault (Option Mark)
  | .word _ => .ok none
  | .long name value =>
    let shown := "--" ++ String.ofList name
    match Flag.ofName? name with
    | some flag => .ok (some ⟨flag, shown, value⟩)
    | none => .error (.unrecognizedArgument shown)
  | .short letter value =>
    let shown := "-" ++ String.singleton letter
    match Flag.ofLetter? letter with
    | some flag => .ok (some ⟨flag, shown, value⟩)
    | none => .error (.unrecognizedArgument shown)

/-- Reads the items of a header into `args`. -/
def Args.read (args : Args) : List Item → Except Fault Args
  | [] => .ok args
  | item :: rest =>
    match item.mark? with
    | .error f => .error f
    | .ok none => Args.read (args.addWord ((item.asWord).getD [])) rest
    | .ok (some mark) =>
      match mark.flag, mark.attached with
      | .switch _, some _ => .error (.valueUnexpected mark.shown)
      | .switch s, none => Args.read (args.turnOn s) rest
      | .setting s, some value => Args.read (args.assign (unquote value) s) rest
      | .setting s, none =>
        match rest with
        | .word value :: rest => Args.read (args.assign (unquote value) s) rest
        | _ => .error (.valueMissing mark.shown)

/-- The items of a header line, its comment dropped. -/
def headerItems (header : List Char) : List Item :=
  (splitWords (stripComment isKnownFlag header)).map classify

/-- Reads a header line. -/
def Args.parse (header : String) : Except Fault Args :=
  match Args.read {} (headerItems header.toList) with
  | .error f => .error f
  | .ok args =>
    if args.persistReplace && args.append then .error .replaceAndAppend else .ok args

end Command
end SqlCells
