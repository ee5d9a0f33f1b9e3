import SqlCells.Text.Words

/-!
# Files

A tree of files seen from a working directory: what a path leads to, what reading or creating a file
there yields, and how the operating system words a refusal.
-/

namespace SqlCells

/-- Why a file cannot be read or created. -/
inductive FileFlaw where
  | notFound
  | isDirectory
  | notDirectory
  | alreadyExists
  | nameTooLong
  | nulInName
  | notText
  deriving DecidableEq, Repr

/-- The wording of a refusal. -/
def FileFlaw.message : FileFlaw → String
  | .notFound => "No such file or directory (os error 2)"
  | .isDirectory => "Is a directory (os error 21)"
  | .notDirectory => "Not a directory (os error 20)"
  | .alreadyExists => "File exists (os error 17)"
  | .nameTooLong => "File name too long (os error 36)"
  | .nulInName => "file name contained an unexpected NUL byte"
  | .notText => "stream did not contain valid UTF-8"

/-- Files and directories by their places, seen from the working directory. A place is the list of
the names on the way; a place outside starts with `..` or, from the root of all files, with `/`. -/
structure Files where
  entries : List (List String × List UInt8) := []
  /-- Directories that need not hold a file. -/
  directories : List (List String) := []
  deriving Repr

/-- What a path leads to. -/
inductive Entry where
  | file (content : List UInt8)
  | directory
  deriving DecidableEq, Repr

namespace Files

/-- The parts of a path between slashes. -/
def parts (path : String) : List String :=
  (Text.splitAt (· == '/') path.toList).map String.ofList

/-- Whether a part of a path stays where it is. -/
def staysThere (part : String) : Bool :=
  part.isEmpty || part == "."

/-- The place that a path starts from. -/
def origin (path : String) : List String :=
  if path.startsWith "/" then ["/"] else []

/-- The directory that holds a place. -/
def up (place : List String) : List String :=
  if place == ["/"] then place
  else if place.all (· == "..") then place ++ [".."]
  else place.dropLast

/-- The place one part further. -/
def enter (place : List String) (part : String) : List String :=
  if staysThere part then place
  else if part == ".." then up place
  else place ++ [part]

/-- The place that a path names when all directories on the way exist. -/
def placeOf (path : String) : List String :=
  (parts path).foldl enter (origin path)

/-- The tree with the given files. -/
def ofList (files : List (String × List UInt8)) : Files :=
  { entries := files.map fun (path, content) => (placeOf path, content) }

/-- A path from a directory on, without parts that lead nowhere. -/
def absolute (directory path : String) : String :=
  let kept := (parts path).filter fun p => !staysThere p
  String.intercalate "/" (directory :: kept)
    ++ (if kept.length ≠ 0 ∧ path.endsWith "/" then "/" else "")

/-- Whether a place is a directory: it is on the way to the working directory, was made, or holds
something. -/
def isDirectoryAt (fs : Files) (place : List String) : Bool :=
  place == ["/"] || place.all (· == "..") || fs.directories.contains place
    || fs.entries.any (fun e => place.isPrefixOf e.1)
    || fs.directories.any fun d => place.isPrefixOf d

/-- What stands at a place of the tree. -/
def entry? (fs : Files) (place : List String) : Option Entry :=
  match fs.entries.find? fun e => e.1 == place with
  | some (_, content) => some (.file content)
  | none => if fs.isDirectoryAt place then some .directory else none

/-- Follows the parts of a path from a directory. -/
def walk (fs : Files) (place : List String) : List String → Except FileFlaw (List String × Option Entry)
  | [] => .ok (place, fs.entry? place)
  | part :: rest =>
    match fs.entry? place with
    | none => .error .notFound
    | some (.file _) => .error .notDirectory
    | some .directory =>
      if 255 < part.utf8ByteSize then .error .nameTooLong
      else fs.walk (enter place part) rest

/-- The place that a path names, and what stands there. -/
def resolve (fs : Files) (path : String) : Except FileFlaw (List String × Option Entry) :=
  if path.toList.contains (Char.ofNat 0) then .error .nulInName
  else if path.isEmpty then .error .notFound
  else if 4096 ≤ path.utf8ByteSize then .error .nameTooLong
  else fs.walk (origin path) (parts path)

/-- Whether something stands at a path. -/
def exists? (fs : Files) (path : String) : Bool :=
  match fs.resolve path with
  | .ok (_, some _) => true
  | _ => false

/-- The content of the file at a path. -/
def read (fs : Files) (path : String) : Except FileFlaw (List UInt8) :=
  match fs.resolve path with
  | .error f => .error f
  | .ok (_, some (.file content)) => .ok content
  | .ok (_, some .directory) => .error .isDirectory
  | .ok (_, none) => .error .notFound

/-- The text of a file; its bytes have to be UTF-8. -/
def decodeText (content : List UInt8) : Except FileFlaw String :=
  match String.fromUTF8? ⟨content.toArray⟩ with
  | some s => .ok s
  | none => .error .notText

/-- The text of the file at a path. -/
def readText (fs : Files) (path : String) : Except FileFlaw String :=
  match fs.read path with
  | .ok content => decodeText content
  | .error f => .error f

/-- Creates or empties the file at a path, and gives the place of the file. A path with a slash at its
end can only name a directory. -/
def create (fs : Files) (path : String) : Except FileFlaw (List String) :=
  let bare := String.ofList (Text.dropTailWhile (· == '/') path.toList)
  match fs.resolve (if bare.isEmpty then path else bare) with
  | .error f => .error f
  | .ok (_, some .directory) => .error .isDirectory
  | .ok (place, _) => if path.endsWith "/" then .error .isDirectory else .ok place

/-- The tree with a file at a place. -/
def write (fs : Files) (place : List String) (content : List UInt8) : Files :=
  { fs with entries := (fs.entries.filter fun e => e.1 != place) ++ [(place, content)] }

/-- Makes one directory, reached from `start` by the parts; one that stands there already will do. -/
def makeDirectory (fs : Files) (start parts : List String) : Except FileFlaw Files :=
  match fs.walk start parts with
  | .error f => .error f
  | .ok (_, some .directory) => .ok fs
  | .ok (_, some (.file _)) => .error .alreadyExists
  | .ok (place, none) => .ok { fs with directories := fs.directories ++ [place] }

/-- Makes a directory and those on the way to it. The parts of its path come last one first. -/
def makeWay (fs : Files) (start : List String) : List String → Except FileFlaw Files
  | [] => .ok fs
  | part :: before =>
    let path := (part :: before).reverse
    match fs.makeDirectory start path with
    | .error .notFound =>
      match fs.makeWay start before with
      | .ok fs => fs.makeDirectory start path
      | .error f => .error f
    | made => made

/-- The paths on the way to a file, and its own. -/
def ways (path : String) : List String :=
  let ps := parts path
  (List.range ps.length).map fun i => String.intercalate "/" (ps.take (i + 1))

/-- Makes the directories on the way to a file. -/
def makeParents (fs : Files) (path : String) : Except FileFlaw Files :=
  fs.makeWay (origin path) (((parts path).filter fun p => !staysThere p).reverse.drop 1)

end Files
end SqlCells
