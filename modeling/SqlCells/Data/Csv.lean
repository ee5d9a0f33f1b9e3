import SqlCells.Data.ResultSet
import SqlCells.Text.Case
import SqlCells.Text.Utf8
import SqlCells.Files

/-!
# Results as comma-separated text

A header record and one record for each row.  A field is quoted when it holds the delimiter, a quote
or a line break, or when it is empty and alone; records end with a carriage return and a line feed,
and all have the same number of fields.  The records are bytes, since the delimiter is one; they are
encoded while they are written, block by block.
-/

namespace SqlCells
namespace Csv

/-- How the text is turned into bytes. -/
inductive Encoding where
  | utf8
  /-- UTF-8 after a byte order mark. -/
  | utf8Sig
  | latin1
  deriving DecidableEq, Repr

/-- The encoding with a given name; case does not matter, and underscores are as good as hyphens. -/
def Encoding.ofName (name : String) : Except Fault Encoding :=
  let plain := (Text.lower name.toList).map fun c => if c = '_' then '-' else c
  match String.ofList plain with
  | "utf-8" | "utf8" => .ok .utf8
  | "utf-8-sig" | "utf8-sig" => .ok .utf8Sig
  | "latin-1" | "latin1" | "iso-8859-1" => .ok .latin1
  | other => .error (.unknownEncoding other)

/-! ## Records -/

/-- The signs between fields, around them and behind records. -/
structure Signs (α : Type) where
  delimiter : α
  quote : α
  carriageReturn : α
  lineFeed : α
  deriving DecidableEq, Repr

/-- The byte between fields. -/
structure Delimiter where
  byte : UInt8
  deriving DecidableEq, Repr

/-- A character stands for the byte that it starts with. -/
instance : Coe Char Delimiter :=
  ⟨fun c => ⟨(String.utf8EncodeChar c).headD 0⟩⟩

/-- The signs of a file as bytes. -/
def Delimiter.signs (d : Delimiter) : Signs UInt8 :=
  ⟨d.byte, 0x22, 0x0D, 0x0A⟩

section Records

variable {α : Type} [DecidableEq α] (s : Signs α)

/-- Whether a field has to be quoted. -/
def needsQuotes (field : List α) : Bool :=
  field.any fun c => c == s.delimiter || c == s.quote || c == s.carriageReturn || c == s.lineFeed

/-- A field in quotes, a quote inside written twice. -/
def inQuotes (field : List α) : List α :=
  s.quote :: field.flatMap (fun c => if c = s.quote then [s.quote, s.quote] else [c]) ++ [s.quote]

/-- A field, quoted where needed. -/
def field (text : List α) : List α :=
  if needsQuotes s text then inQuotes s text else text

/-- The fields of a record with delimiters between them. -/
def fieldsText (fields : List (List α)) : List α :=
  List.intercalate [s.delimiter] (fields.map (field s))

/-- A record. A record that would be empty is a pair of quotes. -/
def record (fields : List (List α)) : List α :=
  (if (fieldsText s fields).isEmpty then [s.quote, s.quote] else fieldsText s fields)
    ++ [s.carriageReturn, s.lineFeed]

/-- The records one after another, each as long as the one before it, `previous` being the length of
the one before the first. -/
def records (previous : Nat) : List (List (List α)) → Except Fault (List α)
  | [] => .ok []
  | fields :: rest =>
    if fields.length = previous then
      match records previous rest with
      | .ok text => .ok (record s fields ++ text)
      | .error f => .error f
    else .error (.unequalRecords fields.length previous)

end Records

/-- The field of a value; null is empty. -/
def cell : Value → List Char
  | .null => []
  | v => v.display

/-- A header and rows as bytes. -/
def bytes (d : Delimiter) (keys : List String) (rows : List Row) : Except Fault (List UInt8) :=
  let header := keys.map fun key => Utf8.encode key.toList
  match records d.signs keys.length (rows.map fun row => row.map fun v => Utf8.encode (cell v)) with
  | .ok body => .ok (record d.signs header ++ body)
  | .error f => .error f

/-- A header and rows as text. -/
def text (d : Delimiter) (keys : List String) (rows : List Row) : Except Fault (List Char) :=
  match bytes d keys rows with
  | .error f => .error f
  | .ok content =>
    match Utf8.decode content with
    | .ok text => .ok text
    | .error flaw => .error (.notText flaw.message)

/-! ## Encoding while writing -/

/-- Why bytes cannot be written in an encoding. -/
inductive EncodingFlaw where
  | notText (flaw : Utf8.Flaw)
  | unencodable (c : Char)
  | incomplete
  deriving DecidableEq, Repr

/-- The wording of a flaw. -/
def EncodingFlaw.message : EncodingFlaw → String
  | .notText flaw => flaw.message
  | .unencodable c => "character '" ++ c.toString ++ "' cannot be encoded as latin-1"
  | .incomplete => "incomplete UTF-8 sequence at end of output"

/-- What stands at the start of a file in UTF-8 to tell its encoding. -/
def byteOrderMark : List UInt8 :=
  [0xEF, 0xBB, 0xBF]

/-- The bytes of a text, one for each character, or the first character without one. -/
def latin1 (text : List Char) : Except EncodingFlaw (List UInt8) :=
  match text.find? fun c => decide (0xFF < c.toNat) with
  | some c => .error (.unencodable c)
  | none => .ok (text.map fun c => UInt8.ofNat c.toNat)

/-- A file that takes bytes of UTF-8 and holds them in an encoding. The start of a character whose other
bytes are still to come is held back. -/
structure EncodingWriter where
  encoding : Encoding
  written : List UInt8
  pending : List UInt8 := []
  deriving DecidableEq, Repr

namespace EncodingWriter

/-- An empty file, but for the byte order mark. -/
def new (e : Encoding) : EncodingWriter :=
  { encoding := e, written := if e = .utf8Sig then byteOrderMark else [] }

/-- Encodes the whole characters that are held back. -/
def encodeLatin1 (w : EncodingWriter) : Except EncodingFlaw EncodingWriter :=
  let r := Utf8.read w.pending
  match r.invalid with
  | some _ => .error (.notText (r.flaw w.pending))
  | none =>
    match latin1 r.text with
    | .error flaw => .error flaw
    | .ok encoded => .ok { w with written := w.written ++ encoded, pending := r.rest }

/-- Takes more bytes. -/
def write (w : EncodingWriter) (block : List UInt8) : Except EncodingFlaw EncodingWriter :=
  match w.encoding with
  | .utf8 | .utf8Sig => .ok { w with written := w.written ++ block }
  | .latin1 => { w with pending := w.pending ++ block }.encodeLatin1

/-- What the file holds in the end. -/
def finish (w : EncodingWriter) : Except EncodingFlaw (List UInt8) :=
  if w.pending.isEmpty then .ok w.written else .error .incomplete

end EncodingWriter

/-- What a file holds to which the blocks are written one after another. -/
def encode (e : Encoding) (blocks : List (List UInt8)) : Except EncodingFlaw (List UInt8) := do
  let w ← blocks.foldlM EncodingWriter.write (.new e)
  w.finish

/-- The bytes in blocks of the size of the buffer in front of a file. -/
def blocks : List UInt8 → List (List UInt8)
  | [] => []
  | b :: rest => (b :: rest.take 8191) :: blocks (rest.drop 8191)
termination_by bytes => bytes.length
decreasing_by simp only [List.length_cons, List.length_drop]; omega

/-- What is said about a file that was written, by its absolute path. -/
def receipt (path : String) : String :=
  "CSV results at " ++ path

end Csv

namespace ResultSet

/-- The set as comma-separated text; `none` when it has no columns. -/
def csvText (rs : ResultSet) (d : Csv.Delimiter) : Except Fault (Option (List Char)) :=
  if rs.keys.isEmpty then .ok none
  else (Csv.text d rs.keys rs.rows).map some

/-- The bytes of the file that the set is written to; `path` is named in refusals. -/
def csvFile (rs : ResultSet) (d : Csv.Delimiter) (e : Csv.Encoding) (path : String) :
    Except Fault (List UInt8) :=
  match Csv.bytes d rs.keys rs.rows with
  | .error f => .error (.cannotWrite path f.message)
  | .ok content =>
    match Csv.encode e (Csv.blocks content) with
    | .ok written => .ok written
    | .error flaw => .error (.cannotWrite path flaw.message)

/-- Writes the set to a file, and gives the bytes written and the files with it. The file is created
before the set is encoded. -/
def writeCsv (rs : ResultSet) (d : Csv.Delimiter) (e : Csv.Encoding) (path : String) (files : Files) :
    Except Fault (List UInt8 × Files) :=
  if rs.keys.isEmpty then .error .noColumns
  else
    match files.create path with
    | .error f => .error (.cannotCreate path f.message)
    | .ok place =>
      match rs.csvFile d e path with
      | .error f => .error f
      | .ok written => .ok (written, files.write place written)

end ResultSet
end SqlCells
