import SqlCells.Proofs.Run.Literals
import SqlCells.Proofs.Run.Writes
import SqlCells.Session

/-!
# Statements read back

The statements that write a frame are single statements whatever its names and values are, and the names
and the values are read back from their tokens.
-/

namespace SqlCells
namespace Persist

open Sql

variable {d : Dialect} {table : String} {names : List String} {index : Bool}

/-! ## Names -/

/-- The name in quotes that tokens spell. -/
def name? (quote : Char) : List Token → Option String
  | [.word name (some q)] => if q = quote then some name else none
  | _ => none

theorem isItem_columnName (d : Dialect) (name : String) :
    IsItem (columnName d name) [.word name (some (columnQuote d))] := by
  have hquote : columnQuote d = '"' ∨ columnQuote d = '`' := by
    unfold columnQuote
    split <;> simp
  have hitem := isItem_quotedName hquote name.toList
  rwa [String.ofList_toList] at hitem

theorem readBy_columnName (d : Dialect) (name : String) :
    ReadBy (name? (columnQuote d)) (columnName d name) name :=
  ⟨_, isItem_columnName d name, by simp [IsPlain], by simp [name?]⟩

theorem toNat_of_isTableChar {c : Char} (hc : isTableChar c = true) : c.toNat < 0x80 := by
  simp only [isTableChar, Bool.or_eq_true, beq_iff_eq] at hc
  rcases hc with ((halphanum | rfl) | rfl) | rfl
  · exact Text.toNat_of_isAlphanum halphanum
  all_goals decide

theorem isWordPart_of_isTableChar {c : Char} (hc : isTableChar c = true) : isWordPart c = true := by
  have hascii := toNat_of_isTableChar hc
  revert hc
  refine Text.ascii_induction (motive := fun c => isTableChar c = true → isWordPart c = true) ?_ hascii
  decide +kernel

/-- A text that starts with a letter starts with one in lower case too, unless it is none that a table
name may hold. -/
theorem exists_lower_cons {c : Char} (hc : (Text.isLetter c || c == '_') = true) (rest : List Char) :
    ∃ e more, Text.lower (c :: rest) = e :: more ∧ (isTableChar e = true → Text.isNameStart e = true) := by
  unfold Text.lower Text.lowerAfter
  by_cases hsigma : c = 'Σ'
  · rw [if_pos hsigma]
    exact ⟨'σ', _, rfl, by decide⟩
  · rw [if_neg hsigma]
    by_cases hascii : c.toNat < 0x80
    · rw [Text.lowerChar_of_ascii hascii]
      refine ⟨c.toLower, _, rfl, fun _ => ?_⟩
      revert hc
      refine Text.ascii_induction (motive := fun c => (Text.isLetter c || c == '_') = true →
        Text.isNameStart c.toLower = true) ?_ hascii
      decide +kernel
    · obtain ⟨e, more, hlower, he⟩ := Text.exists_lowerChar_cons (Nat.not_lt.1 hascii)
      rw [hlower]
      refine ⟨e, _, rfl, fun htable => ?_⟩
      rcases he with hbeyond | he
      · exact absurd (toNat_of_isTableChar htable) (Nat.not_lt.2 hbeyond)
      · simp only [List.mem_cons, List.not_mem_nil, or_false] at he
        rcases he with rfl | rfl | rfl
        · rfl
        · rfl
        · cases htable

/-- The table of a variable is named by a word. -/
theorem isBareWord_tableName {variableName : String}
    (hname : Session.isIdentifier variableName.toList = true)
    (htable : tableName variableName = .ok table) : isBareWord table.toList = true := by
  unfold tableName at htable
  dsimp only at htable
  split at htable
  · cases htable
  · next hempty =>
    obtain rfl := Except.ok.inj htable
    rw [String.toList_ofList]
    cases hv : variableName.toList with
    | nil =>
      rw [hv] at hname
      cases hname
    | cons c rest =>
      rw [hv] at hname hempty
      obtain ⟨e, more, hlower, hstart⟩ := exists_lower_cons (Bool.and_eq_true_iff.1 hname).1 rest
      rw [hlower] at hempty ⊢
      cases he : isTableChar e with
      | false => simp [he] at hempty
      | true =>
        rw [List.takeWhile_cons_of_pos he, isBareWord, hstart he, Bool.true_and, List.all_eq_true]
        intro f hf
        exact isWordPart_of_isTableChar (List.all_eq_true.1 List.all_takeWhile f hf)

/-! ## Columns -/

/-- The type that bare words spell. -/
def typeName? : List Token → Option (List Char)
  | [.word w none] => some w.toList
  | .word w none :: rest => (typeName? rest).map fun more => w.toList ++ ' ' :: more
  | _ => none

/-- The name and the type of a column that tokens spell. -/
def column? (quote : Char) : List Token → Option (String × String)
  | .word name (some q) :: type =>
    if q = quote then (typeName? type).map fun t => (name, String.ofList t) else none
  | _ => none

/-- Words with spaces between them spell a type. -/
theorem exists_typeTokens {w : List Char} {ws : List (List Char)} (hws : ∀ v ∈ w :: ws, isBareWord v = true) :
    ∃ ts, IsItem (Text.joinWith [' '] (w :: ws)) ts ∧ IsPlain ts ∧
      typeName? ts = some (Text.joinWith [' '] (w :: ws)) := by
  refine ⟨(w :: ws).map fun v => .word (String.ofList v) none, ?_, by simp [IsPlain], ?_⟩
  · induction ws generalizing w with
    | nil => exact isItem_word (hws w List.mem_cons_self)
    | cons v ws ih =>
      obtain ⟨hw, hws⟩ := List.forall_mem_cons.1 hws
      have hitem := (isItem_word hw).spaced (ih hws)
      simpa [Text.joinWith] using hitem
  · clear hws
    induction ws generalizing w with
    | nil => simp [typeName?, Text.joinWith]
    | cons v ws ih =>
      have hmore := ih (w := v)
      simp only [List.map_cons] at hmore ⊢
      simp [typeName?, hmore, Text.joinWith]

/-- The type of a column is spelt with one word or two. -/
theorem exists_columnType_eq (d : Dialect) (values : List Value) :
    ∃ w ws, columnType d values = Text.joinWith [' '] (w :: ws) ∧ ∀ v ∈ w :: ws, isBareWord v = true := by
  unfold columnType
  split
  · exact ⟨"BOOLEAN".toList, [], rfl, by decide⟩
  · split
    · exact ⟨"BIGINT".toList, [], rfl, by decide⟩
    · exact ⟨"INTEGER".toList, [], rfl, by decide⟩
  · split
    · exact ⟨"DOUBLE".toList, ["PRECISION".toList], rfl, by decide⟩
    · exact ⟨"REAL".toList, [], rfl, by decide⟩
  · split
    · exact ⟨"BYTEA".toList, [], rfl, by decide⟩
    · exact ⟨"BLOB".toList, [], rfl, by decide⟩
  · exact ⟨"TEXT".toList, [], rfl, by decide⟩

theorem readBy_column (name : String) {w : List Char} {ws : List (List Char)}
    (hws : ∀ v ∈ w :: ws, isBareWord v = true) :
    ReadBy (column? (columnQuote d)) (columnName d name ++ ' ' :: Text.joinWith [' '] (w :: ws))
      (name, String.ofList (Text.joinWith [' '] (w :: ws))) := by
  obtain ⟨ts, hitem, hplain, htype⟩ := exists_typeTokens hws
  refine ⟨_, (isItem_columnName d name).spaced hitem, ?_, ?_⟩
  · rw [List.singleton_append]
    exact List.forall_mem_cons.2 ⟨by simp, hplain⟩
  · rw [List.singleton_append, column?, if_pos rfl, htype]
    rfl

/-! ## Statements -/

/-- A statement that creates a table: its columns with their types. -/
structure Created where
  table : String
  columns : List (String × String)
  deriving DecidableEq, Repr

/-- A statement that inserts rows. -/
structure Inserted where
  table : String
  columns : List String
  rows : List (List Literal)
  deriving DecidableEq, Repr

/-- The statement that creates a table, with names between the quotes, as tokens spell it. -/
def create? (quote : Char) : List Token → Option Created
  | .word "CREATE" none :: .word "TABLE" none :: .word table none :: rest =>
    match enclosed? rest with
    | some (items, []) => (items.mapM (column? quote)).map fun columns => ⟨table, columns⟩
    | _ => none
  | _ => none

/-- The statement that inserts rows, with names between the quotes, as tokens spell it. -/
def insert? (quote : Char) : List Token → Option Inserted
  | .word "INSERT" none :: .word "INTO" none :: .word table none :: rest =>
    match enclosed? rest with
    | some (items, .word "VALUES" none :: rest) => do
      let columns ← items.mapM (name? quote)
      let tuples ← lists? rest
      let rows ← tuples.mapM fun tuple => tuple.mapM literal?
      return ⟨table, columns, rows⟩
    | _ => none
  | _ => none

/-- The names of the columns of a table, with the index column or without. -/
def header (index : Bool) (names : List String) : List String :=
  (if index then ["index"] else []) ++ names

/-- Literals that are read from a row with its position: the position, if it is written, and a literal for
each value. -/
inductive IsRead : Bool → List Literal → Row × Nat → Prop
  | bare {ls : List Literal} {row : Row} {n : Nat} (hvalues : List.Forall₂ Literal.Denotes ls row) :
      IsRead false ls (row, n)
  | indexed {ls : List Literal} {row : Row} {digits : List Char} {n : Nat}
      (hposition : Number.readDigits? digits = some n) (hvalues : List.Forall₂ Literal.Denotes ls row) :
      IsRead true (.number digits :: ls) (row, n)

theorem exists_literals (d : Dialect) {row : Row} (hfinite : ∀ x, .float x ∈ row → x.isFinite = true) :
    ∃ ls, List.Forall₂ (ReadBy literal?) (row.map (literal d)) ls ∧
      List.Forall₂ Literal.Denotes ls row := by
  induction row with
  | nil => exact ⟨[], .nil, .nil⟩
  | cons v row ih =>
    obtain ⟨l, hread, hdenotes⟩ := exists_literal d (v := v) fun x hx => hfinite x (by simp [hx])
    obtain ⟨ls, hreads, hvalues⟩ := ih fun x hx => hfinite x (List.mem_cons_of_mem _ hx)
    exact ⟨l :: ls, .cons hread hreads, .cons hdenotes hvalues⟩

/-- A tuple is read back as its row. -/
theorem exists_rowTuple (d : Dialect) (index : Bool) {row : Row} (hne : row ≠ []) (n : Nat)
    (hfinite : ∀ x, .float x ∈ row → x.isFinite = true) :
    ∃ items ls, IsItem (rowTuple d index n row) (enclosed items) ∧
      (items ≠ [] ∧ ∀ item ∈ items, IsPlain item) ∧ items.mapM literal? = some ls ∧
      IsRead index ls (row, n) := by
  obtain ⟨ls, hreads, hvalues⟩ := exists_literals d hfinite
  obtain ⟨all, hall, hrow⟩ : ∃ all, List.Forall₂ (ReadBy literal?)
      ((if index then [Text.decimal n] else []) ++ row.map (literal d)) all ∧ IsRead index all (row, n) := by
    cases index with
    | false => exact ⟨ls, hreads, .bare hvalues⟩
    | true =>
      exact ⟨_, .cons (readBy_position n) hreads, .indexed (Number.readDigits?_toDigits n) hvalues⟩
  obtain ⟨items, hitems, hplain, hread⟩ := exists_items hall
  refine ⟨items, all, isItem_enclosed hitems, ⟨?_, hplain⟩, hread, hrow⟩
  rintro rfl
  have hnone := List.forall₂_nil_right_iff.1 hitems
  simp [hne] at hnone

/-- The tuples of a batch are read back as its rows. -/
theorem exists_rowTuples (d : Dialect) (index : Bool) {batch : List (Row × Nat)}
    (hbatch : ∀ r ∈ batch, r.1 ≠ [] ∧ ∀ x, .float x ∈ r.1 → x.isFinite = true) :
    ∃ (tuples : List (List (List Token))) (rows : List (List Literal)),
      List.Forall₂ IsItem (batch.map fun (row, n) => rowTuple d index n row) (tuples.map enclosed) ∧
      (∀ items ∈ tuples, items ≠ [] ∧ ∀ item ∈ items, IsPlain item) ∧
      (tuples.mapM fun items => items.mapM literal?) = some rows ∧
      List.Forall₂ (IsRead index) rows batch := by
  induction batch with
  | nil => exact ⟨[], [], .nil, nofun, rfl, .nil⟩
  | cons r batch ih =>
    obtain ⟨⟨hne, hfinite⟩, hbatch⟩ := List.forall_mem_cons.1 hbatch
    obtain ⟨items, ls, hitem, hitems, hread, hrow⟩ := exists_rowTuple d index hne r.2 hfinite
    obtain ⟨tuples, rows, htuples, hplain, hreads, hrows⟩ := ih hbatch
    refine ⟨items :: tuples, ls :: rows, .cons hitem htuples, List.forall_mem_cons.2 ⟨hitems, hplain⟩, ?_,
      .cons hrow hrows⟩
    simp [hread, hreads]

/-- The names of the columns of a table are read back, with the index column or without. -/
theorem exists_header (d : Dialect) (index : Bool) (hnames : names ≠ []) :
    ∃ items, IsItem (tuple ((if index then [columnName d "index"] else []) ++ names.map (columnName d)))
        (enclosed items) ∧
      (items ≠ [] ∧ ∀ item ∈ items, IsPlain item) ∧
      items.mapM (name? (columnQuote d)) = some (header index names) := by
  have htexts : (if index then [columnName d "index"] else []) ++ names.map (columnName d) =
      (header index names).map (columnName d) := by
    cases index <;> rfl
  have hall : List.Forall₂ (ReadBy (name? (columnQuote d))) ((header index names).map (columnName d))
      (header index names) := by
    rw [List.forall₂_map_left_iff, List.forall₂_same]
    exact fun name _ => readBy_columnName d name
  obtain ⟨items, hitems, hplain, hread⟩ := exists_items hall
  rw [htexts]
  refine ⟨items, isItem_enclosed hitems, ⟨?_, hplain⟩, hread⟩
  rintro rfl
  cases index with
  | false => exact hnames (Option.some.inj hread).symm
  | true => cases hread

theorem getLast?_tuple (items : List (List Char)) : (tuple items).getLast? = some ')' :=
  List.getLast?_concat

/-- Tuples with commas between them end with a parenthesis. -/
theorem getLast?_joinWith_tuple {items : List (List (List Char))} (hne : items ≠ []) :
    (Text.joinWith [',', ' '] (items.map tuple)).getLast? = some ')' := by
  induction items with
  | nil => exact absurd rfl hne
  | cons first items ih =>
    cases items with
    | nil => exact getLast?_tuple first
    | cons second items =>
      have hmore := ih (List.cons_ne_nil _ _)
      rw [List.map_cons] at hmore
      rw [List.map_cons, List.map_cons, Text.joinWith, List.getLast?_append, hmore]
      rfl

/-- Two keywords, the table and what follows it. -/
theorem isItem_onTable {verb object rest : List Char} {ts : List Token} (hverb : isBareWord verb = true)
    (hobject : isBareWord object = true) (htable : isBareWord table.toList = true) (hrest : IsItem rest ts) :
    IsItem (verb ++ ' ' :: (object ++ ' ' :: (table.toList ++ ' ' :: rest)))
      (.word (String.ofList verb) none :: .word (String.ofList object) none :: .word table none :: ts) := by
  have hword := isItem_word htable
  rw [String.ofList_toList] at hword
  exact (isItem_word hverb).spaced ((isItem_word hobject).spaced (hword.spaced hrest))

theorem createTable_eq (d : Dialect) (table : String) (f : Frame) (index : Bool) :
    createTable d table f index = "CREATE".toList ++ ' ' :: ("TABLE".toList ++ ' ' :: (table.toList ++
      ' ' :: tuple ((if index then [columnName d "index" ++ " INTEGER".toList] else []) ++
        (f.names.zip f.columns).map fun (name, values) =>
          columnName d name ++ ' ' :: columnType d values))) := by
  have hverb : "CREATE TABLE ".toList = "CREATE".toList ++ ' ' :: ("TABLE".toList ++ [' ']) := by decide
  unfold createTable
  rw [hverb]
  simp only [List.append_assoc, List.cons_append, List.nil_append]

theorem insertStatement_eq (d : Dialect) (table : String) (names : List String) (index : Bool)
    (batch : List (Row × Nat)) :
    insertStatement d table names index batch = "INSERT".toList ++ ' ' :: ("INTO".toList ++
      ' ' :: (table.toList ++ ' ' :: (tuple ((if index then [columnName d "index"] else []) ++
        names.map (columnName d)) ++ ' ' :: ("VALUES".toList ++ ' ' :: Text.joinWith [',', ' ']
          (batch.map fun (row, n) => rowTuple d index n row))))) := by
  have hverb : "INSERT INTO ".toList = "INSERT".toList ++ ' ' :: ("INTO".toList ++ [' ']) := by decide
  have hvalues : " VALUES ".toList = ' ' :: ("VALUES".toList ++ [' ']) := by decide
  rw [insertStatement_rowTuple, hverb, hvalues]
  simp only [List.append_assoc, List.cons_append, List.nil_append]

theorem getLast?_insertStatement {batch : List (Row × Nat)} (hne : batch ≠ []) :
    (insertStatement d table names index batch).getLast? = some ')' := by
  have htuples : (batch.map fun (row, n) => rowTuple d index n row) = (batch.map fun (row, n) =>
      (if index then [Text.decimal n] else []) ++ row.map (literal d)).map tuple := by
    rw [List.map_map]
    rfl
  rw [insertStatement_rowTuple, htuples, List.getLast?_append, getLast?_joinWith_tuple (by simpa using hne)]
  rfl

/-- The types of the columns of a table. -/
def columnTypes (d : Dialect) (index : Bool) (f : Frame) : List String :=
  (if index then ["INTEGER"] else []) ++ f.columns.map fun values => String.ofList (columnType d values)

/-- The columns of a table are read back, each as its name and its type. -/
theorem forall₂_readBy_columns (d : Dialect) (index : Bool) (f : Frame) :
    List.Forall₂ (ReadBy (column? (columnQuote d)))
      ((if index then [columnName d "index" ++ " INTEGER".toList] else []) ++
        (f.names.zip f.columns).map fun (name, values) => columnName d name ++ ' ' :: columnType d values)
      ((header index f.names).zip (columnTypes d index f)) := by
  have hcolumn : ∀ (name : String) (values : List Value), ReadBy (column? (columnQuote d))
      (columnName d name ++ ' ' :: columnType d values) (name, String.ofList (columnType d values)) := by
    intro name values
    obtain ⟨w, ws, htype, hws⟩ := exists_columnType_eq d values
    rw [htype]
    exact readBy_column name hws
  have hcolumns : List.Forall₂ (ReadBy (column? (columnQuote d)))
      ((f.names.zip f.columns).map fun (name, values) => columnName d name ++ ' ' :: columnType d values)
      (f.names.zip (f.columns.map fun values => String.ofList (columnType d values))) := by
    rw [List.zip_map_right, List.forall₂_map_left_iff, List.forall₂_map_right_iff, List.forall₂_same]
    exact fun c _ => hcolumn c.1 c.2
  -- The index column stands in front of the others.
  cases index with
  | false => exact hcolumns
  | true =>
    have hinteger : ∀ v ∈ ["INTEGER".toList], isBareWord v = true := by decide
    exact .cons (readBy_column "index" hinteger) hcolumns

/-- The statement that creates a table is one statement and is read back as its columns. -/
theorem create?_createTable (d : Dialect) (index : Bool) (htable : isBareWord table.toList = true)
    {f : Frame} (hnames : f.names ≠ []) (hlength : f.columns.length = f.names.length) :
    splitStatements (createTable d table f index) = [createTable d table f index] ∧
      create? (columnQuote d) (tokens (createTable d table f index)) =
        some ⟨table, (header index f.names).zip (columnTypes d index f)⟩ := by
  obtain ⟨items, hitems, hplain, hcolumnsread⟩ := exists_items (forall₂_readBy_columns d index f)
  -- A frame has a column for each name, so the list is not empty.
  have hne : items ≠ [] := by
    rintro rfl
    have hnone := List.forall₂_nil_right_iff.1 hitems
    have hcount := congrArg List.length hnone
    have hpos := List.length_pos_iff.2 hnames
    rw [List.length_append, List.length_map, List.length_zip, List.length_nil] at hcount
    omega
  have hread : ReadAs (createTable d table f index)
      (.word "CREATE" none :: .word "TABLE" none :: .word table none :: enclosed items) := by
    rw [createTable_eq]
    exact (isItem_onTable (by decide) (by decide) htable (isItem_enclosed hitems)).readAs
  constructor
  · have hhead : (createTable d table f index).head? = some 'C' := by
      rw [createTable_eq]
      rfl
    have hlast : (createTable d table f index).getLast? = some ')' := by
      unfold createTable
      rw [List.getLast?_append, List.getLast?_cons, getLast?_tuple]
      rfl
    have hsemicolon : .semicolon ∉ enclosed items := semicolon_not_mem_enclosed hplain
    exact splitStatements_of_readAs hread (by simp [hsemicolon]) hhead (by decide) hlast (by decide)
  · have hlist := enclosed?_enclosed hne hplain []
    rw [List.append_nil] at hlist
    rw [hread.tokens_eq, create?, hlist]
    dsimp only
    rw [hcolumnsread]
    rfl

/-- An insert is one statement and is read back as its names and rows. -/
theorem exists_insert?_insertStatement (d : Dialect) (index : Bool) (htable : isBareWord table.toList = true)
    (hnames : names ≠ []) {batch : List (Row × Nat)} (hne : batch ≠ [])
    (hbatch : ∀ r ∈ batch, r.1 ≠ [] ∧ ∀ x, .float x ∈ r.1 → x.isFinite = true) :
    splitStatements (insertStatement d table names index batch) =
        [insertStatement d table names index batch] ∧
      ∃ rows, insert? (columnQuote d) (tokens (insertStatement d table names index batch)) =
          some ⟨table, header index names, rows⟩ ∧
        List.Forall₂ (IsRead index) rows batch := by
  obtain ⟨columns, hcolumns, ⟨hcolumnsne, hcolumnsplain⟩, hheader⟩ := exists_header d index hnames
  obtain ⟨tuples, rows, htuples, hplain, hliterals, hrows⟩ := exists_rowTuples d index hbatch
  have htuplesne : tuples ≠ [] := by
    rintro rfl
    exact hne (List.map_eq_nil_iff.1 (List.forall₂_nil_right_iff.1 htuples))
  have hread : ReadAs (insertStatement d table names index batch)
      (.word "INSERT" none :: .word "INTO" none :: .word table none ::
        (enclosed columns ++ .word "VALUES" none :: listed (tuples.map enclosed))) := by
    have hvalues : IsItem "VALUES".toList [.word "VALUES" none] := isItem_word (by decide)
    rw [insertStatement_eq]
    exact (isItem_onTable (by decide) (by decide) htable
      (hcolumns.spaced (hvalues.spaced (isItem_joinWith htuples)))).readAs
  constructor
  · have hhead : (insertStatement d table names index batch).head? = some 'I' := by
      rw [insertStatement_eq]
      rfl
    have hnames : .semicolon ∉ enclosed columns := semicolon_not_mem_enclosed hcolumnsplain
    have hvalues : .semicolon ∉ listed (tuples.map enclosed) := by
      refine semicolon_not_mem_listed fun ts hts => ?_
      obtain ⟨items, hitems, rfl⟩ := List.mem_map.1 hts
      exact semicolon_not_mem_enclosed (hplain items hitems).2
    exact splitStatements_of_readAs hread (by simp [hnames, hvalues]) hhead (by decide)
      (getLast?_insertStatement hne) (by decide)
  · refine ⟨rows, ?_, hrows⟩
    have hlist := enclosed?_enclosed hcolumnsne hcolumnsplain
      (.word "VALUES" none :: listed (tuples.map enclosed))
    rw [hread.tokens_eq, insert?, hlist]
    simp [hheader, lists?_listed htuplesne hplain, hliterals]

/-- The inserts of some batches are read back as their rows. -/
theorem exists_inserts (d : Dialect) (index : Bool) (htable : isBareWord table.toList = true)
    (hnames : names ≠ []) {pieces : List (List (Row × Nat))} (hne : ∀ piece ∈ pieces, piece ≠ [])
    (hrows : ∀ r ∈ pieces.flatten, r.1 ≠ [] ∧ ∀ x, .float x ∈ r.1 → x.isFinite = true) :
    ∃ inserts : List Inserted, (pieces.map (insertStatement d table names index)).mapM
        (fun s => insert? (columnQuote d) (tokens s)) = some inserts ∧
      (∀ i ∈ inserts, i.table = table ∧ i.columns = header index names) ∧
      List.Forall₂ (IsRead index) (inserts.flatMap Inserted.rows) pieces.flatten := by
  induction pieces with
  | nil => exact ⟨[], rfl, nofun, .nil⟩
  | cons piece pieces ih =>
    obtain ⟨hpiece, hne⟩ := List.forall_mem_cons.1 hne
    obtain ⟨hfirst, hmore⟩ := List.forall_mem_append.1 hrows
    obtain ⟨-, rows, hread, hpiecerows⟩ := exists_insert?_insertStatement d index htable hnames hpiece hfirst
    obtain ⟨inserts, hreads, hinserts, hall⟩ := ih hne hmore
    refine ⟨⟨table, header index names, rows⟩ :: inserts, ?_,
      List.forall_mem_cons.2 ⟨⟨rfl, rfl⟩, hinserts⟩, List.rel_append hpiecerows hall⟩
    simp [hread, hreads]

/-- The statements that write a frame are single statements and give the frame back: the names of its
columns, in quotes, and its values, as literals. -/
theorem statements_read_back (d : Dialect) {variableName table : String}
    (hname : Session.isIdentifier variableName.toList = true) (htable : tableName variableName = .ok table)
    {names : List String} (hnames : names ≠ []) {rows : List Row} {f : Frame}
    (hf : f = Frame.ofRows names rows)
    (hfinite : ∀ row ∈ f.rows, ∀ x, .float x ∈ row → x.isFinite = true) (index : Bool) :
    (∀ s ∈ createTable d table f index :: insertStatements d table f index, splitStatements s = [s]) ∧
      (∃ columns, create? (columnQuote d) (tokens (createTable d table f index)) = some ⟨table, columns⟩ ∧
        columns.map Prod.fst = header index names ∧ columns.map Prod.snd = columnTypes d index f) ∧
      ∃ inserts : List Inserted, (insertStatements d table f index).mapM
          (fun s => insert? (columnQuote d) (tokens s)) = some inserts ∧
        (∀ i ∈ inserts, i.table = table ∧ i.columns = header index names) ∧
        List.Forall₂ (IsRead index) (inserts.flatMap Inserted.rows) f.rows.zipIdx := by
  have hword := isBareWord_tableName hname htable
  have hfnames : f.names = names := by rw [hf]; rfl
  have hlength : f.columns.length = names.length := by
    rw [hf, Frame.columns_ofRows, List.length_map, List.length_range]
  -- Every row has a value for each column.
  have hgood : ∀ r ∈ f.rows.zipIdx, r.1 ≠ [] ∧ ∀ x, .float x ∈ r.1 → x.isFinite = true := by
    intro r hr
    have hrow : r.1 ∈ f.rows := List.fst_mem_of_mem_zipIdx hr
    refine ⟨?_, hfinite r.1 hrow⟩
    rw [hf, Frame.rows_ofRows hnames] at hrow
    obtain ⟨row, -, heq⟩ := List.mem_map.1 hrow
    rw [← heq]
    simpa using hnames
  have hflatten : (batches f).flatten = f.rows.zipIdx := flatten_chunks (by decide) _
  have hpieces : ∀ piece ∈ batches f, piece ≠ [] := fun piece hpiece => (length_of_mem_chunks hpiece).1
  obtain ⟨hcreate, hcolumns⟩ := create?_createTable d index hword (f := f) (by rwa [hfnames])
    (by rw [hlength, hfnames])
  refine ⟨?_, ⟨_, hcolumns, ?_, ?_⟩, ?_⟩
  · refine List.forall_mem_cons.2 ⟨hcreate, fun s hs => ?_⟩
    rw [insertStatements_eq] at hs
    obtain ⟨piece, hpiece, rfl⟩ := List.mem_map.1 hs
    refine (exists_insert?_insertStatement d index hword (by rwa [hfnames]) (hpieces piece hpiece) ?_).1
    exact fun r hr => hgood r (hflatten ▸ List.mem_flatten.2 ⟨piece, hpiece, hr⟩)
  · rw [hfnames, List.map_fst_zip]
    cases index <;> simp [header, columnTypes, hlength]
  · rw [hfnames, List.map_snd_zip]
    cases index <;> simp [header, columnTypes, hlength]
  · have hinserts := exists_inserts d index hword hnames hpieces (by rwa [hflatten])
    rwa [insertStatements_eq, hfnames, ← hflatten]

/-- A frame whose names and values have quotes, semicolons and comments in them. -/
def quotedFrame : Frame :=
  .ofRows ["a`b", "x\"; --"] [[.text "it's; /*", .bytes [0, 255]], [.float ⟨0xBFE0000000000000⟩, .int (-3)]]

theorem statements_read_back_quotedFrame :
    (∀ s ∈ createTable (.ofName "mysql" none) "odd" quotedFrame true ::
        insertStatements (.ofName "mysql" none) "odd" quotedFrame true, splitStatements s = [s]) ∧
      ∃ inserts : List Inserted, (insertStatements (.ofName "mysql" none) "odd" quotedFrame true).mapM
          (fun s => insert? (columnQuote (.ofName "mysql" none)) (tokens s)) = some inserts ∧
        (∀ i ∈ inserts, i.table = "odd" ∧ i.columns = ["index", "a`b", "x\"; --"]) ∧
        List.Forall₂ (IsRead true) (inserts.flatMap Inserted.rows)
          [([.text "it's; /*", .bytes [0, 255]], 0), ([.float ⟨0xBFE0000000000000⟩, .int (-3)], 1)] := by
  have hrows : quotedFrame.rows =
      [[.text "it's; /*", .bytes [0, 255]], [.float ⟨0xBFE0000000000000⟩, .int (-3)]] := by decide
  have hfinite : ∀ row ∈ quotedFrame.rows, ∀ x, .float x ∈ row → x.isFinite = true := by
    rw [hrows]
    simp
    decide
  have hname : Session.isIdentifier "Odd".toList = true := by decide
  have htable : tableName "Odd" = .ok "odd" := rfl
  obtain ⟨hsplit, -, hinserts⟩ := statements_read_back (.ofName "mysql" none) hname htable
    (List.cons_ne_nil _ _) (f := quotedFrame) rfl hfinite true
  rw [hrows] at hinserts
  exact ⟨hsplit, hinserts⟩

end Persist
end SqlCells
