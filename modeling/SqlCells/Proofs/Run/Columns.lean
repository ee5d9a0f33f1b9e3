import SqlCells.Proofs.Number.Whole
import SqlCells.Proofs.Run.Readback

/-!
# Columns of a written table

A table is created with a column for each name of a frame, and with one for the index if that is asked for;
the inserts name the same columns.  The columns are told apart by their names alone, so they are distinct
exactly if the names are and none of them is that of the index.  The type of a column is that of its first
value, and every other value is written as it is, whether it is a constant of that type or not.
-/

namespace SqlCells
namespace Persist

open Sql

variable {d : Dialect} {index : Bool} {names : List String} {rows : List Row}

/-! ## Names -/

/-- The columns of a table as its statements name them. -/
def identifiers (d : Dialect) (index : Bool) (names : List String) : List (List Char) :=
  (header index names).map (columnName d)

/-- Different names are different in quotes: they are read back. -/
theorem columnName_injective (d : Dialect) : Function.Injective (columnName d) := by
  intro first second hsame
  have hfirst := (isItem_columnName d first).readAs.tokens_eq
  have hsecond := (isItem_columnName d second).readAs.tokens_eq
  rw [hsame, hsecond] at hfirst
  cases hfirst
  rfl

theorem nodup_identifiers_iff (d : Dialect) (index : Bool) (names : List String) :
    (identifiers d index names).Nodup ↔ names.Nodup ∧ (index = true → "index" ∉ names) := by
  unfold identifiers
  rw [List.nodup_map_iff (columnName_injective d)]
  cases index with
  | false => simp [header]
  | true => simp [header, and_comm]

/-- The columns that a table is created with. -/
theorem createTable_columns (d : Dialect) (table : String) (f : Frame) (index : Bool) :
    createTable d table f index = "CREATE TABLE ".toList ++ table.toList ++ ' ' ::
      tuple (List.zipWith (fun name type => name ++ ' ' :: type.toList) (identifiers d index f.names)
        (columnTypes d index f)) := by
  have hcolumns : ∀ column : String × List Value → List Char,
      (∀ name values, column (name, values) = columnName d name ++ ' ' :: columnType d values) →
      (f.names.zip f.columns).map column =
        List.zipWith (fun name type => name ++ ' ' :: type.toList) (f.names.map (columnName d))
          (f.columns.map fun values => String.ofList (columnType d values)) := by
    intro column hcolumn
    simp [List.zipWith_map, List.zip, hcolumn]
  unfold createTable identifiers columnTypes header
  dsimp only
  rw [hcolumns _ fun _ _ => rfl]
  cases index <;> rfl

/-- The columns that an insert names. -/
theorem insertStatement_columns (d : Dialect) (table : String) (names : List String) (index : Bool)
    (batch : List (Row × Nat)) :
    insertStatement d table names index batch = "INSERT INTO ".toList ++ table.toList ++ ' ' ::
      tuple (identifiers d index names) ++ " VALUES ".toList ++
        Text.joinWith [',', ' '] (batch.map fun (row, n) => rowTuple d index n row) := by
  rw [insertStatement_rowTuple]
  cases index <;> rfl

/-- All statements that write a frame name the columns of the index and of the frame's names, each read back
as its name.  They are distinct exactly if the names of the frame are and the index is none of them; so what
is read from a table with an index can be written again only without one. -/
theorem columns_distinct_iff (d : Dialect) (table : String) (names : List String) (rows : List Row)
    (index : Bool) :
    createTable d table (.ofRows names rows) index = "CREATE TABLE ".toList ++ table.toList ++ ' ' ::
        tuple (List.zipWith (fun name type => name ++ ' ' :: type.toList) (identifiers d index names)
          (columnTypes d index (.ofRows names rows))) ∧
      (∀ s ∈ insertStatements d table (.ofRows names rows) index,
        ∃ tuples, s = "INSERT INTO ".toList ++ table.toList ++ ' ' :: tuple (identifiers d index names) ++
          " VALUES ".toList ++ tuples) ∧
      List.Forall₂ (ReadBy (name? (columnQuote d))) (identifiers d index names) (header index names) ∧
      ((identifiers d index names).Nodup ↔ names.Nodup ∧ (index = true → "index" ∉ names)) ∧
      ∀ again, (identifiers d again (header true names)).Nodup ↔
        again = false ∧ (identifiers d true names).Nodup := by
  refine ⟨createTable_columns d table _ index, ?_, ?_, nodup_identifiers_iff d index names, ?_⟩
  · intro s hs
    rw [insertStatements_eq] at hs
    obtain ⟨batch, -, rfl⟩ := List.mem_map.1 hs
    exact ⟨_, insertStatement_columns d table names index batch⟩
  · unfold identifiers
    rw [List.forall₂_map_left_iff, List.forall₂_same]
    exact fun name _ => readBy_columnName d name
  · intro again
    cases again with
    | false => exact ⟨fun h => ⟨rfl, h⟩, fun h => h.2⟩
    | true =>
      have hindex : "index" ∈ header true names := List.mem_cons_self
      simp [nodup_identifiers_iff, hindex]

/-- What is read from a table with an index: the index and a name. -/
def indexedWriters : ResultSet :=
  .ofRaw (.ofRows ["index", "name"] [[.int 0, .text "Woolf"]]) none

theorem index_named_twice :
    indexedWriters.keys.Nodup ∧
      createTable (.ofName "sqlite" none) "writers" indexedWriters.toFrame true =
        "CREATE TABLE writers (\"index\" INTEGER, \"index\" INTEGER, \"name\" TEXT)".toList ∧
      insertStatements (.ofName "sqlite" none) "writers" indexedWriters.toFrame true =
        ["INSERT INTO writers (\"index\", \"index\", \"name\") VALUES (0, 0, 'Woolf')".toList] ∧
      ¬ (identifiers (.ofName "sqlite" none) true indexedWriters.toFrame.names).Nodup := by
  decide +kernel

/-! ## Types -/

/-- Digits with a minus sign or without. -/
def IsInteger (t : List Char) : Prop :=
  ∃ ds, ds ≠ [] ∧ (∀ c ∈ ds, c.isDigit = true) ∧ (t = ds ∨ t = '-' :: ds)

theorem isInteger_decimal (n : Nat) : IsInteger (Text.decimal n) :=
  ⟨_, Nat.toDigits_ne_nil, fun _ hc => isDigit_of_mem_toDigits hc, Or.inl rfl⟩

theorem isInteger_integer (i : Int) : IsInteger (Number.integer i) := by
  unfold Number.integer
  split
  · exact ⟨_, Nat.toDigits_ne_nil, fun _ hc => isDigit_of_mem_toDigits hc, Or.inr rfl⟩
  · exact isInteger_decimal i.natAbs

/-- A number is written as digits alone exactly if it is whole. -/
theorem isInteger_plainText_iff {x : Binary64} (hfinite : x.isFinite = true) :
    IsInteger x.plainText ↔ x.IsWhole := by
  rw [← Binary64.point_not_mem_plainText_iff hfinite]
  constructor
  · rintro ⟨ds, -, hdigits, hsign⟩ hpoint
    have hmem : '.' ∈ ds := by
      rcases hsign with heq | heq
      · rwa [heq] at hpoint
      · rw [heq] at hpoint
        simpa using hpoint
    cases hdigits '.' hmem
  · intro hpoint
    obtain ⟨body, e, hbody, htext, -⟩ := Binary64.read?_plainText hfinite
    have hbodyPoint : '.' ∉ body := by
      intro hmem
      refine hpoint ?_
      rw [htext]
      split
      · exact List.mem_cons_of_mem _ hmem
      · exact hmem
    cases hbody with
    | whole hne hdigits =>
      refine ⟨body, hne, hdigits, ?_⟩
      rw [htext]
      cases x.isNegative with
      | true => exact Or.inr rfl
      | false => exact Or.inl rfl
    | point => simp at hbodyPoint

/-- What the values of a column are declared to be. -/
inductive Kind where
  | boolean
  | integer
  | number
  | text
  | bytes
  deriving DecidableEq, Repr

/-- The kind that the name of a type stands for. -/
def Kind.ofType? (type : String) : Option Kind :=
  if type = "BOOLEAN" then some .boolean
  else if type = "INTEGER" ∨ type = "BIGINT" then some .integer
  else if type = "REAL" ∨ type = "DOUBLE PRECISION" then some .number
  else if type = "TEXT" then some .text
  else if type = "BLOB" ∨ type = "BYTEA" then some .bytes
  else none

/-- The kind of a value. -/
def Kind.ofValue? : Value → Option Kind
  | .null => none
  | .bool _ => some .boolean
  | .int _ => some .integer
  | .float _ => some .number
  | .text _ => some .text
  | .bytes _ => some .bytes

/-- The kind of a column: that of its first value, text without one. -/
def Kind.ofColumn (values : List Value) : Kind :=
  ((values.find? fun v : Value => !v.isNull).bind Kind.ofValue?).getD .text

/-- Whether a literal is null or a constant of a kind. -/
inductive Literal.IsConstant : Kind → Literal → Prop
  | null (kind : Kind) : IsConstant kind .null
  | boolean (b : Bool) : IsConstant .boolean (.bool b)
  | integer {t : List Char} (ht : IsInteger t) : IsConstant .integer (.number t)
  | number (t : List Char) : IsConstant .number (.number t)
  | text (s : String) : IsConstant .text (.text s)
  | bytes (b : List UInt8) : IsConstant .bytes (.bytes b)

/-- Whether a literal is null or a constant of a type. -/
def Literal.Fits (type : String) (l : Literal) : Prop :=
  ∃ kind, Kind.ofType? type = some kind ∧ l.IsConstant kind

/-- Whether a value is null, has a kind or is written as if it had: whole numbers are integers, and integers
are numbers. -/
inductive Suits : Kind → Value → Prop
  | null (kind : Kind) : Suits kind .null
  | own {kind : Kind} {v : Value} (hkind : Kind.ofValue? v = some kind) : Suits kind v
  | whole {x : Binary64} (hx : x.IsWhole) : Suits .integer (.float x)
  | int (i : Int64) : Suits .number (.int i)

theorem ofType?_columnType (d : Dialect) (values : List Value) :
    Kind.ofType? (String.ofList (columnType d values)) = some (Kind.ofColumn values) := by
  unfold columnType Kind.ofColumn
  rw [String.ofList_toList]
  cases values.find? fun v : Value => !v.isNull with
  | none => rfl
  | some v => cases v <;> cases d.isPostgres <;> rfl

/-- A value is written as a constant of a kind exactly if it suits the kind. -/
theorem isConstant_ofValue_iff {kind : Kind} {v : Value}
    (hfinite : ∀ x, v = .float x → x.isFinite = true) :
    (Literal.ofValue v).IsConstant kind ↔ Suits kind v := by
  constructor
  · intro hconstant
    cases v with
    | null => exact .null kind
    | bool b => cases hconstant; exact .own rfl
    | text s => cases hconstant; exact .own rfl
    | bytes b => cases hconstant; exact .own rfl
    | int i =>
      cases hconstant with
      | integer => exact .own rfl
      | number => exact .int i
    | float x =>
      cases hconstant with
      | integer ht => exact .whole ((isInteger_plainText_iff (hfinite x rfl)).1 ht)
      | number => exact .own rfl
  · intro hsuits
    cases hsuits with
    | null => exact .null kind
    | whole hx => exact .integer ((isInteger_plainText_iff (hfinite _ rfl)).2 hx)
    | int i => exact .number _
    | own hkind =>
      cases v with
      | null => cases hkind
      | bool b => cases hkind; exact .boolean b
      | int i => cases hkind; exact .integer (isInteger_integer i.toInt)
      | float x => cases hkind; exact .number _
      | text s => cases hkind; exact .text s
      | bytes b => cases hkind; exact .bytes b

/-- A row of a frame has a cell for each column. -/
theorem length_of_mem_rows {row : Row} (hrow : row ∈ (Frame.ofRows names rows).rows) :
    row.length = names.length := by
  by_cases hnames : names = []
  · rw [hnames, Frame.rows_ofRows_nil] at hrow
    cases hrow
  · rw [Frame.rows_ofRows hnames] at hrow
    obtain ⟨raw, -, rfl⟩ := List.mem_map.1 hrow
    simp

/-- A cell of a row stands in the column of its place. -/
theorem exists_cell {row : Row} (hrow : row ∈ (Frame.ofRows names rows).rows) {j : Nat}
    (hj : j < names.length) :
    ∃ values v, (Frame.ofRows names rows).columns[j]? = some values ∧ row[j]? = some v ∧ v ∈ values := by
  have hnames : names ≠ [] := List.ne_nil_of_length_pos (Nat.zero_lt_of_lt hj)
  rw [Frame.rows_ofRows hnames] at hrow
  obtain ⟨raw, hraw, rfl⟩ := List.mem_map.1 hrow
  refine ⟨rows.map fun raw => raw.getD j .null, raw.getD j .null, ?_, ?_, List.mem_map_of_mem hraw⟩
  · rw [Frame.columns_ofRows, List.getElem?_map, List.getElem?_range hj]
    rfl
  · rw [List.getElem?_map, List.getElem?_range hj]
    rfl

/-- The inserts hold a literal for each cell of a frame of finite numbers, each read back by itself, behind
the position of its row if there is an index.  The position is an integer, as its column is; a cell is a
constant of the type of its column exactly if it suits the kind of the first value there. -/
theorem literals_fit_iff (d : Dialect) (table : String) (index : Bool) {f : Frame}
    (hf : f = .ofRows names rows) (hfinite : ∀ row ∈ f.rows, ∀ x, .float x ∈ row → x.isFinite = true) :
    createTable d table f index = "CREATE TABLE ".toList ++ table.toList ++ ' ' ::
        tuple (List.zipWith (fun name type => name ++ ' ' :: type.toList) (identifiers d index names)
          ((if index then ["INTEGER"] else []) ++ f.columns.map fun c => String.ofList (columnType d c))) ∧
      insertStatements d table f index = (batches f).map (fun batch =>
        "INSERT INTO ".toList ++ table.toList ++ ' ' :: tuple (identifiers d index names) ++
          " VALUES ".toList ++ Text.joinWith [',', ' '] (batch.map fun (row, n) =>
            tuple ((if index then [Text.decimal n] else []) ++ row.map (literal d)))) ∧
      (batches f).flatten = f.rows.zipIdx ∧
      (∀ n, ∃ l, ReadBy literal? (Text.decimal n) l ∧ l.Fits "INTEGER") ∧
      ∀ row ∈ f.rows, row.length = names.length ∧
        ∀ j < names.length, ∃ values v l, f.columns[j]? = some values ∧ row[j]? = some v ∧
          v ∈ values ∧ ReadBy literal? (literal d v) l ∧
          (l.Fits (String.ofList (columnType d values)) ↔ Suits (Kind.ofColumn values) v) := by
  subst hf
  refine ⟨createTable_columns d table _ index, ?_, flatten_chunks (by decide) _, ?_, ?_⟩
  · rw [insertStatements_eq]
    exact List.map_congr_left fun batch _ => insertStatement_columns d table names index batch
  · exact fun n => ⟨_, readBy_position n, .integer, rfl, .integer (isInteger_decimal n)⟩
  · refine fun row hrow => ⟨length_of_mem_rows hrow, fun j hj => ?_⟩
    obtain ⟨values, v, hvalues, hv, hmem⟩ := exists_cell hrow hj
    have hfinite : ∀ x, v = .float x → x.isFinite = true := by
      rintro x rfl
      exact hfinite row hrow x (List.mem_of_getElem? hv)
    refine ⟨values, v, _, hvalues, hv, hmem, readBy_literal d hfinite, ?_⟩
    unfold Literal.Fits
    rw [ofType?_columnType, ← isConstant_ofValue_iff hfinite]
    simp

/-- An integer above a whole number, a fraction and a text. -/
def mixedColumn : Frame :=
  .ofRows ["c"] [[.int 1], [.float ⟨0x4000000000000000⟩], [.float ⟨0x3FE0000000000000⟩], [.text "x"]]

theorem literals_fit_mixedColumn :
    (∃ l, ReadBy literal? (literal (.ofName "sqlite" none) (.float ⟨0x4000000000000000⟩)) l ∧ l.Fits "INTEGER") ∧
      ∃ l, ReadBy literal? (literal (.ofName "sqlite" none) (.text "x")) l ∧ ¬ l.Fits "INTEGER" := by
  have hrows : mixedColumn.rows = [[.int 1], [.float ⟨0x4000000000000000⟩],
      [.float ⟨0x3FE0000000000000⟩], [.text "x"]] := by decide
  have hfinite : ∀ row ∈ mixedColumn.rows, ∀ x, .float x ∈ row → x.isFinite = true := by
    rw [hrows]
    simp only [List.mem_cons, List.not_mem_nil, or_false, forall_eq_or_imp, reduceCtorEq, or_self,
      IsEmpty.forall_iff, implies_true, Value.float.injEq, forall_eq, and_true, true_and]
    decide
  have hcell : ∀ v, [v] ∈ mixedColumn.rows → ∃ l, ReadBy literal? (literal (.ofName "sqlite" none) v) l ∧
      (l.Fits "INTEGER" ↔ Suits .integer v) := by
    intro v hrow
    obtain ⟨-, -, -, -, hcells⟩ := literals_fit_iff (.ofName "sqlite" none) "t" true rfl hfinite
    obtain ⟨values, _, l, hvalues, hv, -, hread, hfits⟩ := (hcells [v] hrow).2 0 (by decide)
    obtain rfl := Option.some.inj (hvalues.symm.trans (by decide : mixedColumn.columns[0]? = some
      [.int 1, .float ⟨0x4000000000000000⟩, .float ⟨0x3FE0000000000000⟩, .text "x"]))
    obtain rfl := Option.some.inj hv
    exact ⟨l, hread, hfits⟩
  have hwhole : Suits .integer (.float ⟨0x4000000000000000⟩) :=
    .whole ⟨2 ^ 52, -51, 2, by decide, by norm_num⟩
  have htext : ¬ Suits .integer (.text "x") := by
    rintro (_ | hkind)
    cases hkind
  obtain ⟨whole, hwholeRead, hwholeFits⟩ := hcell (.float ⟨0x4000000000000000⟩) (by rw [hrows]; simp)
  obtain ⟨text, htextRead, htextFits⟩ := hcell (.text "x") (by rw [hrows]; simp)
  exact ⟨⟨whole, hwholeRead, hwholeFits.2 hwhole⟩, text, htextRead, fun hfits => htext (htextFits.1 hfits)⟩

/-- A text in the column of an integer. -/
def textBelowInteger : Frame :=
  .ofRows ["c"] [[.int 1], [.text "x"]]

theorem text_in_integer_column :
    createTable (.ofName "sqlite" none) "t" textBelowInteger false =
        "CREATE TABLE t (\"c\" INTEGER)".toList ∧
      insertStatements (.ofName "sqlite" none) "t" textBelowInteger false =
        ["INSERT INTO t (\"c\") VALUES (1), ('x')".toList] ∧
      literal? (tokens "'x'".toList) = some (.text "x") ∧ ¬ (Literal.text "x").Fits "INTEGER" := by
  refine ⟨by decide +kernel, by decide +kernel, by decide +kernel, ?_⟩
  rintro ⟨kind, hkind, hconstant⟩
  cases hconstant
  cases hkind

end Persist
end SqlCells
