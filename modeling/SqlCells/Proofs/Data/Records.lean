import SqlCells.Data.Csv
import SqlCells.Proofs.Text.Utf8

/-!
# Reading records back

A reader of comma-separated text as RFC 4180 describes it: a field either stands in quotes, where a quote
is written twice, or holds no quote, delimiter or line break; a delimiter stands between two fields and a
carriage return with a line feed behind a record.  The records that a result set is written as are read
back field by field.
-/

namespace SqlCells
namespace Csv

/-! ## The reader -/

/-- Where a reader stands. -/
inductive Place where
  /-- Before a field. -/
  | start
  /-- In a field without quotes. -/
  | bare
  | quoted
  /-- Behind a quote in a quoted field: the last one, or the first of two. -/
  | closed
  /-- Between the two characters of a line break. -/
  | returned
  deriving DecidableEq, Repr

/-- Whether a field may end here. -/
def Place.endsField : Place → Bool
  | .start | .bare | .closed => true
  | .quoted | .returned => false

/-- What has been read: the records, the fields of the next one, and the start of the next field. -/
structure Reader (α : Type) where
  place : Place := .start
  field : List α := []
  fields : List (List α) := []
  records : List (List (List α)) := []
  deriving DecidableEq, Repr

section Reading

variable {α : Type} [DecidableEq α] (s : Signs α)

namespace Reader

/-- Reads the sign that ends a field. -/
def behindField (r : Reader α) (c : α) : Option (Reader α) :=
  if c = s.delimiter then
    some { r with place := .start, field := [], fields := r.fields ++ [r.field] }
  else if c = s.carriageReturn then some { r with place := .returned }
  else none

/-- Reads one character outside of quotes. -/
def stepBare (r : Reader α) (c : α) : Option (Reader α) :=
  if c = s.quote ∨ c = s.lineFeed then none
  else if c = s.delimiter ∨ c = s.carriageReturn then r.behindField s c
  else some { r with place := .bare, field := r.field ++ [c] }

/-- Reads one character, if it may stand here. -/
def step (r : Reader α) (c : α) : Option (Reader α) :=
  match r.place with
  | .start => if c = s.quote then some { r with place := .quoted } else r.stepBare s c
  | .bare => r.stepBare s c
  | .quoted =>
    if c = s.quote then some { r with place := .closed } else some { r with field := r.field ++ [c] }
  | .closed =>
    if c = s.quote then some { r with place := .quoted, field := r.field ++ [c] }
    else r.behindField s c
  | .returned =>
    if c = s.lineFeed then some { records := r.records ++ [r.fields ++ [r.field]] } else none

/-- The records at the end of the text. The last one may go without a line break. -/
def finish (r : Reader α) : Option (List (List (List α))) :=
  if r.place = .start ∧ r.fields = [] then some r.records
  else if r.place.endsField then some (r.records ++ [r.fields ++ [r.field]])
  else none

end Reader

/-- The records of a text. -/
def read (text : List α) : Option (List (List (List α))) :=
  (text.foldlM (Reader.step s) {}).bind Reader.finish

/-! ## Records read back -/

/-- The signs are told from each other. -/
structure Signs.Distinct : Prop where
  quote : s.quote ≠ s.delimiter
  carriageReturn : s.carriageReturn ≠ s.delimiter ∧ s.carriageReturn ≠ s.quote
  lineFeed : s.lineFeed ≠ s.delimiter ∧ s.lineFeed ≠ s.quote ∧ s.lineFeed ≠ s.carriageReturn

variable {s} {place : Place} {text : List α} {fields before : List (List α)}
  {records : List (List (List α))}

theorem fieldsText_singleton (text : List α) : fieldsText s [text] = field s text := by
  rw [fieldsText, List.map_singleton, List.intercalate_singleton]

theorem fieldsText_cons_cons (text next : List α) (fields : List (List α)) :
    fieldsText s (text :: next :: fields) =
      field s text ++ s.delimiter :: fieldsText s (next :: fields) := by
  rw [fieldsText, List.map_cons, List.map_cons, List.intercalate_cons_cons, List.append_assoc]
  rfl

theorem foldlM_append_of_eq_some {β γ : Type} {f : β → γ → Option β} {b b' : β} {l : List γ}
    (h : l.foldlM f b = some b') (l' : List γ) : (l ++ l').foldlM f b = l'.foldlM f b' := by
  rw [List.foldlM_append, h]
  rfl

theorem foldlM_cons_of_eq_some {β γ : Type} {f : β → γ → Option β} {b b' : β} {a : γ}
    (h : f b a = some b') (l : List γ) : (a :: l).foldlM f b = l.foldlM f b' := by
  rw [List.foldlM_cons, h]
  rfl

/-- A field in quotes is read up to the last of them. -/
theorem foldlM_quoted (done text : List α) (before : List (List α)) (records : List (List (List α))) :
    (text.flatMap (fun c => if c = s.quote then [s.quote, s.quote] else [c]) ++ [s.quote]).foldlM
      (Reader.step s) ⟨.quoted, done, before, records⟩ =
      some ⟨.closed, done ++ text, before, records⟩ := by
  induction text generalizing done with
  | nil =>
    have hclose : Reader.step s ⟨.quoted, done, before, records⟩ s.quote =
        some ⟨.closed, done, before, records⟩ := if_pos rfl
    rw [List.flatMap_nil, List.nil_append, List.append_nil, foldlM_cons_of_eq_some hclose]
    rfl
  | cons c text ih =>
    have hone : (if c = s.quote then [s.quote, s.quote] else [c]).foldlM (Reader.step s)
        ⟨.quoted, done, before, records⟩ = some ⟨.quoted, done ++ [c], before, records⟩ := by
      split
      · next hc => simp [Reader.step, hc]
      · next hc => simp [Reader.step, hc]
    rw [List.flatMap_cons, List.append_assoc, foldlM_append_of_eq_some hone, ih, List.append_assoc]
    rfl

theorem foldlM_inQuotes (text : List α) (before : List (List α))
    (records : List (List (List α))) :
    (inQuotes s text).foldlM (Reader.step s) ⟨.start, [], before, records⟩ =
      some ⟨.closed, text, before, records⟩ := by
  have hopen : Reader.step s ⟨.start, [], before, records⟩ s.quote =
      some ⟨.quoted, [], before, records⟩ := if_pos rfl
  rw [inQuotes, List.cons_append, foldlM_cons_of_eq_some hopen]
  exact foldlM_quoted [] text before records

/-- A field that needs no quotes is read to its end. -/
theorem foldlM_bare (hplace : place = .start ∨ place = .bare) (htext : needsQuotes s text = false)
    (done : List α) :
    ∃ place', (place' = .start ∨ place' = .bare) ∧
      text.foldlM (Reader.step s) ⟨place, done, before, records⟩ =
        some ⟨place', done ++ text, before, records⟩ := by
  induction text generalizing place done with
  | nil =>
    refine ⟨place, hplace, ?_⟩
    rw [List.append_nil]
    rfl
  | cons c text ih =>
    simp only [needsQuotes, List.any_cons, Bool.or_eq_false_iff, beq_eq_false_iff_ne] at htext
    obtain ⟨⟨⟨⟨hdelimiter, hquote⟩, hreturn⟩, hfeed⟩, hrest⟩ := htext
    have hone : Reader.step s ⟨place, done, before, records⟩ c =
        some ⟨.bare, done ++ [c], before, records⟩ := by
      rcases hplace with rfl | rfl <;>
        simp [Reader.step, Reader.stepBare, hdelimiter, hquote, hreturn, hfeed]
    obtain ⟨place', hplace', hfold⟩ := ih (.inr rfl) hrest (done ++ [c])
    refine ⟨place', hplace', ?_⟩
    rw [foldlM_cons_of_eq_some hone, hfold, List.append_assoc]
    rfl

/-- A field as it is written is read as it was. -/
theorem foldlM_field (text : List α) (before : List (List α)) (records : List (List (List α))) :
    ∃ place, place.endsField ∧
      (field s text).foldlM (Reader.step s) ⟨.start, [], before, records⟩ =
        some ⟨place, text, before, records⟩ := by
  unfold field
  split
  · exact ⟨.closed, rfl, foldlM_inQuotes text before records⟩
  · next htext =>
    obtain ⟨place, hplace, hfold⟩ := foldlM_bare (.inl rfl) (Bool.not_eq_true _ ▸ htext) []
    refine ⟨place, ?_, hfold⟩
    rcases hplace with rfl | rfl <;> rfl

theorem step_delimiter (hs : s.Distinct) (hplace : place.endsField) :
    Reader.step s ⟨place, text, before, records⟩ s.delimiter =
      some ⟨.start, [], before ++ [text], records⟩ := by
  have hquote := hs.quote.symm
  have hfeed := hs.lineFeed.1.symm
  cases place <;>
    simp_all [Place.endsField, Reader.step, Reader.stepBare, Reader.behindField]

theorem step_carriageReturn (hs : s.Distinct) (hplace : place.endsField) :
    Reader.step s ⟨place, text, before, records⟩ s.carriageReturn =
      some ⟨.returned, text, before, records⟩ := by
  obtain ⟨hdelimiter, hquote⟩ := hs.carriageReturn
  have hfeed := hs.lineFeed.2.2.symm
  cases place <;>
    simp_all [Place.endsField, Reader.step, Reader.stepBare, Reader.behindField]

/-- The fields of a record are read one after another, the last of them up to its end. -/
theorem foldlM_fieldsText (hs : s.Distinct) (hfields : fields ≠ []) (before : List (List α))
    (records : List (List (List α))) :
    ∃ place most last, place.endsField ∧ most ++ [last] = before ++ fields ∧
      (fieldsText s fields).foldlM (Reader.step s) ⟨.start, [], before, records⟩ =
        some ⟨place, last, most, records⟩ := by
  induction fields generalizing before with
  | nil => exact absurd rfl hfields
  | cons text fields ih =>
    obtain ⟨place, hplace, hfold⟩ := foldlM_field (s := s) text before records
    cases fields with
    | nil =>
      refine ⟨place, before, text, hplace, rfl, ?_⟩
      rw [fieldsText_singleton]
      exact hfold
    | cons next fields =>
      -- The delimiter moves the field to those before, from where the others are read.
      obtain ⟨place', most, last, hplace', hmost, hrest⟩ := ih (List.cons_ne_nil _ _) (before ++ [text])
      refine ⟨place', most, last, hplace', ?_, ?_⟩
      · rw [hmost, List.append_assoc]
        rfl
      · rw [fieldsText_cons_cons, foldlM_append_of_eq_some hfold,
          foldlM_cons_of_eq_some (step_delimiter hs hplace)]
        exact hrest

/-- Fields that come to no text at all are one empty field. -/
theorem eq_of_fieldsText_eq_nil (hfields : fields ≠ []) (h : fieldsText s fields = []) :
    fields = [[]] := by
  match fields, hfields with
  | [text], _ =>
    rw [fieldsText_singleton, field] at h
    split at h
    · cases h
    · rw [h]
  | text :: next :: rest, _ =>
    rw [fieldsText_cons_cons] at h
    cases (List.append_eq_nil_iff.1 h).2

/-- A record is read as its fields. -/
theorem foldlM_record (hs : s.Distinct) (hfields : fields ≠ []) (records : List (List (List α))) :
    (record s fields).foldlM (Reader.step s) ⟨.start, [], [], records⟩ =
      some ⟨.start, [], [], records ++ [fields]⟩ := by
  obtain ⟨place, most, last, hplace, hmost, hfold⟩ :
      ∃ place most last, place.endsField ∧ most ++ [last] = fields ∧
        (if (fieldsText s fields).isEmpty then [s.quote, s.quote]
          else fieldsText s fields).foldlM (Reader.step s) ⟨.start, [], [], records⟩ =
          some ⟨place, last, most, records⟩ := by
    split
    · next hempty =>
      -- An empty field that is alone is written as a pair of quotes, and read as a field in quotes.
      obtain rfl := eq_of_fieldsText_eq_nil hfields (List.isEmpty_iff.1 hempty)
      exact ⟨.closed, [], [], rfl, rfl, foldlM_inQuotes [] [] records⟩
    · exact foldlM_fieldsText hs hfields [] records
  have hfeed : Reader.step s ⟨.returned, last, most, records⟩ s.lineFeed =
      some ⟨.start, [], [], records ++ [most ++ [last]]⟩ := if_pos rfl
  rw [record, foldlM_append_of_eq_some hfold, foldlM_cons_of_eq_some (step_carriageReturn hs hplace),
    foldlM_cons_of_eq_some hfeed, hmost]
  rfl

/-- Records that are written one after another are read back, whatever their fields hold. -/
theorem read_flatMap_record (hs : s.Distinct) {records : List (List (List α))}
    (hrecords : ∀ fields ∈ records, fields ≠ []) : read s (records.flatMap (record s)) = some records := by
  -- Behind each record the reader stands as at the start, with one more record read.
  have hfold : ∀ before : List (List (List α)),
      (records.flatMap (record s)).foldlM (Reader.step s) ⟨.start, [], [], before⟩ =
        some ⟨.start, [], [], before ++ records⟩ := by
    induction records with
    | nil =>
      intro before
      rw [List.append_nil]
      rfl
    | cons fields records ih =>
      intro before
      obtain ⟨hfields, hrest⟩ := List.forall_mem_cons.1 hrecords
      rw [List.flatMap_cons, foldlM_append_of_eq_some (foldlM_record hs hfields before), ih hrest,
        List.append_assoc]
      rfl
  rw [read, hfold []]
  rfl

/-- The same is read from text that is written by others, with quotes where none are needed and no line
break at the end. -/
example : read ⟨',', '"', '\r', '\n'⟩ "a,\"b\"\"\r\n\"\r\n\"\",c".toList =
    some [["a".toList, "b\"\r\n".toList], ["".toList, "c".toList]] := by decide

/-! ## Records as bytes -/

theorem needsQuotes_iff {text : List α} :
    needsQuotes s text = true ↔
      s.delimiter ∈ text ∨ s.quote ∈ text ∨ s.carriageReturn ∈ text ∨ s.lineFeed ∈ text := by
  induction text with
  | nil => simp [needsQuotes]
  | cons c text ih =>
    simp only [needsQuotes, List.any_cons, Bool.or_eq_true, beq_iff_eq, List.mem_cons] at ih ⊢
    grind

end Reading

/-- The signs of a file as characters, where the delimiter is one. -/
def Delimiter.characters (d : Delimiter) : Signs Char :=
  ⟨Char.ofNat d.byte.toNat, '"', '\r', '\n'⟩

/-- A delimiter that is an ASCII character. -/
def Delimiter.IsAscii (d : Delimiter) : Prop :=
  d.byte.toNat < 0x80

section Bytes

variable {d : Delimiter} {keys : List String} {rows : List Row}

theorem Delimiter.IsAscii.toNat_delimiter (hd : d.IsAscii) :
    d.characters.delimiter.toNat = d.byte.toNat :=
  Utf8.toNat_charOfNat (Or.inl (Nat.lt_trans hd (by decide)))

theorem utf8_inQuotes (d : Delimiter) (text : List Char) :
    Utf8.encode (inQuotes d.characters text) = inQuotes d.signs (Utf8.encode text) := by
  have hquote : Utf8.encode [d.characters.quote] = [d.signs.quote] := rfl
  -- The byte of the quote is in no other character.
  have hone : ∀ c : Char,
      Utf8.encode (if c = d.characters.quote then [d.characters.quote, d.characters.quote] else [c]) =
        (String.utf8EncodeChar c).flatMap fun b =>
          if b = d.signs.quote then [d.signs.quote, d.signs.quote] else [b] := by
    intro c
    by_cases hc : c = d.characters.quote
    · subst hc
      rfl
    · have hbytes : ∀ b ∈ String.utf8EncodeChar c,
          (if b = d.signs.quote then [d.signs.quote, d.signs.quote] else [b]) = [b] := by
        intro b hb
        refine if_neg ?_
        rintro rfl
        have hmem : d.characters.quote ∈ [c] :=
          (Utf8.mem_encode_iff (c := '"') (by decide)).1 (List.mem_append_left _ hb)
        exact hc (List.mem_singleton.1 hmem).symm
      rw [if_neg hc, List.flatMap_congr hbytes, List.flatMap_singleton']
      exact List.append_nil _
  have hinner : Utf8.encode (text.flatMap fun c =>
        if c = d.characters.quote then [d.characters.quote, d.characters.quote] else [c]) =
      (Utf8.encode text).flatMap fun b =>
        if b = d.signs.quote then [d.signs.quote, d.signs.quote] else [b] := by
    rw [Utf8.encode, Utf8.encode, List.flatMap_assoc, List.flatMap_assoc]
    exact List.flatMap_congr fun c _ => hone c
  rw [inQuotes, ← List.singleton_append, Utf8.encode_append, Utf8.encode_append, hinner, hquote]
  rfl

theorem Delimiter.IsAscii.encodeChar_delimiter (hd : d.IsAscii) :
    String.utf8EncodeChar d.characters.delimiter = [d.signs.delimiter] := by
  have hcode := hd.toNat_delimiter
  rw [Utf8.encodeChar_of_ascii (hcode ▸ hd), hcode, UInt8.ofNat_toNat]
  rfl

theorem needsQuotes_utf8 (hd : d.IsAscii) (text : List Char) :
    needsQuotes d.signs (Utf8.encode text) = needsQuotes d.characters text := by
  have hbyte : UInt8.ofNat d.characters.delimiter.toNat = d.byte := by
    rw [hd.toNat_delimiter, UInt8.ofNat_toNat]
  have hascii : d.characters.delimiter.toNat < 0x80 := hd.toNat_delimiter ▸ hd
  -- All four signs are ASCII characters, so their bytes stand only where they stand.
  rw [Bool.eq_iff_iff, needsQuotes_iff, needsQuotes_iff, ← Utf8.mem_encode_iff hascii, hbyte]
  refine or_congr Iff.rfl (or_congr ?_ (or_congr ?_ ?_))
  · exact Utf8.mem_encode_iff (c := '"') (by decide)
  · exact Utf8.mem_encode_iff (c := '\r') (by decide)
  · exact Utf8.mem_encode_iff (c := '\n') (by decide)

theorem utf8_field (hd : d.IsAscii) (text : List Char) :
    Utf8.encode (field d.characters text) = field d.signs (Utf8.encode text) := by
  unfold field
  rw [needsQuotes_utf8 hd]
  split
  · exact utf8_inQuotes d text
  · rfl

theorem utf8_fieldsText (hd : d.IsAscii) (fields : List (List Char)) :
    Utf8.encode (fieldsText d.characters fields) = fieldsText d.signs (fields.map Utf8.encode) := by
  induction fields with
  | nil => rfl
  | cons text fields ih =>
    cases fields with
    | nil =>
      rw [List.map_singleton, fieldsText_singleton, fieldsText_singleton]
      exact utf8_field hd text
    | cons next fields =>
      rw [fieldsText_cons_cons, List.map_cons, List.map_cons, fieldsText_cons_cons, ← List.map_cons, ← ih,
        Utf8.encode_append, utf8_field hd, Utf8.encode_cons, hd.encodeChar_delimiter]
      rfl

/-- With an ASCII delimiter the bytes of a record are those of it as text. -/
theorem utf8_record (hd : d.IsAscii) (fields : List (List Char)) :
    Utf8.encode (record d.characters fields) = record d.signs (fields.map Utf8.encode) := by
  unfold record
  rw [Utf8.encode_append, ← utf8_fieldsText hd]
  simp only [List.isEmpty_iff, Utf8.encode_eq_nil_iff]
  split <;> rfl

/-- The fields of a header and rows. -/
def grid (keys : List String) (rows : List Row) : List (List (List Char)) :=
  keys.map String.toList :: rows.map fun row => row.map cell

theorem records_eq_ok_iff {s : Signs UInt8} {previous : Nat} {rows : List (List (List UInt8))}
    {content : List UInt8} :
    records s previous rows = .ok content ↔
      (∀ fields ∈ rows, fields.length = previous) ∧ content = rows.flatMap (record s) := by
  induction rows generalizing content with
  | nil => simp [records, eq_comm]
  | cons fields rows ih =>
    rw [records, List.forall_mem_cons, List.flatMap_cons]
    split
    · next hlength =>
      cases hrest : records s previous rows with
      | error f =>
        refine iff_of_false nofun ?_
        rintro ⟨⟨-, hrows⟩, -⟩
        exact nomatch hrest.symm.trans (ih.2 ⟨hrows, rfl⟩)
      | ok rest =>
        obtain ⟨hrows, rfl⟩ := ih.1 hrest
        rw [Except.ok.injEq, eq_comm]
        exact (and_iff_right ⟨hlength, hrows⟩).symm
    · next hlength => exact iff_of_false nofun fun h => hlength h.1.1

/-- What is written are the records of the header and the rows, provided that they are equally long. -/
theorem bytes_eq_ok_iff {content : List UInt8} :
    bytes d keys rows = .ok content ↔
      (∀ row ∈ rows, row.length = keys.length) ∧
        content = (grid keys rows).flatMap fun fields => record d.signs (fields.map Utf8.encode) := by
  have hrecords : ∀ body, records d.signs keys.length (rows.map fun row => row.map fun v =>
      Utf8.encode (cell v)) = .ok body ↔ _ := fun body => records_eq_ok_iff
  have hlengths : (∀ fields ∈ rows.map fun row => row.map fun v => Utf8.encode (cell v),
      fields.length = keys.length) ↔ ∀ row ∈ rows, row.length = keys.length := by
    simp only [List.forall_mem_map, List.length_map]
  have hgrid : (grid keys rows).flatMap (fun fields => record d.signs (fields.map Utf8.encode)) =
      record d.signs (keys.map fun key => Utf8.encode key.toList) ++
        (rows.map fun row => row.map fun v => Utf8.encode (cell v)).flatMap (record d.signs) := by
    simp only [grid, List.flatMap_cons, List.flatMap_map, List.map_map]
    rfl
  rw [hgrid, ← hlengths]
  unfold bytes
  cases hbody : records d.signs keys.length (rows.map fun row => row.map fun v =>
      Utf8.encode (cell v)) with
  | error f => exact iff_of_false nofun fun h => nomatch hbody.symm.trans ((hrecords _).2 ⟨h.1, rfl⟩)
  | ok body =>
    obtain ⟨hrows, rfl⟩ := (hrecords body).1 hbody
    rw [Except.ok.injEq, eq_comm]
    exact (and_iff_right hrows).symm

theorem text_eq_ok_iff {t : List Char} :
    text d keys rows = .ok t ↔ bytes d keys rows = .ok (Utf8.encode t) := by
  unfold text
  split
  · next f hbytes =>
    rw [hbytes]
    exact iff_of_false nofun nofun
  · next content hbytes =>
    rw [hbytes, Except.ok.injEq, ← Utf8.decode_eq_ok_iff]
    split
    · next t' hdecode => rw [hdecode, Except.ok.injEq, Except.ok.injEq]
    · next flaw hdecode =>
      rw [hdecode]
      exact iff_of_false nofun nofun

/-- With an ASCII delimiter the bytes of the records are those of a text. -/
theorem bytes_eq_ok_iff_of_ascii (hd : d.IsAscii) {content : List UInt8} :
    bytes d keys rows = .ok content ↔
      (∀ row ∈ rows, row.length = keys.length) ∧
        content = Utf8.encode ((grid keys rows).flatMap (record d.characters)) := by
  have hgrid : Utf8.encode ((grid keys rows).flatMap (record d.characters)) =
      (grid keys rows).flatMap fun fields => record d.signs (fields.map Utf8.encode) := by
    rw [Utf8.encode, List.flatMap_assoc]
    exact List.flatMap_congr fun fields _ => utf8_record hd fields
  rw [bytes_eq_ok_iff, hgrid]

/-- The signs of a file differ from each other unless the delimiter is one of the others. -/
theorem Delimiter.IsAscii.distinct (hd : d.IsAscii)
    (hother : d.byte ≠ 0x22 ∧ d.byte ≠ 0x0D ∧ d.byte ≠ 0x0A) : d.characters.Distinct := by
  have hne : ∀ c : Char, d.byte ≠ UInt8.ofNat c.toNat → c ≠ d.characters.delimiter := by
    rintro c hc rfl
    rw [hd.toNat_delimiter, UInt8.ofNat_toNat] at hc
    exact hc rfl
  exact {
    quote := hne '"' hother.1
    carriageReturn := ⟨hne '\r' hother.2.1, (by decide : '\r' ≠ '"')⟩
    lineFeed := ⟨hne '\n' hother.2.2, (by decide : '\n' ≠ '"'), (by decide : '\n' ≠ '\r')⟩ }

end Bytes

end Csv

namespace ResultSet

theorem csvText_eq_ok_iff {rs : ResultSet} {d : Csv.Delimiter} {t : List Char} :
    rs.csvText d = .ok (some t) ↔
      rs.keys ≠ [] ∧ Csv.bytes d rs.keys rs.rows = .ok (Utf8.encode t) := by
  rw [csvText, ← Csv.text_eq_ok_iff]
  split
  · next hkeys => exact iff_of_false nofun fun h => h.1 (List.isEmpty_iff.1 hkeys)
  · next hkeys =>
    rw [List.isEmpty_iff] at hkeys
    cases Csv.text d rs.keys rs.rows with
    | error f => exact iff_of_false nofun fun h => nomatch h.2
    | ok t' => simp [Except.map, hkeys]

theorem csvText_ne_none {rs : ResultSet} {d : Csv.Delimiter} (hkeys : rs.keys ≠ []) :
    rs.csvText d ≠ .ok none := by
  rw [csvText, if_neg (fun h => hkeys (List.isEmpty_iff.1 h))]
  cases Csv.text d rs.keys rs.rows with
  | error f => exact nofun
  | ok t => exact nofun

/-- A result set with columns is given as text exactly if every row has a cell for each of them, and is
refused otherwise. Read back with the same delimiter, the text has the names of the columns as its first
record, and then the texts of the cells row by row, null as an empty field. -/
theorem csvText_read_back (rs : ResultSet) (d : Csv.Delimiter) (hkeys : rs.keys ≠ []) (hascii : d.IsAscii)
    (hd : d.byte ≠ 0x22 ∧ d.byte ≠ 0x0D ∧ d.byte ≠ 0x0A) :
    ((∃ t, rs.csvText d = .ok (some t)) ↔ ∀ row ∈ rs.rows, row.length = rs.keys.length) ∧
      ((∃ f, rs.csvText d = .error f) ↔ ¬ ∀ row ∈ rs.rows, row.length = rs.keys.length) ∧
      ∀ t, rs.csvText d = .ok (some t) → Csv.read d.characters t =
        some (rs.keys.map String.toList :: rs.rows.map fun row => row.map Csv.cell) := by
  have htext : ∀ t, rs.csvText d = .ok (some t) ↔
      (∀ row ∈ rs.rows, row.length = rs.keys.length) ∧
        t = (Csv.grid rs.keys rs.rows).flatMap (Csv.record d.characters) := by
    intro t
    rw [csvText_eq_ok_iff, Csv.bytes_eq_ok_iff_of_ascii hascii, Utf8.encode_injective.eq_iff]
    exact and_iff_right hkeys
  have hsome : (∃ t, rs.csvText d = .ok (some t)) ↔ ∀ row ∈ rs.rows, row.length = rs.keys.length :=
    ⟨fun ⟨t, ht⟩ => ((htext t).1 ht).1, fun hrows => ⟨_, (htext _).2 ⟨hrows, rfl⟩⟩⟩
  refine ⟨hsome, ?_, ?_⟩
  · rw [← hsome]
    cases hcsv : rs.csvText d with
    | error f => simp
    | ok answer =>
      cases answer with
      | none => exact absurd hcsv (csvText_ne_none hkeys)
      | some t => simp
  · intro t ht
    obtain ⟨hrows, rfl⟩ := (htext t).1 ht
    apply Csv.read_flatMap_record (hascii.distinct hd)
    intro fields hfields
    rcases List.mem_cons.1 hfields with rfl | hfields
    · simpa using hkeys
    · obtain ⟨row, hrow, rfl⟩ := List.mem_map.1 hfields
      rw [← List.length_pos_iff, List.length_map, hrows row hrow]
      exact List.length_pos_iff.2 hkeys

/-- One column of cells that hold the signs between cells, or nothing at all. -/
def signsInCells : ResultSet :=
  .ofRaw (.ofRows ["a;\"b\""]
    [[.null], [.text ""], [.text "\r\n"], [.text "x;y"], [.text "\"\"é"]]) none

theorem csvText_read_back_signsInCells :
    signsInCells.keys ≠ [] ∧ Csv.Delimiter.IsAscii ⟨0x3B⟩ ∧
      ∃ t, signsInCells.csvText ⟨0x3B⟩ = .ok (some t) ∧ Csv.read ⟨';', '"', '\r', '\n'⟩ t =
        some [["a;\"b\"".toList], [[]], [[]], ["\r\n".toList], ["x;y".toList], ["\"\"é".toList]] := by
  have hkeys : signsInCells.keys ≠ [] := by decide
  have hascii : Csv.Delimiter.IsAscii ⟨0x3B⟩ := by unfold Csv.Delimiter.IsAscii; decide
  obtain ⟨hsome, -, hread⟩ := csvText_read_back signsInCells ⟨0x3B⟩ hkeys hascii (by decide)
  obtain ⟨t, ht⟩ := hsome.2 (by decide)
  exact ⟨hkeys, hascii, t, ht, hread t ht⟩

end ResultSet
end SqlCells
