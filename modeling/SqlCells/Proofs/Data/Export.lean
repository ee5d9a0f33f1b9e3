import SqlCells.Proofs.Data.Records

/-!
# A file holds what the text says

A file takes the bytes of the records in blocks.  What it holds in the end does not depend on where the
blocks end: in Latin-1 it has encoded the longest text that the bytes up to there start with, and holds
back the others.  So the file holds the text that the set is given as, wherever there is one.  There is none
if a delimiter stands between columns that is no character of its own; the file is written all the same,
unless its encoding needs the characters.
-/

namespace SqlCells
namespace Csv

/-! ## The encoding of a file -/

/-- The character of a text that Latin-1 has no byte for is missing. -/
theorem latin1_eq_ok_iff {t : List Char} {out : List UInt8} :
    latin1 t = .ok out ↔
      (∀ c ∈ t, c.toNat ≤ 0xFF) ∧ out = t.map fun c => UInt8.ofNat c.toNat := by
  have hfind : (t.find? fun c => decide (0xFF < c.toNat)) = none ↔ ∀ c ∈ t, c.toNat ≤ 0xFF := by
    simp only [List.find?_eq_none, decide_eq_true_eq, Nat.not_lt]
  rw [← hfind]
  unfold latin1
  split
  · next c hc =>
    rw [hc]
    exact iff_of_false nofun nofun
  · next hnone =>
    rw [hnone, Except.ok.injEq, eq_comm]
    exact (and_iff_right rfl).symm

theorem latin1_append_eq_ok_iff {s t : List Char} {out : List UInt8} :
    latin1 (s ++ t) = .ok out ↔
      ∃ front back, latin1 s = .ok front ∧ latin1 t = .ok back ∧ out = front ++ back := by
  simp only [latin1_eq_ok_iff, List.forall_mem_append, List.map_append]
  constructor
  · rintro ⟨⟨hs, ht⟩, rfl⟩
    exact ⟨_, _, ⟨hs, rfl⟩, ⟨ht, rfl⟩, rfl⟩
  · rintro ⟨_, _, ⟨hs, rfl⟩, ⟨ht, rfl⟩, rfl⟩
    exact ⟨⟨hs, ht⟩, rfl⟩

/-- A file in an encoding holds `out` when `content` is written to it. -/
def Encoding.Encodes (e : Encoding) (content out : List UInt8) : Prop :=
  match e with
  | .utf8 => out = content
  | .utf8Sig => out = byteOrderMark ++ content
  | .latin1 => ∃ t, content = Utf8.encode t ∧ Csv.latin1 t = .ok out

/-! ## Block by block -/

namespace EncodingWriter

/-- A file in Latin-1 has taken some bytes: the text that they start with is encoded, and the bytes
where its reading stops are held back. -/
structure Took (w : EncodingWriter) (bytes : List UInt8) : Prop where
  encoding : w.encoding = .latin1
  written : latin1 (Utf8.read bytes).text = .ok w.written
  pending : w.pending = (Utf8.read bytes).rest
  valid : (Utf8.read bytes).invalid = none

theorem took_new : (new .latin1).Took [] := by
  have hread := Utf8.read_nil
  constructor
  case encoding => rfl
  case written => rw [hread]; rfl
  case pending => rw [hread]; rfl
  case valid => rw [hread]

variable {w w' : EncodingWriter} {bytes block out : List UInt8}

/-- Once a block is taken, it is as if all bytes had come at once. -/
theorem Took.write (h : w.Took bytes) (hwrite : w.write block = .ok w') : w'.Took (bytes ++ block) := by
  have hread := Utf8.read_append bytes block
  rw [← h.pending] at hread
  simp only [EncodingWriter.write, h.encoding, encodeLatin1] at hwrite
  split at hwrite
  · cases hwrite
  · next hvalid =>
    split at hwrite
    · cases hwrite
    · next encoded hencoded =>
      obtain rfl := Except.ok.inj hwrite
      constructor
      case encoding => rfl
      case written =>
        rw [hread]
        exact latin1_append_eq_ok_iff.2 ⟨_, _, h.written, hencoded, rfl⟩
      case pending => rw [hread]
      case valid => rwa [hread]

/-- A block is refused only if the bytes up to its end are not the start of a text in Latin-1. -/
theorem Took.of_write_error {flaw : EncodingFlaw} (h : w.Took bytes)
    (hwrite : w.write block = .error flaw) (more : List UInt8) :
    ¬ Encoding.latin1.Encodes (bytes ++ block ++ more) out := by
  rintro ⟨t, ht, hout⟩
  have hread := Utf8.read_append bytes block
  rw [← h.pending] at hread
  simp only [EncodingWriter.write, h.encoding, encodeLatin1] at hwrite
  split at hwrite
  · next n hinvalid =>
    -- Bytes that start no character start none with others behind them.
    have hall : (Utf8.read (bytes ++ block)).invalid = some n := by rwa [hread]
    exact Utf8.not_encode_of_invalid hall more t ht
  · split at hwrite
    · next flaw' hencoded =>
      -- The text up to here is the start of any text that the bytes are.
      have hbytes := Utf8.eq_of_read (bytes ++ block)
      rw [hread] at hbytes
      rw [hbytes, List.append_assoc] at ht
      obtain ⟨u, rfl, -⟩ := Utf8.of_encode_append ht
      obtain ⟨_, _, hstart, -, -⟩ := latin1_append_eq_ok_iff.1 hout
      obtain ⟨_, _, -, hmore, -⟩ := latin1_append_eq_ok_iff.1 hstart
      exact nomatch hencoded.symm.trans hmore
    · cases hwrite

theorem Took.finish_eq_ok_iff (h : w.Took bytes) :
    w.finish = .ok out ↔ Encoding.latin1.Encodes bytes out := by
  have hencodes : Encoding.latin1.Encodes bytes out ↔ w.pending = [] ∧ out = w.written := by
    simp only [Encoding.Encodes, Utf8.eq_encode_iff, ← h.pending]
    constructor
    · rintro ⟨t, ⟨rfl, hpending⟩, hout⟩
      exact ⟨hpending, Except.ok.inj (hout.symm.trans h.written)⟩
    · rintro ⟨hpending, rfl⟩
      exact ⟨_, ⟨rfl, hpending⟩, h.written⟩
  rw [hencodes, finish]
  split
  · next hpending =>
    rw [Except.ok.injEq, eq_comm]
    exact (and_iff_right (List.isEmpty_iff.1 hpending)).symm
  · next hpending => exact iff_of_false nofun fun hboth => hpending (List.isEmpty_iff.2 hboth.1)

/-- The blocks behind what a file has taken make the same of it as if all bytes had come at once. -/
theorem Took.foldlM_write (h : w.Took bytes) (blocks : List (List UInt8)) :
    (do let w ← blocks.foldlM EncodingWriter.write w
        w.finish) = .ok out ↔ Encoding.latin1.Encodes (bytes ++ blocks.flatten) out := by
  induction blocks generalizing w bytes with
  | nil =>
    rw [List.flatten_nil, List.append_nil]
    exact h.finish_eq_ok_iff
  | cons block blocks ih =>
    rw [List.foldlM_cons, List.flatten_cons, ← List.append_assoc]
    cases hwrite : w.write block with
    -- Once a block is refused, no blocks behind it can make a text of the whole.
    | error flaw => exact iff_of_false nofun (h.of_write_error hwrite blocks.flatten)
    | ok w' => exact ih (h.write hwrite)

/-- Without a change of encoding, blocks are written as they come. -/
theorem foldlM_write_of_ne (hw : w.encoding ≠ .latin1) (blocks : List (List UInt8)) :
    blocks.foldlM EncodingWriter.write w = .ok { w with written := w.written ++ blocks.flatten } := by
  induction blocks generalizing w with
  | nil => simp [pure, Except.pure]
  | cons block blocks ih =>
    have hwrite : w.write block = .ok { w with written := w.written ++ block } := by
      unfold EncodingWriter.write
      cases hencoding : w.encoding with
      | utf8 => rfl
      | utf8Sig => rfl
      | latin1 => exact absurd hencoding hw
    rw [List.foldlM_cons, hwrite]
    refine (ih (w := { w with written := w.written ++ block }) hw).trans ?_
    rw [List.flatten_cons, List.append_assoc]

end EncodingWriter

/-- What a file holds depends on the bytes that are written to it, not on the blocks they come in. -/
theorem encode_eq_ok_iff {e : Encoding} {blocks : List (List UInt8)} {out : List UInt8} :
    encode e blocks = .ok out ↔ e.Encodes blocks.flatten out := by
  cases e with
  | latin1 => exact EncodingWriter.took_new.foldlM_write blocks
  | utf8 =>
    have hrun := EncodingWriter.foldlM_write_of_ne (w := .new .utf8) nofun blocks
    rw [encode, hrun]
    exact (iff_of_eq (Except.ok.injEq _ _)).trans eq_comm
  | utf8Sig =>
    have hrun := EncodingWriter.foldlM_write_of_ne (w := .new .utf8Sig) nofun blocks
    rw [encode, hrun]
    exact (iff_of_eq (Except.ok.injEq _ _)).trans eq_comm

theorem flatten_blocks (content : List UInt8) : (blocks content).flatten = content := by
  fun_induction blocks content with
  | case1 => rfl
  | case2 b rest ih => rw [List.flatten_cons, ih, List.cons_append, List.take_append_drop]

/-! ## Bytes that are a text -/

section Texts

variable {d : Delimiter} {keys : List String} {rows : List Row} {content : List UInt8}

/-- A field is a text with any delimiter. -/
theorem isText_field (d : Delimiter) (text : List Char) :
    Utf8.IsText (field d.signs (Utf8.encode text)) := by
  unfold field
  split
  · exact ⟨_, (utf8_inQuotes d text).symm⟩
  · exact Utf8.isText_encode text

/-- A record of one field has no delimiter, and is a text with any. -/
theorem isText_record_singleton (d : Delimiter) (text : List Char) :
    Utf8.IsText (record d.signs [Utf8.encode text]) := by
  rw [record, fieldsText_singleton]
  refine Utf8.IsText.append ?_ (Utf8.isText_encode ['\r', '\n'])
  split
  · exact Utf8.isText_encode ['"', '"']
  · exact isText_field d text

/-- A delimiter that is no character of its own makes no text, with no field on either side of it. -/
theorem not_isText_record (hd : ¬ d.IsAscii) (first next : List Char) (rest : List (List Char))
    (more : List UInt8) :
    ¬ Utf8.IsText (record d.signs ((first :: next :: rest).map Utf8.encode) ++ more) := by
  obtain ⟨before, hbefore⟩ := isText_field d first
  obtain ⟨behind, hbehind⟩ := isText_field d next
  have hrecord : record d.signs ((first :: next :: rest).map Utf8.encode) =
      Utf8.encode before ++ d.byte :: (fieldsText d.signs ((next :: rest).map Utf8.encode) ++
        [d.signs.carriageReturn, d.signs.lineFeed]) := by
    rw [record, List.map_cons, List.map_cons, fieldsText_cons_cons, hbefore, if_neg (by simp),
      List.append_assoc]
    rfl
  -- Behind the delimiter stands a text, and behind it another delimiter or the end of the record.
  have hnext : ∃ e bytes, fieldsText d.signs ((next :: rest).map Utf8.encode) ++
      [d.signs.carriageReturn, d.signs.lineFeed] ++ more = Utf8.encode behind ++ e :: bytes ∧
        (Utf8.IsTail e → Utf8.IsTail d.byte) := by
    cases rest with
    | nil =>
      rw [List.map_singleton, fieldsText_singleton, hbehind, List.append_assoc]
      exact ⟨0x0D, _, rfl, fun htail => absurd htail.1 (by decide)⟩
    | cons last rest =>
      rw [List.map_cons, List.map_cons, fieldsText_cons_cons, hbehind, List.append_assoc,
        List.append_assoc]
      exact ⟨d.byte, _, rfl, id⟩
  obtain ⟨e, bytes, hbytes, he⟩ := hnext
  obtain ⟨b, bytes', hb, hbe⟩ := Utf8.exists_head_append behind e bytes
  rw [hrecord, List.append_assoc, List.cons_append, hbytes, hb]
  exact Utf8.not_isText_of_lead (Nat.not_lt.1 hd) (fun htail => he (hbe htail ▸ htail)) before bytes'

/-- The records are a text if the delimiter is an ASCII character or is not used. -/
theorem isText_of_bytes (hd : d.IsAscii ∨ keys.length ≤ 1) (hkeys : keys ≠ [])
    (h : bytes d keys rows = .ok content) : Utf8.IsText content := by
  rcases hd with hd | hone
  · obtain ⟨-, rfl⟩ := (bytes_eq_ok_iff_of_ascii hd).1 h
    exact Utf8.isText_encode _
  · obtain ⟨hrows, rfl⟩ := bytes_eq_ok_iff.1 h
    apply Utf8.IsText.flatMap
    intro fields hfields
    have hcolumn : keys.length = 1 := by
      have := List.length_pos_iff.2 hkeys
      omega
    have hlength : fields.length = 1 := by
      rcases List.mem_cons.1 hfields with rfl | hfields
      · rw [List.length_map, hcolumn]
      · obtain ⟨row, hrow, rfl⟩ := List.mem_map.1 hfields
        rw [List.length_map, hrows row hrow, hcolumn]
    obtain ⟨text, rfl⟩ := List.length_eq_one_iff.1 hlength
    exact isText_record_singleton d text

theorem not_isText_of_bytes (hd : ¬ d.IsAscii) (hkeys : 2 ≤ keys.length)
    (h : bytes d keys rows = .ok content) : ¬ Utf8.IsText content := by
  obtain ⟨-, rfl⟩ := bytes_eq_ok_iff.1 h
  match keys, hkeys with
  | first :: next :: rest, _ => exact not_isText_record hd _ _ _ _

end Texts

/-! ## The two ways to write a set -/

/-- Whether the encoding has bytes for all characters of a text. -/
def Encoding.Fits (e : Encoding) (t : List Char) : Prop :=
  e = .latin1 → ∀ c ∈ t, c.toNat ≤ 0xFF

/-- The bytes of a text in an encoding that has bytes for all its characters. -/
def Encoding.bytesOf (e : Encoding) (t : List Char) : List UInt8 :=
  match e with
  | .utf8 => Utf8.encode t
  | .utf8Sig => byteOrderMark ++ Utf8.encode t
  | .latin1 => t.map fun c => UInt8.ofNat c.toNat

theorem Encoding.encodes_encode_iff {e : Encoding} {t : List Char} {out : List UInt8} :
    e.Encodes (Utf8.encode t) out ↔ e.Fits t ∧ out = e.bytesOf t := by
  cases e with
  | utf8 => exact (and_iff_right nofun).symm
  | utf8Sig => exact (and_iff_right nofun).symm
  | latin1 =>
    simp only [Encodes, Fits, Encoding.bytesOf, Utf8.encode_injective.eq_iff, latin1_eq_ok_iff,
      exists_eq_left', forall_const]

theorem Encoding.not_encodes_latin1 {content out : List UInt8} (h : ¬ Utf8.IsText content) :
    ¬ Encoding.latin1.Encodes content out :=
  fun ⟨t, ht, _⟩ => h ⟨t, ht⟩

end Csv

namespace ResultSet

variable {rs : ResultSet} {d : Csv.Delimiter} {e : Csv.Encoding} {path : String} {files files' : Files}
  {place : List String} {out : List UInt8}

theorem csvFile_eq_ok_iff (path : String) :
    rs.csvFile d e path = .ok out ↔
      ∃ content, Csv.bytes d rs.keys rs.rows = .ok content ∧ e.Encodes content out := by
  unfold csvFile
  cases Csv.bytes d rs.keys rs.rows with
  | error f => exact iff_of_false nofun fun ⟨_, h, _⟩ => nomatch h
  | ok content =>
    have hencode : Csv.encode e (Csv.blocks content) = .ok out ↔ e.Encodes content out := by
      rw [Csv.encode_eq_ok_iff, Csv.flatten_blocks]
    simp only [Except.ok.injEq, exists_eq_left', ← hencode]
    cases Csv.encode e (Csv.blocks content) with
    | error flaw => exact iff_of_false nofun nofun
    | ok written => simp only [Except.ok.injEq]

/-- Where the file can be created, it is written if the records are equally long and the encoding takes
their bytes. -/
theorem writeCsv_eq_ok_iff (hplace : files.create path = .ok place) :
    rs.writeCsv d e path files = .ok (out, files') ↔
      rs.keys ≠ [] ∧ (∃ content, Csv.bytes d rs.keys rs.rows = .ok content ∧ e.Encodes content out) ∧
        files' = files.write place out := by
  rw [← csvFile_eq_ok_iff path]
  unfold writeCsv
  split
  · next hkeys => exact iff_of_false nofun fun h => h.1 (List.isEmpty_iff.1 hkeys)
  · next hkeys =>
    rw [List.isEmpty_iff] at hkeys
    rw [hplace]
    cases rs.csvFile d e path with
    | error f => exact iff_of_false nofun fun h => nomatch h.2.1
    | ok written =>
      simp only [Except.ok.injEq, Prod.mk.injEq, ne_eq, hkeys, not_false_eq_true, true_and]
      constructor
      · rintro ⟨rfl, rfl⟩
        exact ⟨rfl, rfl⟩
      · rintro ⟨rfl, rfl⟩
        exact ⟨rfl, rfl⟩

/-- Where the file can be created and the records are a text, for which it is enough that the delimiter is
an ASCII character or that there is one column at most, a file is written exactly if the set is given as a
text and the encoding has bytes for all its characters; the file then holds the text. With another delimiter
between columns the set is never given as text, but its records are written in the encodings that take
bytes as they are. In any case it makes no difference in which blocks the bytes come. -/
theorem writeCsv_holds_csvText (rs : ResultSet) (d : Csv.Delimiter) (e : Csv.Encoding) (path : String)
    (files : Files) (place : List String) (hplace : files.create path = .ok place) :
    (d.IsAscii ∨ rs.keys.length ≤ 1 →
        ∀ out files', rs.writeCsv d e path files = .ok (out, files') ↔
          ∃ t, rs.csvText d = .ok (some t) ∧ e.Fits t ∧ out = e.bytesOf t ∧
            files' = files.write place out) ∧
      (¬ d.IsAscii → 2 ≤ rs.keys.length →
        (∀ t, rs.csvText d ≠ .ok (some t)) ∧
          ∀ out files', rs.writeCsv d e path files = .ok (out, files') ↔
            e ≠ .latin1 ∧
              (∃ content, Csv.bytes d rs.keys rs.rows = .ok content ∧
                out = (if e = .utf8Sig then Csv.byteOrderMark else []) ++ content) ∧
              files' = files.write place out) ∧
      ∀ (content : List UInt8) (blocks : List (List UInt8)), blocks.flatten = content →
        ∀ out, Csv.encode e blocks = .ok out ↔ Csv.encode e (Csv.blocks content) = .ok out := by
  refine ⟨?_, ?_, ?_⟩
  · intro hd out files'
    rw [writeCsv_eq_ok_iff hplace]
    constructor
    · rintro ⟨hkeys, ⟨content, hcontent, hout⟩, hfiles⟩
      obtain ⟨t, rfl⟩ := Csv.isText_of_bytes hd hkeys hcontent
      obtain ⟨hfits, hbytes⟩ := Csv.Encoding.encodes_encode_iff.1 hout
      exact ⟨t, csvText_eq_ok_iff.2 ⟨hkeys, hcontent⟩, hfits, hbytes, hfiles⟩
    · rintro ⟨t, ht, hfits, hbytes, hfiles⟩
      obtain ⟨hkeys, hcontent⟩ := csvText_eq_ok_iff.1 ht
      exact ⟨hkeys, ⟨_, hcontent, Csv.Encoding.encodes_encode_iff.2 ⟨hfits, hbytes⟩⟩, hfiles⟩
  · intro hd hcolumns
    have hkeys : rs.keys ≠ [] := List.ne_nil_of_length_pos (by omega)
    constructor
    · intro t ht
      exact Csv.not_isText_of_bytes hd hcolumns (csvText_eq_ok_iff.1 ht).2 (Utf8.isText_encode t)
    · intro out files'
      rw [writeCsv_eq_ok_iff hplace, ← and_assoc, ← and_assoc]
      refine and_congr_left' ?_
      cases e with
      | utf8 => simp [hkeys, Csv.Encoding.Encodes]
      | utf8Sig => simp [hkeys, Csv.Encoding.Encodes]
      | latin1 =>
        refine iff_of_false ?_ fun h => h.1 rfl
        rintro ⟨-, content, hcontent, hout⟩
        exact Csv.Encoding.not_encodes_latin1 (Csv.not_isText_of_bytes hd hcolumns hcontent) hout
  · rintro content blocks rfl out
    rw [Csv.encode_eq_ok_iff, Csv.encode_eq_ok_iff, Csv.flatten_blocks]

/-- Two columns and one row, a cell of which is quoted where the delimiter is a comma. -/
def latinRow : ResultSet :=
  .ofRaw (.ofRows ["a", "b"] [[.text "é,", .null]]) none

theorem writeCsv_holds_csvText_latinRow :
    ({} : Files).create "out.csv" = .ok ["out.csv"] ∧
      (∃ out files', latinRow.writeCsv ⟨0x2C⟩ .latin1 "out.csv" {} = .ok (out, files') ∧
        out = "a,b\r\n\"é,\",\r\n".toList.map fun c => UInt8.ofNat c.toNat) ∧
      (∀ t, latinRow.csvText ⟨0xC3⟩ ≠ .ok (some t)) ∧
      Csv.encode .latin1 [[0xC3], [0xA9]] = .ok [0xE9] := by
  have hplace : ({} : Files).create "out.csv" = .ok ["out.csv"] := by decide +kernel
  have hcomma : Csv.Delimiter.IsAscii ⟨0x2C⟩ := by unfold Csv.Delimiter.IsAscii; decide
  have hother : ¬ Csv.Delimiter.IsAscii ⟨0xC3⟩ := by unfold Csv.Delimiter.IsAscii; decide
  have htext : latinRow.csvText ⟨0x2C⟩ = .ok (some "a,b\r\n\"é,\",\r\n".toList) := by decide +kernel
  have hlatin : Csv.latin1 "a,b\r\n\"é,\",\r\n".toList =
      .ok ("a,b\r\n\"é,\",\r\n".toList.map fun c => UInt8.ofNat c.toNat) := by decide +kernel
  obtain ⟨hcommas, -, hblocks⟩ :=
    writeCsv_holds_csvText latinRow ⟨0x2C⟩ .latin1 "out.csv" {} ["out.csv"] hplace
  obtain ⟨-, hothers, -⟩ :=
    writeCsv_holds_csvText latinRow ⟨0xC3⟩ .utf8 "out.csv" {} ["out.csv"] hplace
  refine ⟨hplace, ?_, (hothers hother (by decide +kernel)).1, ?_⟩
  · refine ⟨_, _, (hcommas (.inl hcomma) _ _).2 ⟨_, htext, ?_, rfl, rfl⟩, rfl⟩
    exact fun _ => (Csv.latin1_eq_ok_iff.1 hlatin).1
  · exact (hblocks [0xC3, 0xA9] [[0xC3], [0xA9]] rfl _).2 (by decide +kernel)

/-- Two columns and no rows. -/
def twoColumns : ResultSet :=
  .ofRaw (.ofRows ["a", "b"] []) none

/-- With a delimiter that is no character of its own, a set is written that there is no text of. -/
theorem written_without_text :
    ({} : Files).create "out.csv" = .ok ["out.csv"] ∧
      (twoColumns.writeCsv ⟨0xC3⟩ .utf8 "out.csv" {}).map Prod.fst = .ok [0x61, 0xC3, 0x62, 0x0D, 0x0A] ∧
      twoColumns.csvText ⟨0xC3⟩ =
        .error (.notText "invalid utf-8 sequence of 1 bytes from index 1") := by
  refine ⟨?_, ?_, ?_⟩ <;> decide +kernel

end ResultSet
end SqlCells
