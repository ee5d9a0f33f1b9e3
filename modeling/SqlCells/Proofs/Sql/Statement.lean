import SqlCells.Proofs.Sql.Places

/-!
# Statements and their payload

Statements are cut out of their payload, behind the semicolons outside blocks: they have no characters
of their own, and a payload of blanks has none.
-/

namespace SqlCells
namespace Sql

theorem lexFrom_cons {here : Location} {c : Char} {rest : List Char} {ls : List Lexeme}
    (hlex : lexFrom here (c :: rest) = .ok ls) :
    ∃ token n here' more, scan c rest = .ok (token, n) ∧ lexFrom here' (rest.drop n) = .ok more ∧
      ls = ⟨token, c :: rest.take n, here⟩ :: more := by
  rw [lexFrom] at hlex
  cases hscan : scan c rest with
  | error f =>
    rw [hscan] at hlex
    cases hlex
  | ok read =>
    rw [hscan] at hlex
    obtain ⟨token, n⟩ := read
    obtain ⟨more, hmore, hlex⟩ := Effects.of_bind_eq_ok hlex
    cases hlex
    exact ⟨token, n, _, more, rfl, hmore, rfl⟩

/-- The lexemes of a text put together are the text. -/
theorem flatMap_text_of_lexFrom {here : Location} {s : List Char} {ls : List Lexeme}
    (hlex : lexFrom here s = .ok ls) : ls.flatMap Lexeme.text = s := by
  fun_induction lexFrom here s generalizing ls with
  | case1 here =>
    cases hlex
    rfl
  | case2 here c rest f hscan => cases hlex
  | case3 here c rest token n hscan text =>
    rename_i ih
    obtain ⟨more, hmore, hlex⟩ := Effects.of_bind_eq_ok hlex
    cases hlex
    rw [List.flatMap_cons, ih hmore, List.cons_append, List.take_append_drop]

/-! ## Cutting at lexemes -/

/-- Cuts lexemes after each semicolon outside blocks; `read` is the text of the piece at hand. The
last piece ends with the text and may be empty. -/
def segmentsFrom (b : Nesting) (read : List Char) : List Lexeme → List (List Char)
  | [] => [read]
  | l :: rest =>
    if l.token = .semicolon ∧ b.depth = 0 then
      (read ++ l.text) :: segmentsFrom {} [] rest
    else segmentsFrom (b.after l rest) (read ++ l.text) rest

@[simp]
theorem meaningful_append (pieces more : List (List Char)) :
    meaningful (pieces ++ more) = meaningful pieces ++ meaningful more := by
  simp [meaningful]

theorem meaningful_cons (piece : List Char) (pieces : List (List Char)) :
    meaningful (piece :: pieces) = meaningful [piece] ++ meaningful pieces :=
  meaningful_append [piece] pieces

theorem meaningful_empty : meaningful [[]] = [] := by
  have hempty : isMeaningful (Text.trim []) = false := by
    unfold isMeaningful
    have hstrip : stripLeadingComments (Text.trim []) = [] := stripLeadingComments_nil
    rw [hstrip]
    rfl
  simp [meaningful, hempty]

theorem slice_append (before read rest : List Char) :
    slice (before ++ read ++ rest) before.length (before ++ read).length = read := by
  unfold slice
  rw [List.take_left, List.drop_left]

/-- The pieces that are cut at the locations of semicolons are those that end with the semicolons; the
last is left out when it is empty. -/
theorem meaningful_piecesFrom {payload before read s : List Char} {here : Location} {b : Nesting}
    {ls : List Lexeme} (hpayload : payload = before ++ read ++ s)
    (hhere : here = Location.start.after (before ++ read)) (hlex : lexFrom here s = .ok ls) :
    meaningful (piecesFrom payload before.length b ls) = meaningful (segmentsFrom b read ls) := by
  fun_induction lexFrom here s generalizing before read b ls with
  | case1 =>
    cases hlex
    rw [List.append_nil] at hpayload
    have hpiece : slice payload before.length payload.length = read := by
      have hslice := slice_append before read []
      rwa [List.append_nil, ← hpayload] at hslice
    rw [piecesFrom, segmentsFrom, hpiece]
    split
    · rfl
    · next hshort =>
      obtain rfl : read = [] := by
        rw [hpayload, List.length_append] at hshort
        exact List.eq_nil_of_length_eq_zero (by omega)
      exact meaningful_empty.symm
  | case2 => cases hlex
  | case3 here c rest token n hscan text =>
    rename_i ih
    obtain ⟨more, hmore, hlex⟩ := Effects.of_bind_eq_ok hlex
    cases hlex
    have htext : text ++ rest.drop n = c :: rest := by
      simp [text]
    have hahead : payload = before ++ (read ++ text) ++ rest.drop n := by
      rw [hpayload, ← htext]
      simp
    have hplace : here.after text = Location.start.after (before ++ (read ++ text)) := by
      rw [hhere, ← List.append_assoc, Location.after_append _ (before ++ read)]
    rw [piecesFrom, segmentsFrom]
    dsimp only
    split
    · next hcut =>
      -- The semicolon is one character long, and its location counts all characters in front of it.
      obtain ⟨rfl, -⟩ := hcut
      obtain ⟨rfl, rfl⟩ := eq_of_scan_semicolon hscan
      have hstop : min (charIndex (lineStarts payload) here + 1) payload.length =
          (before ++ (read ++ text)).length := by
        rw [hahead, hhere]
        have hindex := charIndex_after_start (before ++ read) (text ++ rest.drop 0)
        rw [← List.append_assoc before read text, List.append_assoc (before ++ read), hindex]
        simp [text]
        omega
      have hslice : slice payload before.length (before ++ (read ++ text)).length = read ++ text := by
        rw [hahead]
        exact slice_append _ _ _
      have hbehind : meaningful (piecesFrom payload (before ++ (read ++ text)).length {} more) =
          meaningful (segmentsFrom {} [] more) :=
        ih (by rw [List.append_nil]; exact hahead) (by rw [List.append_nil]; exact hplace) hmore
      rw [hstop, hslice, meaningful_cons, hbehind, ← meaningful_cons]
    · exact ih hahead hplace hmore

theorem splitStatements_of_lex {payload : List Char} {ls : List Lexeme} (hlex : lex payload = .ok ls) :
    splitStatements payload = meaningful (segmentsFrom {} [] ls) := by
  unfold splitStatements
  rw [hlex]
  have hhere : Location.start = Location.start.after ([] ++ []) := rfl
  exact meaningful_piecesFrom rfl hhere hlex

theorem splitStatements_of_not_lex {payload : List Char} {f : LexFailure}
    (hlex : lex payload = .error f) : splitStatements payload = meaningful [payload] := by
  unfold splitStatements
  rw [hlex]

/-- The pieces between semicolons put together are the lexemes behind what was read before. -/
theorem flatten_segmentsFrom (b : Nesting) (read : List Char) (ls : List Lexeme) :
    (segmentsFrom b read ls).flatten = read ++ ls.flatMap Lexeme.text := by
  induction ls generalizing b read with
  | nil => simp [segmentsFrom]
  | cons l rest ih =>
    unfold segmentsFrom
    split
    · simp [ih]
    · simp [ih]

/-- Every character of a statement is one of its payload. -/
theorem subset_of_mem_splitStatements {payload s : List Char} (hs : s ∈ splitStatements payload) :
    s ⊆ payload := by
  have hpieces : ∀ pieces : List (List Char), pieces.flatten = payload → s ∈ meaningful pieces →
      s ⊆ payload := by
    intro pieces hflatten hmem
    obtain ⟨piece, hpiece, rfl⟩ := List.mem_map.1 (List.mem_filter.1 hmem).1
    intro c hc
    rw [← hflatten]
    exact List.mem_flatten.2 ⟨piece, hpiece, Text.subset_trim piece hc⟩
  cases hlex : lex payload with
  | ok ls =>
    rw [splitStatements_of_lex hlex] at hs
    refine hpieces _ ?_ hs
    rw [flatten_segmentsFrom, List.nil_append]
    exact flatMap_text_of_lexFrom hlex
  | error f =>
    rw [splitStatements_of_not_lex hlex] at hs
    exact hpieces _ (by simp) hs

theorem isMeaningful_of_mem_splitStatements {payload s : List Char}
    (hs : s ∈ splitStatements payload) : isMeaningful s = true := by
  unfold splitStatements meaningful at hs
  split at hs <;> exact (List.mem_filter.1 hs).2

/-- A payload of blanks has no statements. -/
theorem splitStatements_of_isAllBlank {payload : List Char} (hblank : Text.isAllBlank payload = true) :
    splitStatements payload = [] := by
  rw [List.eq_nil_iff_forall_not_mem]
  intro s hs
  have hall : ∀ c ∈ s, Text.isBlank c = true := fun c hc =>
    List.all_eq_true.1 hblank c (subset_of_mem_splitStatements hs hc)
  have hstrip : stripLeadingComments s = [] := by
    have hblanks := stripLeadingComments_blanks hall []
    rwa [List.append_nil, stripLeadingComments_nil] at hblanks
  have hmeaning := isMeaningful_of_mem_splitStatements hs
  rw [isMeaningful, hstrip] at hmeaning
  cases hmeaning

end Sql
end SqlCells
