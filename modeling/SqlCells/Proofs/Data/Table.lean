import Mathlib.Data.List.Forall2
import SqlCells.Data.Table
import SqlCells.Proofs.Text.Words

/-!
# Lines of a table

The lines of a table all have the length of its border, and each column lies between two joints of the
border.  Cut there, a line shows its texts as they are, with blanks around them: no text is cut off, as a
column is as wide as the longest text that is shown in it.
-/

namespace SqlCells
namespace Table

/-! ## Widths -/

/-- A running maximum is reached by the value at the start and by all that follow. -/
theorem le_foldl_max {α : Type} (f : α → Nat) (start : Nat) (xs : List α) :
    start ≤ xs.foldl (fun w x => max w (f x)) start ∧
      ∀ x ∈ xs, f x ≤ xs.foldl (fun w x => max w (f x)) start := by
  induction xs generalizing start with
  | nil => simp
  | cons x xs ih =>
    obtain ⟨hstart, hall⟩ := ih (max start (f x))
    rw [List.foldl_cons, List.forall_mem_cons]
    exact ⟨by omega, by omega, hall⟩

/-- Texts that the widths leave room for, one for each column. -/
def Fitting (ws : List Nat) (texts : List (List Char)) : Prop :=
  ∀ i w, ws[i]? = some w → (texts.getD i []).length ≤ w

variable {keys : List (List Char)} {cells : List (List (List Char))}

theorem getElem?_widths {i w : Nat} (hw : (widths keys cells)[i]? = some w) :
    w = width keys cells i := by
  unfold widths at hw
  rw [List.getElem?_map, Option.map_eq_some_iff] at hw
  obtain ⟨j, hj, rfl⟩ := hw
  obtain ⟨hlt, rfl⟩ := List.getElem?_eq_some_iff.1 hj
  rw [List.getElem_range]

theorem fitting_keys (keys : List (List Char)) (cells : List (List (List Char))) :
    Fitting (widths keys cells) keys := by
  intro i w hw
  rw [getElem?_widths hw]
  exact (le_foldl_max _ _ cells).1

theorem fitting_cells {row : List (List Char)} (hrow : row ∈ cells) :
    Fitting (widths keys cells) row := by
  intro i w hw
  rw [getElem?_widths hw]
  exact (le_foldl_max (fun row : List (List Char) => (row.getD i []).length) _ cells).2 row hrow

/-! ## Lines under a border -/

/-- A line cut at the joints of a border. -/
def cutAt (border line : List Char) : List (List Char) :=
  ((border.zip line).splitOnP fun pair => pair.1 == '+').map fun piece => piece.map Prod.snd

theorem cutAt_nil : cutAt [] [] = [[]] :=
  rfl

theorem cutAt_append_cons {dashes piece : List Char} (hdashes : '+' ∉ dashes)
    (hlength : dashes.length = piece.length) (c : Char) (border line : List Char) :
    cutAt (dashes ++ '+' :: border) (piece ++ c :: line) = piece :: cutAt border line := by
  have hkept : ∀ pair ∈ dashes.zip piece, (pair.1 == '+') = false := by
    intro pair hpair
    exact beq_false_of_ne (ne_of_mem_of_not_mem (List.of_mem_zip hpair).1 hdashes)
  unfold cutAt
  rw [List.zip_append hlength, List.zip_cons_cons,
    List.splitOnP_append_cons_of_forall_mem hkept _ (beq_self_eq_true '+'), List.map_cons,
    List.map_snd_zip (Nat.le_of_eq hlength.symm)]

/-- Pieces with a mark at either end and one between each two. -/
def drawn (mark : Char) (pieces : List (List Char)) : List Char :=
  mark :: Text.joinWith [mark] pieces ++ [mark]

theorem separator_eq (ws : List Nat) :
    separator ws = drawn '+' (ws.map fun w => List.replicate (w + 2) '-') :=
  rfl

theorem line_eq (ws : List Nat) (texts : List (List Char)) :
    line ws texts = drawn '|' (ws.mapIdx fun i w => padded w (texts.getD i [])) :=
  rfl

theorem drawn_eq (mark : Char) {pieces : List (List Char)} (hne : pieces ≠ []) :
    drawn mark pieces = mark :: pieces.flatMap fun piece => piece ++ [mark] := by
  unfold drawn
  rw [List.cons_append, Text.joinWith_append_self _ hne]

/-- A line whose pieces are as long as those of the border is cut into its pieces. -/
theorem cutAt_drawn {mark : Char} {bars pieces : List (List Char)} (hbars : ∀ bar ∈ bars, '+' ∉ bar)
    (hlengths : bars.map List.length = pieces.map List.length) (hne : bars ≠ []) :
    cutAt (drawn '+' bars) (drawn mark pieces) = [] :: pieces ++ [[]] := by
  -- Behind the first joint each piece ends with one, so the induction is on the pieces alone.
  have hinner : cutAt (bars.flatMap fun bar => bar ++ ['+'])
      (pieces.flatMap fun piece => piece ++ [mark]) = pieces ++ [[]] := by
    clear hne
    induction bars generalizing pieces with
    | nil =>
      obtain rfl : pieces = [] := by simpa using hlengths.symm
      exact cutAt_nil
    | cons bar bars ih =>
      obtain ⟨piece, rest, rfl⟩ : ∃ piece rest, pieces = piece :: rest := by
        cases pieces with
        | nil => simp at hlengths
        | cons piece rest => exact ⟨piece, rest, rfl⟩
      obtain ⟨hlength, hlengths⟩ := List.cons.inj hlengths
      obtain ⟨hbar, hbars⟩ := List.forall_mem_cons.1 hbars
      simp only [List.flatMap_cons, List.append_assoc, List.singleton_append]
      rw [cutAt_append_cons hbar hlength, ih hbars hlengths, List.cons_append]
  have hpieces : pieces ≠ [] := by
    rintro rfl
    simp [hne] at hlengths
  rw [drawn_eq _ hne, drawn_eq _ hpieces]
  exact (cutAt_append_cons (List.not_mem_nil) rfl mark _ _).trans (congrArg ([] :: ·) hinner)

theorem length_drawn {mark mark' : Char} {pieces pieces' : List (List Char)}
    (hlengths : pieces.map List.length = pieces'.map List.length) :
    (drawn mark pieces).length = (drawn mark' pieces').length := by
  have hcount : pieces.length = pieces'.length := by simpa using congrArg List.length hlengths
  by_cases hne : pieces = []
  · have hne' : pieces' = [] := by simpa [hne] using hcount.symm
    rw [hne, hne']
    rfl
  · have hne' : pieces' ≠ [] := by
      rintro rfl
      exact hne (by simpa using hcount)
    have hsum : ∀ (c : Char) (ps : List (List Char)),
        (ps.flatMap fun piece => piece ++ [c]).length = (ps.map List.length).sum + ps.length := by
      intro c ps
      induction ps with
      | nil => rfl
      | cons p ps ih => simp [ih]; omega
    rw [drawn_eq _ hne, drawn_eq _ hne', List.length_cons, List.length_cons, hsum, hsum, hlengths,
      hcount]

/-- How a line of a table with some columns shows texts under a border.  It has as many characters as the
border.  Cut at the joints of the border it has nothing outside and one piece for each column; without
columns there is nothing between the two joints.  The piece of a column is its whole text, a blank in
front and blanks behind; a missing text is empty, and there is no piece for texts beyond the last
column. -/
structure Shows (border : List Char) (columns : Nat) (texts : List (List Char)) (line : List Char) :
    Prop where
  length : line.length = border.length
  cut : ∃ pieces, cutAt border line = [] :: pieces ++ [[]] ∧ pieces.length = max columns 1 ∧
    (columns = 0 → pieces = [[]]) ∧
    ∀ i < columns, ∃ blanks,
      pieces[i]? = some (' ' :: texts.getD i [] ++ List.replicate blanks ' ' ++ [' '])

theorem length_padded {w : Nat} {text : List Char} (hfits : text.length ≤ w) :
    (padded w text).length = w + 2 := by
  simp [padded]
  omega

theorem shows_line {ws : List Nat} {texts : List (List Char)} (hfits : Fitting ws texts) :
    Shows (separator ws) ws.length texts (line ws texts) := by
  have hlengths : (ws.map fun w => List.replicate (w + 2) '-').map List.length =
      (ws.mapIdx fun i w => padded w (texts.getD i [])).map List.length := by
    apply List.ext_getElem
    · simp
    · intro i hi hi'
      have hi : i < ws.length := by simpa using hi
      have hroom := length_padded (hfits i ws[i] (List.getElem?_eq_getElem hi))
      simp only [List.getElem_map, List.getElem_mapIdx, List.length_replicate]
      exact hroom.symm
  have hlength : (line ws texts).length = (separator ws).length := by
    rw [line_eq, separator_eq]
    exact (length_drawn hlengths).symm
  by_cases hne : ws = []
  · -- The two joints of a border without columns stand next to each other.
    subst hne
    exact ⟨hlength, [[]], rfl, rfl, fun _ => rfl, by simp⟩
  · have hpos := List.length_pos_iff.2 hne
    refine ⟨hlength, ws.mapIdx fun i w => padded w (texts.getD i []), ?_, ?_, by omega, ?_⟩
    · rw [separator_eq, line_eq]
      exact cutAt_drawn (by simp) hlengths (by simpa using hne)
    · rw [List.length_mapIdx]
      omega
    · intro i hi
      refine ⟨ws[i] - (texts.getD i []).length, ?_⟩
      rw [List.getElem?_mapIdx, List.getElem?_eq_getElem hi]
      rfl

theorem of_mem_separator {ws : List Nat} {c : Char} (hc : c ∈ separator ws) : c = '+' ∨ c = '-' := by
  unfold separator at hc
  simp only [List.cons_append, List.mem_cons, List.mem_append, List.not_mem_nil, or_false] at hc
  rcases hc with hc | hc | hc
  · exact Or.inl hc
  · rcases Text.of_mem_joinWith hc with hc | ⟨bar, hbar, hc⟩
    · exact Or.inl (List.mem_singleton.1 hc)
    · obtain ⟨w, -, rfl⟩ := List.mem_map.1 hbar
      exact Or.inr (List.eq_of_mem_replicate hc)
  · exact Or.inl hc

end Table

namespace ResultSet

open Table

/-- The rows that a display limit leaves; zero is no limit. -/
def shownRows (rs : ResultSet) (limit : Nat) : List Row :=
  if limit = 0 then rs.rows else rs.rows.take limit

theorem take_shownCount (rs : ResultSet) (limit : Nat) :
    rs.rows.take (shownCount limit rs.rows.length) = rs.shownRows limit := by
  unfold shownCount shownRows
  split
  · exact List.take_length
  · rw [Nat.min_comm, ← List.take_eq_take_min]

theorem length_shownRows (rs : ResultSet) (limit : Nat) :
    (rs.shownRows limit).length = shownCount limit rs.rows.length := by
  rw [← take_shownCount, List.length_take]
  unfold shownCount
  split <;> omega

theorem tableLines_eq (rs : ResultSet) (limit : Nat) :
    let cells := (rs.shownRows limit).map fun row => row.map Value.display
    let ws := widths (rs.keys.map String.toList) cells
    rs.tableLines limit =
      separator ws :: line ws (rs.keys.map String.toList) :: separator ws :: cells.map (line ws) ++
        separator ws :: if (rs.shownRows limit).length < rs.rows.length then
          [footer rs.rows.length limit] else [] := by
  unfold tableLines
  dsimp only
  rw [take_shownCount, length_shownRows]
  simp

/-- What a table consists of, for all keys and cells and every display limit: the border, the keys, the
border, a line for each row that is shown, in order, the border, and a footer with the number of rows
exactly if some are not shown.  All lines but the footer have the same number of characters, and in each
column the whole key and the whole text of every cell stand between the joints of the border. -/
theorem table_shows (rs : ResultSet) (limit : Nat) :
    ∃ border header lines footer,
      rs.table limit = Text.joinWith ['\n'] (rs.tableLines limit) ∧
      rs.tableLines limit = border :: header :: border :: lines ++ border :: footer ∧
      (∀ c ∈ border, c = '+' ∨ c = '-') ∧
      Shows border rs.keys.length (rs.keys.map String.toList) header ∧
      List.Forall₂ (fun row line => Shows border rs.keys.length (row.map Value.display) line)
        (rs.shownRows limit) lines ∧
      footer = if (rs.shownRows limit).length < rs.rows.length then
        [Text.decimal rs.rows.length ++ " rows, truncated to displaylimit of ".toList ++
          Text.decimal limit] else [] := by
  have hlines := rs.tableLines_eq limit
  dsimp only at hlines
  generalize hcells : (rs.shownRows limit).map (fun row => row.map Value.display) = cells at hlines
  have hwidth : (widths (rs.keys.map String.toList) cells).length = rs.keys.length := by
    simp [widths]
  refine ⟨_, _, _, _, rfl, hlines, fun c hc => of_mem_separator hc, ?_, ?_, rfl⟩
  · rw [← hwidth]
    exact shows_line (fitting_keys _ cells)
  · rw [← hwidth, List.forall₂_map_right_iff, ← hcells, List.forall₂_map_right_iff, List.forall₂_same]
    intro row hrow
    refine shows_line (fitting_cells ?_)
    exact List.mem_map_of_mem hrow

/-- A row that is not shown takes no room. -/
example : ({ keys := ["id", "name"], rows := [[.int 1], [.int 100, .text "Brontë"]] } : ResultSet).tableLines 1 =
    ["+----+------+".toList, "| id | name |".toList, "+----+------+".toList, "| 1  |      |".toList,
      "+----+------+".toList, "2 rows, truncated to displaylimit of 1".toList] := by
  decide +kernel

end ResultSet
end SqlCells
