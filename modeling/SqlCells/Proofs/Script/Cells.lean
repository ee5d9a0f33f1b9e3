import SqlCells.Proofs.Script.Groups

/-!
# The cells of a script

A script is cut by one pass over its numbered lines, with a cell that takes further lines.  What the pass
gives is the groups of the lines, in order.  A group is left out if there is nothing in it, and nothing is
lost in making a cell of a group: what can be read off its lines, headers and text, can be read off the
cell.
-/

namespace SqlCells
namespace Script

/-! ## The pass over the lines -/

/-- Lines with their numbers, from `start` on. -/
def numberedFrom (start : Nat) (lines : List (List Char)) : List (Nat × List Char) :=
  lines.mapIdx fun i line => (start + i, line)

theorem numberedFrom_cons (start : Nat) (line : List Char) (lines : List (List Char)) :
    numberedFrom start (line :: lines) = (start, line) :: numberedFrom (start + 1) lines := by
  unfold numberedFrom
  rw [List.mapIdx_cons]
  congr 2
  funext i l
  rw [Nat.add_assoc, Nat.add_comm 1]

theorem numberedLines_eq (script : List Char) :
    numberedLines script = numberedFrom 1 (Text.lines script) := by
  simp [numberedLines, numberedFrom, Nat.add_comm]

/-- The cell of a group before the blanks at its end are dropped. -/
def Group.opened (g : Group) : Cell :=
  ⟨g.opening.header, g.text, g.line⟩

theorem foldl_addLine_of_ne_nil {c : Cell} (hbody : c.body ≠ []) (texts : List (List Char)) :
    texts.foldl Cell.addLine c = { c with body := Text.joinWith ['\n'] (c.body :: texts) } := by
  induction texts generalizing c with
  | nil => rfl
  | cons line texts ih =>
    have hadd : c.addLine line = { c with body := c.body ++ ['\n'] ++ line } := by
      simp [Cell.addLine, hbody]
    rw [List.foldl_cons, hadd, ih (by simp)]
    cases texts with
    | nil => rfl
    | cons next texts => simp [Text.joinWith]

/-- The lines that a new cell takes are joined, without the empty ones that come first. -/
theorem foldl_addLine (header : List Char) (number : Nat) (texts : List (List Char)) :
    texts.foldl Cell.addLine ⟨header, [], number⟩ =
      ⟨header, Text.joinWith ['\n'] (texts.dropWhile List.isEmpty), number⟩ := by
  induction texts with
  | nil => rfl
  | cons line texts ih =>
    have hadd : Cell.addLine ⟨header, [], number⟩ line = ⟨header, line, number⟩ := rfl
    rw [List.foldl_cons, hadd]
    by_cases hline : line = []
    · rw [hline, ih]
      rfl
    · rw [foldl_addLine_of_ne_nil hline, List.dropWhile_cons_of_neg (by simpa using hline)]

/-- Lines without markers go to the cell that takes lines. -/
theorem cellsFrom_texts (current : Cell) (start : Nat) {texts : List (List Char)}
    (htexts : ∀ line ∈ texts, ¬ IsMarker line) (rest : List (List Char)) :
    cellsFrom (some current) (numberedFrom start (texts ++ rest)) =
      cellsFrom (some (texts.foldl Cell.addLine current))
        (numberedFrom (start + texts.length) rest) := by
  induction texts generalizing current start with
  | nil => rfl
  | cons line texts ih =>
    obtain ⟨hline, htexts⟩ := List.forall_mem_cons.1 htexts
    have hkind : LineKind.of line = .text := by rw [lineKind_of, Opening.of_text hline]
    rw [List.cons_append, numberedFrom_cons, cellsFrom, hkind]
    dsimp only
    rw [Option.getD_some, ih _ _ htexts, List.foldl_cons, List.length_cons, Nat.add_assoc,
      Nat.add_comm 1]

/-- A cell takes no more lines at a marker, nor at the end. -/
theorem cellsFrom_interrupts (current : Cell) (start : Nat) {lines : List (List Char)}
    (hlines : Interrupts lines) :
    cellsFrom (some current) (numberedFrom start lines) =
      current :: cellsFrom none (numberedFrom start lines) := by
  cases lines with
  | nil => rfl
  | cons line rest =>
    have hopening := Opening.lines_of_marker (hlines line rfl)
    rw [numberedFrom_cons, cellsFrom, cellsFrom, lineKind_of]
    cases hof : Opening.of line with
    | block after => rfl
    | single after => rfl
    | bare =>
      rw [hof] at hopening
      cases hopening

/-- A new cell takes the lines up to the next marker. -/
theorem cellsFrom_body (header : List Char) (number start : Nat) {texts rest : List (List Char)}
    (htexts : ∀ line ∈ texts, ¬ IsMarker line) (hrest : Interrupts rest) :
    cellsFrom (some ⟨header, [], number⟩) (numberedFrom start (texts ++ rest)) =
      ⟨header, Text.joinWith ['\n'] (texts.dropWhile List.isEmpty), number⟩ ::
        cellsFrom none (numberedFrom (start + texts.length) rest) := by
  rw [cellsFrom_texts _ _ htexts, foldl_addLine, cellsFrom_interrupts _ _ hrest]

/-- One pass over the lines gives the cells of their groups. -/
theorem cellsFrom_eq {start : Nat} {lines : List (List Char)} {groups : List Group}
    (h : IsGrouping start lines groups) :
    cellsFrom none (numberedFrom start lines) = groups.map Group.opened := by
  induction groups generalizing start lines with
  | nil =>
    rw [IsGrouping.nil_iff.1 h]
    rfl
  | cons g groups ih =>
    obtain ⟨hsound, hline, rest, rfl, hrest, hmarker⟩ := h.uncons
    have htail := ih hrest
    rw [List.map_cons, ← htail]
    obtain ⟨opening, body, number⟩ := g
    obtain rfl : number = start := hline
    cases opening with
    | single after =>
      obtain rfl : body = [] := hsound.single rfl
      have hkind : LineKind.of ("%sql".toList ++ after) = .single (Text.trim after) := by
        rw [lineKind_of, Opening.of_single]
      change cellsFrom none (numberedFrom number (("%sql".toList ++ after) :: rest)) = _
      rw [numberedFrom_cons, cellsFrom, hkind]
      rfl
    | block after =>
      have hkind : LineKind.of ("%%sql".toList ++ after) = .block (Text.trim after) := by
        rw [lineKind_of, Opening.of_block]
      change cellsFrom none (numberedFrom number (("%%sql".toList ++ after) :: (body ++ rest))) = _
      rw [numberedFrom_cons, cellsFrom, hkind]
      have hbody := cellsFrom_body (Text.trim after) number (number + 1) hsound.texts (hmarker rfl)
      rwa [Nat.add_assoc, Nat.add_comm 1] at hbody
    | bare =>
      -- The first line without a marker begins a cell, and then is the first that the cell takes.
      obtain ⟨line, texts, rfl⟩ := List.exists_cons_of_ne_nil (hsound.bare rfl)
      have hkind : LineKind.of line = .text := by
        rw [lineKind_of, Opening.of_text (hsound.texts line List.mem_cons_self)]
      have hbody := cellsFrom_body [] number number hsound.texts (hmarker rfl)
      rw [List.cons_append, numberedFrom_cons, cellsFrom, hkind] at hbody
      change cellsFrom none (numberedFrom number (line :: (texts ++ rest))) = _
      rw [numberedFrom_cons, cellsFrom, hkind]
      exact hbody

/-! ## What is read off lines and cells -/

/-- Something that stands in a script. -/
inductive Content where
  | header (text : List Char)
  /-- A line of text, without the blanks at its end. -/
  | text (text : List Char)
  deriving DecidableEq, Repr

namespace Content

/-- What is read off a header: nothing if it is empty. -/
def ofHeader (text : List Char) : Option Content :=
  if text.isEmpty then none else some (.header text)

/-- What is read off a line without a marker: nothing if it is blank. -/
def ofText (line : List Char) : Option Content :=
  if (Text.trimEnd line).isEmpty then none else some (.text (Text.trimEnd line))

/-- What is read off a line. -/
def ofLine (line : List Char) : Option Content :=
  match Opening.of line with
  | .bare => ofText line
  | opening => ofHeader opening.header

theorem ofText_eq_none_iff {line : List Char} : ofText line = none ↔ Text.isAllBlank line = true := by
  simp [ofText, Text.isAllBlank, Text.trimEnd_eq_nil_iff]

/-- A blank at the end of a text adds nothing to what is read off its lines. -/
theorem filterMap_splitAt_append_blank {w : Char} (hw : Text.isBlank w = true) (s : List Char) :
    (Text.splitAt (· == '\n') (s ++ [w])).filterMap ofText =
      (Text.splitAt (· == '\n') s).filterMap ofText := by
  by_cases hfeed : w = '\n'
  · -- The line that it begins is empty.
    rw [hfeed, Text.splitAt_append_self, List.filterMap_append]
    exact List.append_nil _
  have hlast : ∀ line : List Char, '\n' ∉ line → Text.splitAt (· == '\n') (line ++ [w]) = [line ++ [w]] :=
    fun line hline => Text.splitAt_of_not_mem (by simp [hline, Ne.symm hfeed])
  have hline : ∀ line, [line ++ [w]].filterMap ofText = [line].filterMap ofText := by
    intro line
    rw [List.filterMap_cons, List.filterMap_cons, ofText, ofText, Text.trimEnd_append_blank hw]
  cases hsplit : Text.splitOnceLast '\n' s with
  | none =>
    have hone := Text.splitOnceLast_eq_none_iff.1 hsplit
    rw [hlast s hone, Text.splitAt_of_not_mem hone, hline]
  | some parts =>
    obtain ⟨before, after⟩ := parts
    obtain ⟨rfl, hone⟩ := Text.splitOnceLast_eq_some_iff.1 hsplit
    rw [List.append_assoc, List.cons_append, Text.splitAt_append_self, Text.splitAt_append_self,
      hlast after hone, Text.splitAt_of_not_mem hone, List.filterMap_append, hline,
      List.filterMap_append]

theorem filterMap_splitAt_trimEnd (s : List Char) :
    (Text.splitAt (· == '\n') (Text.trimEnd s)).filterMap ofText =
      (Text.splitAt (· == '\n') s).filterMap ofText := by
  have hblanks : ∀ tail : List Char, (∀ c ∈ tail, Text.isBlank c = true) → ∀ kept,
      (Text.splitAt (· == '\n') (kept ++ tail)).filterMap ofText =
        (Text.splitAt (· == '\n') kept).filterMap ofText := by
    intro tail htail
    induction tail with
    | nil => exact fun kept => by rw [List.append_nil]
    | cons w tail ih =>
      obtain ⟨hw, htail⟩ := List.forall_mem_cons.1 htail
      intro kept
      rw [List.append_cons, ih htail, filterMap_splitAt_append_blank hw]
  obtain ⟨tail, hs, htail⟩ := Text.exists_append_of_dropTailWhile Text.isBlank s
  conv_rhs => rw [hs]
  exact (hblanks tail htail _).symm

theorem filterMap_dropWhile_isEmpty (lines : List (List Char)) :
    (lines.dropWhile List.isEmpty).filterMap ofText = lines.filterMap ofText := by
  induction lines with
  | nil => rfl
  | cons line lines ih =>
    by_cases hline : line.isEmpty = true
    · rw [List.dropWhile_cons_of_pos hline, ih, List.isEmpty_iff.1 hline]
      rfl
    · rw [List.dropWhile_cons_of_neg hline]

end Content

/-- What is read off a cell: its header, and the lines of its body. -/
def Cell.contents (c : Cell) : List Content :=
  (Content.ofHeader c.header).toList ++ (Text.splitAt (· == '\n') c.body).filterMap Content.ofText

/-! ## Groups with nothing in them -/

theorem Group.isBlank_opened (g : Group) : g.opened.isBlank = g.isBlank := by
  have hdrop : (g.body.dropWhile List.isEmpty).all Text.isAllBlank = g.body.all Text.isAllBlank := by
    rw [Bool.eq_iff_iff, List.all_eq_true, List.all_eq_true]
    simp only [← Content.ofText_eq_none_iff, ← List.filterMap_eq_nil_iff,
      Content.filterMap_dropWhile_isEmpty]
  unfold Cell.isBlank opened text isBlank
  rw [Text.isAllBlank_joinWith, hdrop]

/-- The cells of a script are those of its groups, in order; a group with nothing in it is left out. -/
theorem split_eq {script : List Char} {groups : List Group}
    (h : IsGrouping 1 (Text.lines script) groups) :
    split script = (groups.filter fun g => !g.isBlank).map Group.cell := by
  have hblank : (fun c : Cell => !c.isBlank) ∘ Group.opened = fun g => !g.isBlank :=
    funext fun g => congrArg Bool.not g.isBlank_opened
  unfold split
  rw [numberedLines_eq, cellsFrom_eq h, List.filter_map, List.map_map, hblank]
  rfl

/-! ## What is read off groups -/

namespace Group

variable {g : Group}

/-- What is read off the lines of a group is its header and its text. -/
theorem filterMap_lines (h : g.Sound) : g.lines.filterMap Content.ofLine =
    (Content.ofHeader g.opening.header).toList ++ g.body.filterMap Content.ofText := by
  have hopening : g.opening.lines.filterMap Content.ofLine =
      (Content.ofHeader g.opening.header).toList := by
    have hone : ∀ line, [line].filterMap Content.ofLine = (Content.ofLine line).toList := by
      intro line
      rw [List.filterMap_cons]
      cases Content.ofLine line with
      | none => rfl
      | some content => rfl
    cases g.opening with
    | block rest => rw [Opening.lines, hone, Content.ofLine, Opening.of_block]
    | single rest => rw [Opening.lines, hone, Content.ofLine, Opening.of_single]
    | bare => rfl
  have hbody : g.body.filterMap Content.ofLine = g.body.filterMap Content.ofText := by
    apply List.filterMap_congr
    intro line hline
    rw [Content.ofLine, Opening.of_text (h.texts line hline)]
  rw [lines, List.filterMap_append, hopening, hbody]

/-- Nothing is read off the lines of a group exactly if it is left out. -/
theorem filterMap_lines_eq_nil_iff (h : g.Sound) :
    g.lines.filterMap Content.ofLine = [] ↔ g.isBlank = true := by
  rw [filterMap_lines h, List.append_eq_nil_iff, List.filterMap_eq_nil_iff]
  simp [Content.ofText_eq_none_iff, isBlank, Content.ofHeader]

/-- What is read off the lines of a group is read off its cell. -/
theorem contents_cell (h : g.Sound) (hfeeds : ∀ line ∈ g.body, '\n' ∉ line) :
    g.cell.contents = g.lines.filterMap Content.ofLine := by
  rw [filterMap_lines h, Cell.contents, cell]
  dsimp only
  rw [Content.filterMap_splitAt_trimEnd, text, ← Content.filterMap_dropWhile_isEmpty g.body]
  by_cases hnone : g.body.dropWhile List.isEmpty = []
  · rw [hnone]
    rfl
  · rw [Text.splitAt_joinWith hnone]
    intro line hline
    exact hfeeds line ((List.dropWhile_suffix _).subset hline)

end Group

/-! ## Cells and lines -/

namespace IsGrouping

variable {start : Nat} {lines : List (List Char)} {groups : List Group}

theorem start_le_line (h : IsGrouping start lines groups) : ∀ g ∈ groups, start ≤ g.line := by
  intro g hg
  obtain ⟨before, after, hsplit⟩ := List.append_of_mem hg
  rw [h.numbers before g after hsplit]
  omega

/-- Groups are numbered in order, for every one of them has a line. -/
theorem pairwise_line (h : IsGrouping start lines groups) :
    groups.Pairwise fun g next => g.line < next.line := by
  induction groups generalizing start lines with
  | nil => exact List.Pairwise.nil
  | cons g groups ih =>
    obtain ⟨hsound, hline, rest, -, hrest, -⟩ := h.uncons
    refine List.pairwise_cons.2 ⟨?_, ih hrest⟩
    intro next hnext
    have hpos := List.length_pos_iff.2 hsound.lines_ne_nil
    have hle := hrest.start_le_line next hnext
    omega

end IsGrouping

/-- Leaving groups out takes nothing away, as there is nothing in them. -/
theorem flatMap_contents {groups : List Group} (hsound : ∀ g ∈ groups, g.Sound)
    (hcontents : ∀ g ∈ groups, g.cell.contents = g.lines.filterMap Content.ofLine) :
    (groups.filter fun g => !g.isBlank).flatMap (fun g => g.cell.contents) =
      groups.flatMap fun g => g.lines.filterMap Content.ofLine := by
  induction groups with
  | nil => rfl
  | cons g groups ih =>
    obtain ⟨hg, hsound⟩ := List.forall_mem_cons.1 hsound
    obtain ⟨hfirst, hcontents⟩ := List.forall_mem_cons.1 hcontents
    rw [List.flatMap_cons, ← ih hsound hcontents]
    by_cases hblank : g.isBlank = true
    · rw [List.filter_cons_of_neg (by simp [hblank]), (Group.filterMap_lines_eq_nil_iff hg).2 hblank,
        List.nil_append]
    · rw [List.filter_cons_of_pos (by simp [hblank]), List.flatMap_cons, hfirst]

/-- How a script is cut into cells.  Its lines fall into groups in exactly one way: a line with a marker
begins a group, a group that begins with `%sql` has no other line, and a run of lines without markers
belongs to the `%%sql` before it or, where there is none, is a group with its first line's number.  The
cells are the groups in order, numbered upwards: the header is what follows the marker, the body the other
lines, without empty lines in front and blanks at the end.  Left out are the groups with an empty header and
blank lines only.  So what stands in a line is read off the cell of its group, and the cells together have
what stands in the script, once and in order. -/
theorem split_groups (script : List Char) :
    ∃ groups, (∀ other, IsGrouping 1 (Text.lines script) other ↔ other = groups) ∧
      split script = (groups.filter fun g => !g.isBlank).map Group.cell ∧
      (split script).Pairwise (fun c next => c.line < next.line) ∧
      (∀ g ∈ groups, g.cell.contents = g.lines.filterMap Content.ofLine) ∧
      (split script).flatMap Cell.contents = (Text.lines script).filterMap Content.ofLine := by
  have h := isGrouping_groupsFrom 1 (Text.lines script)
  refine ⟨groupsFrom 1 (Text.lines script), fun other => isGrouping_iff, ?_⟩
  generalize groupsFrom 1 (Text.lines script) = groups at h
  have hcontents : ∀ g ∈ groups, g.cell.contents = g.lines.filterMap Content.ofLine := by
    intro g hg
    refine Group.contents_cell (h.sound g hg) fun line hline => Text.feed_not_mem_lines script line ?_
    rw [← h.lines]
    exact List.mem_flatMap.2 ⟨g, hg, List.mem_append_right _ hline⟩
  refine ⟨split_eq h, ?_, hcontents, ?_⟩
  · rw [split_eq h, List.pairwise_map]
    exact h.pairwise_line.filter _
  · rw [split_eq h, ← h.lines, List.flatMap_map, List.filterMap_flatMap]
    exact flatMap_contents h.sound hcontents

/-- The cell before the first marker has the number of an empty line, which is not in its body. -/
example : split "\nSELECT 1\n%sql x\n\n%%sql  --save y \n\n a \n\nb\n \n%sql".toList =
    [⟨"".toList, "SELECT 1".toList, 1⟩, ⟨"x".toList, "".toList, 3⟩,
      ⟨"--save y".toList, " a \n\nb".toList, 5⟩] := by
  decide +kernel

end Script
end SqlCells
