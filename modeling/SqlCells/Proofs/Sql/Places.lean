import Mathlib.Data.List.Induction
import SqlCells.Proofs.Effects
import SqlCells.Proofs.Sql.Trivia

/-!
# Places and the characters in front of them

A location counts lines and columns from one.  The places where lines start turn it back into the
number of characters in front of it, whatever follows the location in the text.
-/

namespace SqlCells
namespace Sql

theorem Location.after_append (p : Location) (u v : List Char) :
    p.after (u ++ v) = (p.after u).after v :=
  List.foldl_append

theorem lineStarts_append_singleton (u : List Char) (c : Char) :
    lineStarts (u ++ [c]) = lineStarts u ++ (if c = '\n' then [u.length + 1] else []) := by
  unfold lineStarts
  rw [List.zipIdx_append, List.filter_append, List.map_append]
  by_cases hc : c = '\n'
  · simp [hc]
  · simp [hc]

/-- What follows a text adds line starts behind those of the text. -/
theorem lineStarts_prefix (u v : List Char) : lineStarts u <+: lineStarts (u ++ v) := by
  induction v using List.reverseRecOn with
  | nil => exact (List.append_nil u).symm ▸ List.prefix_rfl
  | append_singleton v c ih =>
    rw [← List.append_assoc, lineStarts_append_singleton]
    exact ih.trans (List.prefix_append _ _)

theorem length_lineStarts_pos (u : List Char) : 0 < (lineStarts u).length :=
  Nat.succ_pos _

/-- The last line of a text starts in it. -/
theorem getLastD_lineStarts_le (u : List Char) : (lineStarts u).getLastD 0 ≤ u.length := by
  induction u using List.reverseRecOn with
  | nil => exact Nat.le_refl _
  | append_singleton u c ih =>
    rw [lineStarts_append_singleton, List.length_append]
    split
    · simp
    · rw [List.append_nil]
      exact Nat.le_succ_of_le ih

/-- The place behind a text is on the last of its lines, as far behind the start of the line as there are
characters. -/
theorem after_start (u : List Char) :
    Location.start.after u =
      ⟨(lineStarts u).length, u.length - (lineStarts u).getLastD 0 + 1⟩ := by
  induction u using List.reverseRecOn with
  | nil => rfl
  | append_singleton u c ih =>
    have hstart := getLastD_lineStarts_le u
    have hstep : Location.start.after (u ++ [c]) = (Location.start.after u).next c :=
      Location.after_append _ u [c]
    rw [hstep, ih, lineStarts_append_singleton, Location.next]
    split
    · simp
    · rw [List.append_nil, List.length_append, List.length_singleton, Location.mk.injEq]
      exact ⟨rfl, by dsimp only; omega⟩

/-- The place behind a text has the characters of the text in front of it. -/
theorem charIndex_after_start (u v : List Char) :
    charIndex (lineStarts (u ++ v)) (Location.start.after u) = u.length := by
  obtain ⟨more, hmore⟩ := lineStarts_prefix u v
  have hstart := getLastD_lineStarts_le u
  have hpos := length_lineStarts_pos u
  -- The place is on the last line of the text in front of it.
  have hline : (lineStarts u ++ more).getD ((lineStarts u).length - 1) 0 =
      (lineStarts u).getLastD 0 := by
    rw [List.getD_eq_getElem?_getD, List.getElem?_append_left (by omega), List.getLastD_eq_getLast?,
      List.getLast?_eq_getElem?]
  rw [after_start, ← hmore, charIndex]
  dsimp only
  rw [hline]
  omega

end Sql
end SqlCells
