import Mathlib.Data.List.Chain
import SqlCells.Script
import SqlCells.Proofs.Text.Words

/-!
# Groups of lines

The lines of a script fall into groups in exactly one way.  A line with a marker begins a group; lines
without one belong to the block before them, and where there is none they are a group without a marker.
The cells of a script are its groups in order, without those that have neither a header nor text; so
every line with something in it is found in one cell, and in the cell of its own group.
-/

namespace SqlCells
namespace Script

/-! ## Markers -/

/-- A line that starts with a marker. -/
def IsMarker (line : List Char) : Prop :=
  "%%sql".toList <+: line ∨ "%sql".toList <+: line

instance : DecidablePred IsMarker :=
  fun _ => inferInstanceAs (Decidable (_ ∨ _))

/-- How a group of lines begins. -/
inductive Opening where
  /-- A line that starts with `%%sql`, and what follows there. -/
  | block (rest : List Char)
  /-- A line that starts with `%sql`, and what follows there. -/
  | single (rest : List Char)
  /-- No marker. -/
  | bare
  deriving DecidableEq, Repr

namespace Opening

/-- The line of the marker, if there is one. -/
def lines : Opening → List (List Char)
  | .block rest => ["%%sql".toList ++ rest]
  | .single rest => ["%sql".toList ++ rest]
  | .bare => []

/-- What follows the marker, without the blanks around it. -/
def header : Opening → List Char
  | .block rest => Text.trim rest
  | .single rest => Text.trim rest
  | .bare => []

/-- Whether the group ends with its first line. -/
def isSingle : Opening → Bool
  | .single _ => true
  | _ => false

/-- How a group begins that has the line first. -/
def of (line : List Char) : Opening :=
  match Text.dropPrefix? "%%sql".toList line with
  | some rest => .block rest
  | none =>
    match Text.dropPrefix? "%sql".toList line with
    | some rest => .single rest
    | none => .bare

theorem of_block (rest : List Char) : of ("%%sql".toList ++ rest) = .block rest := by
  unfold of
  rw [Text.dropPrefix?_eq_some_iff.2 rfl]

theorem of_single (rest : List Char) : of ("%sql".toList ++ rest) = .single rest := by
  -- The second character tells the markers apart.
  have hblock : Text.dropPrefix? "%%sql".toList ("%sql".toList ++ rest) = none := rfl
  unfold of
  rw [hblock, Text.dropPrefix?_eq_some_iff.2 rfl]

theorem of_text {line : List Char} (htext : ¬ IsMarker line) : of line = .bare := by
  have hnone : ∀ marker : List Char, ¬ marker <+: line → Text.dropPrefix? marker line = none := by
    intro marker hmarker
    rw [← Text.startsWith_iff] at hmarker
    simpa [Text.startsWith] using hmarker
  obtain ⟨hblock, hsingle⟩ := not_or.1 htext
  unfold of
  rw [hnone _ hblock, hnone _ hsingle]

/-- A line with a marker is what the group that it begins has as its first line. -/
theorem lines_of_marker {line : List Char} (hmarker : IsMarker line) : (of line).lines = [line] := by
  rcases hmarker with ⟨rest, rfl⟩ | ⟨rest, rfl⟩
  · rw [of_block, lines]
  · rw [of_single, lines]

end Opening

/-- How a line is read when scripts are cut. -/
theorem lineKind_of (line : List Char) : LineKind.of line =
    match Opening.of line with
    | .block rest => .block (Text.trim rest)
    | .single rest => .single (Text.trim rest)
    | .bare => .text := by
  unfold LineKind.of Opening.of
  cases Text.dropPrefix? "%%sql".toList line with
  | some rest => rfl
  | none =>
    cases Text.dropPrefix? "%sql".toList line with
    | some rest => rfl
    | none => rfl

/-! ## Groups -/

/-- Lines that belong together. -/
structure Group where
  opening : Opening
  /-- The lines behind the marker. -/
  body : List (List Char)
  /-- The number of the first line. -/
  line : Nat
  deriving DecidableEq, Repr

namespace Group

/-- All lines of a group. -/
def lines (g : Group) : List (List Char) :=
  g.opening.lines ++ g.body

/-- The lines behind the marker as one text; empty lines before the first other line are dropped. -/
def text (g : Group) : List Char :=
  Text.joinWith ['\n'] (g.body.dropWhile List.isEmpty)

/-- The cell of a group. -/
def cell (g : Group) : Cell :=
  ⟨g.opening.header, Text.trimEnd g.text, g.line⟩

/-- Whether a group has neither a header nor a line with more than blanks in it. -/
def isBlank (g : Group) : Bool :=
  g.opening.header.isEmpty && g.body.all Text.isAllBlank

/-- A group as it can stand in a script: no marker but the first line, nothing behind the marker of a
cell of one line, and text where there is no marker. -/
structure Sound (g : Group) : Prop where
  texts : ∀ line ∈ g.body, ¬ IsMarker line
  single : g.opening.isSingle = true → g.body = []
  bare : g.opening = .bare → g.body ≠ []

theorem Sound.lines_ne_nil {g : Group} (h : g.Sound) : g.lines ≠ [] := by
  cases hopening : g.opening with
  | bare => simp [lines, h.bare hopening]
  | block rest => simp [lines, hopening, Opening.lines]
  | single rest => simp [lines, hopening, Opening.lines]

end Group

/-- The lines, numbered from `start` on, fall into the groups: they are the lines of the groups one after
another, each group is numbered as its first line, and a group without a marker stands first or behind a
cell of one line.  So a run of lines without markers is never cut, and a block has all lines up to the
next marker. -/
structure IsGrouping (start : Nat) (lines : List (List Char)) (groups : List Group) : Prop where
  lines : groups.flatMap Group.lines = lines
  sound : ∀ g ∈ groups, g.Sound
  apart : groups.IsChain fun g next => next.opening = .bare → g.opening.isSingle = true
  numbers : ∀ before g after, groups = before ++ g :: after →
    g.line = start + (before.flatMap Group.lines).length

/-- Lines that are no continuation: there are none, or the first has a marker. -/
def Interrupts (lines : List (List Char)) : Prop :=
  ∀ line ∈ lines.head?, IsMarker line

namespace IsGrouping

variable {start : Nat} {lines : List (List Char)} {g : Group} {groups : List Group}

theorem nil_iff : IsGrouping start lines [] ↔ lines = [] := by
  constructor
  · intro h
    exact h.lines.symm
  · rintro rfl
    exact ⟨rfl, by simp, List.isChain_nil, by simp⟩

/-- The first line of groups is a marker unless the first group has none. -/
theorem interrupts (h : IsGrouping start lines groups)
    (hmarked : ∀ g ∈ groups.head?, g.opening ≠ .bare) : Interrupts lines := by
  cases groups with
  | nil =>
    rw [nil_iff.1 h]
    simp [Interrupts]
  | cons g groups =>
    intro line hline
    have hopening := hmarked g rfl
    rw [← h.lines, List.flatMap_cons, Group.lines] at hline
    cases ho : g.opening with
    | bare => exact absurd ho hopening
    | block rest =>
      rw [ho] at hline
      exact Option.some.inj hline ▸ Or.inl (List.prefix_append _ _)
    | single rest =>
      rw [ho] at hline
      exact Option.some.inj hline ▸ Or.inr (List.prefix_append _ _)

/-- The first group and the others: only behind a cell of one line do lines without marker follow. -/
theorem uncons (h : IsGrouping start lines (g :: groups)) :
    g.Sound ∧ g.line = start ∧ ∃ rest, lines = g.lines ++ rest ∧
      IsGrouping (start + g.lines.length) rest groups ∧
      (g.opening.isSingle = false → Interrupts rest) := by
  have hrest : IsGrouping (start + g.lines.length) (groups.flatMap Group.lines) groups := by
    refine ⟨rfl, fun other hother => h.sound other (List.mem_cons_of_mem g hother), h.apart.tail, ?_⟩
    intro before other after hsplit
    have hnumber := h.numbers (g :: before) other after (by rw [hsplit, List.cons_append])
    rw [hnumber, List.flatMap_cons, List.length_append]
    omega
  refine ⟨h.sound g List.mem_cons_self, h.numbers [] g groups rfl, _, h.lines.symm, hrest, ?_⟩
  intro hgoes
  apply hrest.interrupts
  intro next hnext hbare
  have hsingle := (List.isChain_cons.1 h.apart).1 next hnext hbare
  rw [hgoes] at hsingle
  cases hsingle

/-- A group put before others. -/
theorem cons (hg : g.Sound) (hline : g.line = start)
    (hrest : IsGrouping (start + g.lines.length) lines groups)
    (hapart : g.opening.isSingle = false → Interrupts lines) :
    IsGrouping start (g.lines ++ lines) (g :: groups) where
  lines := by rw [List.flatMap_cons, hrest.lines]
  sound := by
    intro other hother
    rcases List.mem_cons.1 hother with rfl | hother
    · exact hg
    · exact hrest.sound other hother
  apart := by
    refine List.isChain_cons.2 ⟨?_, hrest.apart⟩
    intro next hnext hbare
    by_contra hgoes
    obtain ⟨more, rfl⟩ : ∃ more, groups = next :: more := by
      cases groups with
      | nil => cases hnext
      | cons other more => exact ⟨more, by rw [Option.some.inj hnext]⟩
    -- The next group begins with a line of its own, which is then no marker.
    obtain ⟨hsound, -, rest, rfl, -, -⟩ := hrest.uncons
    obtain ⟨first, body, hbody⟩ := List.exists_cons_of_ne_nil (hsound.bare hbare)
    have hfirst : first ∈ (next.lines ++ rest).head? := by
      simp [Group.lines, hbare, Opening.lines, hbody]
    refine hsound.texts first ?_ (hapart (by simpa using hgoes) first hfirst)
    rw [hbody]
    exact List.mem_cons_self
  numbers := by
    intro before other after hsplit
    cases before with
    | nil =>
      obtain ⟨rfl, -⟩ := List.cons.inj hsplit
      simpa using hline
    | cons first before =>
      obtain ⟨rfl, htail⟩ := List.cons.inj hsplit
      rw [hrest.numbers before other after htail, List.flatMap_cons, List.length_append]
      omega

end IsGrouping

/-! ## The groups of lines -/

/-- The group that begins with the first of some lines. -/
def firstGroup (start : Nat) (line : List Char) (rest : List (List Char)) : Group :=
  let text := fun l => !decide (IsMarker l)
  match Opening.of line with
  | .single after => ⟨.single after, [], start⟩
  | .block after => ⟨.block after, rest.takeWhile text, start⟩
  | .bare => ⟨.bare, line :: rest.takeWhile text, start⟩

/-- What is behind the group that begins with the first of some lines. -/
def behindFirst (line : List Char) (rest : List (List Char)) : List (List Char) :=
  if (Opening.of line).isSingle then rest else rest.dropWhile fun l => !decide (IsMarker l)

theorem length_behindFirst_le (line : List Char) (rest : List (List Char)) :
    (behindFirst line rest).length ≤ rest.length := by
  unfold behindFirst
  split
  · exact Nat.le_refl _
  · exact (List.dropWhile_suffix _).length_le

/-- The groups of lines that are numbered from `start` on. -/
def groupsFrom (start : Nat) : List (List Char) → List Group
  | [] => []
  | line :: rest =>
    let g := firstGroup start line rest
    g :: groupsFrom (start + g.lines.length) (behindFirst line rest)
termination_by lines => lines.length
decreasing_by exact Nat.lt_succ_of_le (length_behindFirst_le line rest)

section

variable {start : Nat} {line : List Char} {rest : List (List Char)}

theorem isText_of_mem_takeWhile {l : List Char}
    (hl : l ∈ rest.takeWhile fun l => !decide (IsMarker l)) : ¬ IsMarker l := by
  simpa using List.mem_takeWhile_imp hl

theorem sound_firstGroup (start : Nat) (line : List Char) (rest : List (List Char)) :
    (firstGroup start line rest).Sound ∧ (firstGroup start line rest).line = start := by
  unfold firstGroup
  cases hof : Opening.of line with
  | single after => exact ⟨⟨by simp, fun _ => rfl, nofun⟩, rfl⟩
  | block after => exact ⟨⟨fun l hl => isText_of_mem_takeWhile hl, nofun, nofun⟩, rfl⟩
  | bare =>
    have htext : ¬ IsMarker line := by
      intro hmarker
      have hlines := Opening.lines_of_marker hmarker
      rw [hof] at hlines
      cases hlines
    refine ⟨⟨?_, nofun, fun _ => List.cons_ne_nil _ _⟩, rfl⟩
    intro l hl
    rcases List.mem_cons.1 hl with rfl | hl
    · exact htext
    · exact isText_of_mem_takeWhile hl

theorem lines_firstGroup (start : Nat) (line : List Char) (rest : List (List Char)) :
    (firstGroup start line rest).lines ++ behindFirst line rest = line :: rest := by
  have hsplit := List.takeWhile_append_dropWhile (p := fun l => !decide (IsMarker l)) (l := rest)
  by_cases hmarker : IsMarker line
  · have hlines := Opening.lines_of_marker hmarker
    unfold firstGroup behindFirst Group.lines
    cases hof : Opening.of line with
    | single after =>
      rw [hof] at hlines
      simp [hlines, Opening.isSingle]
    | block after =>
      rw [hof] at hlines
      simp [hlines, Opening.isSingle, hsplit]
    | bare =>
      rw [hof] at hlines
      cases hlines
  · unfold firstGroup behindFirst Group.lines
    rw [Opening.of_text hmarker]
    simp [Opening.lines, Opening.isSingle, hsplit]

theorem interrupts_behindFirst (hgoes : (firstGroup start line rest).opening.isSingle = false) :
    Interrupts (behindFirst line rest) := by
  have hdrop : behindFirst line rest = rest.dropWhile fun l => !decide (IsMarker l) := by
    unfold behindFirst
    unfold firstGroup at hgoes
    cases hof : Opening.of line with
    | single after => simp [hof, Opening.isSingle] at hgoes
    | block after => rfl
    | bare => rfl
  intro l hl
  have hhead := List.head?_dropWhile_not (fun l => !decide (IsMarker l)) rest
  rw [hdrop, Option.mem_def] at hl
  rw [hl] at hhead
  simpa using hhead

/-- The first group of a grouping is the group that begins with the first line. -/
theorem firstGroup_append {g : Group} (hg : g.Sound) (hline : g.line = start)
    {more : List (List Char)} (hmore : g.opening.isSingle = false → Interrupts more)
    (hsplit : g.lines ++ more = line :: rest) :
    firstGroup start line rest = g ∧ behindFirst line rest = more := by
  have hstop : ∀ texts : List (List Char), (∀ l ∈ texts, ¬ IsMarker l) → Interrupts more →
      (texts ++ more).takeWhile (fun l => !decide (IsMarker l)) = texts ∧
        (texts ++ more).dropWhile (fun l => !decide (IsMarker l)) = more := by
    intro texts htexts hmarker
    have hpass : ∀ l ∈ texts, (!decide (IsMarker l)) = true := by simpa using htexts
    have hends : ∀ l ∈ more.head?, (!decide (IsMarker l)) = false := by
      simpa [Interrupts] using hmarker
    exact ⟨takeWhile_append_of_head? hpass hends, dropWhile_append_of_head? hpass hends⟩
  obtain ⟨opening, body, number⟩ := g
  obtain rfl : number = start := hline
  unfold firstGroup behindFirst
  cases opening with
  | single after =>
    have hbody : body = [] := hg.single rfl
    subst hbody
    obtain ⟨rfl, rfl⟩ := List.cons.inj hsplit
    rw [Opening.of_single]
    exact ⟨rfl, rfl⟩
  | block after =>
    obtain ⟨rfl, rfl⟩ := List.cons.inj hsplit
    obtain ⟨htake, hdrop⟩ := hstop body hg.texts (hmore rfl)
    rw [Opening.of_block]
    exact ⟨congrArg (Group.mk _ · _) htake, hdrop⟩
  | bare =>
    obtain ⟨first, texts, rfl⟩ := List.exists_cons_of_ne_nil (hg.bare rfl)
    obtain ⟨rfl, rfl⟩ := List.cons.inj hsplit
    obtain ⟨hfirst, htexts⟩ := List.forall_mem_cons.1 hg.texts
    obtain ⟨htake, hdrop⟩ := hstop texts htexts (hmore rfl)
    rw [Opening.of_text hfirst]
    exact ⟨congrArg (fun ls => Group.mk .bare (first :: ls) number) htake, hdrop⟩

end

theorem isGrouping_groupsFrom (start : Nat) (lines : List (List Char)) :
    IsGrouping start lines (groupsFrom start lines) := by
  fun_induction groupsFrom start lines with
  | case1 start => exact IsGrouping.nil_iff.2 rfl
  | case2 start line rest g ih =>
    obtain ⟨hsound, hline⟩ := sound_firstGroup start line rest
    have hall := IsGrouping.cons hsound hline ih interrupts_behindFirst
    rwa [lines_firstGroup] at hall

/-- Lines fall into groups in one way. -/
theorem isGrouping_iff {start : Nat} {lines : List (List Char)} {groups : List Group} :
    IsGrouping start lines groups ↔ groups = groupsFrom start lines := by
  constructor
  · intro h
    induction groups generalizing start lines with
    | nil =>
      rw [IsGrouping.nil_iff.1 h, groupsFrom]
    | cons g groups ih =>
      obtain ⟨hsound, hline, more, rfl, hmore, hmarker⟩ := h.uncons
      obtain ⟨line, rest, hcons⟩ : ∃ line rest, g.lines ++ more = line :: rest :=
        List.exists_cons_of_ne_nil (by simp [hsound.lines_ne_nil])
      obtain ⟨hfirst, hbehind⟩ := firstGroup_append hsound hline hmarker hcons
      rw [hcons, groupsFrom, hfirst, hbehind, ← ih hmore]
  · rintro rfl
    exact isGrouping_groupsFrom start lines

end Script
end SqlCells
