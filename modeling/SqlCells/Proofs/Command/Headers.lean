import SqlCells.Proofs.Command.Requests
import SqlCells.Proofs.Command.Words

/-!
# Flags in front of a header

A plain word in front of a header is the first item of the longer header, and the other items are those of the
header.  So a file that is asked for in front of a header is the only thing that the header's arguments change
by.
-/

namespace SqlCells
namespace Command

variable {known : List Char → Bool} {w word rest line : List Char} {c : Char} {header path : String}
  {args read : Args} {items : List Item}

/-! ## Words -/

/-- A word without blanks and quotes. -/
def IsBare (w : List Char) : Prop :=
  w ≠ [] ∧ ∀ c ∈ w, Text.isBlank c = false ∧ isQuote c = false

theorem IsBare.isWhole (hw : IsBare w) : IsWhole w :=
  ⟨hw.1, isTogether_of_forall hw.2⟩

/-- The items of a header are those of its words in front of the comment. -/
theorem headerItems_eq (header : List Char) :
    headerItems header = ((splitWords header).takeWhile (keepsWord isKnownFlag)).map classify := by
  unfold headerItems
  rw [splitWords_stripComment]

/-- What is not the start of a comment stays in front of what is left of the line. -/
theorem headerItems_append (hw : IsBare w) (hkeeps : keepsWord isKnownFlag w = true) (header : List Char) :
    headerItems (w ++ ' ' :: header) = classify w :: headerItems header := by
  have hspace : Text.isBlank ' ' = true := by decide
  rw [headerItems_eq, headerItems_eq, splitWords_append hw.isWhole hspace, List.takeWhile_cons_of_pos hkeeps,
    List.map_cons]

/-! ## Arguments -/

/-- The arguments that ask for a file and are the same otherwise. -/
def Args.withFile (args : Args) (path : String) : Args :=
  { args with file := some path }

/-- Whether what is done to arguments asks for a file, or else is the same whatever was asked for before. -/
def AsksOrIgnores (step : Args → Args) (args : Args) : Prop :=
  (step args).file.isSome = true ∨
    (step args).file = args.file ∧ ∀ path, step (args.withFile path) = (step args).withFile path

theorem obey_asksOrIgnores (request : Request) (args : Args) : AsksOrIgnores (·.obey request) args := by
  cases request with
  | word text => exact Or.inr ⟨rfl, fun _ => rfl⟩
  | turnOn s => exact Or.inr (by cases s <;> exact ⟨rfl, fun _ => rfl⟩)
  | assign s value =>
    cases s with
    | file => exact Or.inl rfl
    | _ => exact Or.inr ⟨rfl, fun _ => rfl⟩

/-- Items that are read ask for a file, or they are read the same whatever was asked for before. -/
def ReadApart (args : Args) (items : List Item) (read : Args) : Prop :=
  read.file.isSome = true ∨
    read.file = args.file ∧ ∀ path, (args.withFile path).read items = .ok (read.withFile path)

theorem readApart_of_read (hread : args.read items = .ok read) : ReadApart args items read := by
  induction items using items_induction generalizing args with
  | nil =>
    obtain rfl := Except.ok.inj hread
    exact Or.inr ⟨rfl, fun _ => rfl⟩
  | refused hnext =>
    rw [read_eq_of_refused hnext] at hread
    cases hread
  | @asks item rest request after hnext ih =>
    rw [read_eq_of_nextRequest hnext] at hread
    rcases ih hread with hsome | ⟨hfile, hlater⟩
    · exact Or.inl hsome
    rcases obey_asksOrIgnores request args with hsome | ⟨hsame, hcommutes⟩
    · exact Or.inl (hfile ▸ hsome)
    · refine Or.inr ⟨hfile.trans hsame, fun path => ?_⟩
      have hobeyed : (args.withFile path).obey request = (args.obey request).withFile path := hcommutes path
      rw [read_eq_of_nextRequest hnext, hobeyed]
      exact hlater path

/-! ## A file in front -/

theorem unquote_of_isBare (hw : IsBare w) : unquote w = w := by
  unfold unquote
  split
  · next q c rest => rw [(hw.2 q List.mem_cons_self).2]; rfl
  · rfl

/-- A word that does not start with a dash is neither a flag nor the start of a comment. -/
theorem keepsWord_of_head? (hdash : w.head? ≠ some '-') : keepsWord known w = true := by
  have hno : Text.startsWith w ['-', '-'] = false := by
    rw [Bool.eq_false_iff, Ne, Text.startsWith_iff]
    rintro ⟨rest, rfl⟩
    exact hdash rfl
  unfold keepsWord
  rw [if_neg (by simp [hno])]

theorem classify_of_head? (hdash : w.head? ≠ some '-') : classify w = .word w := by
  unfold classify
  split
  · exact absurd rfl hdash
  · exact absurd rfl hdash
  · rfl

theorem parse_eq_ok_iff_read : Args.parse header = .ok args ↔
    Args.read {} (headerItems header.toList) = .ok args ∧ (args.persistReplace && args.append) = false := by
  unfold Args.parse
  cases Args.read {} (headerItems header.toList) with
  | error f => simp
  | ok read =>
    dsimp only
    split
    · next hboth =>
      constructor
      · nofun
      · rintro ⟨hread, hnot⟩
        obtain rfl := Except.ok.inj hread
        cases hboth.symm.trans hnot
    · next hnot =>
      constructor
      · intro hread
        obtain rfl := Except.ok.inj hread
        exact ⟨rfl, by simpa using hnot⟩
      · exact And.left

/-- A file that is asked for in front of a header changes nothing else. -/
theorem parse_file_front (hpath : IsBare path.toList) (hdash : path.toList.head? ≠ some '-')
    (hheader : Args.parse header = .ok args) (hnone : args.file = none) :
    Args.parse ("--file " ++ path ++ " " ++ header) = .ok (args.withFile path) := by
  have hflag : IsBare "--file".toList := ⟨by decide, by decide⟩
  have hitems : headerItems ("--file " ++ path ++ " " ++ header).toList =
      .long "file".toList none :: .word path.toList :: headerItems header.toList := by
    have htext : ("--file " ++ path ++ " " ++ header).toList =
        "--file".toList ++ ' ' :: (path.toList ++ ' ' :: header.toList) := by
      simp [String.toList_append]
    rw [htext, headerItems_append hflag (by decide), headerItems_append hpath (keepsWord_of_head? hdash),
      classify_of_head? hdash]
    rfl
  have hfront : Args.read {} (headerItems ("--file " ++ path ++ " " ++ header).toList) =
      (Args.withFile {} path).read (headerItems header.toList) := by
    have hassign : ({} : Args).assign (unquote path.toList) .file = Args.withFile {} path := by
      rw [unquote_of_isBare hpath, Args.assign, String.ofList_toList]
      rfl
    rw [hitems, ← hassign]
    rfl
  obtain ⟨hread, hmodes⟩ := parse_eq_ok_iff_read.1 hheader
  rcases readApart_of_read hread with hsome | ⟨-, hlater⟩
  · rw [hnone] at hsome
    cases hsome
  · exact parse_eq_ok_iff_read.2 ⟨hfront.trans (hlater path), hmodes⟩

end Command
end SqlCells
