import Mathlib.Data.List.DropRight
import Mathlib.Data.List.Induction
import SqlCells.Command.Words
import SqlCells.Proofs.Text.Words

/-!
# Words and quotes

A line is made up of blanks outside quotes, of units that are never cut, and maybe of a quoted section that is
still open where the line ends.  The words of a line are what stands between the blanks.  Put together with
single spaces they are the line with its blanks squeezed, and every start of that row of words is cut into the
same words again.
-/

namespace SqlCells
namespace Command

variable {q c : Char} {s t w word rest line : List Char} {ws : List (List Char)}

/-! ## The parts of a line -/

/-- What stands inside quotes `q`: a backslash takes the next character with it, and the quote itself stands
only behind a backslash. -/
inductive Inside (q : Char) : List Char → Prop
  | nil : Inside q []
  | cons {c : Char} {s : List Char} (hslash : c ≠ '\\') (hquote : c ≠ q) (h : Inside q s) : Inside q (c :: s)
  | escaped (c : Char) {s : List Char} (h : Inside q s) : Inside q ('\\' :: c :: s)

/-- What no line is cut inside of: a character other than a blank, or a quoted section. -/
inductive IsUnit : List Char → Prop
  | plain {c : Char} (hblank : Text.isBlank c = false) (hquote : isQuote c = false) : IsUnit [c]
  | quoted {q : Char} {s : List Char} (hq : isQuote q = true) (h : Inside q s) : IsUnit (q :: (s ++ [q]))

/-- A quoted section without its end, which may break off behind a backslash. -/
inductive IsUnclosed : List Char → Prop
  | inside {q : Char} {s : List Char} (hq : isQuote q = true) (h : Inside q s) : IsUnclosed (q :: s)
  | slash {q : Char} {s : List Char} (hq : isQuote q = true) (h : Inside q s) : IsUnclosed (q :: (s ++ ['\\']))

/-- A part of a line. -/
inductive Part where
  /-- A blank outside quotes. -/
  | blank (c : Char)
  | unit (text : List Char)
  /-- A quoted section that is open where the line ends. -/
  | unclosed (text : List Char)

namespace Part

def text : Part → List Char
  | blank c => [c]
  | unit t => t
  | unclosed t => t

def isBlank : Part → Bool
  | blank _ => true
  | _ => false

def isUnit : Part → Bool
  | unit _ => true
  | _ => false

def isUnclosed : Part → Bool
  | unclosed _ => true
  | _ => false

theorem isBlank_of_isUnit {p : Part} (hp : p.isUnit = true) : p.isBlank = false := by
  cases p with
  | unit t => rfl
  | blank c => cases hp
  | unclosed t => cases hp

theorem isUnclosed_of_isUnit {p : Part} (hp : p.isUnit = true) : p.isUnclosed = false := by
  cases p with
  | unit t => rfl
  | blank c => cases hp
  | unclosed t => cases hp

end Part

/-- The line consists of the parts, of which only the last may be unclosed. -/
inductive Reads : List Part → List Char → Prop
  | nil : Reads [] []
  | blank {c : Char} {parts : List Part} {s : List Char} (hc : Text.isBlank c = true) (h : Reads parts s) :
      Reads (.blank c :: parts) (c :: s)
  | unit {t : List Char} {parts : List Part} {s : List Char} (ht : IsUnit t) (h : Reads parts s) :
      Reads (.unit t :: parts) (t ++ s)
  | unclosed {t : List Char} (ht : IsUnclosed t) : Reads [.unclosed t] t

/-- The text of some parts in a row. -/
def textOf (parts : List Part) : List Char :=
  parts.flatMap Part.text

/-- A line that does not end inside quotes. -/
def IsClosed (line : List Char) : Prop :=
  ∃ parts, Reads parts line ∧ ∀ p ∈ parts, p.isUnclosed = false

/-- A text whose quotes are closed and that has no blanks outside them. -/
def IsTogether (s : List Char) : Prop :=
  ∃ parts, Reads parts s ∧ ∀ p ∈ parts, p.isUnit = true

/-- A word with its quotes closed: it is not empty, and its blanks are in quotes. -/
def IsWhole (w : List Char) : Prop :=
  w ≠ [] ∧ IsTogether w

variable {parts more : List Part} {p : Part}

theorem Reads.textOf_eq (h : Reads parts line) : textOf parts = line := by
  induction h with
  | nil => rfl
  | blank hc h ih => exact congrArg (_ :: ·) ih
  | unit ht h ih => exact congrArg (_ ++ ·) ih
  | unclosed ht => exact List.append_nil _

theorem Reads.append (h : Reads parts s) (hparts : ∀ p ∈ parts, p.isUnclosed = false) (ht : Reads more t) :
    Reads (parts ++ more) (s ++ t) := by
  induction h with
  | nil => exact ht
  | blank hc h ih => exact .blank hc (ih (List.forall_mem_cons.1 hparts).2)
  | unit hunit h ih =>
    rw [List.append_assoc]
    exact .unit hunit (ih (List.forall_mem_cons.1 hparts).2)
  | unclosed => cases hparts _ List.mem_cons_self

/-- What holds neither the quote nor a backslash may stand in quotes as it is. -/
theorem Inside.of_forall (hs : ∀ c ∈ s, c ≠ '\\' ∧ c ≠ q) : Inside q s := by
  induction s with
  | nil => exact .nil
  | cons c s ih =>
    obtain ⟨⟨hslash, hquote⟩, hs⟩ := List.forall_mem_cons.1 hs
    exact .cons hslash hquote (ih hs)

theorem IsUnit.ne_nil (ht : IsUnit t) : t ≠ [] := by
  cases ht <;> exact List.cons_ne_nil _ _

theorem IsUnclosed.ne_nil (ht : IsUnclosed t) : t ≠ [] := by
  cases ht <;> exact List.cons_ne_nil _ _

theorem Reads.text_ne_nil (h : Reads parts line) : ∀ p ∈ parts, p.text ≠ [] := by
  induction h with
  | nil => nofun
  | blank hc h ih => exact List.forall_mem_cons.2 ⟨List.cons_ne_nil _ _, ih⟩
  | unit ht h ih => exact List.forall_mem_cons.2 ⟨ht.ne_nil, ih⟩
  | unclosed ht => exact List.forall_mem_singleton.2 ht.ne_nil

theorem isTogether_nil : IsTogether [] :=
  ⟨[], .nil, nofun⟩

theorem IsTogether.isClosed (hs : IsTogether s) : IsClosed s := by
  obtain ⟨parts, hreads, hunits⟩ := hs
  exact ⟨parts, hreads, fun p hp => Part.isUnclosed_of_isUnit (hunits p hp)⟩

theorem IsTogether.append (hs : IsTogether s) (ht : IsTogether t) : IsTogether (s ++ t) := by
  obtain ⟨parts, hreads, hunits⟩ := hs
  obtain ⟨more, hmore, htail⟩ := ht
  refine ⟨parts ++ more, hreads.append (fun p hp => Part.isUnclosed_of_isUnit (hunits p hp)) hmore, ?_⟩
  exact List.forall_mem_append.2 ⟨hunits, htail⟩

theorem IsUnit.isTogether (ht : IsUnit t) : IsTogether t := by
  refine ⟨[.unit t], ?_, List.forall_mem_singleton.2 rfl⟩
  have hreads := Reads.unit ht .nil
  rwa [List.append_nil] at hreads

theorem isTogether_of_forall (hs : ∀ c ∈ s, Text.isBlank c = false ∧ isQuote c = false) : IsTogether s := by
  induction s with
  | nil => exact isTogether_nil
  | cons c s ih =>
    obtain ⟨⟨hblank, hquote⟩, hs⟩ := List.forall_mem_cons.1 hs
    exact (IsUnit.plain hblank hquote).isTogether.append (ih hs)

/-! ## Every line has parts -/

/-- Behind a quote the section ends at the next quote of its kind, or the line ends first. -/
theorem exists_inside (q : Char) (s : List Char) :
    (∃ inside rest, Inside q inside ∧ s = inside ++ q :: rest) ∨
      ∃ inside, Inside q inside ∧ (s = inside ∨ s = inside ++ ['\\']) := by
  -- A backslash takes two characters at once.
  induction s using List.twoStepInduction with
  | nil => exact Or.inr ⟨[], .nil, Or.inl rfl⟩
  | singleton c =>
    by_cases hslash : c = '\\'
    · exact Or.inr ⟨[], .nil, Or.inr (by rw [hslash]; rfl)⟩
    by_cases hquote : c = q
    · exact Or.inl ⟨[], [], .nil, by rw [hquote]; rfl⟩
    · exact Or.inr ⟨[c], .cons hslash hquote .nil, Or.inl rfl⟩
  | cons_cons c d s ihskip ih =>
    by_cases hslash : c = '\\'
    · subst hslash
      rcases ihskip with ⟨inside, rest, h, rfl⟩ | ⟨inside, h, rfl | rfl⟩
      · exact Or.inl ⟨'\\' :: d :: inside, rest, .escaped d h, rfl⟩
      · exact Or.inr ⟨'\\' :: d :: s, .escaped d h, Or.inl rfl⟩
      · exact Or.inr ⟨'\\' :: d :: inside, .escaped d h, Or.inr rfl⟩
    by_cases hquote : c = q
    · exact Or.inl ⟨[], d :: s, .nil, by rw [hquote]; rfl⟩
    · rcases ih d with ⟨inside, rest, h, heq⟩ | ⟨inside, h, heq | heq⟩
      · exact Or.inl ⟨c :: inside, rest, .cons hslash hquote h, by rw [heq]; rfl⟩
      · exact Or.inr ⟨c :: inside, .cons hslash hquote h, Or.inl (by rw [heq])⟩
      · exact Or.inr ⟨c :: inside, .cons hslash hquote h, Or.inr (by rw [heq]; rfl)⟩

theorem exists_reads (line : List Char) : ∃ parts, Reads parts line := by
  -- A quoted section takes many characters at once, so the induction is on the length.
  induction hlength : line.length using Nat.strongRecOn generalizing line with
  | ind n ih =>
    subst hlength
    have hrest : ∀ rest, rest.length < line.length → ∃ parts, Reads parts rest :=
      fun rest hlt => ih rest.length hlt rest rfl
    cases line with
    | nil => exact ⟨[], .nil⟩
    | cons c line =>
      cases hblank : Text.isBlank c with
      | true =>
        obtain ⟨parts, h⟩ := hrest line (by simp)
        exact ⟨.blank c :: parts, .blank hblank h⟩
      | false =>
        cases hquote : isQuote c with
        | false =>
          obtain ⟨parts, h⟩ := hrest line (by simp)
          exact ⟨.unit [c] :: parts, .unit (.plain hblank hquote) h⟩
        | true =>
          rcases exists_inside c line with ⟨inside, rest, hinside, rfl⟩ | ⟨inside, hinside, rfl | rfl⟩
          · obtain ⟨parts, h⟩ := hrest rest (by simp; omega)
            refine ⟨.unit (c :: (inside ++ [c])) :: parts, ?_⟩
            have hreads := Reads.unit (.quoted hquote hinside) h
            rwa [List.cons_append, List.append_assoc, List.singleton_append] at hreads
          · exact ⟨[.unclosed _], .unclosed (.inside hquote hinside)⟩
          · exact ⟨[.unclosed _], .unclosed (.slash hquote hinside)⟩

/-! ## The words between the blanks -/

/-- The words that some parts make up, `word` being what stands in front of them. -/
def wordsOfParts (word : List Char) : List Part → List (List Char)
  | [] => wordOf word
  | p :: parts =>
    if p.isBlank then wordOf word ++ wordsOfParts [] parts else wordsOfParts (word ++ p.text) parts

theorem wordOf_of_ne_nil (hw : w ≠ []) : wordOf w = [w] :=
  if_neg (by simpa using hw)

theorem wordsFrom_cons_of_not_separates {place : Place} (hstays : place.separates c = false)
    (word rest : List Char) :
    wordsFrom place word (c :: rest) = wordsFrom (place.next c) (word ++ [c]) rest := by
  rw [wordsFrom, if_neg (by simp [hstays])]

theorem not_blank_of_isQuote (hq : isQuote q = true) : Text.isBlank q = false ∧ q ≠ '\\' := by
  have hcases : q = '\'' ∨ q = '"' := by simpa [isQuote] using hq
  rcases hcases with rfl | rfl <;> decide

/-- A quote opens a section, and closes it. -/
theorem next_quote (hq : isQuote q = true) :
    Place.outside.next q = .inside q ∧ (Place.inside q).next q = .outside := by
  refine ⟨if_pos hq, ?_⟩
  rw [Place.next, if_neg (not_blank_of_isQuote hq).2, if_pos rfl]

theorem wordsFrom_inside (h : Inside q s) (word rest : List Char) :
    wordsFrom (.inside q) word (s ++ rest) = wordsFrom (.inside q) (word ++ s) rest := by
  induction h generalizing word with
  | nil => rw [List.nil_append, List.append_nil]
  | @cons c s hslash hquote h ih =>
    have hnext : (Place.inside q).next c = .inside q := by rw [Place.next, if_neg hslash, if_neg hquote]
    rw [List.cons_append, wordsFrom_cons_of_not_separates rfl, hnext, ih, List.append_assoc,
      List.singleton_append]
  | @escaped c s h ih =>
    have hnext : (Place.inside q).next '\\' = .escaped q := by rw [Place.next, if_pos rfl]
    rw [List.cons_append, List.cons_append, wordsFrom_cons_of_not_separates rfl, hnext,
      wordsFrom_cons_of_not_separates rfl, Place.next, ih, List.append_assoc, List.append_assoc]
    rfl

/-- A quote outside quotes opens a section. -/
theorem wordsFrom_quote (hq : isQuote q = true) (word rest : List Char) :
    wordsFrom .outside word (q :: rest) = wordsFrom (.inside q) (word ++ [q]) rest := by
  have hstays : Place.outside.separates q = false := (not_blank_of_isQuote hq).1
  rw [wordsFrom_cons_of_not_separates hstays, (next_quote hq).1]

theorem wordsFrom_unit (ht : IsUnit t) (word rest : List Char) :
    wordsFrom .outside word (t ++ rest) = wordsFrom .outside (word ++ t) rest := by
  cases ht with
  | @plain c hblank hquote =>
    have hstays : Place.outside.separates c = false := hblank
    rw [List.singleton_append, wordsFrom_cons_of_not_separates hstays, Place.next, if_neg (by simp [hquote])]
  | @quoted q s hq h =>
    rw [List.cons_append, List.append_assoc, wordsFrom_quote hq, wordsFrom_inside h, List.singleton_append,
      wordsFrom_cons_of_not_separates rfl, (next_quote hq).2, List.append_assoc, List.append_assoc]
    rfl

theorem wordsFrom_unclosed (ht : IsUnclosed t) (word : List Char) :
    wordsFrom .outside word t = wordOf (word ++ t) := by
  cases ht with
  | @inside q s hq h =>
    have hend := wordsFrom_inside h (word ++ [q]) []
    rw [List.append_nil, List.append_assoc, List.singleton_append] at hend
    rw [wordsFrom_quote hq, hend]
    rfl
  | @slash q s hq h =>
    rw [wordsFrom_quote hq, wordsFrom_inside h, wordsFrom_cons_of_not_separates rfl, List.append_assoc,
      List.append_assoc]
    rfl

/-- The words of a line are those that its parts make up. -/
theorem Reads.wordsFrom_eq (h : Reads parts line) (word : List Char) :
    wordsFrom .outside word line = wordsOfParts word parts := by
  induction h generalizing word with
  | nil => rfl
  | blank hc h ih =>
    have hseparates : Place.outside.separates _ = true := hc
    rw [wordsFrom, if_pos hseparates, ih]
    rfl
  | unit ht h ih =>
    rw [wordsFrom_unit ht, ih]
    rfl
  | unclosed ht => exact wordsFrom_unclosed ht word

theorem Reads.splitWords_eq (h : Reads parts line) : splitWords line = wordsOfParts [] parts :=
  h.wordsFrom_eq []

theorem wordsOfParts_append_blank (hp : p.isBlank = true) (word : List Char) (parts more : List Part) :
    wordsOfParts word (parts ++ p :: more) = wordsOfParts word parts ++ wordsOfParts [] more := by
  induction parts generalizing word with
  | nil => exact if_pos hp
  | cons r parts ih =>
    rw [List.cons_append, wordsOfParts, wordsOfParts, ih, ih]
    split
    · rw [List.append_assoc]
    · rfl

theorem wordsOfParts_of_not_blank (hparts : ∀ p ∈ parts, p.isBlank = false) (word : List Char) :
    wordsOfParts word parts = wordOf (word ++ textOf parts) := by
  induction parts generalizing word with
  | nil => rw [textOf, List.flatMap_nil, List.append_nil, wordsOfParts]
  | cons p parts ih =>
    obtain ⟨hp, hparts⟩ := List.forall_mem_cons.1 hparts
    rw [wordsOfParts, if_neg (by simp [hp]), ih hparts, List.append_assoc]
    rfl

/-- Outside quotes a blank ends a word, and the words behind it are those of the rest. -/
theorem splitWords_append_cons (hs : IsClosed s) (hc : Text.isBlank c = true) (rest : List Char) :
    splitWords (s ++ c :: rest) = splitWords s ++ splitWords rest := by
  obtain ⟨parts, hreads, hclosed⟩ := hs
  obtain ⟨more, hmore⟩ := exists_reads rest
  have hline := hreads.append hclosed (.blank hc hmore)
  rw [hline.splitWords_eq, hreads.splitWords_eq, hmore.splitWords_eq]
  exact wordsOfParts_append_blank rfl [] parts more

theorem splitWords_cons (hc : Text.isBlank c = true) (rest : List Char) :
    splitWords (c :: rest) = splitWords rest :=
  splitWords_append_cons isTogether_nil.isClosed hc rest

theorem splitWords_of_isWhole (hw : IsWhole w) : splitWords w = [w] := by
  obtain ⟨hne, parts, hreads, hunits⟩ := hw
  have hblanks : ∀ p ∈ parts, p.isBlank = false := fun p hp => Part.isBlank_of_isUnit (hunits p hp)
  rw [hreads.splitWords_eq, wordsOfParts_of_not_blank hblanks, List.nil_append, hreads.textOf_eq,
    wordOf_of_ne_nil hne]

theorem splitWords_append (hw : IsWhole w) (hc : Text.isBlank c = true) (rest : List Char) :
    splitWords (w ++ c :: rest) = w :: splitWords rest := by
  rw [splitWords_append_cons hw.2.isClosed hc, splitWords_of_isWhole hw, List.singleton_append]

/-! ## Where a line ends -/

theorem foldl_next_inside (h : Inside q s) : s.foldl Place.next (.inside q) = .inside q := by
  induction h with
  | nil => rfl
  | cons hslash hquote h ih => rw [List.foldl_cons, Place.next, if_neg hslash, if_neg hquote, ih]
  | escaped c h ih => rw [List.foldl_cons, List.foldl_cons, Place.next, if_pos rfl, Place.next, ih]

theorem foldl_next_unit (ht : IsUnit t) : t.foldl Place.next .outside = .outside := by
  cases ht with
  | plain hblank hquote => exact if_neg (by simp [hquote])
  | quoted hq h =>
    rw [List.foldl_cons, (next_quote hq).1, List.foldl_append, foldl_next_inside h, List.foldl_cons,
      (next_quote hq).2]
    rfl

theorem foldl_next_unclosed (ht : IsUnclosed t) : t.foldl Place.next .outside ≠ .outside := by
  cases ht with
  | inside hq h =>
    rw [List.foldl_cons, (next_quote hq).1, foldl_next_inside h]
    nofun
  | slash hq h =>
    rw [List.foldl_cons, (next_quote hq).1, List.foldl_append, foldl_next_inside h]
    nofun

theorem not_isQuote_of_isBlank (hc : Text.isBlank c = true) : isQuote c = false := by
  rw [Bool.eq_false_iff]
  intro hq
  cases hc.symm.trans (not_blank_of_isQuote hq).1

theorem Reads.foldl_next_iff (h : Reads parts line) :
    line.foldl Place.next .outside = .outside ↔ ∀ p ∈ parts, p.isUnclosed = false := by
  induction h with
  | nil => exact ⟨fun _ => nofun, fun _ => rfl⟩
  | @blank c _ _ hc h ih =>
    have hnext : Place.outside.next c = .outside := if_neg (by simp [not_isQuote_of_isBlank hc])
    rw [List.foldl_cons, hnext, ih, List.forall_mem_cons]
    exact (and_iff_right rfl).symm
  | unit ht h ih =>
    rw [List.foldl_append, foldl_next_unit ht, ih, List.forall_mem_cons]
    exact (and_iff_right rfl).symm
  | unclosed ht => exact iff_of_false (foldl_next_unclosed ht) fun hparts => nomatch hparts _ List.mem_cons_self

/-- A line is closed where the scan of it ends outside quotes. -/
theorem isClosed_iff : IsClosed line ↔ line.foldl Place.next .outside = .outside := by
  constructor
  · rintro ⟨parts, h, hclosed⟩
    exact h.foldl_next_iff.2 hclosed
  · intro hend
    obtain ⟨parts, h⟩ := exists_reads line
    exact ⟨parts, h, h.foldl_next_iff.1 hend⟩

instance : DecidablePred IsClosed := fun _ => decidable_of_iff _ isClosed_iff.symm

/-! ## Words put together and cut again -/

/-- Whether the words can stand in a row: each is whole, but the last need only be one word by itself. -/
inductive InRow : List (List Char) → Prop
  | nil : InRow []
  | last {w : List Char} (hw : splitWords w = [w]) : InRow [w]
  | cons {w : List Char} {ws : List (List Char)} (hw : IsWhole w) (h : InRow ws) : InRow (w :: ws)

theorem inRow_wordOf (hword : IsTogether word) : InRow (wordOf word) := by
  by_cases hne : word = []
  · rw [hne]
    exact .nil
  · rw [wordOf_of_ne_nil hne]
    exact .cons ⟨hne, hword⟩ .nil

theorem Reads.inRow (h : Reads parts line) (hword : IsTogether word) : InRow (wordsOfParts word parts) := by
  -- The word in front stays whole: only the last part can leave a section open, and nothing follows it.
  induction h generalizing word with
  | nil => exact inRow_wordOf hword
  | blank hc h ih =>
    change InRow (wordOf word ++ _)
    by_cases hne : word = []
    · rw [hne]
      exact ih isTogether_nil
    · rw [wordOf_of_ne_nil hne]
      exact .cons ⟨hne, hword⟩ (ih isTogether_nil)
  | unit ht h ih => exact ih (hword.append ht.isTogether)
  | @unclosed t ht =>
    obtain ⟨front, hfront, hunits⟩ := hword
    have hclosed : ∀ p ∈ front, p.isUnclosed = false := fun p hp => Part.isUnclosed_of_isUnit (hunits p hp)
    have hall := hfront.append hclosed (.unclosed ht)
    have hblanks : ∀ p ∈ front ++ [.unclosed t], p.isBlank = false :=
      List.forall_mem_append.2
        ⟨fun p hp => Part.isBlank_of_isUnit (hunits p hp), List.forall_mem_singleton.2 rfl⟩
    have hne : word ++ t ≠ [] := by simp [ht.ne_nil]
    have hone : splitWords (word ++ t) = [word ++ t] := by
      rw [hall.splitWords_eq, wordsOfParts_of_not_blank hblanks, hall.textOf_eq, List.nil_append,
        wordOf_of_ne_nil hne]
    change InRow (wordOf (word ++ t))
    rw [wordOf_of_ne_nil hne]
    exact .last hone

theorem inRow_splitWords (line : List Char) : InRow (splitWords line) := by
  obtain ⟨parts, h⟩ := exists_reads line
  rw [h.splitWords_eq]
  exact h.inRow isTogether_nil

theorem InRow.of_start (h : InRow ws) {start : List (List Char)} (hstart : start <+: ws) : InRow start := by
  induction h generalizing start with
  | nil =>
    rw [List.prefix_nil.1 hstart]
    exact .nil
  | last hw =>
    cases start with
    | nil => exact .nil
    | cons v start =>
      obtain ⟨rfl, hnone⟩ := List.cons_prefix_cons.1 hstart
      rw [List.prefix_nil.1 hnone]
      exact .last hw
  | cons hw h ih =>
    cases start with
    | nil => exact .nil
    | cons v start =>
      obtain ⟨rfl, hmore⟩ := List.cons_prefix_cons.1 hstart
      exact .cons hw (ih hmore)

theorem InRow.splitWords_joinWith (h : InRow ws) : splitWords (Text.joinWith [' '] ws) = ws := by
  induction h with
  | nil => rfl
  | last hw => exact hw
  | @cons w ws hw h ih =>
    cases ws with
    | nil => exact splitWords_of_isWhole hw
    | cons v ws =>
      rw [Text.joinWith_cons [' '] w (List.cons_ne_nil v ws), List.append_assoc, List.singleton_append,
        splitWords_append hw (by decide), ih]

theorem InRow.ne_nil (h : InRow ws) : ∀ w ∈ ws, w ≠ [] := by
  induction h with
  | nil => nofun
  | @last w hw =>
    refine List.forall_mem_singleton.2 ?_
    rintro rfl
    cases hw
  | cons hw h ih => exact List.forall_mem_cons.2 ⟨hw.1, ih⟩

/-- Without its comment a line is cut into the words in front of the comment. -/
theorem splitWords_stripComment (known : List Char → Bool) (line : List Char) :
    splitWords (stripComment known line) = (splitWords line).takeWhile (keepsWord known) :=
  ((inRow_splitWords line).of_start (List.takeWhile_prefix _)).splitWords_joinWith

/-! ## Blanks squeezed -/

/-- The parts with one space for each run of blanks. -/
def oneSpaced : List Part → List Part
  | [] => []
  | p :: parts =>
    if p.isBlank then
      if parts.head?.any Part.isBlank then oneSpaced parts else .blank ' ' :: oneSpaced parts
    else p :: oneSpaced parts

/-- The parts without the blanks at both ends, and with one space for each run of blanks between. -/
def squeezed (parts : List Part) : List Part :=
  oneSpaced ((parts.dropWhile Part.isBlank).rdropWhile Part.isBlank)

theorem wordsOfParts_dropWhile (parts : List Part) :
    wordsOfParts [] (parts.dropWhile Part.isBlank) = wordsOfParts [] parts := by
  induction parts with
  | nil => rfl
  | cons p parts ih =>
    cases hp : p.isBlank with
    | true => rw [List.dropWhile_cons_of_pos hp, ih, wordsOfParts, if_pos hp]; rfl
    | false => rw [List.dropWhile_cons_of_neg (by simp [hp])]

theorem wordsOfParts_rdropWhile (word : List Char) (parts : List Part) :
    wordsOfParts word (parts.rdropWhile Part.isBlank) = wordsOfParts word parts := by
  induction parts using List.reverseRecOn with
  | nil => rfl
  | append_singleton parts p ih =>
    rw [List.rdropWhile_concat]
    split
    · next hp =>
      rw [ih, wordsOfParts_append_blank hp]
      exact (List.append_nil _).symm
    · rfl

theorem wordsOfParts_ne_nil (hword : word ≠ []) (parts : List Part) : wordsOfParts word parts ≠ [] := by
  induction parts generalizing word with
  | nil =>
    rw [wordsOfParts, wordOf_of_ne_nil hword]
    exact List.cons_ne_nil _ _
  | cons p parts ih =>
    rw [wordsOfParts]
    split
    · rw [wordOf_of_ne_nil hword]
      exact List.cons_ne_nil _ _
    · exact ih (by simp [hword])

/-- Unless they start or end with a blank, parts with one space for each run of blanks are their words put
together, the first of them behind the word in front. -/
theorem joinWith_wordsOfParts (htexts : ∀ p ∈ parts, p.text ≠ [])
    (hlast : ∀ p ∈ parts.getLast?, p.isBlank = false)
    (hstart : word ≠ [] ∨ ∀ p ∈ parts.head?, p.isBlank = false) :
    Text.joinWith [' '] (wordsOfParts word parts) = word ++ textOf (oneSpaced parts) := by
  induction parts generalizing word with
  | nil =>
    rw [wordsOfParts, oneSpaced, textOf, List.flatMap_nil, List.append_nil]
    by_cases hword : word = []
    · rw [hword]
      rfl
    · rw [wordOf_of_ne_nil hword]
      rfl
  | cons p parts ih =>
    obtain ⟨hp, htexts⟩ := List.forall_mem_cons.1 htexts
    have hlater : ∀ r ∈ parts.getLast?, r.isBlank = false := by
      intro r hr
      refine hlast r ?_
      rw [Option.mem_def] at hr
      rw [List.getLast?_cons, hr]
      rfl
    cases hblank : p.isBlank with
    | false =>
      have hword : word ++ p.text ≠ [] := by simp [hp]
      rw [wordsOfParts, if_neg (by simp [hblank]), ih htexts hlater (Or.inl hword), oneSpaced,
        if_neg (by simp [hblank]), List.append_assoc]
      rfl
    | true =>
      have hword : word ≠ [] := hstart.resolve_right fun hhead => by simpa [hblank] using hhead p rfl
      rw [wordsOfParts, if_pos hblank, wordOf_of_ne_nil hword, oneSpaced, if_pos hblank, List.singleton_append]
      cases parts with
      | nil => simpa [hblank] using hlast p rfl
      | cons r parts =>
        rw [List.head?_cons, Option.any_some]
        cases hnext : r.isBlank with
        | true =>
          -- The second blank of a run adds neither a word nor a space.
          have hwords : wordsOfParts word (r :: parts) = word :: wordsOfParts [] (r :: parts) := by
            rw [wordsOfParts, if_pos hnext, wordsOfParts, if_pos hnext, wordOf_of_ne_nil hword]
            rfl
          rw [if_pos rfl, ← ih htexts hlater (Or.inl hword), hwords]
        | false =>
          have hhead : ∀ p ∈ (r :: parts).head?, p.isBlank = false := by
            rintro _ ⟨⟩
            exact hnext
          have hwords : wordsOfParts [] (r :: parts) = wordsOfParts r.text parts := by
            rw [wordsOfParts, if_neg (by simp [hnext]), List.nil_append]
          have hne : wordsOfParts [] (r :: parts) ≠ [] :=
            hwords ▸ wordsOfParts_ne_nil (htexts r List.mem_cons_self) parts
          rw [if_neg Bool.false_ne_true, Text.joinWith_cons [' '] word hne, ih htexts hlater (Or.inr hhead),
            List.append_assoc]
          rfl

theorem joinWith_splitWords (h : Reads parts line) :
    Text.joinWith [' '] (splitWords line) = textOf (squeezed parts) := by
  have hkept : (parts.dropWhile Part.isBlank).rdropWhile Part.isBlank <+: parts.dropWhile Part.isBlank :=
    List.rdropWhile_prefix _ _
  have htexts : ∀ p ∈ (parts.dropWhile Part.isBlank).rdropWhile Part.isBlank, p.text ≠ [] :=
    fun p hp => h.text_ne_nil p ((List.dropWhile_sublist _).subset (hkept.subset hp))
  have hlast : ∀ p ∈ ((parts.dropWhile Part.isBlank).rdropWhile Part.isBlank).getLast?, p.isBlank = false := by
    intro p hp
    obtain ⟨hne, rfl⟩ := List.mem_getLast?_eq_getLast hp
    simpa using List.rdropWhile_last_not Part.isBlank _ hne
  have hhead : ∀ p ∈ ((parts.dropWhile Part.isBlank).rdropWhile Part.isBlank).head?, p.isBlank = false := by
    intro p hp
    have hfirst := List.head?_dropWhile_not Part.isBlank parts
    obtain ⟨dropped, hdropped⟩ := hkept
    rw [Option.mem_def] at hp
    rw [← hdropped, List.head?_append, hp] at hfirst
    simpa using hfirst
  rw [h.splitWords_eq, ← wordsOfParts_dropWhile, ← wordsOfParts_rdropWhile,
    joinWith_wordsOfParts htexts hlast (Or.inr hhead), List.nil_append]
  rfl

/-- The words of a line with single spaces between them are the line with its blanks squeezed, where the blanks
in quotes are not touched.  No word is empty, and each row of words that the line starts with is cut into the
same words again. -/
theorem splitWords_squeezes (line : List Char) :
    (∃ parts, Reads parts line) ∧
    (∀ parts, Reads parts line → Text.joinWith [' '] (splitWords line) = textOf (squeezed parts)) ∧
    (∀ w ∈ splitWords line, w ≠ []) ∧
    splitWords (Text.joinWith [' '] (splitWords line)) = splitWords line ∧
    ∀ start, start <+: splitWords line → splitWords (Text.joinWith [' '] start) = start := by
  have hrow := inRow_splitWords line
  refine ⟨exists_reads line, fun parts h => joinWith_splitWords h, hrow.ne_nil, hrow.splitWords_joinWith, ?_⟩
  intro start hstart
  exact (hrow.of_start hstart).splitWords_joinWith

/-- A line with an escaped quote in a section and a section left open. -/
def unclosedLine : List Char :=
  " a  'b  \\'c'\t\"d  ".toList

def unclosedLineParts : List Part :=
  [.blank ' ', .unit ['a'], .blank ' ', .blank ' ', .unit "'b  \\'c'".toList, .blank '\t',
    .unclosed "\"d  ".toList]

theorem reads_unclosedLine : Reads unclosedLineParts unclosedLine := by
  have hsection : Inside '\'' "b  \\'c".toList :=
    .cons (by decide) (by decide) (.cons (by decide) (by decide) (.cons (by decide) (by decide)
      (.escaped _ (.cons (by decide) (by decide) .nil))))
  have hopen : Inside '"' "d  ".toList :=
    .cons (by decide) (by decide) (.cons (by decide) (by decide) (.cons (by decide) (by decide) .nil))
  exact .blank (by decide) (.unit (.plain (by decide) (by decide)) (.blank (by decide) (.blank (by decide)
    (.unit (.quoted rfl hsection) (.blank (by decide) (.unclosed (.inside rfl hopen)))))))

theorem splitWords_squeezes_unclosed :
    Reads unclosedLineParts unclosedLine ∧
    Text.joinWith [' '] (splitWords unclosedLine) = "a 'b  \\'c' \"d  ".toList ∧
    (['a'] ∈ splitWords unclosedLine ∧ (['a'] : List Char) ≠ []) ∧
    [['a'], "'b  \\'c'".toList] <+: splitWords unclosedLine ∧
    splitWords "a 'b  \\'c'".toList = [['a'], "'b  \\'c'".toList] := by
  obtain ⟨-, hjoined, hwords, -, hstarts⟩ := splitWords_squeezes unclosedLine
  have hmem : ['a'] ∈ splitWords unclosedLine := by decide
  have hstart : [['a'], "'b  \\'c'".toList] <+: splitWords unclosedLine := by decide
  exact ⟨reads_unclosedLine, hjoined _ reads_unclosedLine, ⟨hmem, hwords _ hmem⟩, hstart, hstarts _ hstart⟩

end Command
end SqlCells
