import SqlCells.Proofs.Sql.Statement
import SqlCells.Proofs.Text.Case

/-!
# Statements that open a transaction

To the lexer a statement opens a transaction when its first tokens, blanks and comments aside, are the
bare word `BEGIN`, or the bare words `START` and `TRANSACTION`.  The inspection of a statement as plain
text finds those whose words are spelled in ASCII letters, end at a blank or at one of a few signs, and
have nothing but blanks between them.
-/

namespace SqlCells
namespace Sql

/-! ## What the lexer makes of the first words -/

/-- The bare word in upper case that a text starts with, blanks and comments aside, and what follows it;
`none` when something else stands there. -/
def headWord? (s : List Char) : Option (List Char × List Char) :=
  match skipTrivia s with
  | [] => none
  | c :: rest =>
    match scan c rest with
    | .ok (token, n) => token.bareWord?.map fun word => (word, rest.drop n)
    | .error _ => none

/-- Whether the lexer reads a text as the start of an explicit transaction. -/
def opens (s : List Char) : Bool :=
  match headWord? s with
  | some (word, rest) =>
    word == "BEGIN".toList ||
      (word == "START".toList && (headWord? rest).map Prod.fst == some "TRANSACTION".toList)
  | none => false

/-- The tokens of a text other than blanks and comments, each as the bare word it is, if it is one. -/
def significantWords (ls : List Lexeme) : List (Option (List Char)) :=
  (ls.filter fun l => !l.token.isTrivia).map fun l => l.token.bareWord?

theorem headWord?_of_trivia {c : Char} {rest : List Char} {token : Token} {n : Nat}
    (hscan : scan c rest = .ok (token, n)) (htrivia : token.isTrivia = true) :
    headWord? (c :: rest) = headWord? (rest.drop n) := by
  unfold headWord?
  rw [skipTrivia_of_trivia hscan htrivia]

theorem headWord?_of_token {c : Char} {rest : List Char} {token : Token} {n : Nat}
    (hscan : scan c rest = .ok (token, n)) (htoken : token.isTrivia = false) :
    headWord? (c :: rest) = token.bareWord?.map fun word => (word, rest.drop n) := by
  unfold headWord?
  rw [skipTrivia_of_token hscan htoken]
  dsimp only
  rw [hscan]

/-- The first of the tokens that the lexer finds in a text, blanks and comments aside, is the bare word
that the text starts with; the others are found in what follows it. -/
theorem significantWords_of_lexFrom {here : Location} {s : List Char} {ls : List Lexeme}
    (hlex : lexFrom here s = .ok ls) :
    (headWord? s = none ∧ ∀ word, (significantWords ls).head? ≠ some (some word)) ∨
      ∃ word rest here' more, headWord? s = some (word, rest) ∧ lexFrom here' rest = .ok more ∧
        significantWords ls = some word :: significantWords more := by
  -- The induction follows the lexer over blanks and comments to the first other token.
  fun_induction skipTrivia s generalizing here ls with
  | case1 =>
    rw [lexFrom] at hlex
    cases hlex
    refine Or.inl ⟨?_, by simp [significantWords]⟩
    rw [headWord?, skipTrivia]
  | case2 c rest token n hscan htrivia ih =>
    obtain ⟨token', n', here', more, hscan', hmore, rfl⟩ := lexFrom_cons hlex
    cases hscan.symm.trans hscan'
    have hwords : significantWords (⟨token, c :: rest.take n, here⟩ :: more) =
        significantWords more := by
      simp [significantWords, htrivia]
    rw [headWord?_of_trivia hscan htrivia, hwords]
    exact ih hmore
  | case3 c rest token n hscan htrivia =>
    obtain ⟨token', n', here', more, hscan', hmore, rfl⟩ := lexFrom_cons hlex
    cases hscan.symm.trans hscan'
    have htoken : token.isTrivia = false := by simpa using htrivia
    have hwords : significantWords (⟨token, c :: rest.take n, here⟩ :: more) =
        token.bareWord? :: significantWords more := by
      simp [significantWords, htoken]
    rw [headWord?_of_token hscan htoken, hwords]
    cases hbare : token.bareWord? with
    | none => exact Or.inl ⟨rfl, by simp⟩
    | some word => exact Or.inr ⟨word, rest.drop n, here', more, rfl, hmore, rfl⟩
  | case4 c rest f hscan =>
    obtain ⟨token', n', here', more, hscan', -, -⟩ := lexFrom_cons hlex
    cases hscan.symm.trans hscan'

/-- A text that the lexer accepts opens a transaction exactly if its tokens, blanks and comments aside,
start with the bare word `BEGIN`, or the bare words `START` and `TRANSACTION`. -/
theorem opens_iff_of_lex {s : List Char} {ls : List Lexeme} (hlex : lex s = .ok ls) :
    opens s = true ↔ (∃ more, significantWords ls = some "BEGIN".toList :: more) ∨
      ∃ more, significantWords ls = some "START".toList :: some "TRANSACTION".toList :: more := by
  unfold opens
  rcases significantWords_of_lexFrom hlex with
    ⟨hnone, hwords⟩ | ⟨word, rest, here, more, hword, hmore, hwords⟩
  · rw [hnone]
    constructor
    · intro hopens
      cases hopens
    · rintro (⟨more, heq⟩ | ⟨more, heq⟩)
      · exact absurd (by rw [heq]; rfl) (hwords "BEGIN".toList)
      · exact absurd (by rw [heq]; rfl) (hwords "START".toList)
  · rw [hword, hwords]
    have hnext : (headWord? rest).map Prod.fst = some "TRANSACTION".toList ↔
        ∃ tail, significantWords more = some "TRANSACTION".toList :: tail := by
      rcases significantWords_of_lexFrom hmore with
        ⟨hnone, hmoreWords⟩ | ⟨word', rest', here', more', hword', -, hmoreWords⟩
      · rw [hnone]
        constructor
        · intro heq
          cases heq
        · rintro ⟨tail, heq⟩
          exact absurd (by rw [heq]; rfl) (hmoreWords "TRANSACTION".toList)
      · rw [hword', hmoreWords]
        simp
    simp only [Bool.or_eq_true, Bool.and_eq_true, beq_iff_eq, hnext, List.cons.injEq,
      Option.some.injEq, exists_and_left, exists_eq', and_true]

/-! ## What the plain-text inspection makes of them -/

/-- A blank or one of the signs at which the first word of a statement ends. -/
def endsKeyword (c : Char) : Bool :=
  Text.isBlank c || c == ';' || c == '('

/-- `BEGIN` in ASCII letters, up to the end of the text or a blank or sign that ends a keyword. -/
def SpellsBegin (s : List Char) : Prop :=
  ∃ word after, s = word ++ after ∧ Text.asciiLower word = "begin".toList ∧
    ∀ c ∈ after.head?, endsKeyword c = true

/-- `START` and `TRANSACTION` in ASCII letters with blanks and nothing else between them, the second up
to the end of the text or a blank, semicolons aside. -/
def SpellsStart (s : List Char) : Prop :=
  ∃ first gap second semicolons after, s = first ++ (gap ++ (second ++ (semicolons ++ after))) ∧
    Text.asciiLower first = "start".toList ∧ gap ≠ [] ∧ (∀ c ∈ gap, Text.isBlank c = true) ∧
    Text.asciiLower second = "transaction".toList ∧ (∀ c ∈ semicolons, c = ';') ∧
    ∀ c ∈ after.head?, Text.isBlank c = true

theorem firstKeyword?_eq (s : List Char) :
    firstKeyword? s = (Text.pieces endsKeyword (stripLeadingComments s)).head?.map Text.lower := by
  unfold firstKeyword? Text.pieces
  rw [List.head?_filter]
  rfl

/-- A statement is found to open a transaction by its first keyword, and for `START` by its second
word. -/
theorem opensTransaction_eq_true_iff (s : List Char) :
    opensTransaction s = true ↔
      firstKeyword? s = some "begin".toList ∨
        firstKeyword? s = some "start".toList ∧
          ∃ word, (Text.words (stripLeadingComments s))[1]? = some word ∧
            Text.asciiLower (Text.dropSemicolons word) = "transaction".toList := by
  have hname : ∀ name : String, (firstKeyword? s).map String.ofList = some name ↔
      firstKeyword? s = some name.toList := by
    intro name
    cases firstKeyword? s with
    | none => simp
    | some word =>
      simp only [Option.map_some, Option.some.injEq]
      constructor
      · rintro rfl
        simp
      · rintro rfl
        simp
  have hne : ("begin".toList : List Char) ≠ "start".toList := by decide
  unfold opensTransaction
  split
  · next heq =>
    rw [(hname _).1 heq]
    simp
  · next heq =>
    rw [(hname _).1 heq]
    split
    · next word hword =>
      simp [hword, Text.eqIgnoringAsciiCase, Text.asciiLower]
    · next hword =>
      simp [hword]
  · next hbegin hstart =>
    have hbegin' : firstKeyword? s ≠ some "begin".toList := fun heq => hbegin ((hname _).2 heq)
    have hstart' : firstKeyword? s ≠ some "start".toList := fun heq => hstart ((hname _).2 heq)
    simp only [hbegin', hstart', Bool.false_eq_true, false_and, or_self]

/-- A letter of an ASCII word continues words, is no mark, and ends no keyword. -/
theorem of_isPlainLower_toLower {c : Char} (hc : Text.isPlainLower c.toLower = true) :
    endsKeyword c = false ∧ isWordPart c = true ∧ c ≠ '#' ∧ c ≠ '@' := by
  refine Text.ascii_induction (motive := fun c => Text.isPlainLower c.toLower = true →
    endsKeyword c = false ∧ isWordPart c = true ∧ c ≠ '#' ∧ c ≠ '@') ?_
    (Text.ascii_of_isPlainLower_toLower hc) hc
  decide +kernel

theorem isBlank_of_endsKeyword {c : Char} (hc : endsKeyword c = false) :
    Text.isBlank c = false ∧ (c == ';') = false := by
  simp only [endsKeyword, Bool.or_eq_false_iff] at hc
  exact ⟨hc.1.1, hc.1.2⟩

/-- What ends a keyword does not continue a word. -/
theorem not_isWordPart_of_endsKeyword {c : Char} (hc : endsKeyword c = true) :
    isWordPart c = false := by
  have hblanks : (Text.blanks.all fun d => !isWordPart d) = true := by decide +kernel
  simp only [endsKeyword, Bool.or_eq_true, beq_iff_eq] at hc
  rcases hc with (hblank | rfl) | rfl
  · simpa using List.all_eq_true.1 hblanks c (Text.mem_blanks hblank)
  · decide
  · decide

section Spelling

variable {s word after w : List Char}

/-- The letters of a word that is an ASCII word up to case. -/
theorem letters_of_asciiLower (hword : Text.asciiLower word = w)
    (hw : ∀ d ∈ w, Text.isPlainLower d = true) :
    ∀ c ∈ word, endsKeyword c = false ∧ isWordPart c = true ∧ c ≠ '#' ∧ c ≠ '@' := by
  intro c hc
  apply of_isPlainLower_toLower
  apply hw
  rw [← hword]
  exact List.mem_map_of_mem hc

theorem firstKeyword?_of_append (hstrip : stripLeadingComments s = word ++ after)
    (hword : Text.asciiLower word = w) (hw : ∀ d ∈ w, Text.isPlainLower d = true) (hne : w ≠ [])
    (hafter : ∀ c ∈ after.head?, endsKeyword c = true) : firstKeyword? s = some w := by
  have hnonempty : word ≠ [] := by
    rintro rfl
    exact hne hword.symm
  have hletters := letters_of_asciiLower hword hw
  rw [firstKeyword?_eq, hstrip, Text.pieces_append hnonempty (fun c hc => (hletters c hc).1) hafter]
  exact congrArg some ((Text.lower_eq_iff hw word).2 hword)

theorem append_of_firstKeyword? {c : Char} {rest : List Char}
    (hstrip : stripLeadingComments s = c :: rest) (hc : endsKeyword c = false)
    (hw : ∀ d ∈ w, Text.isPlainLower d = true) (hfirst : firstKeyword? s = some w) :
    ∃ word after, c :: rest = word ++ after ∧ Text.asciiLower word = w ∧
      ∀ d ∈ after.head?, endsKeyword d = true := by
  rw [firstKeyword?_eq, hstrip, Text.pieces_eq_cons hc] at hfirst
  refine ⟨_, _, List.takeWhile_append_dropWhile.symm,
    (Text.lower_eq_iff hw _).1 (Option.some.inj hfirst), ?_⟩
  intro d hd
  have hhead := List.head?_dropWhile_not (fun d => !endsKeyword d) (c :: rest)
  rw [Option.mem_def.1 hd] at hhead
  simpa using hhead

/-- The word that the lexer finds at the start of a text that is a word of ASCII letters up to something
that ends a keyword. -/
theorem headWord?_of_append {found rest : List Char} (hhead : headWord? s = some (found, rest))
    (hskip : skipTrivia s = word ++ after) (hword : Text.asciiLower word = w)
    (hw : ∀ d ∈ w, Text.isPlainLower d = true) (hne : w ≠ [])
    (hafter : ∀ c ∈ after.head?, endsKeyword c = true) :
    found = Text.asciiUpper w ∧ rest = after := by
  have hletters := letters_of_asciiLower hword hw
  have hupper : Text.upper word = Text.asciiUpper w := by
    rw [← hword]
    exact Text.upper_of_ascii (Text.ascii_of_asciiLower (by rwa [hword]))
  cases word with
  | nil => exact absurd hword.symm hne
  | cons c tail =>
    have htail : wordTail (tail ++ after) = tail := by
      refine takeWhile_append_of_head? (fun d hd => ?_) fun d hd => ?_
      · exact (hletters d (List.mem_cons_of_mem _ hd)).2.1
      · exact not_isWordPart_of_endsKeyword (hafter d hd)
    unfold headWord? at hhead
    rw [hskip, List.cons_append] at hhead
    dsimp only at hhead
    split at hhead
    · next token n hscan =>
      obtain ⟨bare, hbare, heq⟩ := Option.map_eq_some_iff.1 hhead
      cases heq
      cases reads_of_scan hscan with
      | blank hc hn => cases hbare
      | line hc hrest => cases hbare
      | block hc hrest hn => cases hbare
      | semicolon hc => cases hbare
      | word hc =>
        rw [htail] at hbare ⊢
        have hfound : Text.upper (c :: tail) = found := by
          simpa [Token.bareWord?] using hbare
        rw [← hfound, hupper, List.drop_left]
        exact ⟨rfl, rfl⟩
      | marked hc =>
        obtain ⟨-, -, hhash, hat⟩ := hletters c List.mem_cons_self
        exact absurd hc (not_or.2 ⟨hhash, hat⟩)
      | other hother => cases hbare.symm.trans (Token.of_isOther hother).2
    · cases hhead

/-- A text that starts with a semicolon or parenthesis starts with no word. -/
theorem headWord?_of_sign {c : Char} (hc : c = ';' ∨ c = '(') (rest : List Char) :
    headWord? (c :: rest) = none := by
  have hplain : Text.isBlank c = false ∧ isWordStart c = false ∧ c ≠ '-' ∧ c ≠ '/' ∧ c ≠ '#' ∧
      c ≠ '@' := by
    rcases hc with rfl | rfl <;> decide
  obtain ⟨hblank, hstart, hdash, hslash, hhash, hat⟩ := hplain
  cases hscan : scan c rest with
  | error f => simp [headWord?, skipTrivia, hscan]
  | ok read =>
    obtain ⟨token, n⟩ := read
    cases reads_of_scan hscan with
    | blank hc' hn => simp [hblank] at hc'
    | line hc' hrest => exact absurd hc' hdash
    | block hc' hrest hn => exact absurd hc' hslash
    | semicolon hc' =>
      rw [headWord?_of_token hscan rfl]
      rfl
    | word hc' => simp [hstart] at hc'
    | marked hc' => exact absurd hc' (not_or.2 ⟨hhash, hat⟩)
    | other hother =>
      obtain ⟨htrivia, hnone⟩ := Token.of_isOther hother
      rw [headWord?_of_token hscan htrivia, hnone]
      rfl

/-- The word behind a word and some blanks, semicolons that end it aside. -/
theorem words_of_append {gap second semicolons tail : List Char}
    (hword : ∀ c ∈ word, Text.isBlank c = false) (hne : word ≠ []) (hgap : gap ≠ [])
    (hblank : ∀ c ∈ gap, Text.isBlank c = true) (hsecond : ∀ c ∈ second, endsKeyword c = false)
    (hne' : second ≠ []) (hsemicolons : ∀ c ∈ semicolons, c = ';')
    (htail : ∀ c ∈ tail.head?, Text.isBlank c = true) :
    ∃ found, (Text.words (word ++ (gap ++ (second ++ (semicolons ++ tail)))))[1]? = some found ∧
      Text.dropSemicolons found = second := by
  have hgapHead : ∀ c ∈ (gap ++ (second ++ (semicolons ++ tail))).head?, Text.isBlank c = true := by
    intro c hc
    cases gap with
    | nil => exact absurd rfl hgap
    | cons d gap =>
      cases hc
      exact hblank c List.mem_cons_self
  have hrun : ∀ c ∈ second ++ semicolons, Text.isBlank c = false := by
    intro c hc
    rcases List.mem_append.1 hc with hc | hc
    · exact (isBlank_of_endsKeyword (hsecond c hc)).1
    · rw [hsemicolons c hc]
      decide
  have hskip : Text.pieces Text.isBlank (gap ++ (second ++ (semicolons ++ tail))) =
      Text.pieces Text.isBlank ((second ++ semicolons) ++ tail) := by
    rw [List.append_assoc]
    clear hgapHead hgap
    induction gap with
    | nil => rfl
    | cons d gap ih =>
      rw [List.cons_append, Text.pieces_cons (hblank d List.mem_cons_self)]
      exact ih fun c hc => hblank c (List.mem_cons_of_mem _ hc)
  refine ⟨second ++ semicolons, ?_, ?_⟩
  · rw [Text.words_eq_pieces, Text.pieces_append hne hword hgapHead, hskip,
      Text.pieces_append (by simp [hne']) hrun htail]
    rfl
  · exact Text.dropTailWhile_append (fun c hc => (isBlank_of_endsKeyword (hsecond c hc)).2)
      fun c hc => by simp [hsemicolons c hc]

/-- The first words of a statement that the lexer reads as opening a transaction. -/
theorem headWord?_of_opens (hopens : opens s = true) :
    ∃ found rest, headWord? s = some (found, rest) ∧ (found = "BEGIN".toList ∨
      found = "START".toList ∧ ∃ more, headWord? rest = some ("TRANSACTION".toList, more)) := by
  unfold opens at hopens
  split at hopens
  · next found rest hhead =>
    simp only [Bool.or_eq_true, Bool.and_eq_true, beq_iff_eq, Option.map_eq_some_iff, Prod.exists,
      exists_and_right, exists_eq_right] at hopens
    exact ⟨found, rest, hhead, hopens⟩
  · cases hopens

/-- A text that starts with a word starts with a token, at a character that ends no keyword. -/
theorem skipTrivia_of_headWord? {found more : List Char} (hhead : headWord? s = some (found, more)) :
    ∃ c rest, skipTrivia s = c :: rest ∧ (scan c rest).isOk = true ∧ endsKeyword c = false := by
  unfold headWord? at hhead
  split at hhead
  · cases hhead
  · next c rest hskip =>
    split at hhead
    · next token n hscan =>
      obtain ⟨bare, hbare, -⟩ := Option.map_eq_some_iff.1 hhead
      have hstart : isWordStart c = true := isWordStart_of_bareWord? hscan hbare
      refine ⟨c, rest, hskip, by rw [hscan]; rfl, ?_⟩
      rw [Bool.eq_false_iff]
      intro hends
      have hpart := not_isWordPart_of_endsKeyword hends
      simp only [isWordPart, Bool.or_eq_false_iff] at hpart
      simp [isWordStart, hpart] at hstart
    · cases hhead

theorem plain_begin : ∀ d ∈ "begin".toList, Text.isPlainLower d = true :=
  List.all_eq_true.1 (by decide)

theorem plain_start : ∀ d ∈ "start".toList, Text.isPlainLower d = true :=
  List.all_eq_true.1 (by decide)

theorem plain_transaction : ∀ d ∈ "transaction".toList, Text.isPlainLower d = true :=
  List.all_eq_true.1 (by decide)

theorem opensTransaction_of_spellsBegin (hspells : SpellsBegin (stripLeadingComments s)) :
    opensTransaction s = true := by
  obtain ⟨word, after, happend, hword, hafter⟩ := hspells
  rw [opensTransaction_eq_true_iff]
  exact Or.inl (firstKeyword?_of_append happend hword plain_begin (by decide) hafter)

theorem opensTransaction_of_spellsStart (hspells : SpellsStart (stripLeadingComments s)) :
    opensTransaction s = true := by
  obtain ⟨first, gap, second, semicolons, tail, happend, hfirst, hgap, hgapBlank, hsecond,
    hsemicolons, htail⟩ := hspells
  have hne : first ≠ [] := by
    rintro rfl
    cases hfirst
  have hne' : second ≠ [] := by
    rintro rfl
    cases hsecond
  have hletters : ∀ d ∈ first, Text.isBlank d = false := fun d hd =>
    (isBlank_of_endsKeyword (letters_of_asciiLower hfirst plain_start d hd).1).1
  have hletters' : ∀ d ∈ second, endsKeyword d = false := fun d hd =>
    (letters_of_asciiLower hsecond plain_transaction d hd).1
  obtain ⟨word, hword, hspelled⟩ := words_of_append hletters hne hgap hgapBlank hletters' hne'
    hsemicolons htail
  rw [opensTransaction_eq_true_iff]
  refine Or.inr ⟨firstKeyword?_of_append happend hfirst plain_start (by decide) ?_, word, ?_, ?_⟩
  · intro d hd
    cases gap with
    | nil => exact absurd rfl hgap
    | cons e gap =>
      cases hd
      simp [endsKeyword, hgapBlank d List.mem_cons_self]
  · rw [happend]
    exact hword
  · rw [hspelled]
    exact hsecond

/-- What ends a word is a blank when a word follows it. -/
theorem isBlank_of_headWord? {more found rest : List Char} (hnext : headWord? more = some (found, rest))
    (hmore : ∀ d ∈ more.head?, endsKeyword d = true) : ∀ d ∈ more.head?, Text.isBlank d = true := by
  intro d hd
  have hends := hmore d hd
  simp only [endsKeyword, Bool.or_eq_true, beq_iff_eq, or_assoc] at hends
  rcases hends with hblank | hsign
  · exact hblank
  · cases more with
    | nil => cases hd
    | cons e behind =>
      cases hd
      -- A semicolon or parenthesis would be a token of its own.
      rw [headWord?_of_sign hsign] at hnext
      cases hnext

/-- A statement that opens a transaction with `START` and is found out spells both keywords. -/
theorem spellsStart_of_firstKeyword? {c : Char} {rest : List Char} (hopens : opens s = true)
    (hskip : skipTrivia s = c :: rest) (hc : endsKeyword c = false)
    (hstrip : stripLeadingComments s = c :: rest) (hfirst : firstKeyword? s = some "start".toList)
    (hsecond : ∃ second, (Text.words (stripLeadingComments s))[1]? = some second ∧
      Text.asciiLower (Text.dropSemicolons second) = "transaction".toList) : SpellsStart (c :: rest) := by
  obtain ⟨found, more, hhead, hfound⟩ := headWord?_of_opens hopens
  obtain ⟨second, hsecond, hspelled⟩ := hsecond
  obtain ⟨word, after, happend, hword, hafter⟩ := append_of_firstKeyword? hstrip hc plain_start hfirst
  have hne : word ≠ [] := by
    rintro rfl
    cases hword
  have hletters : ∀ d ∈ word, Text.isBlank d = false := fun d hd =>
    (isBlank_of_endsKeyword (letters_of_asciiLower hword plain_start d hd).1).1
  -- The lexer ends the first word at the same place, so the word behind it is `TRANSACTION`.
  obtain ⟨rfl, rfl⟩ :=
    headWord?_of_append hhead (hskip.trans happend) hword plain_start (by decide) hafter
  have hnext : ∃ tail, headWord? more = some ("TRANSACTION".toList, tail) := by
    rcases hfound with heq | ⟨-, hnext⟩
    · exact absurd heq (by decide)
    · exact hnext
  obtain ⟨tail, htail⟩ := hnext
  rw [hstrip, happend] at hsecond
  obtain ⟨gap, semicolons, tail, hsplit, hgap, hgapBlank, hsemicolons, htail⟩ :=
    Text.append_of_words hletters hne (isBlank_of_headWord? htail hafter) hsecond
  refine ⟨word, gap, _, semicolons, tail, ?_, hword, hgap, hgapBlank, hspelled, hsemicolons, htail⟩
  rw [happend, ← hsplit]

/-- A statement that the lexer reads as opening a transaction, with no comment in front of it that nests,
is found out by the plain-text inspection exactly if its keywords are spelled out in ASCII letters. -/
theorem opensTransaction_iff_spelled (hopens : opens s = true) (hflat : nestsInFront s = false) :
    opensTransaction s = true ↔ SpellsBegin (skipTrivia s) ∨ SpellsStart (skipTrivia s) := by
  obtain ⟨found, more, hhead, -⟩ := headWord?_of_opens hopens
  obtain ⟨c, rest, hskip, hok, hc⟩ := skipTrivia_of_headWord? hhead
  have hstrip : stripLeadingComments s = skipTrivia s := by
    refine stripLeadingComments_eq_skipTrivia s hflat ?_
    intro d tail heq
    cases hskip.symm.trans heq
    exact hok
  constructor
  · rw [opensTransaction_eq_true_iff, hskip]
    rintro (hfirst | ⟨hfirst, hsecond⟩)
    · exact Or.inl (append_of_firstKeyword? (hstrip.trans hskip) hc plain_begin hfirst)
    · exact Or.inr
        (spellsStart_of_firstKeyword? hopens hskip hc (hstrip.trans hskip) hfirst hsecond)
  · rw [← hstrip]
    rintro (hbegin | hstart)
    · exact opensTransaction_of_spellsBegin hbegin
    · exact opensTransaction_of_spellsStart hstart

end Spelling

end Sql
end SqlCells
