import SqlCells.Proofs.Effects
import SqlCells.Proofs.Sql.Starts
import SqlCells.Sql.Statement

/-!
# Blanks and comments in front of a statement

The lexer passes over blanks and comments token by token, and its block comments nest.  The inspection
of a statement as plain text does not know nesting.  The two stop at the same place unless a comment in
front of the statement has another one opened inside it.
-/

namespace SqlCells
namespace Sql

/-! ## What the lexer reads -/

/-- Whether a token is neither a blank or comment nor a bare word nor a semicolon. -/
def Token.isOther (token : Token) : Bool :=
  !token.isTrivia && token.bareWord?.isNone && token != .semicolon

/-- What the lexer reads from the character `c` followed by `rest`: something that only separates, a
semicolon, a bare word, which may start with a mark, or some other token. -/
inductive Reads (c : Char) (rest : List Char) : Token → Nat → Prop
  | blank {n : Nat} (hc : Text.isBlank c = true) (hn : ∀ d ∈ rest.take n, Text.isBlank d = true) :
    Reads c rest .blank n
  | line {after : List Char} (hc : c = '-') (hrest : rest = '-' :: after) :
    Reads c rest .lineComment (lineCommentLength rest)
  | block {body : List Char} {n : Nat} (hc : c = '/') (hrest : rest = '*' :: body)
      (hn : commentLength 1 ' ' body = some n) : Reads c rest .blockComment (n + 1)
  | semicolon (hc : c = ';') : Reads c rest .semicolon 0
  | word (hc : isWordStart c = true) :
    Reads c rest (.word (String.ofList (c :: wordTail rest)) none) (wordTail rest).length
  | marked {tail : List Char} {n : Nat} (hc : c = '#' ∨ c = '@') :
    Reads c rest (.word (String.ofList (c :: tail)) none) n
  | other {token : Token} {n : Nat} (htoken : token.isOther = true) : Reads c rest token n

variable {c : Char} {rest s : List Char} {token : Token} {n : Nat}

theorem isOther_scanLiteral {quoting : Quoting} {quote : Char} {before : Nat}
    (hscan : scanLiteral quoting quote before s = .ok (token, n)) : token.isOther = true := by
  unfold scanLiteral at hscan
  split at hscan <;> cases hscan
  rfl

theorem isOther_scanRaw {quote : Char} (hscan : scanRaw quote s = .ok (token, n)) :
    token.isOther = true := by
  unfold scanRaw at hscan
  split at hscan
  · split at hscan <;> cases hscan
    rfl
  · split at hscan
    · cases hscan
      rfl
    · split at hscan <;> cases hscan
      rfl

theorem isOther_scanNumber (s : List Char) : (scanNumber s).1.isOther = true := by
  unfold scanNumber
  dsimp only
  split
  · rfl
  · split <;> split <;> rfl

theorem isOther_scanOperator (c : Char) (rest : List Char) :
    (scanOperator c rest).1.isOther = true := by
  unfold scanOperator
  split <;> rfl

theorem isOther_scanDollar (hscan : scanDollar rest = .ok (token, n)) : token.isOther = true := by
  unfold scanDollar at hscan
  split at hscan
  · split at hscan <;> cases hscan
    rfl
  · dsimp only at hscan
    split at hscan
    · split at hscan <;> cases hscan
      rfl
    · cases hscan
      rfl

theorem isOther_scanEscaped (hscan : scanEscaped rest = .ok (token, n)) : token.isOther = true := by
  unfold scanEscaped at hscan
  split at hscan <;> cases hscan
  rfl

theorem isOther_scanUnicode (hscan : scanUnicode rest = .ok (token, n)) : token.isOther = true := by
  obtain ⟨read, -, heq⟩ := Effects.of_bind_eq_ok hscan
  cases heq
  rfl

theorem isOther_scanQuotedName {quote : Char} (hscan : scanQuotedName quote rest = .ok (token, n)) :
    token.isOther = true := by
  unfold scanQuotedName at hscan
  split at hscan <;> cases hscan
  rfl

theorem reads_of_ok {read : Token × Nat} (hread : Reads c rest read.1 read.2)
    (hscan : (.ok read : Except ScanFault (Token × Nat)) = .ok (token, n)) :
    Reads c rest token n := by
  rw [Except.ok.inj hscan] at hread
  exact hread

theorem reads_scanHash (rest : List Char) : Reads '#' rest (scanHash rest).1 (scanHash rest).2 := by
  unfold scanHash
  split
  case h_5 => exact .marked (Or.inl rfl)
  all_goals exact .other rfl

theorem reads_scanAt (rest : List Char) : Reads '@' rest (scanAt rest).1 (scanAt rest).2 := by
  unfold scanAt
  split
  case h_4 => exact .marked (Or.inr rfl)
  case h_7 => exact .marked (Or.inr rfl)
  all_goals exact .other rfl

/-- The blank of a carriage return has at most a line feed behind the return. -/
theorem reads_scanReturn (rest : List Char) : Reads '\r' rest (scanReturn rest).1 (scanReturn rest).2 := by
  unfold scanReturn
  refine .blank (by decide) ?_
  dsimp only
  split
  · next hfeed =>
    obtain ⟨more, rfl⟩ := List.head?_eq_some_iff.1 hfeed
    intro d hd
    obtain rfl := List.mem_singleton.1 hd
    decide
  · nofun

theorem reads_scanBlockComment {body : List Char}
    (hscan : scanBlockComment ('*' :: body) = .ok (token, n)) : Reads '/' ('*' :: body) token n := by
  unfold scanBlockComment at hscan
  split at hscan
  · next m hm =>
    cases hscan
    exact .block rfl rfl hm
  · cases hscan

/-- A text is read in one of these ways. -/
theorem reads_of_scan (hscan : scan c rest = .ok (token, n)) : Reads c rest token n := by
  obtain ⟨start, hstart, hread⟩ := exists_start c rest
  rw [hread] at hscan
  cases hstart with
  | carriageReturn => exact reads_of_ok (reads_scanReturn rest) hscan
  | string => exact .other (isOther_scanLiteral hscan)
  | literal hc hquote => exact .other (isOther_scanLiteral hscan)
  | raw hc hquote => exact .other (isOther_scanRaw hscan)
  | escaped hc => exact .other (isOther_scanEscaped hscan)
  | unicode hc => exact .other (isOther_scanUnicode hscan)
  | quotedName hc => exact .other (isOther_scanQuotedName hscan)
  | semicolon => exact reads_of_ok (.semicolon rfl) hscan
  | lineComment => exact reads_of_ok (.line rfl rfl) hscan
  | blockComment => exact reads_scanBlockComment hscan
  | hashSign => exact reads_of_ok (reads_scanHash rest) hscan
  | atSign => exact reads_of_ok (reads_scanAt rest) hscan
  | questionMark => exact reads_of_ok (.other rfl) hscan
  | dollarSign => exact .other (isOther_scanDollar hscan)
  | number hc => exact reads_of_ok (.other (isOther_scanNumber _)) hscan
  | word hnumber hc => exact reads_of_ok (.word hc) hscan
  | blank hword hc => exact reads_of_ok (.blank hc (by simp)) hscan
  | operator hnumber hword hblank => exact reads_of_ok (.other (isOther_scanOperator c rest)) hscan

theorem Token.of_isOther (h : token.isOther = true) : token.isTrivia = false ∧ token.bareWord? = none := by
  simp only [Token.isOther, Bool.and_eq_true, Bool.not_eq_true', Option.isNone_iff_eq_none] at h
  exact h.1

/-- A bare word starts with a character that may start a word. -/
theorem isWordStart_of_bareWord? {word : List Char} (hscan : scan c rest = .ok (token, n))
    (hword : token.bareWord? = some word) : isWordStart c = true := by
  cases reads_of_scan hscan with
  | word hc => exact hc
  | marked hc => rcases hc with rfl | rfl <;> decide
  | other htoken => cases hword.symm.trans (Token.of_isOther htoken).2
  | _ => cases hword

/-- The semicolon is a token of its own, and of no other character. -/
theorem eq_of_scan_semicolon (hscan : scan c rest = .ok (.semicolon, n)) : c = ';' ∧ n = 0 := by
  cases reads_of_scan hscan with
  | semicolon hc => exact ⟨hc, rfl⟩
  | other htoken => cases htoken

/-- A blank is read as one. -/
theorem scan_of_isBlank (hc : Text.isBlank c = true) (rest : List Char) :
    ∃ n, scan c rest = .ok (.blank, n) := by
  by_cases hreturn : c = '\r'
  · subst hreturn
    exact ⟨_, rfl⟩
  · have hclass : (Text.blanks.all fun d => Start.ofChar d == .blank) = true := by decide +kernel
    have hblank : Start.ofChar c = .blank := by
      simpa using List.all_eq_true.1 hclass c (Text.mem_blanks hc)
    -- No other blank is the first character of a mark.
    have hplain : (Text.isBlank c && c != '\r') = true := by simp [hc, hreturn]
    have hscan := scan_of_class (p := fun d => Text.isBlank d && d != '\r') (by decide +kernel) hplain rest
    rw [hblank] at hscan
    exact ⟨0, hscan⟩

theorem scan_block (body : List Char) :
    scan '/' ('*' :: body) = match commentLength 1 ' ' body with
      | some n => .ok (.blockComment, n + 1)
      | none => .error ⟨.unterminatedComment, body.length + 2⟩ :=
  rfl

/-! ## Passing over -/

/-- The text from its first token on that is neither a blank nor a comment, as the lexer reads it. -/
def skipTrivia : List Char → List Char
  | [] => []
  | c :: rest =>
    match scan c rest with
    | .ok (token, n) => if token.isTrivia then skipTrivia (rest.drop n) else c :: rest
    | .error _ => c :: rest
termination_by s => s.length
decreasing_by simp only [List.length_cons, List.length_drop]; omega

/-- Whether one of the comments in front of a text has another one opened inside it. -/
def nestsInFront : List Char → Bool
  | [] => false
  | c :: rest =>
    match scan c rest with
    | .ok (token, n) =>
      token.isTrivia &&
        ((token == .blockComment && Text.contains ((rest.take n).drop 1) ['/', '*']) ||
          nestsInFront (rest.drop n))
    | .error _ => false
termination_by s => s.length
decreasing_by simp only [List.length_cons, List.length_drop]; omega

theorem skipTrivia_of_trivia (hscan : scan c rest = .ok (token, n)) (htrivia : token.isTrivia = true) :
    skipTrivia (c :: rest) = skipTrivia (rest.drop n) := by
  rw [skipTrivia, hscan]
  dsimp only
  rw [if_pos htrivia]

theorem skipTrivia_of_token (hscan : scan c rest = .ok (token, n)) (htoken : token.isTrivia = false) :
    skipTrivia (c :: rest) = c :: rest := by
  rw [skipTrivia, hscan]
  dsimp only
  rw [if_neg (by simp [htoken])]

/-! ## The plain-text inspection stops there too -/

theorem stripLeadingComments_nil : stripLeadingComments [] = [] := by
  rw [stripLeadingComments]
  rfl

theorem stripLeadingComments_blank (hc : Text.isBlank c = true) (rest : List Char) :
    stripLeadingComments (c :: rest) = stripLeadingComments rest := by
  have htrim : Text.trimStart (c :: rest) = Text.trimStart rest := by
    simp [Text.trimStart, hc]
  rw [stripLeadingComments, stripLeadingComments, htrim]

theorem stripLeadingComments_blanks {blanks : List Char} (hblanks : ∀ d ∈ blanks, Text.isBlank d = true)
    (s : List Char) : stripLeadingComments (blanks ++ s) = stripLeadingComments s := by
  induction blanks with
  | nil => rfl
  | cons d blanks ih =>
    rw [List.cons_append, stripLeadingComments_blank (hblanks d (by simp))]
    exact ih fun e he => hblanks e (by simp [he])

theorem stripLeadingComments_line (after : List Char) :
    stripLeadingComments ('-' :: '-' :: after) =
      stripLeadingComments (Text.afterFirst ['\n'] after) := by
  have htrim : Text.trimStart ('-' :: '-' :: after) = '-' :: '-' :: after := rfl
  rw [stripLeadingComments]
  split
  · next after' heq =>
    rw [htrim] at heq
    cases heq
    rfl
  · next after' heq =>
    rw [htrim] at heq
    cases heq
  · next hline _ => exact absurd htrim (hline after)

theorem stripLeadingComments_block (after : List Char) :
    stripLeadingComments ('/' :: '*' :: after) =
      stripLeadingComments (Text.afterFirst ['*', '/'] after) := by
  have htrim : Text.trimStart ('/' :: '*' :: after) = '/' :: '*' :: after := rfl
  rw [stripLeadingComments]
  split
  · next after' heq =>
    rw [htrim] at heq
    cases heq
  · next after' heq =>
    rw [htrim] at heq
    cases heq
    rfl
  · next _ hblock => exact absurd htrim (hblock after)

theorem stripLeadingComments_of_token (hblank : Text.isBlank c = false)
    (hline : ∀ after, c :: rest ≠ '-' :: '-' :: after)
    (hblock : ∀ after, c :: rest ≠ '/' :: '*' :: after) :
    stripLeadingComments (c :: rest) = c :: rest := by
  have htrim : Text.trimStart (c :: rest) = c :: rest := by
    simp [Text.trimStart, hblank]
  rw [stripLeadingComments]
  split
  · next after heq => exact absurd (htrim.symm.trans heq) (hline after)
  · next after heq => exact absurd (htrim.symm.trans heq) (hblock after)
  · exact htrim

/-- A line comment ends behind the first line feed. -/
theorem drop_lineCommentLength (after : List Char) :
    ('-' :: after).drop (lineCommentLength ('-' :: after)) = Text.afterFirst ['\n'] after := by
  have hbody : ('-' :: after).takeWhile (· != '\n') = '-' :: after.takeWhile (· != '\n') := rfl
  rw [Text.afterFirst_lineFeed]
  unfold lineCommentLength
  rw [hbody]
  simp only [List.length_cons]
  split
  · rfl
  · next hends =>
    rw [List.drop_succ_cons, List.drop_of_length_le (by omega), List.drop_of_length_le (by omega)]

theorem exists_of_commentLength {last : Char} (hlength : commentLength 1 last s = some n) :
    ∃ m, n = m + 1 := by
  cases s with
  | nil => cases hlength
  | cons d s =>
    rw [commentLength] at hlength
    split at hlength
    · obtain ⟨m, -, rfl⟩ := Option.map_eq_some_iff.1 hlength
      exact ⟨m, rfl⟩
    · split at hlength
      · cases hlength
        exact ⟨0, rfl⟩
      · obtain ⟨m, -, rfl⟩ := Option.map_eq_some_iff.1 hlength
        exact ⟨m, rfl⟩

/-- A comment without another one opened inside it ends behind the first closing mark. -/
theorem afterFirst_of_commentLength {last : Char} (hlength : commentLength 1 last s = some n)
    (hflat : Text.contains (last :: s.take n) ['/', '*'] = false) :
    Text.afterFirst ['*', '/'] (last :: s) = s.drop n := by
  induction s generalizing last n with
  | nil => cases hlength
  | cons d s ih =>
    obtain ⟨m, rfl⟩ : ∃ m, n = m + 1 := exists_of_commentLength hlength
    -- Nothing is opened inside, so the depth stays one until the closing mark is read.
    rw [List.take_succ_cons, Text.contains_cons, Bool.or_eq_false_iff] at hflat
    obtain ⟨hopens, hflat⟩ := hflat
    have hnotOpen : ¬ (last = '/' ∧ d = '*') := by
      rintro ⟨rfl, rfl⟩
      simp [Text.dropPrefix?] at hopens
    rw [commentLength, if_neg hnotOpen] at hlength
    by_cases hcloses : last = '*' ∧ d = '/'
    · rw [if_pos hcloses, if_pos (Nat.le_refl 1)] at hlength
      obtain ⟨rfl, rfl⟩ := hcloses
      cases hlength
      rfl
    · rw [if_neg hcloses] at hlength
      obtain ⟨k, hrest, hk⟩ := Option.map_eq_some_iff.1 hlength
      obtain rfl : k = m := by omega
      have hstands : Text.dropPrefix? ['*', '/'] (last :: d :: s) = none := by
        by_cases hstar : last = '*'
        · have hslash : ¬ '/' = d := fun heq => hcloses ⟨hstar, heq.symm⟩
          simp [Text.dropPrefix?, hslash]
        · have hstar' : ¬ '*' = last := fun heq => hstar heq.symm
          simp [Text.dropPrefix?, hstar']
      rw [Text.afterFirst, hstands, List.drop_succ_cons]
      exact ih hrest hflat

/-- The plain-text inspection passes over what the lexer passes over, one token at a time, unless it is a
comment with another one opened inside. -/
theorem stripLeadingComments_of_trivia (hscan : scan c rest = .ok (token, n))
    (htrivia : token.isTrivia = true)
    (hflat : (token == .blockComment && Text.contains ((rest.take n).drop 1) ['/', '*']) = false) :
    stripLeadingComments (c :: rest) = stripLeadingComments (rest.drop n) := by
  cases reads_of_scan hscan with
  | blank hc hn =>
    rw [stripLeadingComments_blank hc]
    calc stripLeadingComments rest = stripLeadingComments (rest.take n ++ rest.drop n) := by
          rw [List.take_append_drop]
      _ = stripLeadingComments (rest.drop n) := stripLeadingComments_blanks hn _
  | line hc hrest =>
    subst hc hrest
    rw [stripLeadingComments_line, drop_lineCommentLength]
  | @block body m hc hrest hm =>
    subst hc hrest
    -- The lexer starts counting behind the star, with a blank as the character before.
    have hinside : Text.contains (' ' :: body.take m) ['/', '*'] = false := by
      simpa [Text.contains_cons, Text.dropPrefix?] using hflat
    have hends : Text.afterFirst ['*', '/'] body = body.drop m :=
      afterFirst_of_commentLength hm hinside
    rw [stripLeadingComments_block, hends, List.drop_succ_cons]
  | semicolon hc => cases htrivia
  | word hc => cases htrivia
  | marked hc => cases htrivia
  | other hother => simp [Token.isOther, htrivia] at hother

/-- Where a text goes on with a token and no comment in front of it nests, the plain-text inspection
finds the same token first. -/
theorem stripLeadingComments_eq_skipTrivia (s : List Char) (hflat : nestsInFront s = false)
    (htoken : ∀ c rest, skipTrivia s = c :: rest → (scan c rest).isOk = true) :
    stripLeadingComments s = skipTrivia s := by
  -- Along the lexer's own steps: it passes over a token, stops at one, or cannot read any.
  fun_induction skipTrivia s with
  | case1 => exact stripLeadingComments_nil
  | case2 c rest token n hscan htrivia ih =>
    rw [nestsInFront, hscan] at hflat
    simp only [htrivia, Bool.true_and, Bool.or_eq_false_iff] at hflat
    obtain ⟨hcomment, hflat⟩ := hflat
    rw [← ih hflat htoken, stripLeadingComments_of_trivia hscan htrivia hcomment]
  | case3 c rest token n hscan htrivia =>
    refine stripLeadingComments_of_token ?_ ?_ ?_
    · rw [Bool.eq_false_iff]
      intro hblank
      obtain ⟨m, hscan'⟩ := scan_of_isBlank hblank rest
      cases hscan.symm.trans hscan'
      exact htrivia rfl
    · intro after heq
      cases heq
      cases hscan
      exact htrivia rfl
    · intro after heq
      cases heq
      rw [scan_block] at hscan
      split at hscan <;> cases hscan
      exact htrivia rfl
  | case4 c rest f hscan =>
    have := htoken c rest rfl
    rw [hscan] at this
    cases this

end Sql
end SqlCells
