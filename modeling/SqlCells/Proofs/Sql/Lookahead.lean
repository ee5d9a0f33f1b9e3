import Mathlib.Data.List.Find
import SqlCells.Proofs.Sql.Bodies
import SqlCells.Proofs.Sql.Starts

/-!
# How far the lexer looks

A token is read from the text up to its end and, at most, a few characters behind it.  Where a closing
parenthesis, a semicolon or a blank follows a text, the tokens of the text are read as if it ended
there.  The exceptions are a line comment without a line feed, which runs on, the marks that what
follows is joined to, and a carriage return in front of a line feed.
-/

namespace SqlCells
namespace Sql

variable {d c : Char} {b s rest : List Char} {n : Nat} {token : Token}

/-! ## Words, literals and numbers -/

theorem scanWord_append (hd : IsBreak d) (c : Char) (rest : List Char) :
    (scanWord c rest).2 ≤ rest.length ∧ scanWord c (rest ++ d :: b) = scanWord c rest := by
  unfold scanWord wordTail
  rw [takeWhile_append_stop hd.not_wordPart]
  exact ⟨length_takeWhile_le _ _, rfl⟩

theorem scanLiteral_append {quoting : Quoting} {quote : Char} {before : Nat} {s : List Char}
    (hd : d ≠ quote) (hs : s ≠ []) (hscan : scanLiteral quoting quote before s = .ok (token, n)) :
    n < before + s.length ∧ scanLiteral quoting quote before (s ++ d :: b) = .ok (token, n) := by
  obtain ⟨c, rest, rfl⟩ := List.exists_cons_of_ne_nil hs
  unfold scanLiteral at hscan ⊢
  rw [List.cons_append, List.drop_one, List.tail_cons]
  rw [List.drop_one, List.tail_cons] at hscan
  split at hscan
  · next v m hbody =>
    obtain ⟨hle, hmore⟩ := quotedBody_append (b := b) hd hbody
    cases hscan
    rw [hmore]
    refine ⟨?_, rfl⟩
    rw [List.length_cons]
    omega
  · cases hscan

theorem scanRaw_append {quote : Char} (hd : d ≠ quote)
    (hscan : scanRaw quote (quote :: rest) = .ok (token, n)) :
    n ≤ (quote :: rest).length ∧ scanRaw quote (quote :: rest ++ d :: b) = .ok (token, n) := by
  unfold scanRaw at hscan ⊢
  -- How many quotes stand in front does not change with what is behind.
  simp only [take_three_append hd rest, take_two_append hd (quote :: rest)]
  split at hscan
  · next htriple =>
    have hlong : 3 ≤ (quote :: rest).length := le_length_of_take htriple rfl
    rw [if_pos htriple, List.drop_append_of_le_length hlong]
    split at hscan
    · next v m hbody =>
      obtain ⟨hle, hmore⟩ := tripleBody_append (b := b) hd hbody
      cases hscan
      rw [hmore]
      rw [List.length_drop] at hle
      exact ⟨by omega, rfl⟩
    · cases hscan
  · next htriple =>
    rw [if_neg htriple]
    split at hscan
    · next hempty =>
      rw [if_pos hempty]
      cases hscan
      exact ⟨le_length_of_take hempty rfl, rfl⟩
    · next hempty =>
      rw [if_neg hempty]
      rw [List.drop_one, List.tail_cons] at hscan
      rw [List.cons_append, List.drop_one, List.tail_cons]
      split at hscan
      · next v m hbody =>
        obtain ⟨hle, hmore⟩ := quotedBody_append (b := b) hd hbody
        cases hscan
        rw [hmore]
        exact ⟨Nat.succ_le_succ hle, rfl⟩
      · cases hscan

/-- The sign in front of the digits of an exponent, and what is behind it. -/
def exponentSign (s : List Char) : List Char × List Char :=
  match s with
  | '+' :: rest => (['+'], rest)
  | '-' :: rest => (['-'], rest)
  | _ => ([], s)

theorem takeExponent_cons (e : Char) (rest : List Char) :
    takeExponent (e :: rest) =
      if e = 'e' ∨ e = 'E' then
        let digits := (exponentSign rest).2.takeWhile Char.isDigit
        if digits.isEmpty then [] else e :: (exponentSign rest).1 ++ digits
      else [] :=
  rfl

theorem exponentSign_append (hd : IsBreak d) (s : List Char) :
    exponentSign (s ++ d :: b) = ((exponentSign s).1, (exponentSign s).2 ++ d :: b) ∧
      (exponentSign s).1.length + (exponentSign s).2.length = s.length := by
  fun_cases exponentSign s with
  | case1 rest | case2 rest =>
    refine ⟨rfl, ?_⟩
    simp only [List.length_cons, List.length_nil]
    omega
  | case3 s hplus hminus =>
    have hplus' := append_ne_cons (b := b) (hd.ne (by decide)) hplus
    have hminus' := append_ne_cons (b := b) (hd.ne (by decide)) hminus
    rw [exponentSign.eq_3 _ hplus' hminus']
    simp

theorem takeExponent_append (hd : IsBreak d) (s : List Char) :
    (takeExponent s).length ≤ s.length ∧ takeExponent (s ++ d :: b) = takeExponent s := by
  cases s with
  | nil =>
    have hletter : ¬ (d = 'e' ∨ d = 'E') := by
      rintro (heq | heq)
      · exact hd.ne (by decide) heq
      · exact hd.ne (by decide) heq
    rw [List.nil_append, takeExponent_cons, if_neg hletter]
    exact ⟨Nat.le_refl _, rfl⟩
  | cons e rest =>
    obtain ⟨hsign, hlength⟩ := exponentSign_append (b := b) hd rest
    rw [List.cons_append, takeExponent_cons, takeExponent_cons, hsign,
      takeWhile_append_stop hd.not_digit]
    refine ⟨?_, rfl⟩
    have hdigits := length_takeWhile_le Char.isDigit (exponentSign rest).2
    split
    · dsimp only
      split
      · exact Nat.zero_le _
      · simp only [List.length_cons, List.length_append]
        omega
    · exact Nat.zero_le _

/-- The point and the digits behind it, if a point is next. -/
def fraction (s : List Char) : List Char :=
  match s with
  | '.' :: rest => '.' :: rest.takeWhile Char.isDigit
  | _ => []

theorem fraction_append (hd : IsBreak d) (s : List Char) :
    (fraction s).length ≤ s.length ∧ fraction (s ++ d :: b) = fraction s := by
  fun_cases fraction s with
  | case1 rest =>
    rw [List.cons_append, fraction.eq_1, takeWhile_append_stop hd.not_digit]
    exact ⟨Nat.succ_le_succ (length_takeWhile_le _ _), rfl⟩
  | case2 s hpoint =>
    have hpoint' := append_ne_cons (b := b) (hd.ne (by decide)) hpoint
    rw [fraction.eq_2 _ hpoint']
    exact ⟨Nat.zero_le _, rfl⟩

/-- A number that is not hexadecimal, from its digits up to an exponent on. -/
def scanDecimal (s mantissa : List Char) : Token × Nat :=
  if mantissa = ['.'] then (.symbol ".", 0)
  else
    let digits := mantissa ++ takeExponent (s.drop mantissa.length)
    let long := (s.drop digits.length).head? == some 'L'
    (.number (String.ofList digits) long, digits.length - 1 + (if long then 1 else 0))

theorem scanNumber_eq (s : List Char) :
    scanNumber s =
      let whole := s.takeWhile Char.isDigit
      let rest := s.dropWhile Char.isDigit
      if whole = ['0'] ∧ rest.head? = some 'x' then
        let digits := rest.tail.takeWhile Text.isHexDigit
        (.literal .hexadecimal (String.ofList digits), digits.length + 1)
      else scanDecimal s (whole ++ fraction rest) := by
  unfold scanNumber
  dsimp only
  generalize s.dropWhile Char.isDigit = rest
  generalize s.takeWhile Char.isDigit = whole
  split
  · next more hzero =>
    rw [if_pos ⟨of_decide_eq_true hzero, rfl⟩]
    rfl
  · next rest _ _ hplain =>
    have hdecimal : ¬ (whole = ['0'] ∧ rest.head? = some 'x') := by
      rintro ⟨hzero, hx⟩
      obtain ⟨more, rfl⟩ := List.head?_eq_some_iff.1 hx
      exact hplain more (decide_eq_true hzero) rfl
    rw [if_neg hdecimal]
    rfl

theorem scanDecimal_append (hd : IsBreak d) {s mantissa : List Char} (hpos : 0 < mantissa.length)
    (hle : mantissa.length ≤ s.length) :
    (scanDecimal s mantissa).2 < s.length ∧
      scanDecimal (s ++ d :: b) mantissa = scanDecimal s mantissa := by
  obtain ⟨hexponent, hmore⟩ := takeExponent_append (b := b) hd (s.drop mantissa.length)
  rw [List.length_drop] at hexponent
  unfold scanDecimal
  rw [List.drop_append_of_le_length hle, hmore]
  generalize hdigits : mantissa ++ takeExponent (s.drop mantissa.length) = digits
  have hlength : mantissa.length ≤ digits.length ∧ digits.length ≤ s.length := by
    rw [← hdigits, List.length_append]
    omega
  have hlong : (((s ++ d :: b).drop digits.length).head? == some 'L') =
      ((s.drop digits.length).head? == some 'L') := by
    rw [List.drop_append_of_le_length hlength.2, Bool.eq_iff_iff, beq_iff_eq, beq_iff_eq]
    exact head?_append_stop (hd.ne (by decide)) _
  dsimp only
  rw [hlong]
  refine ⟨?_, rfl⟩
  split
  · dsimp only
    omega
  · dsimp only
    split
    · next hsuffix =>
      -- The suffix stands behind the digits.
      have hmost : digits.length < s.length := by
        apply Nat.lt_of_not_le
        intro hshort
        rw [List.drop_eq_nil_of_le hshort] at hsuffix
        cases hsuffix
      omega
    · omega

theorem scanNumber_append (hd : IsBreak d) (hc : c.isDigit = true ∨ c = '.') (rest : List Char) :
    (scanNumber (c :: rest)).2 ≤ rest.length ∧
      scanNumber (c :: rest ++ d :: b) = scanNumber (c :: rest) := by
  have hsplit : (c :: rest).takeWhile Char.isDigit ++ (c :: rest).dropWhile Char.isDigit = c :: rest :=
    List.takeWhile_append_dropWhile
  -- The digits end in the text, and what is behind them is looked at again in front of the break.
  rw [scanNumber_eq, scanNumber_eq, takeWhile_append_stop hd.not_digit,
    dropWhile_append_stop hd.not_digit]
  generalize hwhole : (c :: rest).takeWhile Char.isDigit = whole at hsplit ⊢
  generalize hbehind : (c :: rest).dropWhile Char.isDigit = behind at hsplit ⊢
  obtain ⟨hfraction, hmore⟩ := fraction_append (b := b) hd behind
  have hhex : (behind ++ d :: b).head? = some 'x' ↔ behind.head? = some 'x' :=
    head?_append_stop (hd.ne (by decide)) behind
  have hlength := congrArg List.length hsplit
  rw [List.length_append, List.length_cons] at hlength
  dsimp only
  simp only [hhex, hmore]
  split
  · next hzero =>
    obtain ⟨more, rfl⟩ := List.head?_eq_some_iff.1 hzero.2
    rw [List.cons_append, List.tail_cons, List.tail_cons, takeWhile_append_stop hd.not_hexDigit]
    rw [hzero.1] at hlength
    simp only [List.length_cons, List.length_nil] at hlength ⊢
    have hdigits := length_takeWhile_le Text.isHexDigit more
    exact ⟨by omega, trivial⟩
  · have hpos : 0 < (whole ++ fraction behind).length := by
      rw [List.length_append]
      rcases hc with hdigit | rfl
      · rw [List.takeWhile_cons_of_pos hdigit] at hwhole
        rw [← hwhole, List.length_cons]
        omega
      · rw [List.dropWhile_cons_of_neg (by decide)] at hbehind
        rw [← hbehind, fraction, List.length_cons]
        omega
    have hle : (whole ++ fraction behind).length ≤ (c :: rest).length := by
      rw [List.length_append, List.length_cons]
      omega
    obtain ⟨hcount, hsame⟩ := scanDecimal_append (b := b) hd hpos hle
    exact ⟨Nat.le_of_lt_succ hcount, hsame⟩

/-! ## Signs -/

/-- No operator has a break in it. -/
theorem not_mem_operators (hd : IsBreak d) {c : Char} {op : String} (hop : op ∈ operators c) :
    d ∉ op.toList := by
  have hnone : ((operators c).all fun op => op.toList.all fun e => !decide (IsBreak e)) = true := by
    unfold operators
    split <;> decide +kernel
  intro hmem
  have hbreak := List.all_eq_true.1 (List.all_eq_true.1 hnone op hop) d hmem
  rw [decide_eq_true hd] at hbreak
  cases hbreak

theorem scanOperator_append (hd : IsBreak d) (c : Char) (rest : List Char) :
    (scanOperator c rest).2 ≤ rest.length ∧ scanOperator c (rest ++ d :: b) = scanOperator c rest := by
  have hfind : (operators c).find? (fun op => Text.startsWith (c :: (rest ++ d :: b)) op.toList) =
      (operators c).find? fun op => Text.startsWith (c :: rest) op.toList := by
    apply List.find?_congr
    intro op hop
    exact Text.startsWith_append_stop (not_mem_operators hd hop) (c :: rest)
  unfold scanOperator
  rw [hfind]
  refine ⟨?_, rfl⟩
  split
  · next op hop =>
    have hprefix := List.find?_some hop
    have hlength := (Text.startsWith_iff.1 hprefix).length_le
    rw [List.length_cons, String.length_toList] at hlength
    dsimp only
    omega
  · exact Nat.zero_le _

/-- Whether a token goes on where a break follows it: a line comment without its line feed does, in
front of anything but a space a lone mark, and in front of a line feed a carriage return. -/
inductive GoesOn (d : Char) : Token → List Char → Prop
  | comment {text : List Char} (hfeed : '\n' ∉ text) : GoesOn d .lineComment text
  | hash (hspace : d ≠ ' ') : GoesOn d (.symbol "#") ['#']
  | sign (hspace : d ≠ ' ') : GoesOn d (.symbol "@") ['@']
  | signs (hspace : d ≠ ' ') : GoesOn d (.symbol "@@") ['@', '@']
  | returned (hfeed : d = '\n') : GoesOn d .blank ['\r']

theorem scanHash_append (hd : IsBreak d) (rest : List Char)
    (hclosed : (scanHash rest).2 = rest.length → ¬ GoesOn d (scanHash rest).1 ('#' :: rest)) :
    (scanHash rest).2 ≤ rest.length ∧ scanHash (rest ++ d :: b) = scanHash rest := by
  fun_cases scanHash rest with
  | case1 | case2 => exact ⟨by simp, rfl⟩
  | case3 tail hgreater =>
    rw [List.cons_append, scanHash.eq_3 _ (append_ne_cons (hd.ne (by decide)) hgreater)]
    exact ⟨by simp, rfl⟩
  | case4 => exact ⟨by simp, rfl⟩
  | case5 e rest hminus hgreaters hgreater hspace tail =>
    rw [List.cons_append, scanHash.eq_5 e _ hminus (fun _ he _ => hgreater he) hgreater hspace]
    unfold wordTail
    rw [takeWhile_append_stop hd.not_wordPart]
    exact ⟨Nat.succ_le_succ (length_takeWhile_le _ _), rfl⟩
  | case6 =>
    by_cases hspace : d = ' '
    · rw [hspace]
      exact ⟨Nat.le_refl _, rfl⟩
    · exact absurd (GoesOn.hash hspace) (hclosed rfl)

theorem scanAt_append (hd : IsBreak d) (rest : List Char)
    (hclosed : (scanAt rest).2 = rest.length → ¬ GoesOn d (scanAt rest).1 ('@' :: rest)) :
    (scanAt rest).2 ≤ rest.length ∧ scanAt (rest ++ d :: b) = scanAt rest := by
  fun_cases scanAt rest with
  | case1 | case2 | case3 => exact ⟨by simp, rfl⟩
  | case4 e rest hspace tail =>
    rw [List.cons_append, List.cons_append, scanAt.eq_4 e _ hspace]
    unfold wordTail
    rw [takeWhile_append_stop hd.not_wordPart]
    have hlength := length_takeWhile_le isWordPart rest
    refine ⟨?_, rfl⟩
    simp only [tail, wordTail, List.length_cons]
    omega
  | case5 =>
    by_cases hspace : d = ' '
    · rw [hspace]
      exact ⟨Nat.le_refl _, rfl⟩
    · exact absurd (GoesOn.signs hspace) (hclosed rfl)
  | case6 => exact ⟨by simp, rfl⟩
  | case7 e rest hgreater hquestion hspaces hmore hlone hspace tail =>
    -- The sign behind the first is not another one, or one of the cases before would apply.
    have hmark : e = '@' → False := by
      rintro rfl
      cases rest with
      | nil => exact hlone rfl rfl
      | cons f more => exact hmore f more rfl rfl
    rw [List.cons_append, scanAt.eq_7 e _ hgreater hquestion (fun _ he _ => hmark he)
      (fun _ _ he _ => hmark he) (fun he _ => hmark he) hspace]
    unfold wordTail
    rw [takeWhile_append_stop hd.not_wordPart]
    exact ⟨Nat.succ_le_succ (length_takeWhile_le _ _), rfl⟩
  | case8 =>
    by_cases hspace : d = ' '
    · rw [hspace]
      exact ⟨Nat.le_refl _, rfl⟩
    · exact absurd (GoesOn.sign hspace) (hclosed rfl)

theorem scanDollar_append (hd : IsBreak d) (hscan : scanDollar rest = .ok (token, n)) :
    n ≤ rest.length ∧ scanDollar (rest ++ d :: b) = .ok (token, n) := by
  have hsign : d ≠ '$' := hd.ne (by decide)
  by_cases hdouble : ∃ body, rest = '$' :: body
  · obtain ⟨body, rfl⟩ := hdouble
    rw [scanDollar] at hscan
    rw [List.cons_append, scanDollar]
    split at hscan
    · next v m hbody =>
      obtain ⟨hle, hmore⟩ := dollarBody_append hbody (d :: b)
      cases hscan
      rw [hmore]
      exact ⟨Nat.succ_le_succ hle, rfl⟩
    · cases hscan
  · have hsingle : ∀ body, rest = '$' :: body → False := fun body heq => hdouble ⟨body, heq⟩
    -- A tag ends in front of the break, and so does what would make it a literal.
    have htag := length_takeWhile_le isTagPart rest
    rw [scanDollar.eq_2 _ hsingle] at hscan
    rw [scanDollar.eq_2 _ (append_ne_cons hsign hsingle), takeWhile_append_stop hd.not_tagPart,
      List.drop_append_of_le_length htag]
    generalize rest.takeWhile isTagPart = tag at hscan htag ⊢
    have hlength : tag.length + (rest.drop tag.length).length = rest.length := by
      rw [List.length_drop]
      omega
    generalize rest.drop tag.length = behind at hscan hlength ⊢
    split at hscan
    · next body =>
      split at hscan
      · next v m hbody =>
        obtain ⟨hle, hmore⟩ := taggedBody_append hbody (d :: b)
        cases hscan
        rw [List.length_cons] at hlength
        refine ⟨by omega, ?_⟩
        split
        · next body' heq =>
          obtain rfl : body ++ d :: b = body' := (List.cons.inj heq).2
          rw [hmore]
        · next hother => exact absurd rfl (hother (body ++ d :: b))
      · cases hscan
    · next hnone =>
      cases hscan
      refine ⟨htag, ?_⟩
      split
      · next body heq => exact absurd heq (append_ne_cons hsign hnone body)
      · rfl

/-- A line comment without a line feed is the rest of the text. -/
theorem lineCommentLength_of_not_mem (hfeed : '\n' ∉ rest) : lineCommentLength rest = rest.length := by
  have hwhole : rest.takeWhile (· != '\n') = rest := by
    rw [List.takeWhile_eq_self_iff]
    intro e he
    simpa using fun heq : e = '\n' => hfeed (heq ▸ he)
  unfold lineCommentLength
  rw [hwhole]
  exact if_neg (Nat.lt_irrefl _)

/-- A line comment with its line feed ends there. -/
theorem lineCommentLength_append (hfeed : '\n' ∈ rest) (t : List Char) :
    lineCommentLength rest ≤ rest.length ∧ lineCommentLength (rest ++ t) = lineCommentLength rest := by
  obtain ⟨hlt, hmore⟩ := takeWhile_append_of_mem (p := (· != '\n')) hfeed (by decide) t
  have hlt' : (rest.takeWhile (· != '\n')).length < (rest ++ t).length := by
    rw [List.length_append]
    omega
  unfold lineCommentLength
  dsimp only
  rw [hmore, if_pos hlt, if_pos hlt']
  exact ⟨hlt, rfl⟩

/-! ## Quoted texts, comments and blanks -/

theorem scanEscaped_append (hd : IsBreak d) {tail : List Char}
    (hscan : scanEscaped ('\'' :: tail) = .ok (token, n)) :
    n ≤ ('\'' :: tail).length ∧ scanEscaped ('\'' :: tail ++ d :: b) = .ok (token, n) := by
  unfold scanEscaped at hscan ⊢
  rw [List.drop_one, List.tail_cons] at hscan
  rw [List.cons_append, List.drop_one, List.tail_cons]
  split at hscan
  · next v m hbody =>
    obtain ⟨hle, hmore⟩ := escapedBody_append (b := b) hd hbody
    cases hscan
    rw [hmore]
    exact ⟨Nat.succ_le_succ hle, rfl⟩
  · cases hscan

theorem scanUnicode_append (hd : IsBreak d) {tail : List Char}
    (hscan : scanUnicode ('&' :: '\'' :: tail) = .ok (token, n)) :
    n ≤ ('&' :: '\'' :: tail).length ∧
      scanUnicode ('&' :: '\'' :: tail ++ d :: b) = .ok (token, n) := by
  obtain ⟨⟨v, m⟩, hbody, heq⟩ := Effects.of_bind_eq_ok hscan
  change unicodeBody 3 tail = .ok (v, m) at hbody
  obtain ⟨hle, hmore⟩ := unicodeBody_append (b := b) hd hbody
  cases heq
  unfold scanUnicode
  rw [List.cons_append, List.cons_append, List.drop_succ_cons, List.drop_succ_cons, List.drop_zero, hmore]
  refine ⟨?_, rfl⟩
  simp only [List.length_cons]
  omega

theorem scanQuotedName_append {quote : Char} (hd : d ≠ quote)
    (hscan : scanQuotedName quote rest = .ok (token, n)) :
    n ≤ rest.length ∧ scanQuotedName quote (rest ++ d :: b) = .ok (token, n) := by
  unfold scanQuotedName at hscan ⊢
  split at hscan
  · next v m hbody =>
    obtain ⟨hle, hmore⟩ := quotedBody_append (b := b) hd hbody
    cases hscan
    rw [hmore]
    exact ⟨hle, rfl⟩
  · cases hscan

theorem scanBlockComment_append {body : List Char}
    (hscan : scanBlockComment ('*' :: body) = .ok (token, n)) (t : List Char) :
    n ≤ ('*' :: body).length ∧ scanBlockComment ('*' :: body ++ t) = .ok (token, n) := by
  unfold scanBlockComment at hscan ⊢
  rw [List.drop_one, List.tail_cons] at hscan
  rw [List.cons_append, List.drop_one, List.tail_cons]
  split at hscan
  · next m hcomment =>
    obtain ⟨hle, hmore⟩ := commentLength_append hcomment t
    cases hscan
    rw [hmore]
    exact ⟨Nat.succ_le_succ hle, rfl⟩
  · cases hscan

theorem scanQuestionMark_append (hd : IsBreak d) (rest : List Char) :
    (scanQuestionMark rest).2 ≤ rest.length ∧
      scanQuestionMark (rest ++ d :: b) = scanQuestionMark rest := by
  unfold scanQuestionMark
  rw [takeWhile_append_stop hd.not_number]
  exact ⟨length_takeWhile_le _ _, rfl⟩

theorem scanReturn_append (rest : List Char)
    (hclosed : (scanReturn rest).2 = rest.length → ¬ GoesOn d (scanReturn rest).1 ('\r' :: rest)) :
    (scanReturn rest).2 ≤ rest.length ∧ scanReturn (rest ++ d :: b) = scanReturn rest := by
  cases rest with
  | nil =>
    have hfeed : d ≠ '\n' := fun hfeed => hclosed rfl (.returned hfeed)
    unfold scanReturn
    simp [hfeed]
  | cons e more =>
    refine ⟨?_, rfl⟩
    unfold scanReturn
    rw [List.length_cons]
    dsimp only
    split
    · omega
    · omega

/-! ## Tokens -/

/-- No mark has a break in what stands behind its first character. -/
theorem not_mem_marks (hd : IsBreak d) {m : Mark} (hm : m ∈ marks) : d ∉ m.behind := by
  have hnone : (marks.all fun m => m.behind.all fun e => !decide (IsBreak e)) = true := by
    decide +kernel
  intro hmem
  have hbreak := List.all_eq_true.1 (List.all_eq_true.1 hnone m hm) d hmem
  rw [decide_eq_true hd] at hbreak
  cases hbreak

/-- A break behind a text does not change how its first token starts. -/
theorem startOf_append (hd : IsBreak d) (c : Char) (rest : List Char) :
    Start.of c (rest ++ d :: b) = Start.of c rest := by
  have hfind : (marks.find? fun m => m.stands c (rest ++ d :: b)) =
      marks.find? fun m => m.stands c rest := by
    apply List.find?_congr
    intro m hm
    unfold Mark.stands
    rw [Text.startsWith_append_stop (not_mem_marks hd hm)]
  unfold Start.of
  rw [hfind]

/-- What is always read is read in front of a break as it is read without it. -/
theorem ok_append {read more : Token × Nat} {k : Nat} (happend : read.2 ≤ k ∧ more = read)
    (hread : (.ok read : Except ScanFault (Token × Nat)) = .ok (token, n)) :
    n ≤ k ∧ (.ok more : Except ScanFault (Token × Nat)) = .ok (token, n) := by
  obtain ⟨hle, rfl⟩ := happend
  cases hread
  exact ⟨hle, rfl⟩

/-- A token that is read from a text is read from it in front of a break too, unless it is the last of
the text and goes on. -/
theorem scan_append (hd : IsBreak d) (hscan : scan c rest = .ok (token, n))
    (hclosed : n = rest.length → ¬ GoesOn d token (c :: rest)) :
    n ≤ rest.length ∧ scan c (rest ++ d :: b) = .ok (token, n) := by
  have hquote : ∀ {quote : Char}, quote = '\'' ∨ quote = '"' → d ≠ quote := by
    rintro quote (rfl | rfl)
    · exact hd.ne (by decide)
    · exact hd.ne (by decide)
  -- The token starts alike in both texts, so it is read by the same reader.
  unfold scan at hscan ⊢
  rw [startOf_append hd]
  have hstart := starts c rest
  generalize Start.of c rest = start at hscan hstart ⊢
  cases hstart with
  | carriageReturn =>
    refine ok_append (scanReturn_append rest ?_) hscan
    rwa [Except.ok.inj hscan]
  | string =>
    obtain ⟨hlt, hmore⟩ := scanLiteral_append (b := b) (hd.ne (by decide)) (List.cons_ne_nil _ _) hscan
    rw [List.length_cons] at hlt
    exact ⟨by omega, hmore⟩
  | literal hc hq =>
    obtain ⟨hlt, hmore⟩ := scanLiteral_append (b := b) (hquote hq) (List.cons_ne_nil _ _) hscan
    exact ⟨by omega, hmore⟩
  | raw hc hq => exact scanRaw_append (hquote hq) hscan
  | escaped hc => exact scanEscaped_append hd hscan
  | unicode hc => exact scanUnicode_append hd hscan
  | quotedName hc =>
    refine scanQuotedName_append ?_ hscan
    rcases hc with rfl | rfl
    · exact hd.ne (by decide)
    · exact hd.ne (by decide)
  | semicolon => exact ok_append ⟨Nat.zero_le _, rfl⟩ hscan
  | @lineComment tail =>
    cases hscan
    by_cases hfeed : '\n' ∈ '-' :: tail
    · obtain ⟨hle, hmore⟩ := lineCommentLength_append hfeed (d :: b)
      exact ⟨hle, congrArg (fun m => Except.ok (Token.lineComment, m)) hmore⟩
    · have hopen : GoesOn d .lineComment ('-' :: '-' :: tail) := .comment (by simpa using hfeed)
      exact absurd hopen (hclosed (lineCommentLength_of_not_mem hfeed))
  | blockComment => exact scanBlockComment_append hscan (d :: b)
  | hashSign =>
    refine ok_append (scanHash_append hd rest ?_) hscan
    rwa [Except.ok.inj hscan]
  | atSign =>
    refine ok_append (scanAt_append hd rest ?_) hscan
    rwa [Except.ok.inj hscan]
  | questionMark => exact ok_append (scanQuestionMark_append hd rest) hscan
  | dollarSign => exact scanDollar_append hd hscan
  | number hc => exact ok_append (scanNumber_append hd hc rest) hscan
  | word hnumber hc => exact ok_append (scanWord_append hd c rest) hscan
  | blank hword hc => exact ok_append ⟨Nat.zero_le _, rfl⟩ hscan
  | operator hnumber hword hblank => exact ok_append (scanOperator_append hd c rest) hscan

end Sql
end SqlCells
