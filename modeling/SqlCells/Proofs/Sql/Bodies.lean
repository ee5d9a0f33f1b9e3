import SqlCells.Proofs.Effects
import SqlCells.Proofs.Lists
import SqlCells.Proofs.Text.Words
import SqlCells.Sql.Lexer

/-!
# Bodies in front of a break

Readers of quoted texts, comments and escapes stop where they find an end.  What they find in a text
they find in the text with a closing parenthesis, a semicolon or a blank behind it, and no character
more.
-/

namespace SqlCells
namespace Sql

/-- A character that ends most tokens: a closing parenthesis, a semicolon or a blank. -/
def IsBreak (d : Char) : Prop :=
  d = ')' ∨ d = ';' ∨ Text.isBlank d = true

instance (d : Char) : Decidable (IsBreak d) :=
  inferInstanceAs (Decidable (_ ∨ _))

variable {d : Char} {b s v : List Char} {n : Nat}

namespace IsBreak

/-- What holds of every break is checked by going through them. -/
theorem of_forall {p : Char → Bool} (hall : (')' :: ';' :: Text.blanks).all p = true)
    (hd : IsBreak d) : p d = true := by
  apply List.all_eq_true.1 hall
  rcases hd with rfl | rfl | hblank
  · exact List.mem_cons_self
  · exact List.mem_cons_of_mem _ List.mem_cons_self
  · exact List.mem_cons_of_mem _ (List.mem_cons_of_mem _ (Text.mem_blanks hblank))

variable (hd : IsBreak d)

include hd

theorem not_wordPart : isWordPart d = false := by
  have hnone := of_forall (p := fun d => !isWordPart d) (by decide +kernel) hd
  simpa using hnone

theorem not_tagPart : isTagPart d = false := by
  have hnone := of_forall (p := fun d => !isTagPart d) (by decide +kernel) hd
  simpa using hnone

theorem not_number : Text.isNumber d = false := by
  have hnone := of_forall (p := fun d => !Text.isNumber d) (by decide +kernel) hd
  simpa using hnone

theorem not_digit : d.isDigit = false := by
  have hnone := of_forall (p := fun d => !d.isDigit) (by decide +kernel) hd
  simpa using hnone

theorem not_hexDigit : Text.isHexDigit d = false := by
  have hnone := of_forall (p := fun d => !Text.isHexDigit d) (by decide +kernel) hd
  simpa using hnone

theorem not_octalDigit : decide ('0' ≤ d ∧ d ≤ '7') = false := by
  have hnone := of_forall (p := fun d => !decide ('0' ≤ d ∧ d ≤ '7')) (by decide +kernel) hd
  rwa [Bool.not_eq_true'] at hnone

theorem ne {c : Char} (hc : ¬ IsBreak c) : d ≠ c := by
  rintro rfl
  exact hc hd

end IsBreak

/-! ## Bodies

What a reader of a body finds in a text, a value and a number of characters, it finds in the text with
more behind it. -/

/-- A reader that goes on behind some characters passes on what it finds. -/
theorem grow {x y : Option (List Char × Nat)} {length k : Nat} (g : List Char → List Char)
    (hrest : ∀ {v n}, x = some (v, n) → n ≤ length ∧ y = some (v, n))
    (hmap : x.map (fun r => (g r.1, r.2 + k)) = some (v, n)) :
    n ≤ length + k ∧ y.map (fun r => (g r.1, r.2 + k)) = some (v, n) := by
  obtain ⟨⟨v', n'⟩, hx, heq⟩ := Option.map_eq_some_iff.1 hmap
  obtain ⟨hle, hy⟩ := hrest hx
  obtain ⟨rfl, rfl⟩ : g v' = v ∧ n' + k = n := Prod.mk.inj heq
  exact ⟨Nat.add_le_add_right hle k, by rw [hy]; rfl⟩

theorem quotedBody_append {quote : Char} (hd : d ≠ quote) (hbody : quotedBody quote s = some (v, n)) :
    n ≤ s.length ∧ quotedBody quote (s ++ d :: b) = some (v, n) := by
  fun_induction quotedBody quote s generalizing v n with
  | case1 => cases hbody
  | case2 =>
    -- The quote at the end of the text is not doubled by what follows.
    cases hbody
    simp [quotedBody, hd]
  | case3 rest ih =>
    -- A doubled quote stands for one.
    have hmore := grow (quote :: ·) ih hbody
    simpa [quotedBody] using hmore
  | case4 e rest hne =>
    cases hbody
    simp [quotedBody, hne]
  | case5 c rest hne ih =>
    have hmore := grow (c :: ·) ih hbody
    rw [List.cons_append, quotedBody.eq_def]
    simpa [hne] using hmore

theorem tripleBody_append {quote : Char} (hd : d ≠ quote) (hbody : tripleBody quote s = some (v, n)) :
    n ≤ s.length ∧ tripleBody quote (s ++ d :: b) = some (v, n) := by
  induction s generalizing v n with
  | nil => cases hbody
  | cons c rest ih =>
    rw [tripleBody] at hbody
    rw [List.cons_append, tripleBody]
    simp only [take_two_append hd]
    split at hbody
    · next hclose =>
      cases hbody
      rw [if_pos hclose]
      exact ⟨Nat.succ_le_succ (le_length_of_take hclose.2 rfl), rfl⟩
    · next hopen =>
      rw [if_neg hopen]
      exact grow (c :: ·) ih hbody

/-- A comment that is closed in a text is closed there whatever follows. -/
theorem commentLength_append {depth : Nat} {last : Char} (hlength : commentLength depth last s = some n)
    (t : List Char) : n ≤ s.length ∧ commentLength depth last (s ++ t) = some n := by
  have hstep : ∀ {x y : Option Nat} {length : Nat} {m : Nat},
      (∀ {n}, x = some n → n ≤ length ∧ y = some n) → x.map (· + 1) = some m →
      m ≤ length + 1 ∧ y.map (· + 1) = some m := by
    intro x y length m hrest hmap
    obtain ⟨m', hx, rfl⟩ := Option.map_eq_some_iff.1 hmap
    obtain ⟨hle, hy⟩ := hrest hx
    exact ⟨Nat.succ_le_succ hle, by rw [hy]; rfl⟩
  induction s generalizing depth last n with
  | nil => cases hlength
  | cons c rest ih =>
    rw [commentLength] at hlength
    rw [List.cons_append, commentLength]
    split at hlength
    · next hopens =>
      rw [if_pos hopens]
      exact hstep ih hlength
    · next hopens =>
      rw [if_neg hopens]
      split at hlength
      · next hcloses =>
        rw [if_pos hcloses]
        split at hlength
        · next hlast =>
          cases hlength
          rw [if_pos hlast]
          exact ⟨by simp, rfl⟩
        · next hlast =>
          rw [if_neg hlast]
          exact hstep ih hlength
      · next hcloses =>
        rw [if_neg hcloses]
        exact hstep ih hlength

theorem dollarBody_append {pending : Bool} (hbody : dollarBody pending s = some (v, n))
    (t : List Char) : n ≤ s.length ∧ dollarBody pending (s ++ t) = some (v, n) := by
  induction s generalizing pending v n with
  | nil => cases hbody
  | cons c rest ih =>
    rw [dollarBody] at hbody
    rw [List.cons_append, dollarBody]
    split at hbody
    · next hsign =>
      rw [if_pos hsign]
      split at hbody
      · next hpending =>
        cases hbody
        rw [if_pos hpending]
        exact ⟨by simp, rfl⟩
      · next hpending =>
        rw [if_neg hpending]
        exact grow id ih hbody
    · next hsign =>
      rw [if_neg hsign]
      exact grow (_ ++ ·) ih hbody

theorem compareTag_append {tag : List Char} {same : Bool} {k : Nat}
    (hcompare : compareTag tag s = some (same, k)) (t : List Char) :
    k ≤ s.length ∧ compareTag tag (s ++ t) = some (same, k) := by
  induction tag generalizing s same k with
  | nil =>
    rw [compareTag] at hcompare ⊢
    cases hcompare
    exact ⟨Nat.zero_le _, rfl⟩
  | cons e tag ih =>
    cases s with
    | nil => cases hcompare
    | cons c rest =>
      rw [compareTag] at hcompare
      rw [List.cons_append, compareTag]
      split at hcompare
      · next hsame =>
        rw [if_pos hsame]
        obtain ⟨⟨same', k'⟩, hrest, heq⟩ := Option.map_eq_some_iff.1 hcompare
        obtain ⟨hle, hmore⟩ := ih hrest
        cases heq
        exact ⟨Nat.succ_le_succ hle, by rw [hmore]; rfl⟩
      · next hdiffers =>
        cases hcompare
        rw [if_neg hdiffers]
        exact ⟨by simp, rfl⟩

theorem taggedBody_append {tag : List Char} (hbody : taggedBody tag s = some (v, n)) (t : List Char) :
    n ≤ s.length ∧ taggedBody tag (s ++ t) = some (v, n) := by
  fun_induction taggedBody tag s generalizing v n with
  | case1 => cases hbody
  | case2 c rest hsign ih =>
    rw [List.cons_append, taggedBody, if_pos hsign]
    exact grow (c :: ·) ih hbody
  | case3 => cases hbody
  | case4 c rest hsign same k hcompare hcloses =>
    -- The tag stands here and closes the literal.
    obtain ⟨hle, hmore⟩ := compareTag_append hcompare t
    have hdrop : (rest ++ t).drop k = rest.drop k ++ t := List.drop_append_of_le_length hle
    cases hbody
    rw [List.cons_append, taggedBody, if_neg hsign, hmore]
    dsimp only
    cases hrest : rest.drop k with
    | nil =>
      rw [hrest] at hcloses
      cases hcloses.2
    | cons e more =>
      have hsame : same = true ∧ (e :: more ++ t).head? = some '$' := by
        rw [hrest] at hcloses
        exact hcloses
      rw [hdrop, hrest, if_pos hsame]
      have hlength := congrArg List.length hrest
      rw [List.length_drop, List.length_cons] at hlength
      refine ⟨?_, rfl⟩
      rw [List.length_cons]
      omega
  | case5 c rest hsign same k hcompare hopen ih =>
    -- What was compared with the tag in vain belongs to the value.
    obtain ⟨hle, hmore⟩ := compareTag_append hcompare t
    have hdrop : (rest ++ t).drop k = rest.drop k ++ t := List.drop_append_of_le_length hle
    have htake : (rest ++ t).take k = rest.take k := List.take_append_of_le_length hle
    have hbody' : (taggedBody tag (rest.drop k)).map
        (fun r => ('$' :: rest.take k ++ r.1, r.2 + (k + 1))) = some (v, n) := hbody
    obtain ⟨hlength, hfound⟩ := grow ('$' :: rest.take k ++ ·) ih hbody'
    rw [List.cons_append, taggedBody, if_neg hsign, hmore]
    dsimp only
    cases hrest : rest.drop k with
    | nil =>
      rw [hrest] at hbody
      simp [taggedBody] at hbody
    | cons e more =>
      have hdiffers : ¬ (same = true ∧ (e :: more ++ t).head? = some '$') := by
        rw [hrest] at hopen
        exact hopen
      rw [hdrop, htake, hrest, if_neg hdiffers]
      rw [hrest] at hfound
      rw [List.length_drop] at hlength
      refine ⟨?_, hfound⟩
      simp only [List.length_cons]
      omega

theorem unicodeDigits_append {count code ahead : Nat} {c : Char}
    (hdigits : unicodeDigits count code ahead s = .ok c) (t : List Char) :
    count ≤ s.length ∧ unicodeDigits count code ahead (s ++ t) = .ok c := by
  induction count generalizing s code ahead with
  | zero =>
    rw [unicodeDigits] at hdigits ⊢
    exact ⟨Nat.zero_le _, hdigits⟩
  | succ count ih =>
    cases s with
    | nil => cases hdigits
    | cons e rest =>
      rw [unicodeDigits] at hdigits
      rw [List.cons_append, unicodeDigits]
      split at hdigits
      · cases hdigits
      · next value hvalue =>
        obtain ⟨hle, hmore⟩ := ih hdigits
        exact ⟨Nat.succ_le_succ hle, hmore⟩

theorem codeEscape?_append {count : Nat} {c : Char} (hescape : codeEscape? count s = some c)
    (t : List Char) : count ≤ s.length ∧ codeEscape? count (s ++ t) = some c := by
  have hle : count ≤ s.length := by
    unfold codeEscape? at hescape
    dsimp only at hescape
    split at hescape
    · cases hescape
    · next hlong =>
      rw [List.length_take] at hlong
      omega
  unfold codeEscape? at hescape ⊢
  rw [List.take_append_of_le_length hle]
  exact ⟨hle, hescape⟩

theorem backslash?_append {c : Char} {k : Nat} (hd : IsBreak d) (hescape : backslash? s = some (c, k)) :
    k ≤ s.length ∧ backslash? (s ++ d :: b) = some (c, k) := by
  fun_cases backslash? s with
  | case1 => cases hescape
  | case2 | case3 | case4 | case5 | case6 =>
    cases hescape
    exact ⟨by simp, rfl⟩
  | case7 rest | case8 rest =>
    -- A code of four or eight digits.
    obtain ⟨code, hcode, heq⟩ := Option.map_eq_some_iff.1 hescape
    obtain ⟨hle, hmore⟩ := codeEscape?_append hcode (d :: b)
    cases heq
    refine ⟨by simp only [List.length_cons]; omega, ?_⟩
    change Option.map _ (codeEscape? _ (rest ++ d :: b)) = _
    rw [hmore]
    rfl
  | case9 rest digits hnone =>
    -- The letter itself, as no digits follow.
    rw [backslash?.eq_9] at hescape
    rw [List.cons_append, backslash?.eq_9, takeWhile_take_append hd.not_hexDigit]
    refine ⟨?_, hescape⟩
    rw [if_pos hnone] at hescape
    cases hescape
    simp
  | case10 rest digits hsome =>
    -- One or two hexadecimal digits.
    have hlength := length_takeWhile_take_le Text.isHexDigit 2 rest
    rw [backslash?.eq_9] at hescape
    rw [List.cons_append, backslash?.eq_9, takeWhile_take_append hd.not_hexDigit]
    refine ⟨?_, hescape⟩
    rw [if_neg hsome] at hescape
    obtain ⟨code, -, heq⟩ := Option.map_eq_some_iff.1 hescape
    cases heq
    rw [List.length_cons]
    omega
  | case11 e rest hb hf hn hr ht hu hU hx hoctal digits =>
    -- Up to three octal digits.
    have hlength := length_takeWhile_take_le (fun d => decide ('0' ≤ d ∧ d ≤ '7')) 2 rest
    rw [backslash?.eq_10 e _ hb hf hn hr ht hu hU hx] at hescape
    rw [List.cons_append, backslash?.eq_10 e _ hb hf hn hr ht hu hU hx,
      takeWhile_take_append (p := fun d => decide ('0' ≤ d ∧ d ≤ '7')) hd.not_octalDigit]
    refine ⟨?_, hescape⟩
    rw [if_pos hoctal] at hescape
    obtain ⟨code, -, heq⟩ := Option.map_eq_some_iff.1 hescape
    cases heq
    simp only [List.length_cons]
    omega
  | case12 e rest hb hf hn hr ht hu hU hx hoctal =>
    rw [backslash?.eq_10 e _ hb hf hn hr ht hu hU hx, if_neg hoctal] at hescape
    rw [List.cons_append, backslash?.eq_10 e _ hb hf hn hr ht hu hU hx, if_neg hoctal]
    refine ⟨?_, hescape⟩
    obtain ⟨code, -, heq⟩ := Option.map_eq_some_iff.1 hescape
    cases heq
    simp

theorem escapedBody_append (hd : IsBreak d) (hbody : escapedBody s = some (v, n)) :
    n ≤ s.length ∧ escapedBody (s ++ d :: b) = some (v, n) := by
  have hquote : d ≠ '\'' := hd.ne (by decide)
  fun_induction escapedBody s generalizing v n with
  | case1 => cases hbody
  | case2 rest ih =>
    rw [List.cons_append, List.cons_append, escapedBody]
    exact grow ('\'' :: ·) ih hbody
  | case3 tail hclose =>
    -- The quote closes the string, and the break behind it does not double it.
    cases hbody
    rw [List.cons_append, escapedBody.eq_3 _ (append_ne_cons hquote hclose)]
    exact ⟨by simp, rfl⟩
  | case4 => cases hbody
  | case5 rest c k hescape ih =>
    -- An escape, behind which reading goes on.
    obtain ⟨hle, hmore⟩ := backslash?_append (b := b) hd hescape
    have hbody' : (escapedBody (rest.drop k)).map (fun r => (c :: r.1, r.2 + (k + 1))) =
        some (v, n) := hbody
    obtain ⟨hlength, hfound⟩ := grow (c :: ·) ih hbody'
    rw [List.cons_append, escapedBody, hmore]
    dsimp only
    rw [List.drop_append_of_le_length hle]
    refine ⟨?_, hfound⟩
    rw [List.length_drop] at hlength
    rw [List.length_cons]
    omega
  | case6 c rest hdouble hclose hslash ih =>
    rw [List.cons_append, escapedBody.eq_5 c _ (fun _ hc _ => hclose hc) hclose hslash]
    exact grow (c :: ·) ih hbody

theorem growFrom {x y : Except ScanFault (List Char × Nat)} {most : Nat} (g : List Char → List Char)
    (hrest : ∀ {v n}, x = .ok (v, n) → n ≤ most ∧ y = .ok (v, n))
    (hbind : (x >>= fun r => pure (g r.1, r.2)) = .ok (v, n)) :
    n ≤ most ∧ (y >>= fun r => pure (g r.1, r.2)) = .ok (v, n) := by
  obtain ⟨⟨v', n'⟩, hx, heq⟩ := Effects.of_bind_eq_ok hbind
  obtain ⟨hle, hy⟩ := hrest hx
  obtain ⟨rfl, rfl⟩ : g v' = v ∧ n' = n := Prod.mk.inj (Except.ok.inj heq)
  exact ⟨hle, by rw [hy]; rfl⟩

theorem unicodeBody_append {ahead : Nat} (hd : IsBreak d) (hbody : unicodeBody ahead s = .ok (v, n)) :
    n ≤ ahead + s.length ∧ unicodeBody ahead (s ++ d :: b) = .ok (v, n) := by
  have hquote : d ≠ '\'' := hd.ne (by decide)
  fun_induction unicodeBody ahead s generalizing v n with
  | case1 => cases hbody
  | case2 ahead rest ih =>
    obtain ⟨hle, hfound⟩ := growFrom ('\'' :: ·) ih hbody
    rw [List.cons_append, List.cons_append, unicodeBody]
    refine ⟨?_, hfound⟩
    simp only [List.length_cons]
    omega
  | case3 ahead tail hclose =>
    -- The quote closes the string, and the break behind it does not double it.
    cases hbody
    rw [List.cons_append, unicodeBody.eq_3 _ _ (append_ne_cons hquote hclose)]
    exact ⟨by simp, rfl⟩
  | case4 ahead rest ih =>
    obtain ⟨hle, hfound⟩ := growFrom ('\\' :: ·) ih hbody
    rw [List.cons_append, List.cons_append, unicodeBody]
    refine ⟨?_, hfound⟩
    simp only [List.length_cons]
    omega
  | case5 ahead rest ih =>
    -- Six digits behind a plus sign.
    obtain ⟨c, hdigits, hbody'⟩ := Effects.of_bind_eq_ok hbody
    obtain ⟨hcount, hmore⟩ := unicodeDigits_append hdigits (d :: b)
    obtain ⟨hle, hfound⟩ := growFrom (c :: ·) ih hbody'
    rw [List.cons_append, List.cons_append, unicodeBody, hmore, List.drop_append_of_le_length hcount]
    refine ⟨?_, hfound⟩
    rw [List.length_drop] at hle
    simp only [List.length_cons]
    omega
  | case6 ahead rest hslash hplus ih =>
    -- Four digits.
    obtain ⟨c, hdigits, hbody'⟩ := Effects.of_bind_eq_ok hbody
    obtain ⟨hcount, hmore⟩ := unicodeDigits_append hdigits (d :: b)
    obtain ⟨hle, hfound⟩ := growFrom (c :: ·) ih hbody'
    have hslash' := append_ne_cons (b := b) (hd.ne (by decide)) hslash
    have hplus' := append_ne_cons (b := b) (hd.ne (by decide)) hplus
    rw [List.cons_append, unicodeBody.eq_6 _ _ hslash' hplus', hmore,
      List.drop_append_of_le_length hcount]
    refine ⟨?_, hfound⟩
    rw [List.length_drop] at hle
    rw [List.length_cons]
    omega
  | case7 ahead c rest hdouble hclose hslashes hplus hslash ih =>
    obtain ⟨hle, hfound⟩ := growFrom (c :: ·) ih hbody
    rw [List.cons_append, unicodeBody.eq_7 _ c _ (fun _ hc _ => hclose hc) hclose
      (fun _ hc _ => hslash hc) (fun _ hc _ => hslash hc) hslash]
    refine ⟨?_, hfound⟩
    rw [List.length_cons]
    omega

end Sql
end SqlCells
