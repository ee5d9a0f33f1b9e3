import SqlCells.Proofs.Sql.Endings
import SqlCells.Proofs.Sql.Trivia

/-!
# Tokens in front of a break

A token that is not finished in front of a break goes beyond it: a quoted text or comment that is not
closed there goes on up to its closing character, and the tokens that go on swallow the break.  So a
token that is read within a text is read from the text alone.
-/

namespace SqlCells
namespace Sql

variable {c d q : Char} {b rest s t : List Char} {token : Token} {n : Nat}

/-! ## Tokens that are not closed -/

/-- The characters that close quoted texts and comments. -/
def closers : List Char := ['\'', '"', '`', '/', '$']

/-- Whether a token of `n` characters behind its first goes beyond `s` and ends in `t` with a closing
character. -/
def Overruns (s t : List Char) (n : Nat) : Prop :=
  ∃ q ∈ closers, ∃ m, n = s.length + m + 1 ∧ t[m]? = some q

theorem Overruns.lt (h : Overruns s t n) : s.length < n := by
  obtain ⟨q, -, m, rfl, -⟩ := h
  omega

/-- A break closes nothing. -/
theorem not_overruns_break (hd : IsBreak d) : ¬ Overruns s [d] n := by
  rintro ⟨q, hq, m, rfl, hclose⟩
  obtain ⟨hm, rfl⟩ := List.getElem?_eq_some_iff.1 hclose
  have hnone : (closers.all fun q => !decide (IsBreak q)) = true := by decide +kernel
  rw [List.getElem_singleton] at hq
  have hbreak := List.all_eq_true.1 hnone d hq
  rw [decide_eq_true hd] at hbreak
  cases hbreak

theorem scanLiteral_overruns {quoting : Quoting} {before : Nat} {f : ScanFault}
    (hopen : scanLiteral quoting q before (q :: s) = .error f)
    (hscan : scanLiteral quoting q before (q :: (s ++ t)) = .ok (token, n)) :
    ∃ m, n = before + s.length + m + 1 ∧ t[m]? = some q := by
  unfold scanLiteral at hopen hscan
  rw [List.drop_one, List.tail_cons] at hopen hscan
  split at hopen
  · cases hopen
  · next hnone =>
    split at hscan
    · next v k hbody =>
      obtain ⟨m, rfl, hclose⟩ := (endsAt_quotedBody hbody).overruns hnone hbody
      cases hscan
      exact ⟨m, by omega, hclose⟩
    · cases hscan

theorem scanRaw_overruns {f : ScanFault} (hd : d ≠ q) (hopen : scanRaw q (q :: s) = .error f)
    (hscan : scanRaw q (q :: s ++ d :: b) = .ok (token, n)) :
    ∃ m, n = (q :: s).length + m + 1 ∧ (d :: b)[m]? = some q := by
  unfold scanRaw at hopen hscan
  simp only [take_three_append hd s, take_two_append hd (q :: s)] at hscan
  -- Three quotes in front, two, or one: two are closed already.
  split at hopen
  · next htriple =>
    rw [if_pos htriple] at hscan
    have hlong : 3 ≤ (q :: s).length := le_length_of_take htriple rfl
    rw [List.drop_append_of_le_length hlong] at hscan
    split at hopen
    · cases hopen
    · next hnone =>
      split at hscan
      · next v k hbody =>
        obtain ⟨m, rfl, hclose⟩ := (endsAt_tripleBody hbody).overruns hnone hbody
        cases hscan
        refine ⟨m, ?_, hclose⟩
        rw [List.length_drop]
        omega
      · cases hscan
  · next htriple =>
    rw [if_neg htriple] at hscan
    split at hopen
    · cases hopen
    · next hempty =>
      rw [if_neg hempty] at hscan
      rw [List.drop_one, List.tail_cons] at hopen
      rw [List.cons_append, List.drop_one, List.tail_cons] at hscan
      split at hopen
      · cases hopen
      · next hnone =>
        split at hscan
        · next v k hbody =>
          obtain ⟨m, rfl, hclose⟩ := (endsAt_quotedBody hbody).overruns hnone hbody
          cases hscan
          exact ⟨m, by rw [List.length_cons]; omega, hclose⟩
        · cases hscan

theorem scanDollar_overruns {f : ScanFault} (hd : IsBreak d) (hopen : scanDollar rest = .error f)
    (hscan : scanDollar (rest ++ d :: b) = .ok (token, n)) :
    ∃ m, n = rest.length + m + 1 ∧ (d :: b)[m]? = some '$' := by
  have hsign : d ≠ '$' := hd.ne (by decide)
  by_cases hdouble : ∃ body, rest = '$' :: body
  · obtain ⟨body, rfl⟩ := hdouble
    rw [scanDollar] at hopen
    rw [List.cons_append, scanDollar] at hscan
    split at hopen
    · cases hopen
    · next hnone =>
      split at hscan
      · next v k hbody =>
        obtain ⟨m, rfl, hclose⟩ := (endsAt_dollarBody hbody).overruns hnone hbody
        cases hscan
        exact ⟨m, by rw [List.length_cons]; omega, hclose⟩
      · cases hscan
  · have hsingle : ∀ body, rest = '$' :: body → False := fun body heq => hdouble ⟨body, heq⟩
    have htag := length_takeWhile_le isTagPart rest
    rw [scanDollar.eq_2 _ hsingle] at hopen
    rw [scanDollar.eq_2 _ (append_ne_cons hsign hsingle), takeWhile_append_stop hd.not_tagPart,
      List.drop_append_of_le_length htag] at hscan
    generalize rest.takeWhile isTagPart = tag at hopen htag hscan
    have hlength : tag.length + (rest.drop tag.length).length = rest.length := by
      rw [List.length_drop]
      omega
    generalize rest.drop tag.length = behind at hopen hlength hscan
    split at hopen
    · next body =>
      rw [List.length_cons] at hlength
      split at hopen
      · cases hopen
      · next hnone =>
        split at hscan
        · next body' heq =>
          obtain rfl : body ++ d :: b = body' := (List.cons.inj heq).2
          split at hscan
          · next v k hbody =>
            obtain ⟨m, rfl, hclose⟩ := (endsAt_taggedBody hbody).overruns hnone hbody
            cases hscan
            exact ⟨m, by omega, hclose⟩
          · cases hscan
        · next hother => exact absurd rfl (hother (body ++ d :: b))
    · cases hopen

theorem scanEscaped_overruns {tail : List Char} {f : ScanFault}
    (hopen : scanEscaped ('\'' :: tail) = .error f)
    (hscan : scanEscaped ('\'' :: tail ++ t) = .ok (token, n)) :
    ∃ m, n = ('\'' :: tail).length + m + 1 ∧ t[m]? = some '\'' := by
  unfold scanEscaped at hopen hscan
  rw [List.drop_one, List.tail_cons] at hopen
  rw [List.cons_append, List.drop_one, List.tail_cons] at hscan
  split at hopen
  · cases hopen
  · next hnone =>
    split at hscan
    · next v k hbody =>
      obtain ⟨m, rfl, hclose⟩ := (endsAt_escapedBody hbody).overruns hnone hbody
      cases hscan
      exact ⟨m, by rw [List.length_cons]; omega, hclose⟩
    · cases hscan

theorem scanUnicode_overruns {tail : List Char} {f : ScanFault}
    (hopen : scanUnicode ('&' :: '\'' :: tail) = .error f)
    (hscan : scanUnicode ('&' :: '\'' :: tail ++ t) = .ok (token, n)) :
    ∃ m, n = ('&' :: '\'' :: tail).length + m + 1 ∧ t[m]? = some '\'' := by
  obtain ⟨⟨v, k⟩, hbody, heq⟩ := Effects.of_bind_eq_ok hscan
  change unicodeBody 3 (tail ++ t) = .ok (v, k) at hbody
  obtain ⟨k, rfl, hends⟩ := endsAt_unicodeBody hbody
  have hnone : (unicodeBody 3 tail).toOption = none := by
    cases hread : unicodeBody 3 tail with
    | error g => rfl
    | ok read =>
      unfold scanUnicode at hopen
      rw [List.drop_succ_cons, List.drop_succ_cons, List.drop_zero, hread] at hopen
      cases hopen
  obtain ⟨m, rfl, hclose⟩ := hends.overruns hnone (by rw [hbody]; rfl)
  cases heq
  exact ⟨m, by simp only [List.length_cons]; omega, hclose⟩

theorem scanQuotedName_overruns {f : ScanFault} (hopen : scanQuotedName q rest = .error f)
    (hscan : scanQuotedName q (rest ++ t) = .ok (token, n)) :
    ∃ m, n = rest.length + m + 1 ∧ t[m]? = some q := by
  unfold scanQuotedName at hopen hscan
  split at hopen
  · cases hopen
  · next hnone =>
    split at hscan
    · next v k hbody =>
      obtain ⟨m, rfl, hclose⟩ := (endsAt_quotedBody hbody).overruns hnone hbody
      cases hscan
      exact ⟨m, rfl, hclose⟩
    · cases hscan

theorem scanBlockComment_overruns {body : List Char} {f : ScanFault}
    (hopen : scanBlockComment ('*' :: body) = .error f)
    (hscan : scanBlockComment ('*' :: body ++ t) = .ok (token, n)) :
    ∃ m, n = ('*' :: body).length + m + 1 ∧ t[m]? = some '/' := by
  unfold scanBlockComment at hopen hscan
  rw [List.drop_one, List.tail_cons] at hopen
  rw [List.cons_append, List.drop_one, List.tail_cons] at hscan
  split at hopen
  · cases hopen
  · next hnone =>
    split at hscan
    · next k hlength =>
      obtain ⟨m, rfl, hclose⟩ := (endsAt_commentLength hlength).overruns hnone hlength
      cases hscan
      exact ⟨m, by rw [List.length_cons]; omega, hclose⟩
    · cases hscan

/-- What cannot be read from a text, because it is not closed there, is read in front of a break only
if it is closed behind. -/
theorem scan_overruns {f : ScanFault} (hd : IsBreak d) (hopen : scan c rest = .error f)
    (hscan : scan c (rest ++ d :: b) = .ok (token, n)) : Overruns rest (d :: b) n := by
  have hquote : ∀ {quote : Char}, quote = '\'' ∨ quote = '"' → d ≠ quote ∧ quote ∈ closers := by
    rintro quote (rfl | rfl)
    · exact ⟨hd.ne (by decide), by decide⟩
    · exact ⟨hd.ne (by decide), by decide⟩
  -- The token starts alike in both texts, so it is the same reader that finds its end in one only.
  unfold scan at hopen hscan
  rw [startOf_append hd] at hscan
  have hstart := starts c rest
  generalize Start.of c rest = start at hopen hscan hstart
  cases hstart with
  | string =>
    obtain ⟨m, rfl, hclose⟩ := scanLiteral_overruns hopen hscan
    exact ⟨'\'', by decide, m, by omega, hclose⟩
  | literal hc hq =>
    obtain ⟨m, rfl, hclose⟩ := scanLiteral_overruns hopen hscan
    exact ⟨_, (hquote hq).2, m, by rw [List.length_cons]; omega, hclose⟩
  | raw hc hq => exact ⟨_, (hquote hq).2, scanRaw_overruns (hquote hq).1 hopen hscan⟩
  | escaped hc => exact ⟨'\'', by decide, scanEscaped_overruns hopen hscan⟩
  | unicode hc => exact ⟨'\'', by decide, scanUnicode_overruns hopen hscan⟩
  | quotedName hc =>
    refine ⟨c, ?_, scanQuotedName_overruns hopen hscan⟩
    rcases hc with rfl | rfl <;> decide
  | blockComment => exact ⟨'/', by decide, scanBlockComment_overruns hopen hscan⟩
  | dollarSign => exact ⟨'$', by decide, scanDollar_overruns hd hopen hscan⟩
  -- What starts otherwise is always read.
  | _ => cases hopen

/-! ## Tokens that go on -/

/-- What becomes of a token that goes on: it is as before, or a mark is the start of a word. -/
inductive Token.Grows (token : Token) : Token → Prop
  | same : Grows token token
  | marked {text : String} {mark : Char} {tail : List Char} (htoken : token = .symbol text)
      (hmark : mark = '#' ∨ mark = '@') : Grows token (.word (String.ofList (mark :: tail)) none)

/-- A line comment goes over a break. -/
theorem lt_lineCommentLength (hfeed : '\n' ∉ rest) :
    rest.length < lineCommentLength (rest ++ d :: b) := by
  have hpass : ∀ e ∈ rest, (e != '\n') = true := by
    intro e he
    simpa using fun heq : e = '\n' => hfeed (heq ▸ he)
  unfold lineCommentLength
  dsimp only
  rw [List.takeWhile_append_of_pos hpass, List.length_append, List.length_append, List.length_cons]
  split
  · omega
  · omega

/-- A token that goes on swallows the break. -/
theorem scan_of_goesOn (hd : IsBreak d) (hscan : scan c rest = .ok (token, n))
    (hon : GoesOn d token (c :: rest)) :
    ∃ token' n', scan c (rest ++ d :: b) = .ok (token', n') ∧ rest.length < n' ∧
      token.Grows token' := by
  have hgreater : d ≠ '>' := hd.ne (by decide)
  -- One case for each token that goes on; the marks become words with the break in them.
  generalize htext : c :: rest = text at hon
  cases hon with
  | comment hfeed =>
    subst htext
    cases reads_of_scan hscan with
    | line hc hrest =>
      subst hc
      have hlong : rest.length < lineCommentLength (rest ++ d :: b) :=
        lt_lineCommentLength fun hmem => hfeed (List.mem_cons_of_mem _ hmem)
      refine ⟨.lineComment, lineCommentLength (rest ++ d :: b), ?_, hlong, .same⟩
      rw [hrest, List.cons_append]
      rfl
    | other hother => cases hother
  | hash hspace =>
    obtain ⟨rfl, rfl⟩ := List.cons.inj htext
    have hmore : scan '#' ([] ++ d :: b) = .ok (scanHash (d :: b)) := rfl
    rw [scanHash.eq_5 d b (hd.ne (by decide)) (fun _ hc _ => hgreater hc) hgreater hspace] at hmore
    exact ⟨_, _, hmore, Nat.succ_pos _, .marked rfl (Or.inl rfl)⟩
  | sign hspace =>
    obtain ⟨rfl, rfl⟩ := List.cons.inj htext
    have hsign : d ≠ '@' := hd.ne (by decide)
    have hmore : scan '@' ([] ++ d :: b) = .ok (scanAt (d :: b)) := rfl
    rw [scanAt.eq_7 d b hgreater (hd.ne (by decide)) (fun _ hc _ => hsign hc)
      (fun _ _ hc _ => hsign hc) (fun hc _ => hsign hc) hspace] at hmore
    exact ⟨_, _, hmore, Nat.succ_pos _, .marked rfl (Or.inr rfl)⟩
  | signs hspace =>
    obtain ⟨rfl, rfl⟩ := List.cons.inj htext
    have hmore : scan '@' (['@'] ++ d :: b) = .ok (scanAt ('@' :: d :: b)) := rfl
    rw [scanAt.eq_4 d b hspace] at hmore
    exact ⟨_, _, hmore, Nat.succ_lt_succ (Nat.succ_pos _), .marked rfl (Or.inr rfl)⟩
  | returned hfeed =>
    obtain ⟨rfl, rfl⟩ := List.cons.inj htext
    subst hfeed
    exact ⟨.blank, 1, rfl, Nat.one_pos, .same⟩

/-- A token that is read within a text is read from the text alone, and does not go on there. -/
theorem scan_cut (hd : IsBreak d) (hscan : scan c (rest ++ d :: b) = .ok (token, n))
    (hle : n ≤ rest.length) :
    scan c rest = .ok (token, n) ∧ ¬ GoesOn d token (c :: rest) := by
  cases hread : scan c rest with
  | error f => exact absurd (scan_overruns hd hread hscan).lt (Nat.not_lt.2 hle)
  | ok read =>
    obtain ⟨token', n'⟩ := read
    have hclosed : ¬ GoesOn d token' (c :: rest) := by
      intro hon
      obtain ⟨token'', n'', hmore, hlong, -⟩ := scan_of_goesOn (b := b) hd hread hon
      cases hmore.symm.trans hscan
      exact Nat.not_lt.2 hle hlong
    obtain ⟨-, hmore⟩ := scan_append (b := b) hd hread fun _ => hclosed
    cases hmore.symm.trans hscan
    exact ⟨rfl, hclosed⟩

end Sql
end SqlCells
