import SqlCells.Proofs.Sql.Splitting

/-!
# Segments that are left out

The segments between semicolons are found by the lexer.  Which of them are left out is decided on their
plain text, where comments do not nest.  The two agree on a segment unless one of the comments in front of
its first token has another one opened inside it.  From that comment on, it is the text behind the first
closing mark that counts.
-/

namespace SqlCells
namespace Sql

variable {l : Lexeme} {ls seg : List Lexeme} {s t : List Char}

/-- Whether splitting leaves a segment out. -/
def leavesOut (segment : List Char) : Bool :=
  !isMeaningful (Text.trim segment)

/-- A comment with another one opened inside it. -/
def Lexeme.nests (l : Lexeme) : Bool :=
  l.token == .blockComment && Text.contains (l.text.drop 2) ['/', '*']

/-- The blanks and comments in front of the first other token. -/
def inFront (ls : List Lexeme) : List Lexeme :=
  ls.takeWhile fun l => l.token.isTrivia

theorem meaningful_eq (pieces : List (List Char)) :
    meaningful pieces = (pieces.filter fun s => !leavesOut s).map Text.trim := by
  unfold meaningful leavesOut
  rw [List.filter_map]
  simp [Function.comp_def]

/-! ## What is left without the blanks at the end -/

theorem stripLeadingComments_trimStart (s : List Char) :
    stripLeadingComments (Text.trimStart s) = stripLeadingComments s := by
  have hsplit : s.takeWhile Text.isBlank ++ Text.trimStart s = s := List.takeWhile_append_dropWhile
  conv_rhs => rw [← hsplit]
  exact (stripLeadingComments_blanks (fun c hc => List.mem_takeWhile_imp hc) _).symm

/-- The blanks at the end are no matter to the inspection of what is in front. -/
theorem stripLeadingComments_trimEnd (s : List Char) :
    stripLeadingComments (Text.trimEnd s) = Text.trimEnd (stripLeadingComments s) := by
  rw [← stripLeadingComments_trimStart, Text.trimStart_trimEnd]
  fun_induction stripLeadingComments s with
  | case1 s after htrim ih =>
    rw [htrim, Text.trimEnd_cons_of_not_blank (by decide), Text.trimEnd_cons_of_not_blank (by decide),
      stripLeadingComments_line, Text.afterFirst_lineFeed_trimEnd, ← stripLeadingComments_trimStart,
      Text.trimStart_trimEnd, ih]
  | case2 s after htrim ih =>
    rw [htrim, Text.trimEnd_cons_of_not_blank (by decide), Text.trimEnd_cons_of_not_blank (by decide),
      stripLeadingComments_block, Text.afterFirst_closing_trimEnd, ← stripLeadingComments_trimStart,
      Text.trimStart_trimEnd, ih]
  | case3 s hline hblock =>
    rcases Text.trimStart_cases s with hnil | ⟨c, rest, hcons, hc⟩
    · rw [hnil]
      exact stripLeadingComments_nil
    · have hnone : ∀ mark : List Char, (∀ after, Text.trimStart s ≠ mark ++ after) →
          ∀ after, Text.trimEnd (Text.trimStart s) ≠ mark ++ after := by
        intro mark hs after heq
        obtain ⟨more, hmore⟩ := Text.exists_append_of_trimEnd heq
        exact hs more hmore
      have hline' := hnone ['-', '-'] hline
      have hblock' := hnone ['/', '*'] hblock
      rw [hcons, Text.trimEnd_cons_of_not_blank hc] at hline' hblock' ⊢
      exact stripLeadingComments_of_token hc hline' hblock'

/-- A segment is left out if nothing but semicolons is left of it. -/
theorem leavesOut_iff (s : List Char) :
    leavesOut s = true ↔ ∀ c ∈ Text.trimEnd (stripLeadingComments s), c = ';' := by
  have hstrip : stripLeadingComments (Text.trim s) = Text.trimEnd (stripLeadingComments s) := by
    rw [Text.trim, stripLeadingComments_trimEnd, stripLeadingComments_trimStart]
  unfold leavesOut
  rw [isMeaningful_eq, Bool.not_not, List.isEmpty_iff, hstrip]
  simp [Text.dropSemicolons, Text.dropTailWhile]

/-! ## What is left without the comments in front -/

theorem inFront_append_dropWhile (ls : List Lexeme) :
    inFront ls ++ ls.dropWhile (fun l => l.token.isTrivia) = ls :=
  List.takeWhile_append_dropWhile

theorem isTrivia_of_mem_inFront (hl : l ∈ inFront ls) : l.token.isTrivia = true :=
  List.mem_takeWhile_imp (p := fun l : Lexeme => l.token.isTrivia) hl

/-- The inspection passes over comments without others inside as the lexer does. -/
theorem Lexed.stripLeadingComments_append {front more : List Lexeme} (h : Lexed s (front ++ more))
    (hfront : ∀ l ∈ front, l.token.isTrivia = true ∧ l.nests = false) :
    stripLeadingComments s = stripLeadingComments (textOf more) := by
  induction front generalizing s with
  | nil =>
    rw [List.nil_append] at h
    rw [h.textOf_eq]
  | cons l front ih =>
    obtain ⟨⟨htrivia, hflat⟩, hrest⟩ := List.forall_mem_cons.1 hfront
    cases h with
    | cons hscan hmore =>
      rw [stripLeadingComments_of_trivia hscan htrivia hflat]
      exact ih hmore hrest

/-- Of a comment with another one inside, the inspection passes over what is in front of the first closing
mark. -/
theorem Lexed.stripLeadingComments_of_nests (h : Lexed s (l :: ls)) (hl : l.nests = true) :
    stripLeadingComments s =
      stripLeadingComments (Text.afterFirst ['*', '/'] (l.text.drop 2 ++ textOf ls)) := by
  cases h with
  | @cons c rest token n here _ hscan hrest =>
    obtain ⟨htoken, -⟩ := Bool.and_eq_true_iff.1 hl
    obtain rfl : token = .blockComment := beq_iff_eq.1 htoken
    cases reads_of_scan hscan with
    | @block body m hc hbody hm =>
      subst hc hbody
      rw [stripLeadingComments_block, hrest.textOf_eq]
      simp
    | other hother => cases hother

/-- A token that is neither a blank, a comment nor a semicolon starts with a character that is neither a
blank nor a semicolon. -/
theorem Lexed.head_of_token (h : Lexed s (l :: ls)) (htrivia : l.token.isTrivia = false)
    (hsemicolon : l.token ≠ .semicolon) :
    ∃ c rest, s = c :: rest ∧ Text.isBlank c = false ∧ c ≠ ';' ∧ stripLeadingComments s = s := by
  cases h with
  | @cons c rest token n here _ hscan hrest =>
    have hblank : Text.isBlank c = false := by
      rw [Bool.eq_false_iff]
      intro hc
      obtain ⟨m, hscan'⟩ := scan_of_isBlank hc rest
      cases hscan.symm.trans hscan'
      cases htrivia
    have hskip : skipTrivia (c :: rest) = c :: rest := skipTrivia_of_token hscan htrivia
    have hflat : nestsInFront (c :: rest) = false := by
      rw [nestsInFront, hscan]
      simp only [htrivia, Bool.false_and]
    have hreads : ∀ d more, skipTrivia (c :: rest) = d :: more → (scan d more).isOk = true := by
      intro d more heq
      cases hskip.symm.trans heq
      rw [hscan]
      rfl
    refine ⟨c, rest, rfl, hblank, ?_, (stripLeadingComments_eq_skipTrivia _ hflat hreads).trans hskip⟩
    rintro rfl
    cases hscan
    exact hsemicolon rfl

/-! ## Which segments are left out -/

/-- A segment of a payload: it can be read by itself, and outside blocks it has no semicolon but its
last. -/
structure IsSegment (seg : List Lexeme) : Prop where
  reads : Lexed (textOf seg) seg
  stops : Nesting.Ends {} seg ∨ Nesting.Runs {} seg

theorem Cutting.isSegment {statements : List (List Lexeme)} {last : List Lexeme}
    (hcut : Cutting ls statements last) (h : Lexed s ls) : ∀ seg ∈ statements ++ [last], IsSegment seg := by
  intro seg hseg
  rw [← hcut.whole] at h
  rcases List.mem_append.1 hseg with hmem | hmem
  · have hends := hcut.ends seg hmem
    obtain ⟨before, behind, rfl⟩ := List.append_of_mem hmem
    rw [List.flatten_append, List.flatten_cons, List.append_assoc, List.append_assoc] at h
    exact ⟨h.suffix.ended hends, Or.inl hends⟩
  · obtain rfl := List.mem_singleton.1 hmem
    exact ⟨h.suffix, Or.inr hcut.runs⟩

/-- Behind the blanks and comments in front of a segment, a semicolon is its last token. -/
theorem IsSegment.eq_nil_of_semicolon {gap more : List Lexeme} (h : IsSegment (gap ++ l :: more))
    (hgap : ∀ l ∈ gap, l.token.isTrivia = true) (hl : l.token = .semicolon) : more = [] := by
  rcases h.stops with hends | hruns
  · generalize hall : l :: more = all at hends
    cases hends.of_gap_append hgap with
    | semicolon hlast => exact (List.cons.inj hall).2
    | cons hinside hrest =>
      obtain ⟨rfl, -⟩ := List.cons.inj hall
      exact absurd ⟨hl, rfl⟩ hinside
  · cases hruns.of_gap_append hgap with
    | cons hinside hrest => exact absurd ⟨hl, rfl⟩ hinside

/-- Where no comment in front nests, the segments left out are those without tokens to run. -/
theorem IsSegment.leavesOut_iff (h : IsSegment seg) (hflat : ∀ l ∈ inFront seg, l.nests = false) :
    leavesOut (textOf seg) = true ↔ ∀ l ∈ seg, l.token.isTrivia = true ∨ l.token = .semicolon := by
  have hgap : ∀ l ∈ inFront seg, l.token.isTrivia = true := fun l hl => isTrivia_of_mem_inFront hl
  have hsplit := inFront_append_dropWhile seg
  cases hbehind : seg.dropWhile fun l => l.token.isTrivia with
  | nil =>
    rw [hbehind, List.append_nil] at hsplit
    rw [hsplit] at hgap hflat
    have hread : Lexed (textOf seg) (seg ++ []) := by
      rw [List.append_nil]
      exact h.reads
    have hstrip := hread.stripLeadingComments_append fun l hl => ⟨hgap l hl, hflat l hl⟩
    rw [Sql.leavesOut_iff, hstrip, textOf, List.flatMap_nil, stripLeadingComments_nil]
    exact iff_of_true (by simp [Text.trimEnd, Text.dropTailWhile]) fun l hl => Or.inl (hgap l hl)
  | cons l more =>
    rw [hbehind] at hsplit
    generalize inFront seg = gap at hgap hflat hsplit
    subst hsplit
    have htoken : l.token.isTrivia = false := by
      have hhead := List.head?_dropWhile_not (fun l : Lexeme => l.token.isTrivia) (gap ++ l :: more)
      rw [hbehind] at hhead
      simpa using hhead
    have hstrip := h.reads.stripLeadingComments_append fun l hl => ⟨hgap l hl, hflat l hl⟩
    rw [Sql.leavesOut_iff, hstrip]
    by_cases hsemicolon : l.token = .semicolon
    · obtain rfl := h.eq_nil_of_semicolon hgap hsemicolon
      have htext : textOf [l] = [';'] := by
        rw [textOf_cons, h.reads.suffix.text_semicolon hsemicolon]
        rfl
      have hstop : Text.trimEnd (stripLeadingComments [';']) = [';'] := by decide +kernel
      rw [htext, hstop]
      refine iff_of_true (by simp) fun m hm => ?_
      rcases List.mem_append.1 hm with hm | hm
      · exact Or.inl (hgap m hm)
      · obtain rfl := List.mem_singleton.1 hm
        exact Or.inr hsemicolon
    · obtain ⟨c, rest, htext, hblank, hc, hkept⟩ := h.reads.suffix.head_of_token htoken hsemicolon
      rw [hkept, htext, Text.trimEnd_cons_of_not_blank hblank]
      refine iff_of_false (fun hall => hc (hall c List.mem_cons_self)) fun hall => ?_
      rcases hall l (by simp) with htrivia | hstop
      · rw [htoken] at htrivia
        cases htrivia
      · exact hsemicolon hstop

/-- The statements of a payload that can be read are its segments without those left out.  If no comment
in front of a segment has another one opened inside it, the segment is left out exactly if it has no token
but blanks, comments and semicolons.  With such a comment, it is left out exactly if the text behind the
first closing mark in that comment would be, taken for itself. -/
theorem segments_left_out_iff {payload : List Char} {ls : List Lexeme} (hlex : lex payload = .ok ls)
    {statements : List (List Lexeme)} {last : List Lexeme} (hcut : Cutting ls statements last) :
    splitStatements payload =
        ((segments statements last).filter fun s => !leavesOut s).map Text.trim ∧
      ∀ seg ∈ statements ++ [last],
        ((∀ l ∈ inFront seg, l.nests = false) →
          (leavesOut (textOf seg) = true ↔
            ∀ l ∈ seg, l.token.isTrivia = true ∨ l.token = .semicolon)) ∧
        ∀ front comment more, seg = front ++ comment :: more →
          (∀ l ∈ front, l.token.isTrivia = true ∧ l.nests = false) → comment.nests = true →
            leavesOut (textOf seg) =
              leavesOut (Text.afterFirst ['*', '/'] (comment.text.drop 2 ++ textOf more)) := by
  have h : Lexed payload ls := .of_lexFrom hlex
  refine ⟨?_, ?_⟩
  · rw [h.splitStatements_eq, hcut.segmentsFrom_eq, meaningful_eq]
  · intro seg hseg
    have hsegment := hcut.isSegment h seg hseg
    refine ⟨hsegment.leavesOut_iff, ?_⟩
    rintro front comment more rfl hfront hcomment
    have hstrip := hsegment.reads.stripLeadingComments_append hfront
    rw [hsegment.reads.suffix.stripLeadingComments_of_nests hcomment] at hstrip
    rw [Bool.eq_iff_iff, Sql.leavesOut_iff, Sql.leavesOut_iff, hstrip]

theorem segments_left_out_iff_nested :
    ∃ ls statements last, lex "-- a;\n;/* /* */ */".toList = .ok ls ∧ Cutting ls statements last ∧
      (segments statements last).map leavesOut = [true, false] ∧
      splitStatements "-- a;\n;/* /* */ */".toList =
        ((segments statements last).filter fun s => !leavesOut s).map Text.trim := by
  have hlex : lex "-- a;\n;/* /* */ */".toList = .ok [
      ⟨.lineComment, "-- a;\n".toList, ⟨1, 1⟩⟩, ⟨.semicolon, [';'], ⟨2, 1⟩⟩,
      ⟨.blockComment, "/* /* */ */".toList, ⟨2, 2⟩⟩] := by
    decide +kernel
  have hcut : Cutting _ [[⟨.lineComment, "-- a;\n".toList, ⟨1, 1⟩⟩, ⟨.semicolon, [';'], ⟨2, 1⟩⟩]]
      [⟨.blockComment, "/* /* */ */".toList, ⟨2, 2⟩⟩] :=
    ⟨rfl, by simpa using .cons (by decide) (.semicolon (by decide)), .cons (by decide) .nil⟩
  exact ⟨_, _, _, hlex, hcut, by decide +kernel, (segments_left_out_iff hlex hcut).1⟩

/-- A comment with another one inside is kept as a statement, and with two dashes behind its first closing
mark it takes a real statement with it. -/
theorem comment_kept_and_statement_lost :
    (tokens "SELECT 1; /* /* */ */".toList = tokens "SELECT 1;".toList ∧
      splitStatements "SELECT 1; /* /* */ */".toList = ["SELECT 1;".toList, "/* /* */ */".toList]) ∧
    (tokens "/* /* */ -- */ SELECT 1".toList = [.word "SELECT" none, .number "1" false] ∧
      splitStatements "/* /* */ -- */ SELECT 1".toList = []) := by
  decide +kernel

end Sql
end SqlCells
