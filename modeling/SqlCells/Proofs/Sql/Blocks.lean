import SqlCells.Proofs.Sql.Splitting

/-!
# Blocks of a `CREATE` statement

The body of a trigger or a procedure stands between `BEGIN` and `END` and holds semicolons of its own.
The grammar of what may stand there is given on lexemes.  The scan, which only counts how deep it is and
looks at the word behind each `END`, is back where it started behind every item of a block, however deep
the items nest.  So a statement that ends in a block is cut at the semicolon behind the block's own `END`.
-/

namespace SqlCells
namespace Sql

/-- The bare word that a lexeme is, in any letter case. -/
def Lexeme.IsWord (l : Lexeme) (word : String) : Prop :=
  l.token.bareWord? = some word.toList

instance (l : Lexeme) (word : String) : Decidable (l.IsWord word) :=
  inferInstanceAs (Decidable (_ = _))

/-- Whether some lexemes start, blanks and comments aside, with a word that belongs to an `END` in front
of it. -/
def JoinsEnd (ls : List Lexeme) : Prop :=
  ∃ word ∈ endSuffixes, nextBareWord? ls = some word

/-- What may stand in a block, item by item. -/
inductive Items : List Lexeme → Prop
  | nil : Items []
  /-- Any token, a semicolon too, that opens and closes nothing. -/
  | token {l : Lexeme} {more : List Lexeme} (hbegin : ¬ l.IsWord "BEGIN") (hcase : ¬ l.IsWord "CASE")
      (hend : ¬ l.IsWord "END") (hmore : Items more) : Items (l :: more)
  /-- A block or a `CASE` expression, whose `END` no word is joined to. -/
  | group {first last : Lexeme} {inner more : List Lexeme}
      (hfirst : first.IsWord "BEGIN" ∨ first.IsWord "CASE") (hinner : Items inner)
      (hlast : last.IsWord "END") (hfree : ¬ JoinsEnd more) (hmore : Items more) :
      Items (first :: (inner ++ last :: more))
  /-- A `CASE` statement, which ends with `END CASE`. -/
  | caseStatement {first last joined : Lexeme} {inner gap more : List Lexeme}
      (hfirst : first.IsWord "CASE") (hinner : Items inner) (hlast : last.IsWord "END")
      (hgap : ∀ l ∈ gap, l.token.isTrivia = true) (hjoined : joined.IsWord "CASE")
      (hmore : Items more) : Items (first :: (inner ++ last :: (gap ++ joined :: more)))
  /-- The end of a control statement, such as `END IF`. -/
  | control {last joined : Lexeme} {word : String} {gap more : List Lexeme}
      (hlast : last.IsWord "END") (hgap : ∀ l ∈ gap, l.token.isTrivia = true)
      (hword : word ∈ ["IF", "LOOP", "WHILE", "REPEAT", "FOR"]) (hjoined : joined.IsWord word)
      (hmore : Items more) : Items (last :: (gap ++ joined :: more))

/-- A block: its items between `BEGIN` and `END`. -/
inductive Block : List Lexeme → Prop
  | mk {first last : Lexeme} {items : List Lexeme} (hfirst : first.IsWord "BEGIN")
      (hitems : Items items) (hlast : last.IsWord "END") : Block (first :: (items ++ [last]))

variable {l last : Lexeme} {ls more gap behind : List Lexeme}

/-! ## The next word -/

theorem nextBareWord?_trivia_append (hgap : ∀ l ∈ gap, l.token.isTrivia = true) :
    nextBareWord? (gap ++ l :: more) =
      if l.token.isTrivia then nextBareWord? more else l.token.bareWord? := by
  induction gap with
  | nil =>
    unfold nextBareWord?
    cases hl : l.token.isTrivia <;> simp [hl]
  | cons first gap ih =>
    obtain ⟨hfirst, hrest⟩ := List.forall_mem_cons.1 hgap
    rw [← ih hrest]
    simp [nextBareWord?, hfirst]

theorem not_isTrivia_of_isWord {word : String} (hl : l.IsWord word) : l.token.isTrivia = false := by
  unfold Lexeme.IsWord at hl
  cases htoken : l.token <;> simp_all [Token.bareWord?, Token.isTrivia]

theorem nextBareWord?_of_isWord (hgap : ∀ l ∈ gap, l.token.isTrivia = true) {word : String}
    (hl : l.IsWord word) : nextBareWord? (gap ++ l :: more) = some word.toList := by
  rw [nextBareWord?_trivia_append hgap, not_isTrivia_of_isWord hl]
  exact hl

theorem nextBareWord?_semicolon (hgap : ∀ l ∈ gap, l.token.isTrivia = true)
    (hl : l.token = .semicolon) : nextBareWord? (gap ++ l :: more) = none := by
  rw [nextBareWord?_trivia_append hgap, hl]
  rfl

/-- What is joined to an `END` stands in front of the `END` that closes the items around it. -/
theorem not_joinsEnd_append (hfree : ¬ JoinsEnd more) (hlast : last.IsWord "END") :
    ¬ JoinsEnd (more ++ last :: behind) := by
  rintro ⟨word, hword, hnext⟩
  unfold nextBareWord? at hnext
  rw [List.find?_append] at hnext
  cases hfound : more.find? fun l => !l.token.isTrivia with
  | some found =>
    refine hfree ⟨word, hword, ?_⟩
    rw [hfound] at hnext
    unfold nextBareWord?
    rw [hfound]
    exact hnext
  | none =>
    rw [hfound] at hnext
    simp only [List.find?_cons, not_isTrivia_of_isWord hlast, Bool.not_false, Option.none_or] at hnext
    have hend : "END".toList = word := Option.some.inj (hlast.symm.trans hnext)
    rw [← hend] at hword
    exact absurd hword (by decide)

/-! ## One step of the scan -/

namespace Nesting

variable {b : Nesting} {depth : Nat}

/-- A scan of a `CREATE` statement that is `depth` blocks deep. -/
def inside (depth : Nat) : Nesting :=
  { create := some true, depth }

theorem after_create (hl : l.IsWord "CREATE") (rest : List Lexeme) :
    Nesting.after {} l rest = inside 0 := by
  unfold Nesting.after
  rw [hl]
  rfl

/-- Outside blocks only `BEGIN` matters. -/
theorem inside_zero_after (hl : ¬ l.IsWord "BEGIN") (rest : List Lexeme) :
    (inside 0).after l rest = inside 0 := by
  unfold Nesting.after
  cases hword : l.token.bareWord? with
  | none => rfl
  | some word =>
    have hne : word ≠ "BEGIN".toList := fun heq => hl (hword.trans (congrArg some heq))
    simp only [Nesting.step, inside, Option.getD_some, Bool.not_true, Bool.false_eq_true, if_false,
      if_neg hne, if_true]

theorem inside_after_begin (hl : l.IsWord "BEGIN") (rest : List Lexeme) :
    (inside depth).after l rest = inside (depth + 1) := by
  unfold Nesting.after
  rw [hl]
  rfl

theorem inside_after_case (hl : l.IsWord "CASE") (rest : List Lexeme) :
    (inside (depth + 1)).after l rest = inside (depth + 2) := by
  unfold Nesting.after
  rw [hl]
  rfl

/-- In a block, a token that opens and closes nothing changes nothing. -/
theorem inside_after_token (hbegin : ¬ l.IsWord "BEGIN") (hcase : ¬ l.IsWord "CASE")
    (hend : ¬ l.IsWord "END") (rest : List Lexeme) :
    (inside (depth + 1)).after l rest = inside (depth + 1) := by
  unfold Nesting.after
  cases hword : l.token.bareWord? with
  | none => rfl
  | some word =>
    have hne : ∀ {w : String}, ¬ l.IsWord w → word ≠ w.toList :=
      fun hl heq => hl (hword.trans (congrArg some heq))
    simp only [Nesting.step, inside, Option.getD_some, Bool.not_true, Bool.false_eq_true, if_false,
      Nat.add_one_ne_zero, if_neg (hne hbegin), if_neg (hne hcase), if_neg (hne hend)]

/-- An `END` that no word is joined to closes one block. -/
theorem inside_after_end (hl : l.IsWord "END") (hfree : ¬ JoinsEnd more) :
    (inside (depth + 1)).after l more = inside depth := by
  have hstep : (inside (depth + 1)).step "END".toList (nextBareWord? more) =
      (inside (depth + 1)).step "END".toList none :=
    step_of_not_mem _ _ fun word hword hnext => hfree ⟨word, hword, hnext⟩
  unfold Nesting.after
  rw [hl]
  exact hstep

/-- `END CASE` closes one block, and the scan passes over the word behind it. -/
theorem inside_after_end_case (hl : l.IsWord "END") (hnext : nextBareWord? more = some "CASE".toList) :
    (inside (depth + 1)).after l more = { inside depth with skipNext := true } := by
  unfold Nesting.after
  rw [hl, hnext]
  rfl

/-- The end of a control statement closes no block. -/
theorem inside_after_end_control (hl : l.IsWord "END") {word : String}
    (hword : word ∈ ["IF", "LOOP", "WHILE", "REPEAT", "FOR"])
    (hnext : nextBareWord? more = some word.toList) :
    (inside (depth + 1)).after l more = { inside (depth + 1) with skipNext := true } := by
  unfold Nesting.after
  rw [hl, hnext]
  simp only [List.mem_cons, List.not_mem_nil, or_false] at hword
  rcases hword with rfl | rfl | rfl | rfl | rfl <;> rfl

theorem skipping_after (hcreate : b.create = some true) {word : String} (hl : l.IsWord word)
    (rest : List Lexeme) : Nesting.after { b with skipNext := true } l rest =
      { b with skipNext := false } := by
  unfold Nesting.after
  rw [hl]
  simp [Nesting.step, hcreate]

/-! ## Items of a block -/

/-- Blanks and comments end no statement. -/
theorem Ends.trivia_append (hgap : ∀ l ∈ gap, l.token.isTrivia = true) (h : b.Ends behind) :
    b.Ends (gap ++ behind) := by
  induction gap with
  | nil => exact h
  | cons l gap ih =>
    obtain ⟨hl, hrest⟩ := List.forall_mem_cons.1 hgap
    refine .cons (fun hsemicolon => ?_) ?_
    · rw [hsemicolon.1] at hl
      cases hl
    · rw [b.after_trivia hl]
      exact ih hrest

/-- A word does not end a statement. -/
theorem Ends.of_isWord {word : String} (hl : l.IsWord word) (h : (b.after l behind).Ends behind) :
    b.Ends (l :: behind) := by
  refine .cons (fun hsemicolon => ?_) h
  rw [Lexeme.IsWord, hsemicolon.1] at hl
  cases hl

/-- The word that is joined to an `END` is passed over, with what stands in front of it. -/
theorem Ends.joined {joined : Lexeme} {word : String} (hgap : ∀ l ∈ gap, l.token.isTrivia = true)
    (hjoined : joined.IsWord word) (h : (inside depth).Ends behind) :
    Ends { inside depth with skipNext := true } (gap ++ joined :: behind) := by
  refine .trivia_append hgap (.of_isWord hjoined ?_)
  rw [skipping_after rfl hjoined]
  exact h

/-- Behind the items of a block, the scan is as deep as in front of them, at the `END` that closes them. -/
theorem Ends.items_append (hitems : Items ls) (hlast : last.IsWord "END")
    (h : (inside (depth + 1)).Ends (last :: behind)) :
    (inside (depth + 1)).Ends (ls ++ last :: behind) := by
  -- The items inside a group end at its own `END`, so that what is behind is generalised with it.
  induction hitems generalizing depth last behind with
  | nil => exact h
  | token hbegin hcase hend _ ih =>
    refine .cons (fun hsemicolon => Nat.succ_ne_zero _ hsemicolon.2) ?_
    rw [inside_after_token hbegin hcase hend]
    exact ih hlast h
  | @group first closing inner more hfirst _ hclosing hfree _ ihinner ihmore =>
    have hclosed : (inside (depth + 2)).Ends (closing :: (more ++ last :: behind)) := by
      refine .of_isWord hclosing ?_
      rw [inside_after_end hclosing (not_joinsEnd_append hfree hlast)]
      exact ihmore hlast h
    have hopened : (inside (depth + 1)).after first (inner ++ closing :: (more ++ last :: behind)) =
        inside (depth + 2) := by
      rcases hfirst with hfirst | hfirst
      · exact inside_after_begin hfirst _
      · exact inside_after_case hfirst _
    have hgroup : (inside (depth + 1)).Ends (first :: (inner ++ closing :: (more ++ last :: behind))) := by
      refine .cons (fun hsemicolon => Nat.succ_ne_zero _ hsemicolon.2) ?_
      rw [hopened]
      exact ihinner hclosing hclosed
    simpa using hgroup
  | @caseStatement first closing joined inner gap more hfirst _ hclosing hgap hjoined _ ihinner ihmore =>
    have hnext : nextBareWord? (gap ++ joined :: (more ++ last :: behind)) = some "CASE".toList :=
      nextBareWord?_of_isWord hgap hjoined
    have hclosed : (inside (depth + 2)).Ends (closing :: (gap ++ joined :: (more ++ last :: behind))) := by
      refine .of_isWord hclosing ?_
      rw [inside_after_end_case hclosing hnext]
      exact .joined hgap hjoined (ihmore hlast h)
    have hgroup : (inside (depth + 1)).Ends
        (first :: (inner ++ closing :: (gap ++ joined :: (more ++ last :: behind)))) := by
      refine .of_isWord hfirst ?_
      rw [inside_after_case hfirst]
      exact ihinner hclosing hclosed
    simpa using hgroup
  | @control closing joined word gap more hclosing hgap hword hjoined _ ihmore =>
    have hnext : nextBareWord? (gap ++ joined :: (more ++ last :: behind)) = some word.toList :=
      nextBareWord?_of_isWord hgap hjoined
    have hcontrol : (inside (depth + 1)).Ends (closing :: (gap ++ joined :: (more ++ last :: behind))) := by
      refine .of_isWord hclosing ?_
      rw [inside_after_end_control hclosing hword hnext]
      exact .joined hgap hjoined (ihmore hlast h)
    simpa using hcontrol

/-- A block is over at its own `END`, and the statement at the semicolon behind it. -/
theorem Ends.block_append (hblock : Block ls) (hgap : ∀ l ∈ gap, l.token.isTrivia = true)
    (hl : l.token = .semicolon) : (inside 0).Ends (ls ++ gap ++ [l]) := by
  obtain ⟨hfirst, hitems, hlast⟩ := hblock
  rename_i first last items
  have hfree : ¬ JoinsEnd (gap ++ [l]) := by
    rintro ⟨word, -, hnext⟩
    rw [nextBareWord?_semicolon hgap hl] at hnext
    cases hnext
  have hclosed : (inside 1).Ends (last :: (gap ++ [l])) := by
    refine .of_isWord hlast ?_
    rw [inside_after_end hlast hfree]
    exact .trivia_append hgap (.semicolon ⟨hl, rfl⟩)
  have hall : (inside 0).Ends (first :: (items ++ last :: (gap ++ [l]))) := by
    refine .of_isWord hfirst ?_
    rw [inside_after_begin hfirst]
    exact .items_append hitems hlast hclosed
  simpa using hall

/-- In front of the first block, a statement ends at no token but a semicolon. -/
theorem Ends.head_append (hhead : ∀ l ∈ ls, ¬ l.IsWord "BEGIN" ∧ l.token ≠ .semicolon)
    (h : (inside 0).Ends behind) : (inside 0).Ends (ls ++ behind) := by
  induction ls with
  | nil => exact h
  | cons l ls ih =>
    obtain ⟨⟨hbegin, hsemicolon⟩, hrest⟩ := List.forall_mem_cons.1 hhead
    refine .cons (fun hend => hsemicolon hend.1) ?_
    rw [inside_zero_after hbegin]
    exact ih hrest

end Nesting

/-! ## Statements with a block -/

/-- The first character of a bare word is neither a blank, nor a semicolon, nor starts a comment. -/
theorem Lexed.head_of_isWord {s : List Char} {word : String} (h : Lexed s (l :: ls))
    (hl : l.IsWord word) : ∃ c rest, s = c :: rest ∧ Text.isBlank c = false ∧ c ≠ ';' ∧ c ≠ '-' ∧ c ≠ '/' := by
  have hclass : ((';' :: '-' :: '/' :: Text.blanks).all fun d => !isWordStart d) = true := by
    decide +kernel
  cases h with
  | @cons c rest token n here _ hscan hrest =>
    have hstart : isWordStart c = true := isWordStart_of_bareWord? hscan hl
    have hne : ∀ d ∈ ';' :: '-' :: '/' :: Text.blanks, c ≠ d := by
      rintro d hd rfl
      have hplain := List.all_eq_true.1 hclass c hd
      rw [hstart] at hplain
      cases hplain
    refine ⟨c, rest, rfl, ?_, hne _ (by simp), hne _ (by simp), hne _ (by simp)⟩
    rw [Bool.eq_false_iff]
    intro hblank
    exact hne c (by simp [Text.mem_blanks hblank]) rfl

/-- A statement that ends in a semicolon and starts with a bare word is kept as it is. -/
theorem Terminated.meaningful_of_isWord {t : List Char} {word : String} (h : Terminated t)
    (hread : Lexed t (l :: ls)) (hl : l.IsWord word) : meaningful [t] = [t] := by
  obtain ⟨c, rest, rfl, hblank, hsemicolon, hdash, hslash⟩ := hread.head_of_isWord hl
  obtain ⟨front, hfront⟩ := h.exists_semicolon
  have htrim : Text.trim (c :: rest) = c :: rest := by
    rw [Text.trim, Text.trimStart_of_not_blank hblank, hfront]
    exact Text.trimEnd_append_of_not_blank (by decide) front
  rw [meaningful_singleton (isMeaningful_trim hblank hsemicolon hdash hslash rest), htrim]

/-- A text that starts with a `CREATE` statement whose body is a block, with a semicolon behind it: the
statement up to that semicolon is the first, whatever semicolons and nested blocks its body holds, and what
is behind is split as it is split alone. -/
theorem splitStatements_create_block {s : List Char} {create semicolon : Lexeme}
    {head block gap rest : List Lexeme}
    (hread : Lexed s (create :: head ++ block ++ gap ++ semicolon :: rest))
    (hcreate : create.IsWord "CREATE")
    (hhead : ∀ l ∈ head, ¬ l.IsWord "BEGIN" ∧ l.token ≠ .semicolon) (hblock : Block block)
    (hgap : ∀ l ∈ gap, l.token.isTrivia = true) (hsemicolon : semicolon.token = .semicolon) :
    splitStatements s = textOf (create :: head ++ block ++ gap ++ [semicolon]) ::
        splitStatements (textOf rest) ∧
      textOf (create :: head ++ block ++ gap ++ [semicolon]) ++ textOf rest = s := by
  have hends : Nesting.Ends {} (create :: (head ++ (block ++ gap ++ [semicolon]))) := by
    refine .of_isWord hcreate ?_
    rw [Nesting.after_create hcreate]
    exact .head_append hhead (.block_append hblock hgap hsemicolon)
  have hshape : create :: (head ++ (block ++ gap ++ [semicolon])) =
      create :: head ++ block ++ gap ++ [semicolon] := by simp
  have hwhole : create :: head ++ block ++ gap ++ semicolon :: rest =
      create :: head ++ block ++ gap ++ [semicolon] ++ rest := by simp
  rw [hshape] at hends
  rw [hwhole] at hread
  have hfirst : meaningful [textOf (create :: head ++ block ++ gap ++ [semicolon])] =
      [textOf (create :: head ++ block ++ gap ++ [semicolon])] :=
    (hread.terminated hends).meaningful_of_isWord (hread.ended hends) hcreate
  have htext : textOf (create :: head ++ block ++ gap ++ [semicolon]) ++ textOf rest = s := by
    rw [← textOf_append, hread.textOf_eq]
  refine ⟨?_, htext⟩
  rw [← htext, (hread.terminated hends).splitStatements_append hread.suffix, hfirst]
  rfl

/-! ## A statement with nested blocks -/

/-- A text has some lexemes if it is read as their tokens, of their texts. -/
theorem Lexed.of_lex_pairs {s : List Char} (hread : (Sql.lex s).toOption.map
    (List.map fun l => (l.token, l.text)) = some (ls.map fun l => (l.token, l.text))) : Lexed s ls := by
  cases hlex : Sql.lex s with
  | error f =>
    rw [hlex] at hread
    cases hread
  | ok ms =>
    rw [hlex] at hread
    have hsame := Option.some.inj hread
    have h : Lexed s ms := .of_lexFrom hlex
    clear hlex hread
    induction h generalizing ls with
    | nil =>
      obtain rfl := List.map_eq_nil_iff.1 hsame.symm
      exact .nil
    | cons hscan hrest ih =>
      obtain ⟨l, ls, rfl, hl, hls⟩ := List.map_eq_cons_iff.1 hsame.symm
      obtain ⟨token, text, here⟩ := l
      simp only [Prod.mk.injEq] at hl
      obtain ⟨rfl, rfl⟩ := hl
      exact .cons hscan (ih hls.symm)

/-- A bare word as a lexeme. -/
def Lexeme.word (word : String) : Lexeme :=
  ⟨.word word none, word.toList, .start⟩

/-- A space as a lexeme. -/
def Lexeme.space : Lexeme :=
  ⟨.blank, [' '], .start⟩

/-- A semicolon as a lexeme. -/
def Lexeme.stop : Lexeme :=
  ⟨.semicolon, [';'], .start⟩

/-- A block with a block and a `CASE` statement inside, and a comment within the end of a control
statement. -/
def nestedBlock : List Lexeme :=
  [.word "BEGIN", .space, .word "begin", .stop, .word "End", .stop, .word "CASE", .space, .word "x", .stop,
    .word "END", .space, .word "CASE", .stop, .word "END", ⟨.blockComment, "/**/".toList, .start⟩,
    .word "IF", .stop, .word "END"]

theorem block_nestedBlock : Block nestedBlock := by
  have hplain : ∀ l ∈ [Lexeme.space, .stop, .word "x"],
      ¬ l.IsWord "BEGIN" ∧ ¬ l.IsWord "CASE" ∧ ¬ l.IsWord "END" := by decide +kernel
  have htoken : ∀ {l ls}, l ∈ [Lexeme.space, .stop, .word "x"] → Items ls → Items (l :: ls) := by
    intro l ls hl hls
    obtain ⟨hbegin, hcase, hend⟩ := hplain l hl
    exact .token hbegin hcase hend hls
  have hif : (Lexeme.word "IF").IsWord "IF" := by decide +kernel
  have hcontrol : Items (.word "END" :: ([⟨.blockComment, "/**/".toList, .start⟩] ++ .word "IF" :: [.stop])) :=
    .control (by decide +kernel) (by decide) (by decide) hif (htoken (by simp) .nil)
  have hstatement : Items [.space, .word "x", .stop] :=
    htoken (by simp) (htoken (by simp) (htoken (by simp) .nil))
  have hcase : Items (.word "CASE" :: ([.space, .word "x", .stop] ++
      .word "END" :: ([.space] ++ .word "CASE" :: .stop :: _))) :=
    .caseStatement (by decide +kernel) hstatement (by decide +kernel) (by decide) (by decide +kernel)
      (htoken (by simp) hcontrol)
  have hgroup : Items (.word "begin" :: ([.stop] ++ .word "End" :: .stop :: _)) :=
    .group (Or.inl (by decide +kernel)) (htoken (by simp) .nil) (by decide +kernel)
      (by unfold JoinsEnd; decide +kernel) (htoken (by simp) hcase)
  exact .mk (by decide +kernel) (htoken (l := .space) (by simp) hgroup) (by decide +kernel)

theorem splitStatements_create_block_nested :
    splitStatements "CREATE t BEGIN begin;End;CASE x;END CASE;END/**/IF;END;SELECT 1;".toList =
      ["CREATE t BEGIN begin;End;CASE x;END CASE;END/**/IF;END;".toList, "SELECT 1;".toList] := by
  have hread : Lexed "CREATE t BEGIN begin;End;CASE x;END CASE;END/**/IF;END;SELECT 1;".toList
      (.word "CREATE" :: [.space, .word "t", .space] ++ nestedBlock ++ [] ++ .stop ::
        [.word "SELECT", .space, ⟨.number "1" false, ['1'], .start⟩, .stop]) :=
    .of_lex_pairs (by decide +kernel)
  obtain ⟨hsplit, -⟩ := splitStatements_create_block hread (by decide +kernel) (by decide +kernel)
    block_nestedBlock (by simp) rfl
  have hrest : splitStatements "SELECT 1;".toList = ["SELECT 1;".toList] := by decide +kernel
  exact hsplit.trans (congrArg _ hrest)

end Sql
end SqlCells
