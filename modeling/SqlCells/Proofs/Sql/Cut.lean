import SqlCells.Proofs.Sql.Lexed

/-!
# Where the first statement ends

Blocks are followed only behind the word `CREATE`.  A text whose first bare word is another one is cut
at its first semicolon, and what is behind is cut as a text of its own.
-/

namespace SqlCells
namespace Sql

/-! ## Cutting does not depend on places -/

theorem nextBareWord?_unplaced (ls : List Lexeme) :
    nextBareWord? (ls.map Lexeme.unplaced) = nextBareWord? ls := by
  unfold nextBareWord?
  rw [List.find?_map]
  have hsame : ((fun l : Lexeme => !l.token.isTrivia) ∘ Lexeme.unplaced) =
      fun l : Lexeme => !l.token.isTrivia := rfl
  rw [hsame]
  cases ls.find? fun l => !l.token.isTrivia with
  | none => rfl
  | some l => rfl

theorem segmentsFrom_unplaced (b : Nesting) (read : List Char) (ls : List Lexeme) :
    segmentsFrom b read (ls.map Lexeme.unplaced) = segmentsFrom b read ls := by
  induction ls generalizing b read with
  | nil => rfl
  | cons l rest ih =>
    -- Blocks are followed by words alone, the one at hand and the next.
    have hafter : b.after l.unplaced (rest.map Lexeme.unplaced) = b.after l rest := by
      unfold Nesting.after
      rw [nextBareWord?_unplaced]
      rfl
    rw [List.map_cons, segmentsFrom, segmentsFrom, hafter, ih, ih]
    rfl

theorem Lexed.splitStatements_eq {s : List Char} {ls : List Lexeme} (h : Lexed s ls) :
    splitStatements s = meaningful (segmentsFrom {} [] ls) := by
  obtain ⟨ms, hms, hsame⟩ := h.lex
  rw [splitStatements_of_lex hms, ← segmentsFrom_unplaced, hsame, segmentsFrom_unplaced]

/-! ## The first semicolon -/

/-- Lexemes up to the first semicolon, and those behind it. -/
def cut : List Lexeme → List Lexeme × List Lexeme
  | [] => ([], [])
  | l :: rest => if l.token = .semicolon then ([l], rest) else (l :: (cut rest).1, (cut rest).2)

/-- A text up to its first semicolon, and what is behind it; all of a text that cannot be read. -/
def cutText (s : List Char) : List Char × List Char :=
  match lex s with
  | .ok ls => (textOf (cut ls).1, textOf (cut ls).2)
  | .error _ => (s, [])

theorem cut_append (ls : List Lexeme) : (cut ls).1 ++ (cut ls).2 = ls := by
  induction ls with
  | nil => rfl
  | cons l rest ih =>
    rw [cut]
    split
    · rfl
    · rw [List.cons_append, ih]

theorem cut_of_append {ls : List Lexeme} (hnone : ∀ l ∈ ls, l.token ≠ .semicolon) (ms : List Lexeme) :
    cut (ls ++ ms) = (ls ++ (cut ms).1, (cut ms).2) := by
  induction ls with
  | nil => rfl
  | cons l rest ih =>
    have hl : l.token ≠ .semicolon := hnone l List.mem_cons_self
    rw [List.cons_append, cut, if_neg hl, ih fun l hl => hnone l (List.mem_cons_of_mem _ hl)]
    rfl

theorem cut_unplaced (ls : List Lexeme) :
    cut (ls.map Lexeme.unplaced) =
      ((cut ls).1.map Lexeme.unplaced, (cut ls).2.map Lexeme.unplaced) := by
  induction ls with
  | nil => rfl
  | cons l rest ih =>
    have htoken : l.unplaced.token = l.token := rfl
    rw [List.map_cons, cut, cut, ih, htoken]
    split
    · rfl
    · rfl

theorem Lexed.cutText_eq {s : List Char} {ls : List Lexeme} (h : Lexed s ls) :
    cutText s = (textOf (cut ls).1, textOf (cut ls).2) := by
  obtain ⟨ms, hms, hsame⟩ := h.lex
  have hcut : (textOf (cut ms).1, textOf (cut ms).2) = (textOf (cut ls).1, textOf (cut ls).2) := by
    have hparts := cut_unplaced ms
    rw [hsame, cut_unplaced, Prod.mk.injEq] at hparts
    rw [← textOf_unplaced (cut ms).1, ← textOf_unplaced (cut ms).2, ← hparts.1, ← hparts.2,
      textOf_unplaced, textOf_unplaced]
  unfold cutText
  rw [hms]
  exact hcut

/-- A text without semicolons goes up to the first semicolon behind it. -/
theorem Leads.cutText_append {s : List Char} {ts : List Token} (h : Leads s ts)
    (hnone : .semicolon ∉ ts) (b : List Char) :
    cutText (s ++ b) = (s ++ (cutText b).1, (cutText b).2) := by
  obtain ⟨ls, rfl, hreads, hrest⟩ := h
  cases hlex : lex b with
  | ok ms =>
    have hb : Lexed b ms := .of_lexFrom hlex
    have hs : Lexed s ls := by simpa using hreads [] [] .nil
    have hplain : ∀ l ∈ ls, l.token ≠ .semicolon := by
      intro l hl htoken
      exact hnone (mem_significant_semicolon.2 ⟨l, hl, htoken⟩)
    rw [(hreads b ms hb).cutText_eq, hb.cutText_eq, cut_of_append hplain]
    dsimp only
    rw [textOf_append, hs.textOf_eq]
  | error f =>
    -- What follows cannot be read, so neither can the whole, and both are one piece.
    cases hall : lex (s ++ b) with
    | ok ms =>
      obtain ⟨more, hmore⟩ := hrest b ms (.of_lexFrom hall)
      obtain ⟨more', hok, -⟩ := hmore.lex
      cases hok.symm.trans hlex
    | error g =>
      unfold cutText
      rw [hall, hlex]

/-! ## Statements outside blocks -/

/-- The first bare word of some tokens, in upper case. -/
def firstBareWord? (ts : List Token) : Option (List Char) :=
  ts.findSome? Token.bareWord?

theorem firstBareWord?_cons (l : Lexeme) (rest : List Lexeme) :
    firstBareWord? (significant (l :: rest)) =
      l.token.bareWord?.or (firstBareWord? (significant rest)) := by
  cases htrivia : l.token.isTrivia with
  | true =>
    have hnone : l.token.bareWord? = none := by
      cases htoken : l.token <;> simp [htoken, Token.isTrivia] at htrivia <;> rfl
    rw [significant_cons_of_trivia htrivia, hnone, Option.none_or]
  | false =>
    rw [significant_cons_of_token htrivia]
    unfold firstBareWord?
    rw [List.findSome?_cons]
    cases l.token.bareWord? <;> rfl

/-- A scan that is in no block and comes to none in what is left of the statement. -/
structure Nesting.Flat (b : Nesting) (ls : List Lexeme) : Prop where
  depth : b.depth = 0
  create : b.create = some false ∨
    (b.create = none ∧ firstBareWord? (significant ls) ≠ some "CREATE".toList)

theorem Nesting.Flat.after {b : Nesting} {l : Lexeme} {rest : List Lexeme} (hb : b.Flat (l :: rest)) :
    (b.after l rest).Flat rest := by
  obtain ⟨hdepth, hcreate⟩ := hb
  rw [firstBareWord?_cons] at hcreate
  unfold Nesting.after
  cases hword : l.token.bareWord? with
  | none =>
    rw [hword, Option.none_or] at hcreate
    exact ⟨hdepth, hcreate⟩
  | some word =>
    have hother : b.create.getD (word == "CREATE".toList) = false := by
      rcases hcreate with hcreate | ⟨hcreate, hfirst⟩
      · rw [hcreate]
        rfl
      · rw [hword] at hfirst
        rw [hcreate]
        simpa using hfirst
    dsimp only
    unfold Nesting.step
    rw [hother]
    cases b.skipNext with
    | true => exact ⟨hdepth, Or.inl rfl⟩
    | false => exact ⟨hdepth, Or.inl rfl⟩

theorem meaningful_singleton {piece : List Char} (hmeaning : isMeaningful (Text.trim piece) = true) :
    meaningful [piece] = [Text.trim piece] := by
  simp [meaningful, hmeaning]

/-- Outside blocks a statement ends at the first semicolon. -/
theorem meaningful_segmentsFrom {b : Nesting} {ls : List Lexeme} (hb : b.Flat ls) (read : List Char) :
    meaningful (segmentsFrom b read ls) =
      meaningful [read ++ textOf (cut ls).1] ++ meaningful (segmentsFrom {} [] (cut ls).2) := by
  induction ls generalizing b read with
  | nil =>
    have hread : read ++ textOf (cut []).1 = read := List.append_nil read
    have hrest : meaningful (segmentsFrom {} [] (cut []).2) = [] := meaningful_empty
    rw [hread, hrest, List.append_nil]
    rfl
  | cons l rest ih =>
    -- Only the scan of the first statement is known to be flat; behind its semicolon another one starts.
    rw [segmentsFrom, cut]
    by_cases htoken : l.token = .semicolon
    · rw [if_pos ⟨htoken, hb.depth⟩, if_pos htoken, ← meaningful_append, textOf_cons]
      simp [textOf]
    · have hinside : ¬ (l.token = .semicolon ∧ b.depth = 0) := fun h => htoken h.1
      rw [if_neg hinside, if_neg htoken, ih hb.after, textOf_cons, List.append_assoc]

/-- A text whose first bare word is not `CREATE` is cut at its first semicolon. -/
theorem splitStatements_cutText {s : List Char}
    (hfirst : firstBareWord? (tokens s) ≠ some "CREATE".toList) :
    splitStatements s = meaningful [(cutText s).1] ++ splitStatements (cutText s).2 := by
  cases hlex : lex s with
  | error f =>
    have hnone : splitStatements [] = [] := splitStatements_of_isAllBlank rfl
    unfold cutText
    rw [hlex]
    dsimp only
    rw [hnone, List.append_nil, splitStatements_of_not_lex hlex]
  | ok ls =>
    have h : Lexed s ls := .of_lexFrom hlex
    rw [h.tokens_eq] at hfirst
    have hflat : Nesting.Flat {} ls := ⟨rfl, Or.inr ⟨rfl, hfirst⟩⟩
    have hrest : Lexed (textOf (cut ls).2) (cut ls).2 := by
      rw [← cut_append ls] at h
      exact h.suffix
    rw [h.splitStatements_eq, h.cutText_eq, hrest.splitStatements_eq, meaningful_segmentsFrom hflat]
    rfl

/-- A character that is neither a blank, nor a semicolon, nor starts a comment is something to run. -/
theorem isMeaningful_trim {c : Char} (hblank : Text.isBlank c = false) (hsemicolon : c ≠ ';')
    (hdash : c ≠ '-') (hslash : c ≠ '/') (rest : List Char) :
    isMeaningful (Text.trim (c :: rest)) = true := by
  have hstart : Text.trimStart (c :: rest) = c :: rest := by
    simp [Text.trimStart, hblank]
  obtain ⟨inner, hinner⟩ := Text.exists_dropTailWhile_cons hblank rest
  have htrim : Text.trim (c :: rest) = c :: inner := by
    unfold Text.trim Text.trimEnd
    rw [hstart, hinner]
  have hstrip : stripLeadingComments (c :: inner) = c :: inner :=
    stripLeadingComments_of_token hblank (fun _ h => hdash (List.cons.inj h).1)
      fun _ h => hslash (List.cons.inj h).1
  obtain ⟨kept, hkept⟩ :=
    Text.exists_dropTailWhile_cons (p := (· == ';')) (by simpa using hsemicolon) inner
  have hleft : Text.trimStart (c :: kept) = c :: kept := by
    simp [Text.trimStart, hblank]
  obtain ⟨shown, hshown⟩ := Text.exists_dropTailWhile_cons hblank kept
  unfold isMeaningful Text.dropSemicolons
  rw [htrim, hstrip, hkept]
  unfold Text.trim Text.trimEnd
  rw [hleft, hshown]
  rfl

end Sql
end SqlCells
