import SqlCells.Proofs.Sql.Lookahead
import SqlCells.Proofs.Sql.Statement

/-!
# Texts put together

The lexemes of a text do not depend on where it stands, and those of texts put together are those of
the texts, one after another, where each ends at a break.
-/

namespace SqlCells
namespace Sql

open Effects

/-- A lexeme as if it stood at the start of a text. -/
def Lexeme.unplaced (l : Lexeme) : Lexeme :=
  { l with location := .start }

/-- The lexemes of a text, wherever they stand. -/
inductive Lexed : List Char → List Lexeme → Prop
  | nil : Lexed [] []
  | cons {c : Char} {rest : List Char} {token : Token} {n : Nat} {here : Location} {ls : List Lexeme}
      (hscan : scan c rest = .ok (token, n)) (hrest : Lexed (rest.drop n) ls) :
      Lexed (c :: rest) (⟨token, c :: rest.take n, here⟩ :: ls)

/-- The text of some lexemes. -/
def textOf (ls : List Lexeme) : List Char :=
  ls.flatMap Lexeme.text

/-- The tokens of some lexemes, blanks and comments dropped. -/
def significant (ls : List Lexeme) : List Token :=
  (ls.map Lexeme.token).filter fun t => !t.isTrivia

/-- The tokens of a text, blanks and comments dropped; none if it cannot be read. -/
def tokens (s : List Char) : List Token :=
  match lex s with
  | .ok ls => significant ls
  | .error _ => []

@[simp]
theorem textOf_append (ls ms : List Lexeme) : textOf (ls ++ ms) = textOf ls ++ textOf ms := by
  simp [textOf]

@[simp]
theorem textOf_cons (l : Lexeme) (ls : List Lexeme) : textOf (l :: ls) = l.text ++ textOf ls :=
  rfl

@[simp]
theorem significant_append (ls ms : List Lexeme) :
    significant (ls ++ ms) = significant ls ++ significant ms := by
  simp [significant]

theorem significant_cons_of_trivia {l : Lexeme} (hl : l.token.isTrivia = true) (ls : List Lexeme) :
    significant (l :: ls) = significant ls := by
  simp [significant, hl]

theorem significant_cons_of_token {l : Lexeme} (hl : l.token.isTrivia = false) (ls : List Lexeme) :
    significant (l :: ls) = l.token :: significant ls := by
  simp [significant, hl]

theorem significant_unplaced (ls : List Lexeme) :
    significant (ls.map Lexeme.unplaced) = significant ls := by
  unfold significant
  rw [List.map_map]
  rfl

theorem textOf_unplaced (ls : List Lexeme) : textOf (ls.map Lexeme.unplaced) = textOf ls := by
  unfold textOf
  rw [List.flatMap_map]
  rfl

theorem mem_significant_semicolon {ls : List Lexeme} :
    .semicolon ∈ significant ls ↔ ∃ l ∈ ls, l.token = .semicolon := by
  simp [significant, Token.isTrivia]

/-! ## What the lexer says, without places -/

namespace Lexed

variable {s : List Char} {ls ms : List Lexeme}

theorem of_lexFrom {here : Location} (hlex : lexFrom here s = .ok ls) : Lexed s ls := by
  fun_induction lexFrom here s generalizing ls with
  | case1 =>
    cases hlex
    exact .nil
  | case2 => cases hlex
  | case3 here c rest token n hscan text =>
    rename_i ih
    obtain ⟨more, hmore, hlex⟩ := of_bind_eq_ok hlex
    cases hlex
    exact .cons hscan (ih hmore)

/-- A text with such lexemes is read as them from any place on. -/
theorem lexFrom (h : Lexed s ls) (here : Location) :
    ∃ ms, Sql.lexFrom here s = .ok ms ∧ ms.map Lexeme.unplaced = ls.map Lexeme.unplaced := by
  -- A place only moves on with the text read, so that every start is as good as another.
  induction h generalizing here with
  | nil => exact ⟨[], by rw [Sql.lexFrom], rfl⟩
  | @cons c rest token n place ls hscan hrest ih =>
    obtain ⟨ms, hms, hsame⟩ := ih (here.after (c :: rest.take n))
    refine ⟨⟨token, c :: rest.take n, here⟩ :: ms, ?_, ?_⟩
    · rw [Sql.lexFrom, hscan]
      dsimp only
      rw [hms]
      rfl
    · rw [List.map_cons, List.map_cons, hsame]
      rfl

theorem lex (h : Lexed s ls) :
    ∃ ms, Sql.lex s = .ok ms ∧ ms.map Lexeme.unplaced = ls.map Lexeme.unplaced :=
  h.lexFrom .start

theorem textOf_eq (h : Lexed s ls) : textOf ls = s := by
  induction h with
  | nil => rfl
  | cons hscan hrest ih =>
    rw [textOf_cons, ih, List.cons_append, List.take_append_drop]

theorem tokens_eq (h : Lexed s ls) : tokens s = significant ls := by
  obtain ⟨ms, hms, hsame⟩ := h.lex
  unfold tokens
  rw [hms]
  dsimp only
  rw [← significant_unplaced ms, hsame, significant_unplaced]

/-- What is left of the lexemes of a text is the lexemes of what is left of it. -/
theorem suffix (h : Lexed s (ls ++ ms)) : Lexed (textOf ms) ms := by
  induction ls generalizing s with
  | nil =>
    rw [List.nil_append] at h
    rwa [h.textOf_eq]
  | cons l ls ih =>
    cases h with
    | cons hscan hrest => exact ih hrest

/-- Of a text that ends before a break, what is behind its first token ends there too. -/
theorem closed_cons {d c : Char} {rest : List Char} {token : Token} {n : Nat} {here : Location}
    (hrest : Lexed (rest.drop n) ls)
    (hclosed : ∀ l ∈ (⟨token, c :: rest.take n, here⟩ :: ls).getLast?, ¬ GoesOn d l.token l.text) :
    (n = rest.length → ¬ GoesOn d token (c :: rest)) ∧
      ∀ l ∈ ls.getLast?, ¬ GoesOn d l.token l.text := by
  constructor
  · rintro rfl
    -- Nothing is left behind the token, so that it is the last.
    have hlast : ls = [] := by
      rw [List.drop_length] at hrest
      cases hrest
      rfl
    rw [hlast, List.take_length] at hclosed
    exact hclosed _ rfl
  · intro l hl
    apply hclosed l
    rw [List.getLast?_cons, hl]
    rfl

/-- Texts put together at a break have the lexemes of both, if the first ends where it ends. -/
theorem append {d : Char} {b : List Char} (hd : IsBreak d) (h : Lexed s ls)
    (hclosed : ∀ l ∈ ls.getLast?, ¬ GoesOn d l.token l.text) (hb : Lexed (d :: b) ms) :
    Lexed (s ++ d :: b) (ls ++ ms) := by
  -- Each token is read as without the break, and what is left behind it ends at the break as well.
  induction h with
  | nil => exact hb
  | @cons c rest token n here ls hscan hrest ih =>
    obtain ⟨hend, hbehind⟩ := closed_cons hrest hclosed
    obtain ⟨hle, hmore⟩ := scan_append (b := b) hd hscan hend
    have hdrop : Lexed ((rest ++ d :: b).drop n) (ls ++ ms) := by
      rw [List.drop_append_of_le_length hle]
      exact ih hbehind
    have hstep : Lexed (c :: (rest ++ d :: b)) (⟨token, c :: (rest ++ d :: b).take n, here⟩ :: _) :=
      .cons hmore hdrop
    rwa [List.take_append_of_le_length hle] at hstep

/-- Where a text is read up to a break, what is behind is read by itself. -/
theorem of_append {d : Char} {b : List Char} (hd : IsBreak d) (h : Lexed s ls)
    (hclosed : ∀ l ∈ ls.getLast?, ¬ GoesOn d l.token l.text) (hall : Lexed (s ++ d :: b) ms) :
    ∃ more, Lexed (d :: b) more := by
  induction h generalizing ms with
  | nil => exact ⟨ms, hall⟩
  | @cons c rest token n here ls hscan hrest ih =>
    obtain ⟨hend, hbehind⟩ := closed_cons hrest hclosed
    obtain ⟨hle, hmore⟩ := scan_append (b := b) hd hscan hend
    rw [List.cons_append] at hall
    cases hall with
    | cons hscan' hrest' =>
      cases hmore.symm.trans hscan'
      rw [List.drop_append_of_le_length hle] at hrest'
      exact ih hbehind hrest'

theorem ne_lineComment (h : Lexed s ls) (hhyphen : '-' ∉ s) : ∀ l ∈ ls, l.token ≠ .lineComment := by
  induction h with
  | nil => exact fun l hl => absurd hl List.not_mem_nil
  | @cons c rest token n here ls hscan hrest ih =>
    intro l hl
    rcases List.mem_cons.1 hl with rfl | hl
    · rintro rfl
      cases reads_of_scan hscan with
      | line hc => exact hhyphen (hc ▸ List.mem_cons_self)
      | other hother => cases hother
    · refine ih ?_ l hl
      intro hmem
      exact hhyphen (List.mem_cons_of_mem _ (List.mem_of_mem_drop hmem))

end Lexed

theorem isOk_lex_iff {s : List Char} : (lex s).isOk = true ↔ ∃ ls, Lexed s ls := by
  constructor
  · intro hok
    cases hlex : lex s with
    | ok ls => exact ⟨ls, .of_lexFrom hlex⟩
    | error f =>
      rw [hlex] at hok
      cases hok
  · rintro ⟨ls, h⟩
    obtain ⟨ms, hms, -⟩ := h.lex
    rw [hms]
    rfl

theorem tokens_of_not_isOk {s : List Char} (hread : (lex s).isOk = false) : tokens s = [] := by
  unfold tokens
  cases hlex : lex s with
  | ok ls =>
    rw [hlex] at hread
    cases hread
  | error f => rfl

/-! ## Texts in front of others -/

/-- Whether a token goes on where a parenthesis or a space follows it: a line comment without its line
feed does, and in front of a parenthesis a lone mark. -/
def IsOpen (d : Char) (token : Token) (text : List Char) : Prop :=
  (token = .lineComment ∧ '\n' ∉ text) ∨
    (d = ')' ∧ (token = .symbol "#" ∨ token = .symbol "@" ∨ token = .symbol "@@"))

instance (d : Char) (token : Token) (text : List Char) : Decidable (IsOpen d token text) :=
  inferInstanceAs (Decidable (_ ∨ _))

theorem isOpen_of_goesOn {d : Char} {token : Token} {text : List Char} (hd : d = ')' ∨ d = ' ')
    (hon : GoesOn d token text) : IsOpen d token text := by
  cases hon with
  | comment hfeed => exact Or.inl ⟨rfl, hfeed⟩
  | hash hspace => exact Or.inr ⟨hd.resolve_right hspace, Or.inl rfl⟩
  | sign hspace => exact Or.inr ⟨hd.resolve_right hspace, Or.inr (Or.inl rfl)⟩
  | signs hspace => exact Or.inr ⟨hd.resolve_right hspace, Or.inr (Or.inr rfl)⟩
  | returned hfeed =>
    subst hfeed
    exact absurd hd (by decide)

/-- Whether a text can be read and ends where `d` follows it. -/
def endsBefore (d : Char) (s : List Char) : Bool :=
  match lex s with
  | .ok ls => decide (∀ l ∈ ls.getLast?, ¬ IsOpen d l.token l.text)
  | .error _ => false

/-- Whatever follows the text, it is read as the given tokens, and what follows as if it stood alone. -/
def Leads (s : List Char) (ts : List Token) : Prop :=
  ∃ ls, significant ls = ts ∧ (∀ b ms, Lexed b ms → Lexed (s ++ b) (ls ++ ms)) ∧
    ∀ b ms, Lexed (s ++ b) ms → ∃ more, Lexed b more

/-- Only a comment has a lexeme that could go on in front of a blank, and a comment has a hyphen. -/
theorem Lexed.endsBefore_blank {s : List Char} {ls : List Lexeme} (h : Lexed s ls)
    (hhyphen : '-' ∉ s) : endsBefore ' ' s = true := by
  obtain ⟨ms, hms, -⟩ := h.lex
  have hplain := (Lexed.of_lexFrom hms).ne_lineComment hhyphen
  unfold endsBefore
  rw [hms]
  apply decide_eq_true
  intro l hl hopen
  rcases hopen with ⟨htoken, -⟩ | ⟨hblank, -⟩
  · exact hplain l (List.mem_of_getLast? hl) htoken
  · cases hblank

section Leads

variable {d : Char} {s t : List Char} {ts us : List Token}

theorem Leads.append (h : Leads s ts) (h' : Leads t us) : Leads (s ++ t) (ts ++ us) := by
  obtain ⟨ls, rfl, hreads, hrest⟩ := h
  obtain ⟨ms, rfl, hreads', hrest'⟩ := h'
  refine ⟨ls ++ ms, significant_append ls ms, ?_, ?_⟩
  · intro b more hb
    rw [List.append_assoc, List.append_assoc]
    exact hreads _ _ (hreads' b more hb)
  · intro b all hall
    rw [List.append_assoc] at hall
    obtain ⟨more, hmore⟩ := hrest _ _ hall
    exact hrest' b more hmore

/-- A character that is a token whatever follows it. -/
theorem leads_of_scan (token : Token) (hscan : ∀ b, scan d b = .ok (token, 0)) :
    Leads [d] (significant [⟨token, [d], .start⟩]) := by
  refine ⟨_, rfl, ?_, ?_⟩
  · intro b ms hb
    exact .cons (hscan b) hb
  · intro b ms hall
    cases hall with
    | cons hscan' hrest =>
      cases (hscan b).symm.trans hscan'
      exact ⟨_, hrest⟩

/-- A text that ends where a parenthesis or a space follows it, in front of what that leads. -/
theorem Leads.behind (hlast : Leads [d] ts) (hd : d = ')' ∨ d = ' ') (hends : endsBefore d s = true) :
    Leads (s ++ [d]) (tokens s ++ ts) := by
  unfold endsBefore at hends
  cases hlex : lex s with
  | error f =>
    rw [hlex] at hends
    cases hends
  | ok ls =>
    rw [hlex] at hends
    have hclosed : ∀ l ∈ ls.getLast?, ¬ GoesOn d l.token l.text := fun l hl hon =>
      of_decide_eq_true hends l hl (isOpen_of_goesOn hd hon)
    have hbreak : IsBreak d := by
      rcases hd with rfl | rfl
      · exact Or.inl rfl
      · exact Or.inr (Or.inr (by decide))
    have h : Lexed s ls := .of_lexFrom hlex
    obtain ⟨ms, rfl, hreads, hrest⟩ := hlast
    refine ⟨ls ++ ms, by rw [significant_append, h.tokens_eq], ?_, ?_⟩
    · intro b more hb
      rw [List.append_assoc, List.append_assoc]
      exact h.append hbreak hclosed (hreads b more hb)
    · intro b all hall
      rw [List.append_assoc] at hall
      obtain ⟨more, hmore⟩ := h.of_append hbreak hclosed hall
      exact hrest b more hmore

/-- Behind a text that leads it, a text can be read when it can be read alone. -/
theorem Leads.isOk_lex (h : Leads s ts) (b : List Char) : (lex (s ++ b)).isOk = (lex b).isOk := by
  obtain ⟨ls, -, hreads, hrest⟩ := h
  rw [Bool.eq_iff_iff, isOk_lex_iff, isOk_lex_iff]
  constructor
  · rintro ⟨ms, hms⟩
    exact hrest b ms hms
  · rintro ⟨ms, hms⟩
    exact ⟨ls ++ ms, hreads b ms hms⟩

theorem Leads.tokens_append (h : Leads s ts) {b : List Char} (hb : (lex b).isOk = true) :
    tokens (s ++ b) = ts ++ tokens b := by
  obtain ⟨ls, rfl, hreads, -⟩ := h
  obtain ⟨ms, hms⟩ := isOk_lex_iff.1 hb
  rw [(hreads b ms hms).tokens_eq, significant_append, hms.tokens_eq]

end Leads

end Sql
end SqlCells
