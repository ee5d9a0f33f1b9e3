import SqlCells.Proofs.Text.Words
import SqlCells.Sql.Lexer

/-!
# How tokens start

A token is read in the way its start tells, and the start is told by a mark or by the first character.
`Starts` lists the starts, one constructor for each family of tokens, with what stands in the text there.
What holds of every token is proved by going through them.
-/

namespace SqlCells
namespace Sql

variable {c : Char} {rest : List Char}

/-- What starts a token at the character `c` in front of `rest`: a mark that stands there, or the class
of the character. -/
inductive Starts : (c : Char) → (rest : List Char) → Start → Prop
  | carriageReturn {rest : List Char} : Starts '\r' rest .carriageReturn
  | string {rest : List Char} : Starts '\'' rest .string
  | literal {c quote : Char} {tail : List Char} {quoting : Quoting} (hc : isWordStart c = true)
      (hquote : quote = '\'' ∨ quote = '"') : Starts c (quote :: tail) (.literal quoting quote)
  | raw {c quote : Char} {tail : List Char} (hc : isWordStart c = true)
      (hquote : quote = '\'' ∨ quote = '"') : Starts c (quote :: tail) (.raw quote)
  | escaped {c : Char} {tail : List Char} (hc : isWordStart c = true) : Starts c ('\'' :: tail) .escaped
  | unicode {c : Char} {tail : List Char} (hc : isWordStart c = true) :
      Starts c ('&' :: '\'' :: tail) .unicode
  | quotedName {c : Char} {rest : List Char} (hc : c = '"' ∨ c = '`') : Starts c rest .quotedName
  | semicolon {rest : List Char} : Starts ';' rest .semicolon
  | lineComment {tail : List Char} : Starts '-' ('-' :: tail) .lineComment
  | blockComment {tail : List Char} : Starts '/' ('*' :: tail) .blockComment
  | hashSign {rest : List Char} : Starts '#' rest .hashSign
  | atSign {rest : List Char} : Starts '@' rest .atSign
  | questionMark {rest : List Char} : Starts '?' rest .questionMark
  | dollarSign {rest : List Char} : Starts '$' rest .dollarSign
  | number {c : Char} {rest : List Char} (hc : c.isDigit = true ∨ c = '.') : Starts c rest .number
  | word {c : Char} {rest : List Char} (hnumber : ¬ (c.isDigit = true ∨ c = '.'))
      (hc : isWordStart c = true) : Starts c rest .word
  | blank {c : Char} {rest : List Char} (hword : isWordStart c = false) (hc : Text.isBlank c = true) :
      Starts c rest .blank
  | operator {c : Char} {rest : List Char} (hnumber : ¬ (c.isDigit = true ∨ c = '.'))
      (hword : isWordStart c = false) (hblank : Text.isBlank c = false) : Starts c rest .operator

/-- Each mark starts its token, whatever is behind it. -/
theorem starts_mark : ∀ m ∈ marks, ∀ c ∈ m.firsts, ∀ tail, Starts c (m.behind ++ tail) m.start := by
  unfold marks
  simp only [List.forall_mem_cons]
  -- In the order of the table, for each character that a mark may start with.
  exact ⟨⟨fun _ => .carriageReturn, nofun⟩,
    ⟨fun _ => .literal rfl (.inl rfl), fun _ => .literal rfl (.inl rfl), nofun⟩,
    ⟨fun _ => .literal rfl (.inr rfl), fun _ => .literal rfl (.inr rfl), nofun⟩,
    ⟨fun _ => .literal rfl (.inl rfl), fun _ => .literal rfl (.inl rfl), nofun⟩,
    ⟨fun _ => .literal rfl (.inl rfl), fun _ => .literal rfl (.inl rfl), nofun⟩,
    ⟨fun _ => .raw rfl (.inl rfl), fun _ => .raw rfl (.inl rfl), nofun⟩,
    ⟨fun _ => .raw rfl (.inr rfl), fun _ => .raw rfl (.inr rfl), nofun⟩,
    ⟨fun _ => .escaped rfl, fun _ => .escaped rfl, nofun⟩,
    ⟨fun _ => .unicode rfl, fun _ => .unicode rfl, nofun⟩,
    ⟨fun _ => .string, nofun⟩,
    ⟨fun _ => .quotedName (.inl rfl), fun _ => .quotedName (.inr rfl), nofun⟩,
    ⟨fun _ => .semicolon, nofun⟩,
    ⟨fun _ => .lineComment, nofun⟩,
    ⟨fun _ => .blockComment, nofun⟩,
    ⟨fun _ => .hashSign, nofun⟩,
    ⟨fun _ => .atSign, nofun⟩,
    ⟨fun _ => .questionMark, nofun⟩,
    ⟨fun _ => .dollarSign, nofun⟩,
    nofun⟩

theorem starts_ofChar (c : Char) (rest : List Char) : Starts c rest (.ofChar c) := by
  unfold Start.ofChar
  split
  · next hnumber => exact .number (by simpa using hnumber)
  · next hnumber =>
    have hnumber' : ¬ (c.isDigit = true ∨ c = '.') := by simpa using hnumber
    split
    · next hword => exact .word hnumber' hword
    · next hword =>
      have hword' : isWordStart c = false := by simpa using hword
      split
      · next hblank => exact .blank hword' hblank
      · next hblank => exact .operator hnumber' hword' (by simpa using hblank)

/-- Every token starts in one of these ways. -/
theorem starts (c : Char) (rest : List Char) : Starts c rest (.of c rest) := by
  unfold Start.of
  split
  · next m hfind =>
    have hstands := List.find?_some hfind
    obtain ⟨hfirst, hbehind⟩ := Bool.and_eq_true_iff.1 hstands
    obtain ⟨tail, rfl⟩ := Text.startsWith_iff.1 hbehind
    exact starts_mark m (List.mem_of_find?_eq_some hfind) c (by simpa using hfirst) tail
  · exact starts_ofChar c rest

/-- A text is read in the way its start tells. -/
theorem exists_start (c : Char) (rest : List Char) :
    ∃ start, Starts c rest start ∧ scan c rest = start.read c rest :=
  ⟨.of c rest, starts c rest, rfl⟩

/-- The characters of a class are read as such if none of them starts a mark. -/
theorem scan_of_class {p : Char → Bool}
    (hnone : (marks.all fun m => m.firsts.all fun d => !p d) = true) (hc : p c = true)
    (rest : List Char) : scan c rest = (Start.ofChar c).read c rest := by
  have hfind : (marks.find? fun m => m.stands c rest) = none := by
    rw [List.find?_eq_none]
    intro m hm hstands
    obtain ⟨hfirst, -⟩ := Bool.and_eq_true_iff.1 hstands
    have hplain := List.all_eq_true.1 (List.all_eq_true.1 hnone m hm) c (by simpa using hfirst)
    rw [hc] at hplain
    cases hplain
  unfold scan Start.of
  rw [hfind]

theorem scan_string (rest : List Char) :
    scan '\'' rest = scanLiteral .plain '\'' 0 ('\'' :: rest) :=
  rfl

theorem scan_hexadecimal (tail : List Char) :
    scan 'X' ('\'' :: tail) = scanLiteral .hexadecimal '\'' 1 ('\'' :: tail) :=
  rfl

theorem scan_quotedName {quote : Char} (hquote : quote = '"' ∨ quote = '`') (rest : List Char) :
    scan quote rest = scanQuotedName quote rest := by
  rcases hquote with rfl | rfl
  · rfl
  · rfl

end Sql
end SqlCells
