import SqlCells.Proofs.Sql.Cut
import SqlCells.Proofs.Sql.Edges

/-!
# Splitting again

A payload is cut into its statements behind the semicolons that stand outside blocks.  Each statement is
read by itself as it was read within the payload, so that it is split no further, and statements put
together again are split where they were before.
-/

namespace SqlCells
namespace Sql

variable {s t : List Char} {ls ms : List Lexeme}

/-! ## Where statements end -/

/-- The lexemes of one statement, up to and with the first semicolon that stands outside blocks. -/
inductive Nesting.Ends : Nesting → List Lexeme → Prop
  | semicolon {b : Nesting} {l : Lexeme} (hl : l.token = .semicolon ∧ b.depth = 0) : Ends b [l]
  | cons {b : Nesting} {l : Lexeme} {rest : List Lexeme} (hl : ¬ (l.token = .semicolon ∧ b.depth = 0))
      (hrest : Ends (b.after l rest) rest) : Ends b (l :: rest)

/-- Lexemes without a semicolon that stands outside blocks. -/
inductive Nesting.Runs : Nesting → List Lexeme → Prop
  | nil {b : Nesting} : Runs b []
  | cons {b : Nesting} {l : Lexeme} {rest : List Lexeme} (hl : ¬ (l.token = .semicolon ∧ b.depth = 0))
      (hrest : Runs (b.after l rest) rest) : Runs b (l :: rest)

/-- Lexemes cut behind each semicolon that stands outside blocks, where blocks are followed anew in each
statement. -/
structure Cutting (ls : List Lexeme) (statements : List (List Lexeme)) (last : List Lexeme) : Prop where
  whole : statements.flatten ++ last = ls
  ends : ∀ statement ∈ statements, Nesting.Ends {} statement
  runs : Nesting.Runs {} last

/-- The text of each statement of a cutting and of what is behind the last. -/
def segments (statements : List (List Lexeme)) (last : List Lexeme) : List (List Char) :=
  statements.map textOf ++ [textOf last]

theorem flatten_segments (statements : List (List Lexeme)) (last : List Lexeme) :
    (segments statements last).flatten = textOf (statements.flatten ++ last) := by
  induction statements with
  | nil => simp [segments]
  | cons statement statements ih =>
    unfold segments at ih ⊢
    rw [List.map_cons, List.cons_append, List.flatten_cons, ih, List.flatten_cons, List.append_assoc,
      textOf_append statement]

namespace Nesting

variable {b : Nesting}

theorem Ends.exists_semicolon (h : b.Ends ls) :
    ∃ init l, ls = init ++ [l] ∧ l.token = .semicolon := by
  induction h with
  | semicolon hl => exact ⟨[], _, rfl, hl.1⟩
  | cons hl hrest ih =>
    obtain ⟨init, l, rfl, htoken⟩ := ih
    exact ⟨_ :: init, l, rfl, htoken⟩

/-- The nesting does not depend on what is behind a semicolon. -/
theorem Ends.after_append (h : b.Ends ls) (b' : Nesting) (l : Lexeme) (ms : List Lexeme) :
    b'.after l (ls ++ ms) = b'.after l ls := by
  obtain ⟨init, m, rfl, hm⟩ := h.exists_semicolon
  have hnext : nextBareWord? (init ++ [m] ++ ms) = nextBareWord? (init ++ [m]) := by
    have hfound : ((init ++ [m]).find? fun l => !l.token.isTrivia).isSome = true := by
      rw [List.find?_isSome]
      exact ⟨m, by simp, by rw [hm]; rfl⟩
    unfold nextBareWord?
    rw [List.find?_append, Option.or_of_isSome hfound]
  unfold Nesting.after
  rw [hnext]

theorem runs_or_ends (b : Nesting) (ls : List Lexeme) :
    b.Runs ls ∨ ∃ front behind, ls = front ++ behind ∧ b.Ends front := by
  induction ls generalizing b with
  | nil => exact Or.inl .nil
  | cons l rest ih =>
    by_cases hl : l.token = .semicolon ∧ b.depth = 0
    · exact Or.inr ⟨[l], rest, rfl, .semicolon hl⟩
    · rcases ih (b.after l rest) with hruns | ⟨front, behind, rfl, hends⟩
      · exact Or.inl (.cons hl hruns)
      · rw [hends.after_append] at hends
        exact Or.inr ⟨l :: front, behind, rfl, .cons hl hends⟩

theorem Ends.segmentsFrom_append (h : b.Ends ls) (read : List Char) (ms : List Lexeme) :
    segmentsFrom b read (ls ++ ms) = (read ++ textOf ls) :: segmentsFrom {} [] ms := by
  induction h generalizing read with
  | semicolon hl =>
    rw [List.singleton_append, segmentsFrom, if_pos hl]
    simp [textOf]
  | cons hl hrest ih =>
    rw [List.cons_append, segmentsFrom, if_neg hl, hrest.after_append, ih, textOf_cons,
      List.append_assoc]

theorem Runs.segmentsFrom_eq (h : b.Runs ls) (read : List Char) :
    segmentsFrom b read ls = [read ++ textOf ls] := by
  induction h generalizing read with
  | nil => simp [segmentsFrom, textOf]
  | cons hl hrest ih => rw [segmentsFrom, if_neg hl, ih, textOf_cons, List.append_assoc]

end Nesting

theorem exists_cutting (ls : List Lexeme) : ∃ statements last, Cutting ls statements last := by
  induction hlength : ls.length using Nat.strongRecOn generalizing ls with
  | ind length ih =>
    rcases Nesting.runs_or_ends {} ls with hruns | ⟨front, behind, rfl, hends⟩
    · exact ⟨[], ls, rfl, nofun, hruns⟩
    · obtain ⟨init, l, rfl, -⟩ := hends.exists_semicolon
      have hshort : behind.length < length := by
        rw [← hlength, List.length_append, List.length_append, List.length_singleton]
        omega
      obtain ⟨statements, last, hwhole, hall, hruns⟩ := ih _ hshort behind rfl
      refine ⟨_ :: statements, last, ?_, List.forall_mem_cons.2 ⟨hends, hall⟩, hruns⟩
      rw [List.flatten_cons, List.append_assoc, hwhole]

/-- The segments are the pieces that the payload is cut into. -/
theorem Cutting.segmentsFrom_eq {statements : List (List Lexeme)} {last : List Lexeme}
    (h : Cutting ls statements last) : segmentsFrom {} [] ls = segments statements last := by
  obtain ⟨rfl, hends, hruns⟩ := h
  induction statements with
  | nil => exact hruns.segmentsFrom_eq []
  | cons statement statements ih =>
    obtain ⟨hends, hmore⟩ := List.forall_mem_cons.1 hends
    rw [List.flatten_cons, List.append_assoc, hends.segmentsFrom_append, ih hmore]
    rfl

/-! ## Statements by themselves -/

/-- A text that is one statement with its semicolon, whatever is behind it. -/
def Terminated (t : List Char) : Prop :=
  ∃ ls, Nesting.Ends {} ls ∧ textOf ls = t ∧ ∀ b ms, Lexed b ms → Lexed (t ++ b) (ls ++ ms)

/-- A text that can be read and has no semicolon outside blocks. -/
def Unterminated (t : List Char) : Prop :=
  ∃ ls, Nesting.Runs {} ls ∧ Lexed t ls

theorem Lexed.text_semicolon {l : Lexeme} (h : Lexed s (l :: ms)) (hl : l.token = .semicolon) :
    l.text = [';'] := by
  cases h with
  | @cons c rest token n here _ hscan hrest =>
    obtain rfl : token = .semicolon := hl
    obtain ⟨rfl, rfl⟩ := eq_of_scan_semicolon hscan
    rfl

/-- Within a text that can be read, a statement is read as it is in front of any other text. -/
theorem Lexed.ended_append (h : Lexed s (ls ++ ms)) (hends : Nesting.Ends {} ls) {b : List Char}
    {rs : List Lexeme} (hb : Lexed b rs) : Lexed (textOf ls ++ b) (ls ++ rs) := by
  obtain ⟨init, ⟨token, text, here⟩, rfl, htoken⟩ := hends.exists_semicolon
  obtain rfl : token = .semicolon := htoken
  rw [List.append_assoc] at h
  obtain rfl : text = [';'] := h.suffix.text_semicolon rfl
  -- The semicolon is a break and is read in front of anything.
  have hchanged : Lexed (';' :: b) (⟨.semicolon, [';'], here⟩ :: rs) := .cons (n := 0) rfl hb
  rw [← h.textOf_eq, textOf_append] at h
  rw [textOf_append, List.append_assoc, List.append_assoc]
  exact h.replace (Or.inr (Or.inl rfl)) hchanged

theorem Lexed.ended (h : Lexed s (ls ++ ms)) (hends : Nesting.Ends {} ls) : Lexed (textOf ls) ls := by
  have halone := h.ended_append hends .nil
  rwa [List.append_nil, List.append_nil] at halone

/-- Within a text that can be read, each statement stands by itself. -/
theorem Lexed.terminated (h : Lexed s (ls ++ ms)) (hends : Nesting.Ends {} ls) :
    Terminated (textOf ls) :=
  ⟨ls, hends, rfl, fun _ _ hb => h.ended_append hends hb⟩

theorem Terminated.lexed (h : Terminated t) : ∃ ls, Nesting.Ends {} ls ∧ Lexed t ls := by
  obtain ⟨ls, hends, -, hreads⟩ := h
  have halone := hreads [] [] .nil
  rw [List.append_nil, List.append_nil] at halone
  exact ⟨ls, hends, halone⟩

theorem Terminated.exists_lexed_append (h : Terminated t) {b : List Char} (hb : Lexed b ms) :
    ∃ ls, Lexed (t ++ b) ls := by
  obtain ⟨ls, -, -, hreads⟩ := h
  exact ⟨_, hreads b ms hb⟩

theorem Unterminated.exists_lexed (h : Unterminated t) : ∃ ls, Lexed t ls := by
  obtain ⟨ls, -, hls⟩ := h
  exact ⟨ls, hls⟩

/-- A statement in front of a text is split off from it. -/
theorem Terminated.splitStatements_append (h : Terminated t) {b : List Char} (hb : Lexed b ms) :
    splitStatements (t ++ b) = meaningful [t] ++ splitStatements b := by
  obtain ⟨ls, hends, htext, hreads⟩ := h
  rw [(hreads b ms hb).splitStatements_eq, hb.splitStatements_eq, hends.segmentsFrom_append,
    meaningful_cons, List.nil_append, htext]

theorem Unterminated.splitStatements_eq (h : Unterminated t) : splitStatements t = meaningful [t] := by
  obtain ⟨ls, hruns, hls⟩ := h
  rw [hls.splitStatements_eq, hruns.segmentsFrom_eq, List.nil_append, hls.textOf_eq]

theorem splitStatements_nil : splitStatements [] = [] :=
  splitStatements_of_isAllBlank rfl

theorem Terminated.splitStatements_eq (h : Terminated t) : splitStatements t = meaningful [t] := by
  have halone := h.splitStatements_append (b := []) .nil
  rwa [List.append_nil, splitStatements_nil, List.append_nil] at halone

/-! ## Statements without the blanks around them -/

theorem bareWord?_of_isTrivia {token : Token} (htoken : token.isTrivia = true) :
    token.bareWord? = none := by
  cases token <;> first | rfl | cases htoken

theorem Nesting.after_trivia (b : Nesting) {l : Lexeme} (hl : l.token.isTrivia = true)
    (rest : List Lexeme) : b.after l rest = b := by
  unfold Nesting.after
  rw [bareWord?_of_isTrivia hl]

section Gaps

variable {b : Nesting} {gap : List Lexeme} (hgap : ∀ l ∈ gap, l.token.isTrivia = true)

include hgap

theorem segmentsFrom_gap_append (read : List Char) :
    segmentsFrom b read (gap ++ ls) = segmentsFrom b (read ++ textOf gap) ls := by
  induction gap generalizing read with
  | nil => simp [textOf]
  | cons l gap ih =>
    obtain ⟨hl, hmore⟩ := List.forall_mem_cons.1 hgap
    have hinside : ¬ (l.token = .semicolon ∧ b.depth = 0) := by
      rintro ⟨hsemicolon, -⟩
      rw [hsemicolon] at hl
      cases hl
    rw [List.cons_append, segmentsFrom, if_neg hinside, b.after_trivia hl, ih hmore, textOf_cons,
      List.append_assoc]

theorem Nesting.Ends.of_gap_append (h : b.Ends (gap ++ ls)) : b.Ends ls := by
  induction gap with
  | nil => exact h
  | cons l gap ih =>
    obtain ⟨hl, hmore⟩ := List.forall_mem_cons.1 hgap
    generalize hall : l :: gap ++ ls = all at h
    cases h with
    | semicolon hend =>
      obtain ⟨rfl, -⟩ := List.cons.inj hall
      rw [hend.1] at hl
      cases hl
    | cons hinside hrest =>
      obtain ⟨rfl, rfl⟩ := List.cons.inj hall
      rw [b.after_trivia hl] at hrest
      exact ih hmore hrest

theorem Nesting.Runs.of_gap_append (h : b.Runs (gap ++ ls)) : b.Runs ls := by
  induction gap with
  | nil => exact h
  | cons l gap ih =>
    obtain ⟨hl, hmore⟩ := List.forall_mem_cons.1 hgap
    rw [List.cons_append] at h
    cases h with
    | cons hinside hrest =>
      rw [b.after_trivia hl] at hrest
      exact ih hmore hrest

end Gaps

theorem isTrivia_of_blank {blanks : List Lexeme} (hblanks : ∀ l ∈ blanks, l.token = .blank) :
    ∀ l ∈ blanks, l.token.isTrivia = true := by
  intro l hl
  rw [hblanks l hl]
  rfl

theorem meaningful_blanks_append {blanks : List Char} (hblanks : ∀ c ∈ blanks, Text.isBlank c = true)
    (piece : List Char) : meaningful [blanks ++ piece] = meaningful [piece] := by
  unfold meaningful Text.trim
  rw [List.map_singleton, List.map_singleton, Text.trimStart_append hblanks]

theorem meaningful_trim (piece : List Char) : meaningful [Text.trim piece] = meaningful [piece] := by
  unfold meaningful
  rw [List.map_singleton, List.map_singleton, Text.trim_trim]

/-- Blanks in front of what was read before stand in front of the first piece. -/
theorem meaningful_segmentsFrom_blanks {blanks : List Char}
    (hblanks : ∀ c ∈ blanks, Text.isBlank c = true) (b : Nesting) (read : List Char)
    (ls : List Lexeme) :
    meaningful (segmentsFrom b (blanks ++ read) ls) = meaningful (segmentsFrom b read ls) := by
  induction ls generalizing b read with
  | nil => exact meaningful_blanks_append hblanks read
  | cons l rest ih =>
    rw [segmentsFrom, segmentsFrom, List.append_assoc]
    split
    · rw [meaningful_cons, meaningful_blanks_append hblanks, ← meaningful_cons]
    · exact ih _ _

/-- Blanks in front of a payload make no difference. -/
theorem splitStatements_trimStart (hread : ∃ ls, Lexed s ls) :
    splitStatements (Text.trimStart s) = splitStatements s := by
  obtain ⟨ls, hls⟩ := hread
  obtain ⟨blanks, ms, rfl, hblanks, hms⟩ := hls.trimStart
  have hfront : textOf blanks = s.takeWhile Text.isBlank := by
    have hwhole : textOf blanks ++ Text.trimStart s = s.takeWhile Text.isBlank ++ Text.trimStart s := by
      rw [← hms.textOf_eq, ← textOf_append, hls.textOf_eq, hms.textOf_eq]
      exact List.takeWhile_append_dropWhile.symm
    exact List.append_cancel_right hwhole
  have hall : ∀ c ∈ textOf blanks, Text.isBlank c = true := by
    rw [hfront]
    exact fun c hc => List.mem_takeWhile_imp hc
  rw [hms.splitStatements_eq, hls.splitStatements_eq, segmentsFrom_gap_append (isTrivia_of_blank hblanks),
    List.nil_append, ← List.append_nil (textOf blanks), meaningful_segmentsFrom_blanks hall]

/-- A statement ends with its semicolon. -/
theorem Terminated.exists_semicolon (h : Terminated t) : ∃ front, t = front ++ [';'] := by
  obtain ⟨ls, hends, hls⟩ := h.lexed
  obtain ⟨init, l, rfl, htoken⟩ := hends.exists_semicolon
  have htext : textOf [l] = [';'] := by
    rw [textOf_cons, hls.suffix.text_semicolon htoken]
    rfl
  exact ⟨textOf init, by rw [← hls.textOf_eq, textOf_append, htext]⟩

theorem Terminated.trim (h : Terminated t) : Terminated (Text.trim t) := by
  have hstart : Text.trim t = Text.trimStart t := by
    obtain ⟨front, rfl⟩ := h.exists_semicolon
    unfold Text.trim
    rw [Text.trimStart_append_of_not_blank (by decide), Text.trimEnd_append_of_not_blank (by decide)]
  obtain ⟨ls, hends, htext, hreads⟩ := h
  have halone := hreads [] [] .nil
  rw [List.append_nil, List.append_nil] at halone
  obtain ⟨blanks, ms, rfl, hblanks, hms⟩ := halone.trimStart
  rw [hstart]
  refine ⟨ms, hends.of_gap_append (isTrivia_of_blank hblanks), hms.textOf_eq, ?_⟩
  intro b rs hb
  have hall := hreads b rs hb
  rw [List.append_assoc] at hall
  have hsuffix := hall.suffix
  rwa [textOf_append, hms.textOf_eq, hb.textOf_eq] at hsuffix

theorem Nesting.step_of_not_mem (b : Nesting) (word : List Char) {next : Option (List Char)}
    (hnext : ∀ w ∈ endSuffixes, next ≠ some w) : b.step word next = b.step word none := by
  cases next with
  | none => rfl
  | some n =>
    have hn : endSuffixes.contains n = false := by
      rw [List.contains_eq_mem, decide_eq_false_iff_not]
      exact fun hmem => hnext n hmem rfl
    unfold Nesting.step
    dsimp only
    rw [hn]
    rfl

/-- The word that follows matters only where it belongs to an `END`. -/
theorem Nesting.step_congr (b : Nesting) (word : List Char) {next next' : Option (List Char)}
    (hnext : ∀ w ∈ endSuffixes, next = some w ↔ next' = some w) : b.step word next = b.step word next' := by
  by_cases hsuffix : ∃ w ∈ endSuffixes, next = some w
  · obtain ⟨w, hw, heq⟩ := hsuffix
    rw [heq, (hnext w hw).1 heq]
  · have hother : ∀ w ∈ endSuffixes, next ≠ some w := fun w hw heq => hsuffix ⟨w, hw, heq⟩
    rw [b.step_of_not_mem word hother,
      b.step_of_not_mem word fun w hw heq => hother w hw ((hnext w hw).2 heq)]

theorem upper_not_mem_endSuffixes {mark : Char} (hmark : mark = '#' ∨ mark = '@') (tail : List Char) :
    Text.upper (mark :: tail) ∉ endSuffixes := by
  have hhead : (Text.upper (mark :: tail)).head? = some mark := by
    rcases hmark with rfl | rfl <;> rfl
  have hletters : ∀ w ∈ endSuffixes, w.head? ≠ some '#' ∧ w.head? ≠ some '@' := by decide
  intro hmem
  rcases hmark with rfl | rfl
  · exact (hletters _ hmem).1 hhead
  · exact (hletters _ hmem).2 hhead

theorem Widened.nextBareWord? (h : Widened ls ms) :
    ∀ w ∈ endSuffixes, Sql.nextBareWord? ms = some w ↔ Sql.nextBareWord? ls = some w := by
  intro w hw
  induction h with
  | @blank l hl =>
    have hnone : Sql.nextBareWord? [l] = none := by simp [Sql.nextBareWord?, hl, Token.isTrivia]
    rw [hnone]
    rfl
  | @last l m hl hgrows =>
    obtain ⟨token, text, here⟩ := l
    obtain ⟨token', text', here'⟩ := m
    cases hgrows with
    | same =>
      have hsame : Sql.nextBareWord? [⟨token, text', here'⟩] =
          Sql.nextBareWord? [⟨token, text, here⟩] := by
        cases token <;> rfl
      rw [hsame]
    | @marked sign mark tail htoken hmark =>
      obtain rfl : token = .symbol sign := htoken
      have hword : Sql.nextBareWord? [⟨.word (String.ofList (mark :: tail)) none, text', here'⟩] =
          some (Text.upper (mark :: tail)) := by
        simp [Sql.nextBareWord?, Token.isTrivia, Token.bareWord?]
      have hsign : Sql.nextBareWord? [⟨.symbol sign, text, here⟩] = none := rfl
      rw [hword, hsign, Option.some.injEq]
      constructor
      · rintro rfl
        exact absurd hw (upper_not_mem_endSuffixes hmark tail)
      · intro hnone
        cases hnone
  | @cons l ls ms hrest ih =>
    unfold Sql.nextBareWord? at ih ⊢
    rw [List.find?_cons, List.find?_cons]
    cases l.token.isTrivia with
    | true => exact ih
    | false => exact Iff.rfl

theorem Nesting.after_widened (b : Nesting) (l : Lexeme) (h : Widened ls ms) :
    b.after l ms = b.after l ls := by
  unfold Nesting.after
  split
  · exact b.step_congr _ h.nextBareWord?
  · rfl

/-- Without a blank behind it a text has no semicolon outside blocks either. -/
theorem Nesting.Runs.of_widened {b : Nesting} (hwidened : Widened ls ms) (h : b.Runs ms) :
    b.Runs ls := by
  induction hwidened generalizing b with
  | blank => exact .nil
  | last hl => exact .cons (fun hend => hl hend.1) .nil
  | cons l hrest ih =>
    cases h with
    | cons hinside hruns =>
      have hsame := b.after_widened l hrest
      rw [hsame] at hruns
      exact .cons hinside (ih hruns)

theorem Unterminated.trimEnd (h : Unterminated t) : Unterminated (Text.trimEnd t) := by
  obtain ⟨ls, hruns, hls⟩ := h
  induction t using List.reverseRecOn generalizing ls with
  | nil => exact ⟨ls, hruns, hls⟩
  | append_singleton t c ih =>
    cases hc : Text.isBlank c with
    | false =>
      rw [Text.trimEnd_append_of_not_blank hc]
      exact ⟨ls, hruns, hls⟩
    | true =>
      rw [Text.trimEnd_append_blank hc]
      obtain ⟨ms, hms, hwidened⟩ := hls.of_append_blank hc
      exact ih ms (hruns.of_widened hwidened) hms

theorem Unterminated.trim (h : Unterminated t) : Unterminated (Text.trim t) := by
  obtain ⟨ls, hruns, hls⟩ := h
  obtain ⟨blanks, ms, rfl, hblanks, hms⟩ := hls.trimStart
  exact Unterminated.trimEnd ⟨ms, hruns.of_gap_append (isTrivia_of_blank hblanks), hms⟩

/-- A text that cannot be read cannot be read without the blanks around it. -/
theorem exists_lexed_of_trim (h : ∃ ms, Lexed (Text.trim s) ms) : ∃ ls, Lexed s ls := by
  have hend : ∀ t : List Char, (∃ ms, Lexed (Text.trimEnd t) ms) → ∃ ls, Lexed t ls := by
    intro t
    induction t using List.reverseRecOn with
    | nil => exact id
    | append_singleton t c ih =>
      cases hc : Text.isBlank c with
      | false =>
        rw [Text.trimEnd_append_of_not_blank hc]
        exact id
      | true =>
        rw [Text.trimEnd_append_blank hc]
        intro h
        obtain ⟨ls, hls⟩ := ih h
        exact hls.append_blank hc
  obtain ⟨ls, hls⟩ := hend _ h
  exact hls.of_trimStart

/-! ## Splitting twice -/

/-- A statement without the blanks around it that has something to run. -/
structure IsPiece (t : List Char) : Prop where
  trimmed : Text.trim t = t
  runs : isMeaningful t = true

theorem isPiece_of_mem_meaningful {pieces : List (List Char)} (h : t ∈ meaningful pieces) :
    IsPiece t := by
  obtain ⟨hmem, hruns⟩ := List.mem_filter.1 h
  obtain ⟨piece, -, rfl⟩ := List.mem_map.1 hmem
  exact ⟨Text.trim_trim piece, hruns⟩

theorem IsPiece.meaningful_singleton (h : IsPiece t) : meaningful [t] = [t] := by
  rw [Sql.meaningful_singleton (h.trimmed.symm ▸ h.runs), h.trimmed]

/-- Statements as they are split off, of which the last may have no semicolon. -/
structure Separable (statements last : List (List Char)) : Prop where
  pieces : ∀ t ∈ statements ++ last, IsPiece t
  terminated : ∀ t ∈ statements, Terminated t
  unterminated : last = [] ∨ ∃ t, last = [t] ∧ Unterminated t

theorem splitStatements_lineFeed (hread : ∃ ls, Lexed s ls) :
    splitStatements ('\n' :: s) = splitStatements s := by
  obtain ⟨ls, hls⟩ := hread
  have hfeed : Lexed ('\n' :: s) (⟨.blank, ['\n'], .start⟩ :: ls) := .cons (n := 0) rfl hls
  rw [← splitStatements_trimStart ⟨ls, hls⟩, ← splitStatements_trimStart ⟨_, hfeed⟩]
  rfl

/-- Statements put together with line feeds are split where they were put together. -/
theorem Separable.splitStatements_joinWith {statements last : List (List Char)}
    (h : Separable statements last) :
    (∃ ls, Lexed (Text.joinWith ['\n'] (statements ++ last)) ls) ∧
      splitStatements (Text.joinWith ['\n'] (statements ++ last)) = statements ++ last := by
  induction statements with
  | nil =>
    rcases h.unterminated with rfl | ⟨t, rfl, ht⟩
    · exact ⟨⟨[], .nil⟩, splitStatements_nil⟩
    · have hpiece := h.pieces t (List.mem_singleton_self t)
      exact ⟨ht.exists_lexed, ht.splitStatements_eq.trans hpiece.meaningful_singleton⟩
  | cons t statements ih =>
    obtain ⟨hpiece, hpieces⟩ := List.forall_mem_cons.1 h.pieces
    obtain ⟨ht, hterminated⟩ := List.forall_mem_cons.1 h.terminated
    obtain ⟨⟨ls, hls⟩, hsplit⟩ := ih ⟨hpieces, hterminated, h.unterminated⟩
    rw [List.cons_append]
    cases hmore : statements ++ last with
    | nil =>
      refine ⟨?_, ht.splitStatements_eq.trans hpiece.meaningful_singleton⟩
      have halone := ht.exists_lexed_append .nil
      rwa [List.append_nil] at halone
    | cons u more =>
      rw [hmore] at hls hsplit
      have hfeed : Lexed ('\n' :: Text.joinWith ['\n'] (u :: more)) (⟨.blank, ['\n'], .start⟩ :: ls) :=
        .cons (n := 0) rfl hls
      have hjoin : Text.joinWith ['\n'] (t :: u :: more) =
          t ++ '\n' :: Text.joinWith ['\n'] (u :: more) := by
        rw [Text.joinWith, List.append_assoc]
        rfl
      rw [hjoin]
      refine ⟨ht.exists_lexed_append hfeed, ?_⟩
      rw [ht.splitStatements_append hfeed, splitStatements_lineFeed ⟨ls, hls⟩, hsplit,
        hpiece.meaningful_singleton]
      rfl

theorem Cutting.terminated {statements : List (List Lexeme)} {last : List Lexeme} (h : Lexed s ls)
    (hcut : Cutting ls statements last) : ∀ statement ∈ statements, Terminated (textOf statement) := by
  intro statement hmem
  have hends := hcut.ends statement hmem
  obtain ⟨before, behind, rfl⟩ := List.append_of_mem hmem
  rw [← hcut.whole, List.flatten_append, List.flatten_cons, List.append_assoc, List.append_assoc] at h
  exact h.suffix.terminated hends

/-- The statements of a payload that can be read are separable. -/
theorem separable_splitStatements (h : Lexed s ls) :
    ∃ statements last, splitStatements s = statements ++ last ∧ Separable statements last := by
  obtain ⟨statements, last, hcut⟩ := exists_cutting ls
  have hsplit : splitStatements s =
      meaningful (statements.map textOf) ++ meaningful [textOf last] := by
    rw [h.splitStatements_eq, hcut.segmentsFrom_eq, ← meaningful_append]
    rfl
  refine ⟨_, _, hsplit, ?_, ?_, ?_⟩
  · rw [← meaningful_append]
    exact fun t ht => isPiece_of_mem_meaningful ht
  · intro t ht
    obtain ⟨piece, hpiece, rfl⟩ := List.mem_map.1 (List.mem_filter.1 ht).1
    obtain ⟨statement, hmem, rfl⟩ := List.mem_map.1 hpiece
    exact (hcut.terminated h statement hmem).trim
  · have hlast : Unterminated (textOf last) := by
      rw [← hcut.whole] at h
      exact ⟨last, hcut.runs, h.suffix⟩
    cases hruns : isMeaningful (Text.trim (textOf last)) with
    | true => exact Or.inr ⟨_, meaningful_singleton hruns, hlast.trim⟩
    | false => exact Or.inl (by simp [meaningful, hruns])

theorem Separable.splitStatements_eq {statements last : List (List Char)}
    (h : Separable statements last) : ∀ t ∈ statements ++ last, splitStatements t = [t] := by
  intro t ht
  have hpiece := h.pieces t ht
  rcases List.mem_append.1 ht with hmem | hmem
  · exact (h.terminated t hmem).splitStatements_eq.trans hpiece.meaningful_singleton
  · rcases h.unterminated with rfl | ⟨u, rfl, hu⟩
    · cases hmem
    · obtain rfl := List.mem_singleton.1 hmem
      exact hu.splitStatements_eq.trans hpiece.meaningful_singleton

/-- A payload that cannot be read is one statement, which cannot be read either. -/
theorem splitStatements_of_not_lexed (h : ¬ ∃ ls, Lexed s ls) :
    splitStatements s = [] ∨
      (splitStatements s = [Text.trim s] ∧ splitStatements (Text.trim s) = [Text.trim s]) := by
  have hone : ∀ t, (¬ ∃ ls, Lexed t ls) → splitStatements t = meaningful [t] := by
    intro t ht
    cases hlex : lex t with
    | ok ls => exact absurd ⟨ls, .of_lexFrom hlex⟩ ht
    | error f => exact splitStatements_of_not_lex hlex
  cases hruns : isMeaningful (Text.trim s) with
  | false => exact Or.inl ((hone s h).trans (by simp [meaningful, hruns]))
  | true =>
    have hmeaning := meaningful_singleton hruns
    refine Or.inr ⟨(hone s h).trans hmeaning, ?_⟩
    rw [hone _ fun htrim => h (exists_lexed_of_trim htrim), meaningful_trim, hmeaning]

/-- Splitting is stable: each statement of a payload is one statement by itself, and the statements put
together with line feeds are split as before. -/
theorem splitStatements_stable (payload : List Char) :
    (∀ st ∈ splitStatements payload, splitStatements st = [st]) ∧
      splitStatements (Text.joinWith ['\n'] (splitStatements payload)) =
        splitStatements payload := by
  by_cases hread : ∃ ls, Lexed payload ls
  · obtain ⟨ls, hls⟩ := hread
    obtain ⟨statements, last, hsplit, hseparable⟩ := separable_splitStatements hls
    rw [hsplit]
    exact ⟨hseparable.splitStatements_eq, hseparable.splitStatements_joinWith.2⟩
  · rcases splitStatements_of_not_lexed hread with hnone | ⟨hone, hagain⟩
    · rw [hnone]
      exact ⟨nofun, splitStatements_nil⟩
    · rw [hone]
      refine ⟨?_, hagain⟩
      intro st hst
      obtain rfl := List.mem_singleton.1 hst
      exact hagain

/-! ## What a payload is split into -/

/-- What is left behind leading comments is empty or starts with something other than a blank. -/
theorem stripLeadingComments_cases (s : List Char) :
    stripLeadingComments s = [] ∨
      ∃ c rest, stripLeadingComments s = c :: rest ∧ Text.isBlank c = false := by
  fun_induction stripLeadingComments s with
  | case1 s after htrim ih => exact ih
  | case2 s after htrim ih => exact ih
  | case3 s => exact Text.trimStart_cases s

/-- Something is left to run if anything is left once leading comments and closing semicolons are
dropped. -/
theorem isMeaningful_eq (s : List Char) :
    isMeaningful s = !(Text.dropSemicolons (stripLeadingComments s)).isEmpty := by
  unfold isMeaningful
  congr 1
  rcases stripLeadingComments_cases s with hnil | ⟨c, rest, hcons, hc⟩
  · rw [hnil]
    rfl
  · obtain ⟨tail, htail, -⟩ := Text.exists_append_of_dropTailWhile (· == ';') (c :: rest)
    rw [hcons, Text.dropSemicolons]
    cases hkept : Text.dropTailWhile (· == ';') (c :: rest) with
    | nil => rfl
    | cons d kept =>
      rw [hkept] at htail
      obtain ⟨rfl, -⟩ := List.cons.inj htail
      obtain ⟨inner, hinner⟩ := Text.exists_dropTailWhile_cons hc kept
      rw [Text.trim, Text.trimStart_of_not_blank hc, Text.trimEnd, hinner]
      rfl

/-- A lexeme stands at the place behind the text in front of it. -/
theorem location_of_lexFrom {here : Location} {before behind : List Lexeme} {l : Lexeme}
    (hlex : lexFrom here s = .ok (before ++ l :: behind)) :
    l.location = here.after (textOf before) := by
  fun_induction lexFrom here s generalizing before with
  | case1 here =>
    cases before <;> cases hlex
  | case2 => cases hlex
  | case3 here c rest token n hscan text =>
    rename_i ih
    obtain ⟨more, hmore, hlex⟩ := Effects.of_bind_eq_ok hlex
    cases before with
    | nil =>
      cases hlex
      rfl
    | cons m before =>
      obtain ⟨rfl, rfl⟩ := List.cons.inj (Except.ok.inj hlex)
      rw [ih hmore, textOf_cons, Location.after_append]

/-- The location of a lexeme gives the number of characters in front of it. -/
theorem charIndex_of_lex {payload : List Char} {before behind : List Lexeme} {l : Lexeme}
    (hlex : lex payload = .ok (before ++ l :: behind)) :
    charIndex (lineStarts payload) l.location = (textOf before).length := by
  have htext := (Lexed.of_lexFrom hlex).textOf_eq
  rw [textOf_append] at htext
  rw [location_of_lexFrom hlex, ← htext]
  exact charIndex_after_start _ _

/-- A payload that can be read is cut behind each semicolon outside blocks, at the places that the
locations of the semicolons give.  The segments put together are the payload, and its statements are the
trimmed segments in their order, except those of which nothing is left without leading comments and
closing semicolons.  Whether or not a payload can be read, each of its statements is one statement by
itself, and the statements put together with line feeds are split as before. -/
theorem splitStatements_segments_stable (payload : List Char) :
    (∀ ls, lex payload = .ok ls →
      (∀ before l behind, ls = before ++ l :: behind →
        charIndex (lineStarts payload) l.location = (textOf before).length) ∧
      (∃ statements last, Cutting ls statements last) ∧
      ∀ statements last, Cutting ls statements last →
        (segments statements last).flatten = payload ∧
        splitStatements payload = ((segments statements last).map Text.trim).filter fun s =>
          !(Text.dropSemicolons (stripLeadingComments s)).isEmpty) ∧
    (∀ st ∈ splitStatements payload, splitStatements st = [st]) ∧
    splitStatements (Text.joinWith ['\n'] (splitStatements payload)) = splitStatements payload := by
  refine ⟨?_, splitStatements_stable payload⟩
  intro ls hlex
  have h : Lexed payload ls := .of_lexFrom hlex
  refine ⟨?_, exists_cutting ls, ?_⟩
  · rintro before l behind rfl
    exact charIndex_of_lex hlex
  · intro statements last hcut
    refine ⟨?_, ?_⟩
    · rw [flatten_segments, hcut.whole, h.textOf_eq]
    · have hfilter : (fun s => !(Text.dropSemicolons (stripLeadingComments s)).isEmpty) = isMeaningful :=
        funext fun s => (isMeaningful_eq s).symm
      rw [h.splitStatements_eq, hcut.segmentsFrom_eq, hfilter]
      rfl

/-- A trigger with a block, a comment and a semicolon in a string with characters of several bytes, over
several lines. -/
def triggerPayload : List Char :=
  "CREATE TRIGGER t BEGIN\n  SELECT 'é;\n';\nEND;\n-- ✓;\nSELECT 1;;".toList

theorem splitStatements_segments_stable_trigger :
    ∃ ls, lex triggerPayload = .ok ls ∧
      splitStatements triggerPayload =
        ["CREATE TRIGGER t BEGIN\n  SELECT 'é;\n';\nEND;".toList, "-- ✓;\nSELECT 1;".toList] ∧
      ∃ statements last, Cutting ls statements last ∧
        (segments statements last).flatten = triggerPayload := by
  cases hlex : lex triggerPayload with
  | error f =>
    have hread : (lex triggerPayload).isOk = true := by decide +kernel
    rw [hlex] at hread
    cases hread
  | ok ls =>
    obtain ⟨-, ⟨statements, last, hcut⟩, hall⟩ :=
      (splitStatements_segments_stable triggerPayload).1 ls hlex
    exact ⟨ls, rfl, by decide +kernel, statements, last, hcut, (hall statements last hcut).1⟩

end Sql
end SqlCells
