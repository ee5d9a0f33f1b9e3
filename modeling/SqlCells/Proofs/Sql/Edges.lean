import SqlCells.Proofs.Sql.Lexed
import SqlCells.Proofs.Sql.Unfinished

/-!
# Texts cut at a break

What a text is read as up to a break does not depend on what is behind it.  Blanks in front of a text
are lexemes of their own; one behind it is another lexeme or becomes a part of the last.
-/

namespace SqlCells
namespace Sql

variable {d w : Char} {b b' s : List Char} {ls ms : List Lexeme}

namespace Lexed

/-- What is behind a break can be changed for anything that can be read. -/
theorem replace {rs rs' : List Lexeme} (hd : IsBreak d) (h : Lexed (textOf ls ++ d :: b) (ls ++ rs))
    (hb : Lexed (d :: b') rs') : Lexed (textOf ls ++ d :: b') (ls ++ rs') := by
  induction ls with
  | nil => exact hb
  | cons l ls ih =>
    generalize hs : textOf (l :: ls) ++ d :: b = s at h
    cases h with
    | @cons c rest token n here _ hscan hrest =>
      rw [textOf_cons, List.cons_append, List.cons_append, List.append_assoc] at hs
      have htail : rest.take n ++ (textOf ls ++ d :: b) = rest := (List.cons.inj hs).2
      have hbehind : textOf ls ++ d :: b = rest.drop n :=
        List.append_cancel_left (htail.trans (List.take_append_drop n rest).symm)
      -- The token stands in front of the break, and so is read without it.
      have hlength : (rest.take n).length = n := by
        have hpos := congrArg List.length hbehind
        rw [List.length_append, List.length_cons, List.length_drop] at hpos
        exact List.length_take_of_le (by omega)
      rw [← htail, ← List.append_assoc] at hscan
      have hle : n ≤ (rest.take n ++ textOf ls).length := by
        rw [List.length_append, hlength]
        exact Nat.le_add_right _ _
      obtain ⟨halone, hclosed⟩ := scan_cut hd hscan hle
      obtain ⟨-, hmore⟩ := scan_append (b := b') hd halone fun _ => hclosed
      rw [List.append_assoc] at hmore
      have hrest' : Lexed ((rest.take n ++ (textOf ls ++ d :: b')).drop n) (ls ++ rs') := by
        rw [List.drop_left' hlength]
        exact ih (hbehind ▸ hrest)
      have hread : Lexed (c :: (rest.take n ++ (textOf ls ++ d :: b')))
          (⟨token, c :: (rest.take n ++ (textOf ls ++ d :: b')).take n, here⟩ :: (ls ++ rs')) :=
        .cons hmore hrest'
      rw [List.take_left' hlength] at hread
      rw [textOf_cons, List.append_assoc]
      exact hread

end Lexed

/-! ## Blanks in front -/

/-- A blank is read as one, with blanks only. -/
theorem scan_blank {c : Char} (hc : Text.isBlank c = true) (rest : List Char) :
    ∃ n, scan c rest = .ok (.blank, n) ∧
      Text.trimStart (c :: rest) = Text.trimStart (rest.drop n) := by
  obtain ⟨n, hscan⟩ := scan_of_isBlank hc rest
  refine ⟨n, hscan, ?_⟩
  cases reads_of_scan hscan with
  | blank _ hn =>
    have hblanks : ∀ e ∈ c :: rest.take n, Text.isBlank e = true :=
      List.forall_mem_cons.2 ⟨hc, hn⟩
    have hskip := Text.trimStart_append hblanks (rest.drop n)
    rwa [List.cons_append, List.take_append_drop] at hskip
  | other htoken => cases htoken

/-- The blanks in front of a text are lexemes of their own. -/
theorem Lexed.trimStart (h : Lexed s ls) :
    ∃ blanks ms, ls = blanks ++ ms ∧ (∀ l ∈ blanks, l.token = .blank) ∧
      Lexed (Text.trimStart s) ms := by
  induction h with
  | nil => exact ⟨[], [], rfl, nofun, .nil⟩
  | @cons c rest token n here ls hscan hrest ih =>
    cases hc : Text.isBlank c with
    | false =>
      rw [Text.trimStart_of_not_blank hc]
      exact ⟨[], _, rfl, nofun, .cons hscan hrest⟩
    | true =>
      obtain ⟨n', hscan', htrim⟩ := scan_blank hc rest
      cases hscan.symm.trans hscan'
      obtain ⟨blanks, ms, rfl, hblanks, hms⟩ := ih
      refine ⟨_ :: blanks, ms, rfl, List.forall_mem_cons.2 ⟨rfl, hblanks⟩, ?_⟩
      rwa [htrim]

theorem Lexed.exists_cons {c : Char} {rest : List Char} {token : Token} {n : Nat}
    (hscan : scan c rest = .ok (token, n)) (hrest : ∃ ls, Lexed (rest.drop n) ls) :
    ∃ ls, Lexed (c :: rest) ls := by
  obtain ⟨ls, hls⟩ := hrest
  have hread : Lexed (c :: rest) (⟨token, c :: rest.take n, .start⟩ :: ls) := .cons hscan hls
  exact ⟨_, hread⟩

theorem Lexed.of_trimStart (h : Lexed (Text.trimStart s) ms) : ∃ ls, Lexed s ls := by
  induction hlength : s.length using Nat.strongRecOn generalizing s with
  | ind length ih =>
    cases s with
    | nil => exact ⟨[], .nil⟩
    | cons c rest =>
      cases hc : Text.isBlank c with
      | false =>
        rw [Text.trimStart_of_not_blank hc] at h
        exact ⟨ms, h⟩
      | true =>
        obtain ⟨n, hscan, htrim⟩ := scan_blank hc rest
        rw [htrim] at h
        have hshort : (rest.drop n).length < length := by
          rw [← hlength, List.length_drop, List.length_cons]
          omega
        exact Lexed.exists_cons hscan (ih _ hshort h rfl)

/-! ## Blanks behind -/

theorem GoesOn.ne_semicolon {token : Token} {text : List Char} (h : GoesOn d token text) :
    token ≠ .semicolon := by
  cases h <;> nofun

/-- What a blank behind a text does to its lexemes: it is one more, or the last takes it in. -/
inductive Widened : List Lexeme → List Lexeme → Prop
  | blank {l : Lexeme} (hl : l.token = .blank) : Widened [] [l]
  | last {l m : Lexeme} (hl : l.token ≠ .semicolon) (hgrows : l.token.Grows m.token) :
      Widened [l] [m]
  | cons (l : Lexeme) {ls ms : List Lexeme} (hrest : Widened ls ms) : Widened (l :: ls) (l :: ms)

namespace Lexed

variable (hw : Text.isBlank w = true)

include hw

/-- The lexemes of a text without the blank behind it. -/
theorem of_append_blank (h : Lexed (s ++ [w]) ms) : ∃ ls, Lexed s ls ∧ Widened ls ms := by
  have hbreak : IsBreak w := Or.inr (Or.inr hw)
  induction hlength : s.length using Nat.strongRecOn generalizing s ms with
  | ind length ih =>
    cases s with
    | nil =>
      obtain ⟨n, hscan⟩ := scan_of_isBlank hw []
      cases h with
      | cons hscan' hrest =>
        cases hscan.symm.trans hscan'
        rw [List.drop_nil] at hrest
        cases hrest
        exact ⟨[], .nil, .blank rfl⟩
    | cons c rest =>
      rw [List.cons_append] at h
      cases h with
      | @cons _ _ token n here ms hscan hrest =>
        cases hread : scan c rest with
        | error f => exact absurd (scan_overruns hbreak hread hscan) (not_overruns_break hbreak)
        | ok read =>
          obtain ⟨token', n'⟩ := read
          by_cases hon : n' = rest.length ∧ GoesOn w token' (c :: rest)
          · -- The token takes the blank in and is the last.
            obtain ⟨token'', n'', hscan', hlong, hgrows⟩ := scan_of_goesOn (b := []) hbreak hread hon.2
            cases hscan.symm.trans hscan'
            rw [List.drop_eq_nil_of_le (by rw [List.length_append]; exact hlong)] at hrest
            cases hrest
            have halone : Lexed (c :: rest) [⟨token', c :: rest.take n', here⟩] := by
              apply Lexed.cons hread
              rw [hon.1, List.drop_length]
              exact .nil
            exact ⟨_, halone, .last hon.2.ne_semicolon hgrows⟩
          · obtain ⟨hle, hmore⟩ := scan_append (b := []) hbreak hread fun hn hgoes => hon ⟨hn, hgoes⟩
            cases hscan.symm.trans hmore
            rw [List.drop_append_of_le_length hle] at hrest
            have hshort : (rest.drop n).length < length := by
              rw [← hlength, List.length_drop, List.length_cons]
              omega
            obtain ⟨ls, hls, hwidened⟩ := ih _ hshort hrest rfl
            rw [List.take_append_of_le_length hle]
            exact ⟨_, .cons hread hls, .cons _ hwidened⟩

/-- A text that can be read can be read with a blank behind it. -/
theorem append_blank (h : Lexed s ls) : ∃ ms, Lexed (s ++ [w]) ms := by
  have hbreak : IsBreak w := Or.inr (Or.inr hw)
  have hblank : ∃ ms, Lexed [w] ms := by
    obtain ⟨n, hscan⟩ := scan_of_isBlank hw []
    exact Lexed.exists_cons hscan ⟨[], by rw [List.drop_nil]; exact .nil⟩
  induction h with
  | nil => exact hblank
  | @cons c rest token n here ls hscan hrest ih =>
    rw [List.cons_append]
    by_cases hon : n = rest.length ∧ GoesOn w token (c :: rest)
    · obtain ⟨token', n', hscan', hlong, -⟩ := scan_of_goesOn (b := []) hbreak hscan hon.2
      refine Lexed.exists_cons hscan' ⟨[], ?_⟩
      rw [List.drop_eq_nil_of_le (by rw [List.length_append]; exact hlong)]
      exact .nil
    · obtain ⟨hle, hmore⟩ := scan_append (b := []) hbreak hscan fun hn hgoes => hon ⟨hn, hgoes⟩
      rw [← List.drop_append_of_le_length hle] at ih
      exact Lexed.exists_cons hmore ih

end Lexed

end Sql
end SqlCells
