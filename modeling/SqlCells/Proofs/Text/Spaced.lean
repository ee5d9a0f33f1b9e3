import SqlCells.Proofs.Text.Words

/-!
# Words in a row

A text opens with some words if it is these words, blanks in front of each, and a rest that does not go on
with the last of them.  The words of a text are those it opens with and the words of the rest, and the rest is
determined by how many words are taken.
-/

namespace SqlCells
namespace Text

variable {s t w rest after : List Char} {ws vs : List (List Char)} {c : Char}

/-! ## Words -/

/-- A text without blanks that is not empty. -/
def IsWord (w : List Char) : Prop :=
  w ≠ [] ∧ ∀ c ∈ w, isBlank c = false

/-- Whether a text is over or goes on with a blank. -/
def EndsWord (s : List Char) : Prop :=
  ∀ c ∈ s.head?, isBlank c = true

theorem endsWord_cons (hc : isBlank c = true) (s : List Char) : EndsWord (c :: s) := by
  intro d hd
  rwa [← Option.some.inj hd]

theorem EndsWord.append (h : EndsWord s) (ht : EndsWord t) : EndsWord (s ++ t) := by
  cases s with
  | nil => exact ht
  | cons c s => exact h

theorem words_nil : words [] = [] :=
  rfl

theorem words_blanks (hs : ∀ c ∈ s, isBlank c = true) (t : List Char) : words (s ++ t) = words t := by
  rw [words_eq_pieces, words_eq_pieces, ← pieces_dropWhile, List.dropWhile_append_of_pos hs, pieces_dropWhile]

theorem words_append (hw : IsWord w) (hs : EndsWord s) : words (w ++ s) = w :: words s :=
  pieces_append hw.1 hw.2 hs

/-- A blank ends a word, and the words behind it are those of the rest. -/
theorem words_append_cons (hc : isBlank c = true) (s rest : List Char) :
    words (s ++ c :: rest) = words s ++ words rest := by
  unfold words
  rw [splitAt_append_cons hc, List.filter_append]

theorem words_append_of_endsWord (ht : EndsWord t) (s : List Char) : words (s ++ t) = words s ++ words t := by
  cases t with
  | nil => rw [List.append_nil, words_nil, List.append_nil]
  | cons c t =>
    have hblanks : words (c :: t) = words t := words_blanks (List.forall_mem_singleton.2 (ht c rfl)) t
    rw [words_append_cons (ht c rfl), hblanks]

/-- A text of blanks is one without words. -/
theorem words_eq_nil_iff : words s = [] ↔ ∀ c ∈ s, isBlank c = true := by
  constructor
  · intro hnone
    induction s with
    | nil => nofun
    | cons c s ih =>
      cases hc : isBlank c with
      | true =>
        rw [words_eq_pieces, pieces_cons hc] at hnone
        exact List.forall_mem_cons.2 ⟨hc, ih hnone⟩
      | false =>
        rw [words_eq_pieces, pieces_eq_cons hc] at hnone
        cases hnone
  · intro hs
    have hall := words_blanks hs []
    rwa [List.append_nil] at hall

theorem trimStart_eq_nil_iff : trimStart s = [] ↔ ∀ c ∈ s, isBlank c = true :=
  List.dropWhile_eq_nil_iff

theorem words_trimStart (s : List Char) : words (trimStart s) = words s :=
  pieces_dropWhile isBlank s

/-! ## Texts that open with words -/

/-- The text opens with the words, blanks in front of each, and goes on with `rest`. -/
inductive Opens : (words : List (List Char)) → (text rest : List Char) → Prop
  | nil (s : List Char) : Opens [] s s
  | cons {blanks w after rest : List Char} {ws : List (List Char)} (hblanks : ∀ c ∈ blanks, isBlank c = true)
      (hw : IsWord w) (hafter : EndsWord after) (h : Opens ws after rest) :
      Opens (w :: ws) (blanks ++ (w ++ after)) rest

theorem Opens.words_eq (h : Opens ws s rest) : words s = ws ++ words rest := by
  induction h with
  | nil s => rfl
  | cons hblanks hw hafter h ih => rw [words_blanks hblanks, words_append hw hafter, ih, List.cons_append]

theorem Opens.append (h : Opens ws s t) (ht : Opens vs t rest) : Opens (ws ++ vs) s rest := by
  induction h with
  | nil s => exact ht
  | cons hblanks hw hafter h ih => exact .cons hblanks hw hafter (ih ht)

/-- Blanks in front of the first word belong to it. -/
theorem Opens.blanks (h : Opens (w :: ws) s rest) (ht : ∀ c ∈ t, isBlank c = true) :
    Opens (w :: ws) (t ++ s) rest := by
  cases h with
  | cons hblanks hw hafter h =>
    rw [← List.append_assoc]
    exact .cons (List.forall_mem_append.2 ⟨ht, hblanks⟩) hw hafter h

/-- What is behind the words goes on behind the rest. -/
theorem Opens.append_right (h : Opens ws s rest) (ht : EndsWord t) : Opens ws (s ++ t) (rest ++ t) := by
  induction h with
  | nil s => exact .nil (s ++ t)
  | cons hblanks hw hafter h ih =>
    rw [List.append_assoc, List.append_assoc]
    exact .cons hblanks hw (hafter.append ht) ih

/-- The first word of a text is what stands between the blanks in front and the next blank. -/
theorem exists_opens (hs : words s = w :: ws) :
    ∃ blanks after, s = blanks ++ (w ++ after) ∧ (∀ c ∈ blanks, isBlank c = true) ∧ IsWord w ∧
      EndsWord after ∧ words after = ws := by
  have hsplit : s.takeWhile isBlank ++ s.dropWhile isBlank = s := List.takeWhile_append_dropWhile
  have hblanks : ∀ c ∈ s.takeWhile isBlank, isBlank c = true :=
    List.all_eq_true.1 List.all_takeWhile
  rcases trimStart_cases s with hnil | ⟨c, rest, hcons, hc⟩
  · rw [words_eq_nil_iff.2 (trimStart_eq_nil_iff.1 hnil)] at hs
    cases hs
  · have hwords : words (trimStart s) = w :: ws := by rw [words_trimStart, hs]
    rw [hcons, words_eq_pieces, pieces_eq_cons hc] at hwords
    obtain ⟨hw, hws⟩ := List.cons.inj hwords
    refine ⟨s.takeWhile isBlank, (c :: rest).dropWhile fun d => !isBlank d, ?_, hblanks, ?_, ?_, hws⟩
    · rw [← hw, List.takeWhile_append_dropWhile, ← hcons]
      exact hsplit.symm
    · rw [← hw]
      refine ⟨by simp [hc], fun d hd => ?_⟩
      simpa using List.all_eq_true.1 List.all_takeWhile d hd
    · intro d hd
      have hhead := List.head?_dropWhile_not (fun d => !isBlank d) (c :: rest)
      rw [Option.mem_def] at hd
      rw [hd] at hhead
      simpa using hhead

/-- A text opens with as many of its words as are taken. -/
theorem exists_opens_of_words (hs : words s = ws ++ vs) : ∃ rest, Opens ws s rest ∧ words rest = vs := by
  induction ws generalizing s with
  | nil => exact ⟨s, .nil s, hs⟩
  | cons w ws ih =>
    obtain ⟨blanks, after, rfl, hblanks, hw, hafter, hwords⟩ := exists_opens hs
    obtain ⟨rest, h, hrest⟩ := ih hwords
    exact ⟨rest, .cons hblanks hw hafter h, hrest⟩

/-! ## What is left around -/

theorem EndsWord.takeWhile (hw : IsWord w) (hs : EndsWord s) :
    (w ++ s).takeWhile (fun c => !isBlank c) = w :=
  takeWhile_append_of_head? (fun c hc => by simp [hw.2 c hc]) fun c hc => by simp [hs c hc]

theorem IsWord.trimStart (hw : IsWord w) (s : List Char) : Text.trimStart (w ++ s) = w ++ s := by
  obtain ⟨hne, hplain⟩ := hw
  cases w with
  | nil => exact absurd rfl hne
  | cons c w => exact trimStart_of_not_blank (hplain c List.mem_cons_self) (w ++ s)

/-- A text goes on in one way behind the words it opens with. -/
theorem Opens.unique (h : Opens ws s rest) (h' : Opens ws s t) : rest = t := by
  induction h with
  | nil s =>
    cases h'
    rfl
  | @cons blanks w after rest ws hblanks hw hafter h ih =>
    generalize hs : blanks ++ (w ++ after) = s at h'
    cases h' with
    | @cons blanks' _ after' _ _ hblanks' _ _ h' =>
      -- No word starts with a blank, so trimming takes the same blanks off both.
      have htrim := congrArg Text.trimStart hs
      rw [trimStart_append hblanks, trimStart_append hblanks', hw.trimStart, hw.trimStart] at htrim
      obtain rfl := List.append_cancel_left htrim
      exact ih h'

/-- Trimming leaves what stands between the blanks at both ends. -/
theorem exists_trim (s : List Char) :
    ∃ before after, s = before ++ trim s ++ after ∧ (∀ c ∈ before, isBlank c = true) ∧
      ∀ c ∈ after, isBlank c = true := by
  obtain ⟨after, hafter, hblank⟩ := exists_append_of_dropTailWhile isBlank (trimStart s)
  refine ⟨s.takeWhile isBlank, after, ?_, List.all_eq_true.1 List.all_takeWhile, hblank⟩
  rw [List.append_assoc]
  have hsplit : s = s.takeWhile isBlank ++ trimStart s := List.takeWhile_append_dropWhile.symm
  exact hsplit.trans (congrArg _ hafter)

/-- A trimmed text starts with no blank. -/
theorem not_blank_of_head?_trim (hc : c ∈ (trim s).head?) : isBlank c = false := by
  rcases trimStart_cases s with hnil | ⟨d, rest, hcons, hd⟩
  · rw [trim, hnil] at hc
    cases hc
  · obtain ⟨kept, hkept⟩ := exists_dropTailWhile_cons hd rest
    rw [trim, hcons, trimEnd, hkept] at hc
    rwa [← Option.some.inj hc]

theorem trim_blanks (hs : ∀ c ∈ s, isBlank c = true) (t : List Char) : trim (s ++ t) = trim t := by
  rw [trim, trimStart_append hs]
  rfl

theorem trim_append_blanks (ht : ∀ c ∈ t, isBlank c = true) (s : List Char) : trim (s ++ t) = trim s := by
  have hnone : t.dropWhile isBlank = [] := List.dropWhile_eq_nil_iff.2 ht
  have hback : ∀ u, trimEnd (u ++ t) = trimEnd u := by
    intro u
    unfold trimEnd dropTailWhile
    rw [List.reverse_append, List.dropWhile_append_of_pos (by simpa using ht)]
  unfold trim trimStart
  rw [List.dropWhile_append]
  split
  · next hempty => rw [hnone, List.isEmpty_iff.1 hempty]
  · exact hback _

/-- What trimming leaves is what has blanks around it and none at its own ends. -/
theorem eq_trim_iff : t = trim s ↔ ∃ before after, s = before ++ t ++ after ∧
    (∀ c ∈ before ++ after, isBlank c = true) ∧ trim t = t := by
  constructor
  · rintro rfl
    obtain ⟨before, after, hs, hbefore, hafter⟩ := exists_trim s
    exact ⟨before, after, hs, List.forall_mem_append.2 ⟨hbefore, hafter⟩, trim_trim s⟩
  · rintro ⟨before, after, rfl, hblanks, ht⟩
    obtain ⟨hbefore, hafter⟩ := List.forall_mem_append.1 hblanks
    rw [trim_append_blanks hafter, trim_blanks hbefore, ht]

/-- Behind a word blanks are cut off as if the rest stood alone. -/
theorem trimEnd_append_of_isWord (hw : IsWord w) (s : List Char) : trimEnd (w ++ s) = w ++ trimEnd s := by
  obtain ⟨hne, hplain⟩ := hw
  obtain ⟨start, last, rfl⟩ := (List.eq_nil_or_concat' w).resolve_left hne
  have hlast : isBlank last = false := hplain last (by simp)
  rw [List.append_assoc, List.singleton_append, List.append_assoc]
  exact dropTailWhile_append_cons hlast start s

theorem length_trimEnd_le_of_suffix (h : s <:+ t) : (trimEnd s).length ≤ (trimEnd t).length := by
  obtain ⟨before, rfl⟩ := h
  unfold trimEnd dropTailWhile
  rw [List.length_reverse, List.length_reverse, List.reverse_append, List.dropWhile_append]
  split
  · next hempty => simp [List.isEmpty_iff.1 hempty]
  · rw [List.length_append]
    exact Nat.le_add_right _ _

theorem Opens.suffix (h : Opens ws s rest) : rest <:+ s := by
  induction h with
  | nil s => exact List.suffix_refl s
  | cons hblanks hw hafter h ih =>
    exact ih.trans ((List.suffix_append _ _).trans (List.suffix_append _ _))

/-- Words that a text opens with leave all that is behind a longer row of words. -/
theorem Opens.suffix_of_prefix (h : Opens ws (s ++ t) rest) (ht : EndsWord t) (hws : ws <+: words s) :
    t <:+ rest := by
  obtain ⟨more, hmore⟩ := hws
  obtain ⟨between, hbetween, -⟩ := exists_opens_of_words hmore.symm
  rw [h.unique (hbetween.append_right ht)]
  exact List.suffix_append between t

/-- What is behind a word is shorter than the text with the word, without the blanks at their ends. -/
theorem Opens.length_trim_lt (h : Opens (w :: ws) s rest) : (trim rest).length < (trim s).length := by
  cases h with
  | @cons blanks _ after _ _ hblanks hw hafter h =>
    have hpos : 0 < w.length := List.length_pos_iff.2 hw.1
    have hbehind : (trim rest).length ≤ (trimEnd after).length :=
      length_trimEnd_le_of_suffix ((List.dropWhile_suffix isBlank).trans h.suffix)
    have hword : trim (blanks ++ (w ++ after)) = w ++ trimEnd after := by
      rw [trim, trimStart_append hblanks, hw.trimStart, trimEnd_append_of_isWord hw]
    rw [hword, List.length_append]
    omega

/-- The end of a text is its end also without the blanks around. -/
theorem trim_suffix_trim (h : s <:+ t) : trim s <:+ trim t := by
  obtain ⟨before, rfl⟩ := h
  rcases trimStart_cases s with hnil | ⟨c, rest, hcons, hc⟩
  · rw [trim, hnil]
    exact List.nil_suffix
  have hsplit : s = s.takeWhile isBlank ++ c :: rest := hcons ▸ List.takeWhile_append_dropWhile.symm
  have hkeep : ∀ u, trimEnd (u ++ c :: rest) = u ++ trimEnd (c :: rest) := by
    intro u
    have hown := dropTailWhile_append_cons hc [] rest
    rw [List.nil_append, List.nil_append] at hown
    unfold trimEnd
    rw [dropTailWhile_append_cons hc, hown]
  have hs : trim s = trimEnd (c :: rest) := by rw [trim, hcons]
  rw [hs, hsplit, ← List.append_assoc, trim, trimStart, List.dropWhile_append]
  split
  · have hrest : (c :: rest).dropWhile isBlank = c :: rest := List.dropWhile_cons_of_neg (by simp [hc])
    exact ⟨[], by rw [hrest, List.nil_append]⟩
  · rw [hkeep]
    exact List.suffix_append _ _

theorem trim_trimStart (s : List Char) : trim (trimStart s) = trim s := by
  unfold trim trimStart
  rw [List.dropWhile_idempotent]

end Text
end SqlCells
