import Mathlib.Data.List.DropRight
import SqlCells.Proofs.Lists
import SqlCells.Text.Words

/-!
# Pieces between separators, and what is trimmed

The nonempty pieces of a text are read one by one: separators in front are passed over, and a piece
ends at the next separator.  Blanks at the ends of a text are trimmed, which is no matter to what is
found inside.  Blanks are few, so what holds of all of them is checked by going through them.
-/

namespace SqlCells
namespace Text

/-- What holds of the characters of a text is checked along the text.  Without this instance it would be
checked for every character there is. -/
instance (priority := 2000) decidableForallMem (p : Char → Prop) [DecidablePred p] (s : List Char) :
    Decidable (∀ c ∈ s, p c) :=
  List.decidableBAll p s

/-- The nonempty pieces between the characters that satisfy `p`. -/
def pieces (p : Char → Bool) (s : List Char) : List (List Char) :=
  (splitAt p s).filter fun w => !w.isEmpty

theorem words_eq_pieces (s : List Char) : words s = pieces isBlank s :=
  rfl

/-- A piece ends where the text ends or a separator stands. -/
theorem splitAt_append {p : Char → Bool} {w v : List Char} (hw : ∀ c ∈ w, p c = false)
    (hv : ∀ c ∈ v.head?, p c = true) :
    splitAt p (w ++ v) = w :: (splitAt p v).tail := by
  induction w with
  | nil =>
    cases v with
    | nil => rfl
    | cons c rest =>
      have hc : p c = true := hv c rfl
      simp [splitAt, hc]
  | cons c w ih =>
    have hc : p c = false := hw c (by simp)
    have hrest := ih fun d hd => hw d (by simp [hd])
    simp [splitAt, hc, hrest]

theorem pieces_cons {p : Char → Bool} {c : Char} (hc : p c = true) (rest : List Char) :
    pieces p (c :: rest) = pieces p rest := by
  simp [pieces, splitAt, hc]

theorem pieces_append {p : Char → Bool} {w v : List Char} (hne : w ≠ [])
    (hw : ∀ c ∈ w, p c = false) (hv : ∀ c ∈ v.head?, p c = true) :
    pieces p (w ++ v) = w :: pieces p v := by
  have htail : (splitAt p v).tail.filter (fun w => !w.isEmpty) = pieces p v := by
    cases v with
    | nil => rfl
    | cons c rest =>
      have hc : p c = true := hv c rfl
      simp [pieces, splitAt, hc]
  unfold pieces at htail ⊢
  rw [splitAt_append hw hv, List.filter_cons, if_pos (by simpa using hne), htail]

/-- Separators in front are passed over. -/
theorem pieces_dropWhile (p : Char → Bool) (s : List Char) :
    pieces p (s.dropWhile p) = pieces p s := by
  induction s with
  | nil => rfl
  | cons c rest ih =>
    by_cases hc : p c = true
    · rw [List.dropWhile_cons_of_pos hc, ih, pieces_cons hc]
    · rw [List.dropWhile_cons_of_neg hc]

/-- A text that starts with no separator starts with a piece. -/
theorem pieces_eq_cons {p : Char → Bool} {c : Char} (hc : p c = false) (rest : List Char) :
    pieces p (c :: rest) = (c :: rest).takeWhile (fun d => !p d) ::
      pieces p ((c :: rest).dropWhile fun d => !p d) := by
  have hsplit := List.takeWhile_append_dropWhile (p := fun d => !p d) (l := c :: rest)
  have hne : (c :: rest).takeWhile (fun d => !p d) ≠ [] := by simp [hc]
  have hw : ∀ d ∈ (c :: rest).takeWhile (fun d => !p d), p d = false := by
    intro d hd
    have hall := List.all_takeWhile (p := fun d => !p d) (l := c :: rest)
    simpa using List.all_eq_true.1 hall d hd
  have hv : ∀ d ∈ ((c :: rest).dropWhile fun d => !p d).head?, p d = true := by
    intro d hd
    have hhead := List.head?_dropWhile_not (fun d => !p d) (c :: rest)
    rw [Option.mem_def] at hd
    rw [hd] at hhead
    simpa using hhead
  calc pieces p (c :: rest) = pieces p (_ ++ _) := by rw [hsplit]
    _ = _ := pieces_append hne hw hv

theorem dropPrefix?_eq_some_iff {pre s after : List Char} :
    dropPrefix? pre s = some after ↔ s = pre ++ after := by
  fun_induction dropPrefix? pre s with
  | case1 s => simp [eq_comm]
  | case2 => simp
  | case3 ps c cs ih => simp [ih]
  | case4 p ps c cs hne => simp [Ne.symm hne]

theorem startsWith_iff {s pre : List Char} : startsWith s pre = true ↔ pre <+: s := by
  unfold startsWith
  rw [Option.isSome_iff_exists]
  simp only [dropPrefix?_eq_some_iff]
  exact ⟨fun ⟨after, h⟩ => ⟨after, h.symm⟩, fun ⟨after, h⟩ => ⟨after, h.symm⟩⟩

/-- A text starts as before if a character that is not in the start is put behind it. -/
theorem startsWith_append_stop {c : Char} {start rest : List Char} (hstart : c ∉ start) (s : List Char) :
    startsWith (s ++ c :: rest) start = startsWith s start := by
  rw [Bool.eq_iff_iff, startsWith_iff, startsWith_iff]
  exact prefix_append_stop hstart

theorem contains_cons (part : List Char) (c : Char) (rest : List Char) :
    contains (c :: rest) part = ((dropPrefix? part (c :: rest)).isSome || contains rest part) := by
  unfold contains
  rw [splitOnce]
  cases dropPrefix? part (c :: rest) with
  | some after => rfl
  | none => simp

/-- A text occurs inside another where it stands in a row there. -/
theorem contains_iff {s part : List Char} : contains s part = true ↔ part <:+: s := by
  induction s with
  | nil =>
    have hstart : contains [] part = startsWith [] part := by
      unfold contains startsWith splitOnce
      rw [Option.isSome_map]
    rw [hstart, startsWith_iff, List.prefix_nil, List.infix_nil]
  | cons c rest ih =>
    rw [contains_cons, Bool.or_eq_true, ih, List.infix_cons_iff]
    exact or_congr_left startsWith_iff

/-- A text is what is left of it without a tail of some characters, and that tail. -/
theorem exists_append_of_dropTailWhile (p : Char → Bool) (s : List Char) :
    ∃ tail, s = dropTailWhile p s ++ tail ∧ ∀ c ∈ tail, p c = true := by
  refine ⟨(s.reverse.takeWhile p).reverse, ?_, ?_⟩
  · unfold dropTailWhile
    rw [← List.reverse_append, List.takeWhile_append_dropWhile, List.reverse_reverse]
  · intro c hc
    have hall := List.all_takeWhile (p := p) (l := s.reverse)
    exact List.all_eq_true.1 hall c (List.mem_reverse.1 hc)

/-- Dropping a tail stops where the characters before it begin. -/
theorem dropTailWhile_append {p : Char → Bool} {s tail : List Char} (hs : ∀ c ∈ s, p c = false)
    (htail : ∀ c ∈ tail, p c = true) : dropTailWhile p (s ++ tail) = s := by
  have hstop : s.reverse.dropWhile p = s.reverse := by
    cases hrev : s.reverse with
    | nil => rfl
    | cons c rest =>
      have hc : c ∈ s := by
        rw [← List.mem_reverse, hrev]
        exact List.mem_cons_self
      rw [List.dropWhile_cons_of_neg (by simp [hs c hc])]
  unfold dropTailWhile
  rw [List.reverse_append, List.dropWhile_append_of_pos (by simpa using htail), hstop,
    List.reverse_reverse]

/-- Behind a character that stays, the tail is dropped as if it stood alone. -/
theorem dropTailWhile_append_cons {p : Char → Bool} {c : Char} (hc : p c = false) (s t : List Char) :
    dropTailWhile p (s ++ c :: t) = s ++ c :: dropTailWhile p t := by
  unfold dropTailWhile
  rw [List.reverse_append, List.reverse_cons, List.append_assoc, List.dropWhile_append, List.singleton_append,
    List.dropWhile_cons_of_neg (by simp [hc])]
  split
  · next hempty => simp [List.isEmpty_iff.1 hempty]
  · simp

/-- Dropping a tail stops at the latest at a character that is not to be dropped. -/
theorem exists_dropTailWhile_cons {p : Char → Bool} {c : Char} (hc : p c = false) (s : List Char) :
    ∃ kept, dropTailWhile p (c :: s) = c :: kept := by
  unfold dropTailWhile
  rw [List.reverse_cons, List.dropWhile_append]
  split
  · refine ⟨[], ?_⟩
    rw [List.dropWhile_cons_of_neg (by simp [hc])]
    rfl
  · exact ⟨(s.reverse.dropWhile p).reverse, by simp⟩

/-- The second word of a text that goes on with a blank behind its first. -/
theorem append_of_words {word after found : List Char} (hword : ∀ c ∈ word, isBlank c = false)
    (hne : word ≠ []) (hafter : ∀ c ∈ after.head?, isBlank c = true)
    (hfound : (words (word ++ after))[1]? = some found) :
    ∃ gap semicolons tail, after = gap ++ (dropSemicolons found ++ (semicolons ++ tail)) ∧ gap ≠ [] ∧
      (∀ c ∈ gap, isBlank c = true) ∧ (∀ c ∈ semicolons, c = ';') ∧
      ∀ c ∈ tail.head?, isBlank c = true := by
  rw [words_eq_pieces, pieces_append hne hword hafter, List.getElem?_cons_succ,
    ← List.head?_eq_getElem?, ← pieces_dropWhile] at hfound
  -- Behind the gap stands the second word, and its semicolons are at its end.
  cases hdrop : after.dropWhile isBlank with
  | nil =>
    rw [hdrop] at hfound
    cases hfound
  | cons e rest =>
    have he : isBlank e = false := by
      have hhead := List.head?_dropWhile_not isBlank after
      rw [hdrop] at hhead
      simpa using hhead
    rw [hdrop, pieces_eq_cons he] at hfound
    have hfound' := Option.some.inj hfound
    obtain ⟨semicolons, hsplit, hsemicolons⟩ :=
      exists_append_of_dropTailWhile (· == ';') found
    refine ⟨after.takeWhile isBlank, semicolons,
      (e :: rest).dropWhile fun d => !isBlank d, ?_, ?_, ?_, ?_, ?_⟩
    · calc after = after.takeWhile isBlank ++ after.dropWhile isBlank :=
            List.takeWhile_append_dropWhile.symm
        _ = after.takeWhile isBlank ++ ((e :: rest).takeWhile (fun d => !isBlank d) ++
            (e :: rest).dropWhile fun d => !isBlank d) := by
            rw [hdrop, List.takeWhile_append_dropWhile]
        _ = _ := by
            rw [hfound', ← List.append_assoc (dropSemicolons found)]
            exact congrArg (_ ++ ·) (congrArg (· ++ _) hsplit)
    · cases after with
      | nil => cases hdrop
      | cons a after =>
        rw [List.takeWhile_cons_of_pos (hafter a rfl)]
        exact List.cons_ne_nil _ _
    · intro c hc
      exact List.all_eq_true.1 List.all_takeWhile c hc
    · intro c hc
      simpa using hsemicolons c hc
    · intro c hc
      have hhead := List.head?_dropWhile_not (fun d => !isBlank d) (e :: rest)
      rw [Option.mem_def.1 hc] at hhead
      simpa using hhead

/-! ## One separator -/

section Separator

variable {p : Char → Bool} {c : Char} {before after s : List Char}

theorem splitAt_ne_nil (p : Char → Bool) (s : List Char) : splitAt p s ≠ [] := by
  induction s with
  | nil => exact List.cons_ne_nil _ _
  | cons d s ih =>
    rw [splitAt]
    split
    · exact List.cons_ne_nil _ _
    · split <;> exact List.cons_ne_nil _ _

theorem splitAt_of_none (hs : ∀ d ∈ s, p d = false) : splitAt p s = [s] := by
  have hsplit := splitAt_append (v := []) hs nofun
  rwa [List.append_nil] at hsplit

/-- A separator ends the pieces before it, and those behind it stand for themselves. -/
theorem splitAt_append_cons (hc : p c = true) (s rest : List Char) :
    splitAt p (s ++ c :: rest) = splitAt p s ++ splitAt p rest := by
  induction s with
  | nil => simp [splitAt, hc]
  | cons d s ih =>
    rw [List.cons_append, splitAt, splitAt, ih]
    split
    · rfl
    · cases hsplit : splitAt p s with
      | nil => exact absurd hsplit (splitAt_ne_nil p s)
      | cons piece pieces => rfl

theorem splitAt_of_not_mem (hs : c ∉ s) : splitAt (· == c) s = [s] :=
  splitAt_of_none fun _ hd => beq_false_of_ne (ne_of_mem_of_not_mem hd hs)

theorem splitAt_append_self (c : Char) (s rest : List Char) :
    splitAt (· == c) (s ++ c :: rest) = splitAt (· == c) s ++ splitAt (· == c) rest :=
  splitAt_append_cons (p := (· == c)) (beq_self_eq_true c) s rest

theorem joinWith_cons (sep s : List Char) {pieces : List (List Char)} (hne : pieces ≠ []) :
    joinWith sep (s :: pieces) = s ++ sep ++ joinWith sep pieces := by
  cases pieces with
  | nil => exact absurd rfl hne
  | cons t pieces => rfl

/-- Each piece with its separator behind it. -/
theorem joinWith_append_self (sep : List Char) {pieces : List (List Char)} (hne : pieces ≠ []) :
    joinWith sep pieces ++ sep = pieces.flatMap (· ++ sep) := by
  induction pieces with
  | nil => exact absurd rfl hne
  | cons piece pieces ih =>
    by_cases hmore : pieces = []
    · simp [hmore, joinWith]
    · rw [joinWith_cons _ _ hmore, List.append_assoc, ih hmore, List.flatMap_cons]

/-- Pieces between separators are found again. -/
theorem splitAt_joinWith {pieces : List (List Char)} (hne : pieces ≠ []) (hpieces : ∀ piece ∈ pieces, c ∉ piece) :
    splitAt (· == c) (joinWith [c] pieces) = pieces := by
  induction pieces with
  | nil => exact absurd rfl hne
  | cons piece pieces ih =>
    obtain ⟨hpiece, hpieces⟩ := List.forall_mem_cons.1 hpieces
    by_cases hmore : pieces = []
    · rw [hmore]
      exact splitAt_of_not_mem hpiece
    · rw [joinWith_cons _ _ hmore, List.append_assoc, List.singleton_append, splitAt_append_self,
        splitAt_of_not_mem hpiece, ih hmore hpieces]
      rfl

theorem joinWith_splitAt (c : Char) (s : List Char) : joinWith [c] (splitAt (· == c) s) = s := by
  induction s with
  | nil => rfl
  | cons d s ih =>
    have hne := splitAt_ne_nil (· == c) s
    rw [splitAt]
    split
    · next hd =>
      rw [joinWith_cons _ _ hne, ih, eq_of_beq hd]
      rfl
    · cases hsplit : splitAt (· == c) s with
      | nil => exact absurd hsplit hne
      | cons piece pieces =>
        rw [hsplit] at ih
        rw [← ih]
        cases pieces <;> rfl

/-- A character of a piece is one of the text, and no separator. -/
theorem of_mem_splitAt {piece : List Char} (hpiece : piece ∈ splitAt p s) (hc : c ∈ piece) :
    c ∈ s ∧ p c = false := by
  induction s generalizing piece with
  | nil =>
    rw [splitAt, List.mem_singleton] at hpiece
    rw [hpiece] at hc
    cases hc
  | cons d s ih =>
    rw [splitAt] at hpiece
    split at hpiece
    · rcases List.mem_cons.1 hpiece with rfl | hpiece
      · cases hc
      · exact (ih hpiece hc).imp_left (List.mem_cons_of_mem d)
    · next hd =>
      have hd : p d = false := by simpa using hd
      split at hpiece
      · obtain rfl := List.mem_singleton.1 hpiece
        obtain rfl := List.mem_singleton.1 hc
        exact ⟨List.mem_cons_self, hd⟩
      · next first pieces hsplit =>
        rcases List.mem_cons.1 hpiece with rfl | hpiece
        · rcases List.mem_cons.1 hc with rfl | hc
          · exact ⟨List.mem_cons_self, hd⟩
          · exact (ih (hsplit ▸ List.mem_cons_self) hc).imp_left (List.mem_cons_of_mem d)
        · exact (ih (hsplit ▸ List.mem_cons_of_mem first hpiece) hc).imp_left (List.mem_cons_of_mem d)

theorem of_mem_joinWith {sep : List Char} {pieces : List (List Char)} (hc : c ∈ joinWith sep pieces) :
    c ∈ sep ∨ ∃ piece ∈ pieces, c ∈ piece := by
  induction pieces with
  | nil => cases hc
  | cons piece pieces ih =>
    by_cases hmore : pieces = []
    · rw [hmore] at hc
      exact Or.inr ⟨piece, List.mem_cons_self, hc⟩
    · rw [joinWith_cons _ _ hmore, List.append_assoc] at hc
      rcases List.mem_append.1 hc with hc | hc
      · exact Or.inr ⟨piece, List.mem_cons_self, hc⟩
      rcases List.mem_append.1 hc with hc | hc
      · exact Or.inl hc
      · rcases ih hc with hsep | ⟨other, hother, hmem⟩
        · exact Or.inl hsep
        · exact Or.inr ⟨other, List.mem_cons_of_mem piece hother, hmem⟩

theorem dropPrefix?_singleton (c d : Char) (rest : List Char) :
    dropPrefix? [c] (d :: rest) = if c = d then some rest else none :=
  rfl

theorem splitOnce_singleton_eq_some_iff :
    splitOnce [c] s = some (before, after) ↔ s = before ++ c :: after ∧ c ∉ before := by
  induction s generalizing before with
  | nil => simp [splitOnce, dropPrefix?]
  | cons d s ih =>
    rw [splitOnce, dropPrefix?_singleton]
    by_cases hd : c = d
    · subst hd
      rw [if_pos rfl]
      cases before with
      | nil => simp
      | cons e before => simp +contextual
    · rw [if_neg hd]
      cases before with
      | nil => simp [Ne.symm hd]
      | cons e before =>
        have hsplit : splitOnce [c] s = some (before, after) ↔ s = before ++ c :: after ∧ c ∉ before := ih
        simp only [Option.map_eq_some_iff, Prod.exists, Prod.mk.injEq, List.cons.injEq, List.cons_append,
          List.mem_cons, not_or]
        constructor
        · rintro ⟨b, a, h, ⟨rfl, rfl⟩, rfl⟩
          obtain ⟨rfl, hnone⟩ := hsplit.1 h
          exact ⟨⟨rfl, rfl⟩, hd, hnone⟩
        · rintro ⟨⟨rfl, rfl⟩, -, hnone⟩
          exact ⟨before, after, hsplit.2 ⟨rfl, hnone⟩, ⟨rfl, rfl⟩, rfl⟩

theorem splitOnce_singleton_eq_none_iff : splitOnce [c] s = none ↔ c ∉ s := by
  constructor
  · intro hnone hmem
    obtain ⟨before, after, hs, hbefore⟩ := List.eq_append_cons_of_mem hmem
    rw [splitOnce_singleton_eq_some_iff.2 ⟨hs, hbefore⟩] at hnone
    cases hnone
  · intro hnone
    cases hsplit : splitOnce [c] s with
    | none => rfl
    | some parts =>
      obtain ⟨before, after⟩ := parts
      obtain ⟨rfl, -⟩ := splitOnce_singleton_eq_some_iff.1 hsplit
      exact absurd (List.mem_append_right before List.mem_cons_self) hnone

theorem splitOnceLast_eq_some_iff :
    splitOnceLast c s = some (before, after) ↔ s = before ++ c :: after ∧ c ∉ after := by
  unfold splitOnceLast
  simp only [Option.map_eq_some_iff, Prod.exists, Prod.mk.injEq]
  constructor
  · rintro ⟨a, b, hsplit, rfl, rfl⟩
    obtain ⟨hs, hnone⟩ := splitOnce_singleton_eq_some_iff.1 hsplit
    rw [← List.reverse_reverse s, hs]
    simpa using hnone
  · rintro ⟨rfl, hnone⟩
    refine ⟨after.reverse, before.reverse, ?_, List.reverse_reverse before, List.reverse_reverse after⟩
    exact splitOnce_singleton_eq_some_iff.2 ⟨by simp, by simpa using hnone⟩

theorem splitOnceLast_eq_none_iff : splitOnceLast c s = none ↔ c ∉ s := by
  unfold splitOnceLast
  rw [Option.map_eq_none_iff, splitOnce_singleton_eq_none_iff, List.mem_reverse]

theorem dropSuffix?_eq_some_iff {suf s before : List Char} :
    dropSuffix? suf s = some before ↔ s = before ++ suf := by
  unfold dropSuffix?
  simp only [Option.map_eq_some_iff, dropPrefix?_eq_some_iff]
  constructor
  · rintro ⟨after, hs, rfl⟩
    rw [← List.reverse_reverse s, hs, List.reverse_append, List.reverse_reverse]
  · rintro rfl
    exact ⟨before.reverse, List.reverse_append, List.reverse_reverse before⟩

/-- What stands before the first separator, which is the whole text if there is none. -/
theorem splitOnce_singleton_cases (c : Char) (s : List Char) :
    splitOnce [c] s = none ∧ s.takeWhile (· != c) = s ∨
      ∃ after, splitOnce [c] s = some (s.takeWhile (· != c), after) := by
  have hall : ∀ {front : List Char}, c ∉ front → ∀ d ∈ front, (d != c) = true := by
    intro front hnone d hd
    simpa using ne_of_mem_of_not_mem hd hnone
  cases hsplit : splitOnce [c] s with
  | none =>
    have hnone := splitOnce_singleton_eq_none_iff.1 hsplit
    exact Or.inl ⟨rfl, List.takeWhile_eq_self_iff.2 (hall hnone)⟩
  | some parts =>
    obtain ⟨front, after⟩ := parts
    obtain ⟨rfl, hnone⟩ := splitOnce_singleton_eq_some_iff.1 hsplit
    have htake : (front ++ c :: after).takeWhile (· != c) = front :=
      takeWhile_append_of_head? (hall hnone) (by simp)
    exact Or.inr ⟨after, by rw [htake]⟩

theorem dropSuffix?_singleton_eq_none_iff : dropSuffix? [c] s = none ↔ s.getLast? ≠ some c := by
  rw [Option.eq_none_iff_forall_ne_some, Ne, List.getLast?_eq_some_iff, not_exists]
  exact forall_congr' fun before => not_congr dropSuffix?_eq_some_iff

theorem isAllBlank_joinWith (pieces : List (List Char)) :
    isAllBlank (joinWith ['\n'] pieces) = pieces.all isAllBlank := by
  have hfeed : isBlank '\n' = true := by decide
  induction pieces with
  | nil => rfl
  | cons piece pieces ih =>
    by_cases hmore : pieces = []
    · simp [hmore, joinWith]
    · rw [joinWith_cons _ _ hmore, List.all_cons, ← ih]
      simp [isAllBlank, hfeed]

theorem feed_not_mem_lines (s : List Char) : ∀ line ∈ lines s, '\n' ∉ line := by
  have hpiece : ∀ piece ∈ splitAt (· == '\n') s, '\n' ∉ piece := by
    intro piece hpiece hmem
    have hnot := (of_mem_splitAt hpiece hmem).2
    simp at hnot
  -- A carriage return that is dropped takes no line feed with it.
  have hchop : ∀ piece ∈ splitAt (· == '\n') s,
      '\n' ∉ (dropSuffix? ['\r'] piece).getD piece := by
    intro piece hmem
    cases hdrop : dropSuffix? ['\r'] piece with
    | none => exact hpiece piece hmem
    | some before =>
      have hsplit := dropSuffix?_eq_some_iff.1 hdrop
      intro hfeed
      exact hpiece piece hmem (hsplit ▸ List.mem_append_left _ hfeed)
  have hchopped : ∀ line ∈ (splitAt (· == '\n') s).dropLast.map
      fun l => (dropSuffix? ['\r'] l).getD l, '\n' ∉ line := by
    intro line hline
    obtain ⟨piece, hmem, rfl⟩ := List.mem_map.1 hline
    exact hchop piece ((List.dropLast_subset _) hmem)
  intro line hline
  unfold lines at hline
  dsimp only at hline
  split at hline
  · exact hchopped line hline
  · next last _ hlast =>
    rcases List.mem_append.1 hline with hline | hline
    · exact hchopped line hline
    · rw [List.mem_singleton.1 hline]
      exact hpiece last (List.mem_of_getLast? hlast)
  · cases hline

end Separator

/-! ## Trimming -/

theorem trimStart_of_not_blank {c : Char} (hc : isBlank c = false) (rest : List Char) :
    trimStart (c :: rest) = c :: rest :=
  List.dropWhile_cons_of_neg (by simp [hc])

theorem trimStart_append {blanks : List Char} (hblanks : ∀ c ∈ blanks, isBlank c = true)
    (s : List Char) : trimStart (blanks ++ s) = trimStart s :=
  List.dropWhile_append_of_pos hblanks

theorem trimStart_append_of_not_blank {c : Char} (hc : isBlank c = false) (s : List Char) :
    trimStart (s ++ [c]) = trimStart s ++ [c] := by
  unfold trimStart
  rw [List.dropWhile_append, List.dropWhile_cons_of_neg (by simp [hc])]
  split
  · next hempty => rw [List.isEmpty_iff.1 hempty, List.nil_append]
  · rfl

/-- What is left without the blanks in front is empty or starts with something else. -/
theorem trimStart_cases (s : List Char) :
    trimStart s = [] ∨ ∃ c rest, trimStart s = c :: rest ∧ isBlank c = false := by
  unfold trimStart
  cases htrim : s.dropWhile isBlank with
  | nil => exact Or.inl rfl
  | cons c rest =>
    have hne : s.dropWhile isBlank ≠ [] := by
      rw [htrim]
      nofun
    have hhead := List.head_dropWhile_not isBlank hne
    simp only [htrim, List.head_cons] at hhead
    exact Or.inr ⟨c, rest, rfl, hhead⟩

theorem trimEnd_eq_nil_iff {s : List Char} : trimEnd s = [] ↔ ∀ c ∈ s, isBlank c = true := by
  simp [trimEnd, dropTailWhile]

theorem trimEnd_append_blank {w : Char} (hw : isBlank w = true) (s : List Char) :
    trimEnd (s ++ [w]) = trimEnd s := by
  unfold trimEnd dropTailWhile
  rw [List.reverse_append, List.reverse_singleton, List.singleton_append,
    List.dropWhile_cons_of_pos hw]

theorem trimEnd_append_of_not_blank {c : Char} (hc : isBlank c = false) (s : List Char) :
    trimEnd (s ++ [c]) = s ++ [c] := by
  unfold trimEnd dropTailWhile
  rw [List.reverse_append, List.reverse_singleton, List.singleton_append,
    List.dropWhile_cons_of_neg (by simp [hc]), List.reverse_cons, List.reverse_reverse]

theorem trimEnd_cons (c : Char) (s : List Char) :
    trimEnd (c :: s) =
      if isBlank c = true ∧ trimEnd s = [] then [] else c :: trimEnd s := by
  split
  · next hblank =>
    rw [trimEnd_eq_nil_iff] at hblank ⊢
    exact List.forall_mem_cons.2 hblank
  · next hkept =>
    unfold trimEnd dropTailWhile at hkept ⊢
    rw [List.reverse_cons, List.dropWhile_append]
    split
    · next hempty =>
      rw [List.isEmpty_iff] at hempty
      have hc : isBlank c = false := by simpa [hempty] using hkept
      simp [hc, hempty]
    · simp

theorem trimEnd_cons_of_not_blank {c : Char} (hc : isBlank c = false) (s : List Char) :
    trimEnd (c :: s) = c :: trimEnd s := by
  simp [trimEnd_cons, hc]

theorem trimStart_trimEnd (s : List Char) :
    trimStart (trimEnd s) = trimEnd (trimStart s) := by
  induction s with
  | nil => rfl
  | cons c s ih =>
    cases hc : isBlank c with
    | false => simp [trimStart, hc, trimEnd_cons_of_not_blank hc]
    | true =>
      have hstart : trimStart (c :: s) = trimStart s := by simp [trimStart, hc]
      rw [hstart, ← ih, trimEnd_cons]
      split
      · next hblank => rw [hblank.2]
      · simp [trimStart, hc]

/-- What stands at the start of a text without the blanks at its end stands at the start of the text. -/
theorem exists_append_of_trimEnd {s mark after : List Char} (hs : trimEnd s = mark ++ after) :
    ∃ more, s = mark ++ more := by
  obtain ⟨blanks, hsplit, -⟩ := exists_append_of_dropTailWhile isBlank s
  refine ⟨after ++ blanks, ?_⟩
  rw [← List.append_assoc, ← hs]
  exact hsplit

theorem subset_trim (s : List Char) : trim s ⊆ s := by
  intro c hc
  unfold trim trimEnd dropTailWhile at hc
  have hc' := (List.dropWhile_sublist _).subset (List.mem_reverse.1 hc)
  exact (List.dropWhile_sublist _).subset (List.mem_reverse.1 hc')

/-- A text is the blanks that are trimmed from its front, and the rest. -/
theorem exists_blanks_trimStart (s : List Char) :
    ∃ blanks, (∀ d ∈ blanks, isBlank d = true) ∧ s = blanks ++ trimStart s :=
  ⟨s.takeWhile isBlank, List.all_eq_true.1 List.all_takeWhile,
    List.takeWhile_append_dropWhile.symm⟩

theorem trim_trim (s : List Char) : trim (trim s) = trim s := by
  have hstart : trimStart (trim s) = trim s := by
    unfold trim
    rcases trimStart_cases s with hnil | ⟨c, rest, hcons, hc⟩
    · rw [hnil]
      rfl
    · obtain ⟨kept, hkept⟩ := exists_dropTailWhile_cons hc rest
      rw [hcons, trimEnd, hkept, trimStart_of_not_blank hc]
  have hend : trimEnd (trim s) = trim s := by
    unfold trim trimEnd dropTailWhile
    rw [List.reverse_reverse, List.dropWhile_idempotent]
  rw [trim, hstart, hend]

/-! ## Behind a mark -/

theorem afterFirst_lineFeed (s : List Char) :
    afterFirst ['\n'] s = s.drop ((s.takeWhile (· != '\n')).length + 1) := by
  induction s with
  | nil => rfl
  | cons d s ih =>
    by_cases hd : d = '\n'
    · subst hd
      simp [afterFirst, dropPrefix?]
    · have hfeed : ¬ '\n' = d := fun heq => hd heq.symm
      simp [afterFirst, dropPrefix?, hfeed, hd, ih]

/-- A mark without blanks, or of one blank, is found in front of the same text, or only blanks are behind
it. -/
theorem afterFirst_trimEnd {mark : List Char}
    (hmark : ∀ after, afterFirst mark (trimEnd (mark ++ after)) = trimEnd after)
    (s : List Char) : afterFirst mark (trimEnd s) = trimEnd (afterFirst mark s) := by
  fun_induction afterFirst mark s with
  | case1 => rfl
  | case2 c rest after hfound =>
    rw [dropPrefix?_eq_some_iff.1 hfound]
    exact hmark after
  | case3 c rest hother ih =>
    have hother' : dropPrefix? mark (trimEnd (c :: rest)) = none := by
      rw [Option.eq_none_iff_forall_not_mem] at hother ⊢
      intro after hafter
      obtain ⟨more, hmore⟩ := exists_append_of_trimEnd (dropPrefix?_eq_some_iff.1 hafter)
      exact hother more (dropPrefix?_eq_some_iff.2 hmore)
    rw [← ih]
    by_cases hblank : isBlank c = true ∧ trimEnd rest = []
    · rw [trimEnd_cons, if_pos hblank, hblank.2]
    · rw [trimEnd_cons, if_neg hblank] at hother' ⊢
      rw [afterFirst, hother']

theorem afterFirst_closing_trimEnd (s : List Char) :
    afterFirst ['*', '/'] (trimEnd s) = trimEnd (afterFirst ['*', '/'] s) := by
  refine afterFirst_trimEnd (fun after => ?_) s
  rw [List.cons_append, trimEnd_cons_of_not_blank (by decide), List.cons_append,
    trimEnd_cons_of_not_blank (by decide)]
  rfl

/-- Behind a line feed among the blanks at the end there are only blanks. -/
theorem afterFirst_lineFeed_trimEnd (s : List Char) :
    afterFirst ['\n'] (trimEnd s) = trimEnd (afterFirst ['\n'] s) := by
  refine afterFirst_trimEnd (fun after => ?_) s
  rw [List.singleton_append, trimEnd_cons]
  split
  · next hblank => rw [hblank.2]; rfl
  · rfl

/-! ## Blanks -/

/-- Every blank, in the order of code points. -/
def blanks : List Char :=
  ['\t', '\n', '\x0b', '\x0c', '\r', ' ', '\x85', '\xa0', '\u1680', '\u2000', '\u2001', '\u2002',
   '\u2003', '\u2004', '\u2005', '\u2006', '\u2007', '\u2008', '\u2009', '\u200a', '\u2028', '\u2029',
   '\u202f', '\u205f', '\u3000']

theorem mem_blanks {c : Char} (hc : isBlank c = true) : c ∈ blanks := by
  have hcode : c.toNat ∈ blanks.map Char.toNat := by
    simp only [isBlank, inRanges, blankRanges, List.any_cons, List.any_nil, Bool.or_false,
      Bool.or_eq_true, Bool.and_eq_true, decide_eq_true_eq] at hc
    simp only [blanks, List.map_cons, List.map_nil, List.mem_cons, List.not_mem_nil, or_false]
    simp only [Char.reduceToNat]
    omega
  obtain ⟨d, hd, heq⟩ := List.mem_map.1 hcode
  rwa [← Char.toNat_inj.1 heq]

end Text
end SqlCells
