import Mathlib.Data.List.NodupEquivFin
import Mathlib.Data.List.TakeWhile

/-!
# Fronts of lists

What is taken from the front of a list up to a stop does not depend on what stands behind the stop; and
members of a list by the places where they stand.
-/

namespace SqlCells

variable {α : Type} {p : α → Bool} {c d : α} {b s t : List α}

/-! ## Runs -/

theorem length_takeWhile_le (p : α → Bool) (s : List α) : (s.takeWhile p).length ≤ s.length :=
  (List.takeWhile_prefix p).length_le

/-- A run ends at an element that does not belong to it. -/
theorem takeWhile_append_stop (hd : p d = false) (s : List α) :
    (s ++ d :: b).takeWhile p = s.takeWhile p := by
  induction s with
  | nil => simp [hd]
  | cons c rest ih =>
    cases hc : p c with
    | true => simp [hc, ih]
    | false => simp [hc]

theorem dropWhile_append_stop (hd : p d = false) (s : List α) :
    (s ++ d :: b).dropWhile p = s.dropWhile p ++ d :: b := by
  induction s with
  | nil => simp [hd]
  | cons c rest ih =>
    cases hc : p c with
    | true => simp [hc, ih]
    | false => simp [hc]

/-- A list goes into a run whole, and nothing else does, if what follows does not go on with the run. -/
theorem takeWhile_append_of_head? (hs : ∀ a ∈ s, p a = true) (ht : ∀ a ∈ t.head?, p a = false) :
    (s ++ t).takeWhile p = s := by
  rw [List.takeWhile_append_of_pos hs]
  cases t with
  | nil => simp
  | cons a t =>
    have ha : p a = false := ht a rfl
    simp [ha]

theorem dropWhile_append_of_head? (hs : ∀ a ∈ s, p a = true) (ht : ∀ a ∈ t.head?, p a = false) :
    (s ++ t).dropWhile p = t := by
  rw [List.dropWhile_append_of_pos hs]
  cases t with
  | nil => rfl
  | cons a t =>
    have ha : p a = false := ht a rfl
    simp [ha]

theorem length_takeWhile_take_le (p : α → Bool) (m : Nat) (s : List α) :
    ((s.take m).takeWhile p).length ≤ s.length :=
  Nat.le_trans (length_takeWhile_le p _) (List.length_take_le' m s)

/-- A run that ends in a list is the same whatever follows the list. -/
theorem takeWhile_append_of_mem (hc : c ∈ s) (hp : p c = false) (t : List α) :
    (s.takeWhile p).length < s.length ∧ (s ++ t).takeWhile p = s.takeWhile p := by
  obtain ⟨front, more, rfl⟩ := List.append_of_mem hc
  rw [List.append_assoc, List.cons_append, takeWhile_append_stop hp, takeWhile_append_stop hp]
  refine ⟨?_, rfl⟩
  have hle := length_takeWhile_le p front
  rw [List.length_append, List.length_cons]
  omega

theorem takeWhile_append_singleton (hc : s.all p = false ∨ p c = false) :
    (s ++ [c]).takeWhile p = s.takeWhile p := by
  rcases hc with hall | hstop
  · obtain ⟨e, he, hpe⟩ := List.all_eq_false.1 hall
    exact (takeWhile_append_of_mem he (by simpa using hpe) [c]).2
  · exact takeWhile_append_stop hstop s

/-- A run that a part of a list holds is the run of the list. -/
theorem takeWhile_take {j : Nat} (hj : (s.takeWhile p).length ≤ j) :
    (s.take j).takeWhile p = s.takeWhile p := by
  rw [← List.take_takeWhile, List.take_of_length_le hj]

theorem takeWhile_take_append (hd : p d = false) (m : Nat) (s : List α) :
    ((s ++ d :: b).take m).takeWhile p = (s.take m).takeWhile p := by
  rw [← List.take_takeWhile, takeWhile_append_stop hd, List.take_takeWhile]

/-! ## Starts -/

/-- A list starts as before if a stop that is not in the start is put behind it. -/
theorem prefix_append_stop {pre : List α} (hpre : d ∉ pre) : pre <+: s ++ d :: b ↔ pre <+: s := by
  constructor
  · intro hstarts
    induction pre generalizing s with
    | nil => exact List.nil_prefix
    | cons e pre ih =>
      cases s with
      | nil =>
        obtain ⟨heq, -⟩ := List.cons_prefix_cons.1 hstarts
        exact absurd (List.mem_cons.2 (Or.inl heq.symm)) hpre
      | cons c rest =>
        obtain ⟨rfl, hmore⟩ := List.cons_prefix_cons.1 hstarts
        exact List.cons_prefix_cons.2 ⟨rfl, ih (fun hd => hpre (List.mem_cons_of_mem _ hd)) hmore⟩
  · intro hstarts
    exact hstarts.trans (List.prefix_append _ _)

theorem head?_append_stop (hd : d ≠ c) (s : List α) : (s ++ d :: b).head? = some c ↔ s.head? = some c := by
  cases s with
  | nil => simp [hd]
  | cons e rest => rfl

/-- A list that does not start with an element does not come to start with it. -/
theorem append_ne_cons (hd : d ≠ c) (hs : ∀ rest, s = c :: rest → False) :
    ∀ rest, s ++ d :: b = c :: rest → False := by
  intro rest heq
  cases s with
  | nil => exact hd (List.cons.inj heq).1
  | cons e more =>
    obtain ⟨rfl, -⟩ := List.cons.inj heq
    exact hs more rfl

/-- A part of a list starts with an element only if the list does. -/
theorem take_ne_cons (hs : ∀ rest, s = c :: rest → False) (k : Nat) :
    ∀ rest, s.take k = c :: rest → False := by
  intro rest heq
  apply hs (rest ++ s.drop k)
  rw [← List.cons_append, ← heq, List.take_append_drop]

/-- Two like elements at the start of what follows stand in the list itself. -/
theorem take_two_append (hd : d ≠ c) (s : List α) :
    (s ++ d :: b).take 2 = [c, c] ↔ s.take 2 = [c, c] := by
  match s with
  | [] => simp [hd]
  | [e] => simp [hd]
  | e :: f :: rest => simp

theorem take_three_append (hd : d ≠ c) (s : List α) :
    (c :: s ++ d :: b).take 3 = [c, c, c] ↔ (c :: s).take 3 = [c, c, c] := by
  simpa using take_two_append hd s

/-- A list is as long as what has been taken from its front. -/
theorem le_length_of_take {t : List α} {m : Nat} (htake : s.take m = t) (hlength : t.length = m) :
    m ≤ s.length :=
  calc m = (s.take m).length := by rw [htake, hlength]
    _ ≤ s.length := List.length_take_le' m s

/-! ## Places -/

theorem mem_take_iff {i : Nat} : c ∈ s.take i ↔ ∃ j < i, s[j]? = some c := by
  simp [List.mem_iff_getElem?, List.getElem?_take]

/-- What occurs once in a list stands at one place. -/
theorem eq_of_count_eq_one [DecidableEq α] (honce : s.count c = 1) {i j : Nat} (hi : s[i]? = some c)
    (hj : s[j]? = some c) : i = j := by
  have hsingle : ∀ {m n : Nat}, s[m]? = some c → s[n]? = some c → ¬ m < n := by
    intro m n hm hn hlt
    obtain ⟨hm, hma⟩ := List.getElem?_eq_some_iff.1 hm
    obtain ⟨hn, hna⟩ := List.getElem?_eq_some_iff.1 hn
    have htwice := List.duplicate_iff_two_le_count.1
      (List.duplicate_iff_exists_distinct_get.2 ⟨⟨m, hm⟩, ⟨n, hn⟩, hlt, hma.symm, hna.symm⟩)
    omega
  exact Nat.le_antisymm (Nat.le_of_not_lt (hsingle hj hi)) (Nat.le_of_not_lt (hsingle hi hj))

end SqlCells
