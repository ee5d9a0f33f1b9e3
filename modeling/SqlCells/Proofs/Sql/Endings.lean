import SqlCells.Proofs.Sql.Lookahead

/-!
# Where bodies end

A reader of a body stops at a closing character.  What it finds does not depend on anything behind that
character, so that a body that is not closed in a text is closed behind the text if it is closed at
all, and never by a break.
-/

namespace SqlCells
namespace Sql

variable {q d : Char} {b s t v : List Char} {n : Nat}

/-- What is found in a text ends with the character `q` and is found in every part of the text that goes
so far. -/
def EndsAt {α : Type} (q : Char) (read : List Char → Option α) (s : List Char) (n : Nat) : Prop :=
  (∃ m, n = m + 1 ∧ s[m]? = some q) ∧ ∀ k, n ≤ k → read (s.take k) = read s

namespace EndsAt

variable {α β : Type} {read : List Char → Option α} {more : List Char → Option β}

theorem pos (h : EndsAt q read s n) : 0 < n := by
  obtain ⟨⟨m, rfl, -⟩, -⟩ := h
  exact Nat.succ_pos m

/-- The closing character alone. -/
theorem closing (rest : List Char) (hread : ∀ k, read (q :: rest.take k) = read (q :: rest)) :
    EndsAt q read (q :: rest) 1 := by
  refine ⟨⟨0, rfl, rfl⟩, ?_⟩
  intro k hk
  obtain ⟨k, rfl⟩ := Nat.exists_eq_add_of_le' hk
  exact hread k

/-- A reader that goes on behind some characters ends where what it goes on with ends. -/
theorem behind {rest : List Char} (pre : List Char) (f : α → β) (h : EndsAt q read rest n)
    (hmore : ∀ k, n ≤ k → more (pre ++ rest.take k) = (read (rest.take k)).map f) :
    EndsAt q more (pre ++ rest) (n + pre.length) := by
  obtain ⟨⟨m, rfl, hclose⟩, htake⟩ := h
  have hwhole : more (pre ++ rest) = (read rest).map f := by
    have hlong := hmore (m + 1 + rest.length) (Nat.le_add_right _ _)
    rwa [List.take_of_length_le (Nat.le_add_left _ _)] at hlong
  refine ⟨⟨pre.length + m, by omega, ?_⟩, ?_⟩
  · rw [List.getElem?_append_right (Nat.le_add_right _ _), Nat.add_sub_cancel_left]
    exact hclose
  · intro k hk
    obtain ⟨k, rfl⟩ := Nat.exists_eq_add_of_le (Nat.le_trans (Nat.le_add_left _ _) hk)
    have hk' : m + 1 ≤ k := by omega
    rw [List.take_length_add_append, hmore k hk', htake k hk', hwhole]

/-- The same where characters of the rest are passed over too. -/
theorem beyond {rest : List Char} {k : Nat} (pre : List Char) (f : α → β) (hk : k ≤ rest.length)
    (h : EndsAt q read (rest.drop k) n)
    (hmore : ∀ j, k + n ≤ j → more (pre ++ rest.take j) = (read ((rest.take j).drop k)).map f) :
    EndsAt q more (pre ++ rest) (n + k + pre.length) := by
  have hstep : ∀ j, n ≤ j →
      more (pre ++ rest.take k ++ (rest.drop k).take j) = (read ((rest.drop k).take j)).map f := by
    intro j hj
    rw [List.append_assoc, ← List.take_add, hmore _ (Nat.add_le_add_left hj k), List.drop_take,
      Nat.add_sub_cancel_left]
  have hends := h.behind (pre ++ rest.take k) f hstep
  rwa [List.append_assoc, List.take_append_drop, List.length_append, List.length_take,
    Nat.min_eq_left hk, Nat.add_comm pre.length, ← Nat.add_assoc] at hends

/-- A body that a text does not close is closed behind it. -/
theorem overruns {r : α} (h : EndsAt q read (s ++ t) n) (hnone : read s = none)
    (hsome : read (s ++ t) = some r) : ∃ m, n = s.length + m + 1 ∧ t[m]? = some q := by
  obtain ⟨⟨m, rfl, hclose⟩, htake⟩ := h
  have hlong : s.length ≤ m := by
    apply Nat.le_of_not_lt
    intro hshort
    rw [← htake s.length hshort, List.take_left, hnone] at hsome
    cases hsome
  rw [List.getElem?_append_right hlong] at hclose
  exact ⟨m - s.length, by omega, hclose⟩

end EndsAt

theorem endsAt_quotedBody (hbody : quotedBody q s = some (v, n)) : EndsAt q (quotedBody q) s n := by
  fun_induction quotedBody q s generalizing v n with
  | case1 => cases hbody
  | case2 =>
    cases hbody
    exact .closing [] fun k => by rw [List.take_nil]
  | case3 rest ih =>
    obtain ⟨⟨v', n'⟩, hrest, heq⟩ := Option.map_eq_some_iff.1 hbody
    cases heq
    exact (ih hrest).behind [q, q] (fun r => (q :: r.1, r.2 + 2)) fun k _ => by simp [quotedBody]
  | case4 e rest hne =>
    cases hbody
    refine .closing (e :: rest) fun k => ?_
    cases k with
    | zero => simp [quotedBody, hne]
    | succ k => simp [quotedBody, hne]
  | case5 c rest hne ih =>
    obtain ⟨⟨v', n'⟩, hrest, heq⟩ := Option.map_eq_some_iff.1 hbody
    cases heq
    refine (ih hrest).behind [c] (fun r => (c :: r.1, r.2 + 1)) fun k _ => ?_
    rw [List.singleton_append, quotedBody.eq_def]
    simp [hne]

theorem endsAt_tripleBody (hbody : tripleBody q s = some (v, n)) : EndsAt q (tripleBody q) s n := by
  fun_induction tripleBody q s generalizing v n with
  | case1 => cases hbody
  | case2 c rest hclose =>
    cases hbody
    obtain ⟨rfl, htwo⟩ := hclose
    match rest, htwo with
    | e :: f :: more, htwo =>
      obtain ⟨rfl, hf⟩ := List.cons.inj htwo
      obtain ⟨rfl, -⟩ := List.cons.inj hf
      refine ⟨⟨2, rfl, rfl⟩, fun k hk => ?_⟩
      obtain ⟨k, rfl⟩ := Nat.exists_eq_add_of_le' hk
      simp [tripleBody]
  | case3 c rest hopen ih =>
    obtain ⟨⟨v', n'⟩, hrest, heq⟩ := Option.map_eq_some_iff.1 hbody
    cases heq
    refine (ih hrest).behind [c] (fun r => (c :: r.1, r.2 + 1)) fun k _ => ?_
    -- A part of the text starts with two quotes only if the text does.
    have hopen' : ¬ (c = q ∧ (rest.take k).take 2 = [q, q]) := by
      rintro ⟨hc, htwo⟩
      have hlength := congrArg List.length htwo
      rw [List.length_take, List.length_take, List.length_cons, List.length_singleton] at hlength
      rw [List.take_take, Nat.min_eq_left (by omega)] at htwo
      exact hopen ⟨hc, htwo⟩
    rw [List.singleton_append, tripleBody, if_neg hopen']

theorem endsAt_commentLength {depth : Nat} {last : Char} (hlength : commentLength depth last s = some n) :
    EndsAt '/' (commentLength depth last) s n := by
  fun_induction commentLength depth last s generalizing n with
  | case1 => cases hlength
  | case2 depth last c rest hopens ih =>
    obtain ⟨n', hrest, rfl⟩ := Option.map_eq_some_iff.1 hlength
    refine (ih hrest).behind [c] (· + 1) fun k _ => ?_
    rw [List.singleton_append, commentLength, if_pos hopens]
  | case3 depth last c rest hopens hcloses hlast =>
    -- The mark that closes the outermost comment.
    cases hlength
    obtain ⟨rfl, rfl⟩ := hcloses
    refine .closing rest fun k => ?_
    rw [commentLength, if_neg hopens, if_pos ⟨rfl, rfl⟩, if_pos hlast, commentLength, if_neg hopens,
      if_pos ⟨rfl, rfl⟩, if_pos hlast]
  | case4 depth last c rest hopens hcloses hlast ih =>
    obtain ⟨n', hrest, rfl⟩ := Option.map_eq_some_iff.1 hlength
    refine (ih hrest).behind [c] (· + 1) fun k _ => ?_
    rw [List.singleton_append, commentLength, if_neg hopens, if_pos hcloses, if_neg hlast]
  | case5 depth last c rest hopens hcloses ih =>
    obtain ⟨n', hrest, rfl⟩ := Option.map_eq_some_iff.1 hlength
    refine (ih hrest).behind [c] (· + 1) fun k _ => ?_
    rw [List.singleton_append, commentLength, if_neg hopens, if_neg hcloses]

theorem endsAt_dollarBody {pending : Bool} (hbody : dollarBody pending s = some (v, n)) :
    EndsAt '$' (dollarBody pending) s n := by
  fun_induction dollarBody pending s generalizing v n with
  | case1 => cases hbody
  | case2 rest =>
    cases hbody
    exact .closing rest fun k => by simp [dollarBody]
  | case3 pending rest hpending ih =>
    obtain ⟨⟨v', n'⟩, hrest, heq⟩ := Option.map_eq_some_iff.1 hbody
    cases heq
    refine (ih hrest).behind ['$'] (fun r => (r.1, r.2 + 1)) fun k _ => ?_
    simp [dollarBody, hpending]
  | case4 pending c rest hsign ih =>
    obtain ⟨⟨v', n'⟩, hrest, heq⟩ := Option.map_eq_some_iff.1 hbody
    cases heq
    refine (ih hrest).behind [c] (fun r => ((if pending then ['$', c] else [c]) ++ r.1, r.2 + 1))
      fun k _ => ?_
    rw [List.singleton_append, dollarBody, if_neg hsign]

theorem compareTag_take {tag : List Char} {same : Bool} {k : Nat}
    (hcompare : compareTag tag s = some (same, k)) {j : Nat} (hj : k ≤ j) :
    compareTag tag (s.take j) = some (same, k) := by
  fun_induction compareTag tag s generalizing same k j with
  | case1 =>
    cases hcompare
    rw [compareTag]
  | case2 => cases hcompare
  | case3 ts c rest ih =>
    obtain ⟨⟨same', k'⟩, hrest, heq⟩ := Option.map_eq_some_iff.1 hcompare
    cases heq
    obtain ⟨j, rfl⟩ := Nat.exists_eq_add_of_le' (Nat.le_trans (Nat.succ_pos k') hj)
    rw [List.take_succ_cons, compareTag, if_pos rfl, ih hrest (Nat.le_of_succ_le_succ hj)]
    rfl
  | case4 t ts c rest hne =>
    cases hcompare
    obtain ⟨j, rfl⟩ := Nat.exists_eq_add_of_le' hj
    rw [List.take_succ_cons, compareTag, if_neg hne]

theorem endsAt_taggedBody {tag : List Char} (hbody : taggedBody tag s = some (v, n)) :
    EndsAt '$' (taggedBody tag) s n := by
  fun_induction taggedBody tag s generalizing v n with
  | case1 => cases hbody
  | case2 c rest hsign ih =>
    obtain ⟨⟨v', n'⟩, hrest, heq⟩ := Option.map_eq_some_iff.1 hbody
    cases heq
    refine (ih hrest).behind [c] (fun r => (c :: r.1, r.2 + 1)) fun k _ => ?_
    rw [List.singleton_append, taggedBody, if_pos hsign]
  | case3 => cases hbody
  | case4 c rest hsign same k hcompare hcloses =>
    -- The tag stands here and closes the literal, also in the part up to there.
    cases hbody
    obtain rfl : c = '$' := not_not.1 hsign
    have hget : rest[k]? = some '$' := by
      rw [← List.head?_drop]
      exact hcloses.2
    refine ⟨⟨k + 1, rfl, hget⟩, fun j hj => ?_⟩
    obtain ⟨j, rfl⟩ := Nat.exists_eq_add_of_le' (Nat.le_trans (Nat.succ_pos _) hj)
    have hhead : ((rest.take j).drop k).head? = some '$' := by
      rw [List.head?_drop, List.getElem?_take_of_lt (by omega)]
      exact hget
    rw [List.take_succ_cons, taggedBody, if_neg hsign, compareTag_take hcompare (by omega)]
    dsimp only
    rw [if_pos ⟨hcloses.1, hhead⟩, taggedBody, if_neg hsign, hcompare]
    dsimp only
    rw [if_pos hcloses]
  | case5 c rest hsign same k hcompare hopen ih =>
    -- What was compared with the tag in vain lies in every part that holds the end.
    obtain ⟨⟨v', n'⟩, hrest, heq⟩ := Option.map_eq_some_iff.1 hbody
    cases heq
    obtain rfl : c = '$' := not_not.1 hsign
    have hk : k ≤ rest.length := (compareTag_append hcompare []).1
    have hpos := (ih hrest).pos
    refine (ih hrest).beyond ['$'] (fun r => ('$' :: rest.take k ++ r.1, r.2 + k + 1)) hk fun j hj => ?_
    have hhead : ((rest.take j).drop k).head? = (rest.drop k).head? := by
      rw [List.head?_drop, List.head?_drop, List.getElem?_take_of_lt (by omega)]
    have htake : (rest.take j).take k = rest.take k := by
      rw [List.take_take, Nat.min_eq_left (by omega)]
    rw [List.singleton_append, taggedBody, if_neg hsign, compareTag_take hcompare (by omega)]
    dsimp only
    rw [htake, hhead, if_neg hopen]

theorem codeEscape?_take {count j : Nat} (hj : count ≤ j) (s : List Char) :
    codeEscape? count (s.take j) = codeEscape? count s := by
  unfold codeEscape?
  rw [List.take_take, Nat.min_eq_left hj]

/-- An escape is the same in every part of the text that it is in. -/
theorem backslash?_take {c : Char} {k : Nat} (hescape : backslash? s = some (c, k)) {j : Nat}
    (hj : k ≤ j) : backslash? (s.take j) = some (c, k) := by
  -- Digits are taken from the next two characters at most.
  have hdigits : ∀ {p : Char → Bool} {rest : List Char} {j : Nat},
      ((rest.take 2).takeWhile p).length ≤ j →
      ((rest.take j).take 2).takeWhile p = (rest.take 2).takeWhile p := by
    intro p rest j hj
    rw [List.take_take, Nat.min_comm, ← List.take_take, takeWhile_take hj]
  fun_cases backslash? s with
  | case1 => cases hescape
  | case2 | case3 | case4 | case5 | case6 =>
    cases hescape
    obtain ⟨j, rfl⟩ := Nat.exists_eq_add_of_le' hj
    rfl
  | case7 rest | case8 rest =>
    obtain ⟨code, hcode, heq⟩ := Option.map_eq_some_iff.1 hescape
    cases heq
    obtain ⟨j, rfl⟩ := Nat.exists_eq_add_of_le' (Nat.le_trans (Nat.succ_pos _) hj)
    rw [List.take_succ_cons, ← hescape, backslash?, backslash?, codeEscape?_take (by omega)]
  | case9 rest digits hnone =>
    rw [backslash?.eq_9, if_pos hnone] at hescape
    cases hescape
    obtain ⟨j, rfl⟩ := Nat.exists_eq_add_of_le' hj
    have hshort : digits.length ≤ j := by
      rw [List.isEmpty_iff.1 hnone]
      exact Nat.zero_le j
    rw [List.take_succ_cons, backslash?.eq_9, hdigits hshort, if_pos hnone]
  | case10 rest digits hsome =>
    rw [backslash?.eq_9, if_neg hsome] at hescape
    obtain ⟨code, hcode, heq⟩ := Option.map_eq_some_iff.1 hescape
    cases heq
    obtain ⟨j, rfl⟩ := Nat.exists_eq_add_of_le (Nat.le_trans (Nat.le_add_right 1 _) hj)
    rw [Nat.add_comm, List.take_succ_cons, backslash?.eq_9, hdigits (by omega), if_neg hsome, hcode]
    rfl
  | case11 e rest hb hf hn hr ht hu hU hx hoctal digits =>
    rw [backslash?.eq_10 e _ hb hf hn hr ht hu hU hx, if_pos hoctal] at hescape
    obtain ⟨code, hcode, heq⟩ := Option.map_eq_some_iff.1 hescape
    cases heq
    rw [List.length_cons] at hj
    obtain ⟨j, rfl⟩ := Nat.exists_eq_add_of_le' (Nat.le_trans (Nat.succ_pos _) hj)
    rw [List.take_succ_cons, backslash?.eq_10 e _ hb hf hn hr ht hu hU hx, if_pos hoctal,
      hdigits (Nat.le_of_succ_le_succ hj)]
    dsimp only
    rw [hcode]
    rfl
  | case12 e rest hb hf hn hr ht hu hU hx hoctal =>
    rw [backslash?.eq_10 e _ hb hf hn hr ht hu hU hx, if_neg hoctal] at hescape
    obtain ⟨code, hcode, heq⟩ := Option.map_eq_some_iff.1 hescape
    cases heq
    obtain ⟨j, rfl⟩ := Nat.exists_eq_add_of_le' hj
    rw [List.take_succ_cons, backslash?.eq_10 e _ hb hf hn hr ht hu hU hx, if_neg hoctal, hcode]
    rfl

theorem endsAt_escapedBody (hbody : escapedBody s = some (v, n)) : EndsAt '\'' escapedBody s n := by
  fun_induction escapedBody s generalizing v n with
  | case1 => cases hbody
  | case2 rest ih =>
    obtain ⟨⟨v', n'⟩, hrest, heq⟩ := Option.map_eq_some_iff.1 hbody
    cases heq
    refine (ih hrest).behind ['\'', '\''] (fun r => ('\'' :: r.1, r.2 + 2)) fun k _ => ?_
    rw [List.cons_append, List.singleton_append, escapedBody]
  | case3 rest hclose =>
    cases hbody
    refine .closing rest fun k => ?_
    rw [escapedBody.eq_3 _ hclose, escapedBody.eq_3 _ (take_ne_cons hclose k)]
  | case4 => cases hbody
  | case5 rest c k hescape ih =>
    obtain ⟨⟨v', n'⟩, hrest, heq⟩ := Option.map_eq_some_iff.1 hbody
    cases heq
    have hk : k ≤ rest.length := (backslash?_append (d := ';') (b := []) (by decide) hescape).1
    refine (ih hrest).beyond ['\\'] (fun r => (c :: r.1, r.2 + k + 1)) hk fun j hj => ?_
    rw [List.singleton_append, escapedBody, backslash?_take hescape (by omega)]
  | case6 c rest hdouble hclose hslash ih =>
    obtain ⟨⟨v', n'⟩, hrest, heq⟩ := Option.map_eq_some_iff.1 hbody
    cases heq
    refine (ih hrest).behind [c] (fun r => (c :: r.1, r.2 + 1)) fun k _ => ?_
    rw [List.singleton_append, escapedBody.eq_5 c _ (fun _ hc _ => hclose hc) hclose hslash]

theorem unicodeDigits_take {count code ahead : Nat} {c : Char}
    (hdigits : unicodeDigits count code ahead s = .ok c) {j : Nat} (hj : count ≤ j) :
    unicodeDigits count code ahead (s.take j) = .ok c := by
  fun_induction unicodeDigits count code ahead s generalizing j with
  | case1 code ahead s hvalid =>
    rw [unicodeDigits, if_pos hvalid]
    exact hdigits
  | case2 => cases hdigits
  | case3 => cases hdigits
  | case4 => cases hdigits
  | case5 count code ahead c rest value hvalue ih =>
    obtain ⟨j, rfl⟩ := Nat.exists_eq_add_of_le' (Nat.le_trans (Nat.succ_pos count) hj)
    rw [List.take_succ_cons, unicodeDigits, hvalue]
    exact ih hdigits (Nat.le_of_succ_le_succ hj)

theorem toOption_bind {α β : Type} (x : Except ScanFault α) (g : α → β) :
    (x >>= fun r => pure (g r)).toOption = x.toOption.map g := by
  cases x <;> rfl

theorem endsAt_unicodeBody {ahead m : Nat} (hbody : unicodeBody ahead s = .ok (v, m)) :
    ∃ n, m = ahead + n ∧ EndsAt '\'' (fun s => (unicodeBody ahead s).toOption) s n := by
  fun_induction unicodeBody ahead s generalizing v m with
  | case1 => cases hbody
  | case2 ahead rest ih =>
    obtain ⟨⟨v', m'⟩, hrest, heq⟩ := Effects.of_bind_eq_ok hbody
    cases heq
    obtain ⟨n, rfl, hends⟩ := ih hrest
    refine ⟨n + 2, by omega, hends.behind ['\'', '\''] (fun r => ('\'' :: r.1, r.2)) fun k _ => ?_⟩
    rw [List.cons_append, List.singleton_append, unicodeBody]
    exact toOption_bind _ _
  | case3 ahead rest hclose =>
    cases hbody
    refine ⟨1, rfl, .closing rest fun k => ?_⟩
    rw [unicodeBody.eq_3 _ _ hclose, unicodeBody.eq_3 _ _ (take_ne_cons hclose k)]
  | case4 ahead rest ih =>
    obtain ⟨⟨v', m'⟩, hrest, heq⟩ := Effects.of_bind_eq_ok hbody
    cases heq
    obtain ⟨n, rfl, hends⟩ := ih hrest
    refine ⟨n + 2, by omega, hends.behind ['\\', '\\'] (fun r => ('\\' :: r.1, r.2)) fun k _ => ?_⟩
    rw [List.cons_append, List.singleton_append, unicodeBody]
    exact toOption_bind _ _
  | case5 ahead rest ih =>
    -- Six digits behind a plus sign.
    obtain ⟨c, hdigits, hbody'⟩ := Effects.of_bind_eq_ok hbody
    obtain ⟨⟨v', m'⟩, hrest, heq⟩ := Effects.of_bind_eq_ok hbody'
    cases heq
    obtain ⟨n, rfl, hends⟩ := ih hrest
    have hcount : 6 ≤ rest.length := (unicodeDigits_append hdigits []).1
    refine ⟨n + 6 + 2, by omega, hends.beyond ['\\', '+'] (fun r => (c :: r.1, r.2)) hcount
      fun j hj => ?_⟩
    rw [List.cons_append, List.singleton_append, unicodeBody, unicodeDigits_take hdigits (by omega)]
    exact toOption_bind _ _
  | case6 ahead rest hslash hplus ih =>
    -- Four digits.
    obtain ⟨c, hdigits, hbody'⟩ := Effects.of_bind_eq_ok hbody
    obtain ⟨⟨v', m'⟩, hrest, heq⟩ := Effects.of_bind_eq_ok hbody'
    cases heq
    obtain ⟨n, rfl, hends⟩ := ih hrest
    have hcount : 4 ≤ rest.length := (unicodeDigits_append hdigits []).1
    refine ⟨n + 4 + 1, by omega, hends.beyond ['\\'] (fun r => (c :: r.1, r.2)) hcount fun j hj => ?_⟩
    rw [List.singleton_append, unicodeBody.eq_6 _ _ (take_ne_cons hslash _) (take_ne_cons hplus _),
      unicodeDigits_take hdigits (by omega)]
    exact toOption_bind _ _
  | case7 ahead c rest hdouble hclose hslashes hplus hslash ih =>
    obtain ⟨⟨v', m'⟩, hrest, heq⟩ := Effects.of_bind_eq_ok hbody
    cases heq
    obtain ⟨n, rfl, hends⟩ := ih hrest
    refine ⟨n + 1, by omega, hends.behind [c] (fun r => (c :: r.1, r.2)) fun k _ => ?_⟩
    rw [List.singleton_append, unicodeBody.eq_7 _ c _ (fun _ hc _ => hclose hc) hclose
      (fun _ hc _ => hslash hc) (fun _ hc _ => hslash hc) hslash]
    exact toOption_bind _ _

end Sql
end SqlCells
