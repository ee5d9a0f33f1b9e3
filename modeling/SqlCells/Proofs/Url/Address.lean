import SqlCells.Proofs.Number.Numerals
import SqlCells.Proofs.Text.Words
import SqlCells.Url.Host

/-!
# Addresses read back

The text of an address is read as the address.  Four decimal numbers are the four bytes of it.  Of eight
hexadecimal groups the first longest run of zeros is left out, and the two colons in its place, which stand
nowhere else, tell how many there were.
-/

namespace SqlCells
namespace Url

/-! ## Addresses of the fourth version -/

/-- The four bytes of an address, the highest first. -/
def bytes4 (n : Nat) : List Nat :=
  [n / 16777216 % 256, n / 65536 % 256, n / 256 % 256, n % 256]

theorem address4Text_eq (n : Nat) : address4Text n = Text.joinWith ['.'] ((bytes4 n).map Text.decimal) := by
  simp [address4Text, bytes4]

theorem isDigit_of_mem_address4Text {n : Nat} {c : Char} (hc : c ∈ address4Text n) :
    c.isDigit = true ∨ c = '.' := by
  rw [address4Text_eq] at hc
  simp only [bytes4, List.map_cons, List.map_nil, Text.joinWith, List.mem_append, List.mem_singleton] at hc
  rcases hc with (hc | hc) | (hc | hc) | (hc | hc) | hc
  · exact Or.inl (isDigit_of_mem_toDigits hc)
  · exact Or.inr hc
  · exact Or.inl (isDigit_of_mem_toDigits hc)
  · exact Or.inr hc
  · exact Or.inl (isDigit_of_mem_toDigits hc)
  · exact Or.inr hc
  · exact Or.inl (isDigit_of_mem_toDigits hc)

theorem addressPart?_decimal : ∀ b < 256, addressPart? (Text.decimal b) = some b := by
  decide +kernel

theorem addressParts_address4Text (n : Nat) :
    addressParts (address4Text n) = (bytes4 n).map Text.decimal := by
  have hpoint : ∀ part ∈ (bytes4 n).map Text.decimal, '.' ∉ part := by
    intro part hpart hmem
    obtain ⟨b, -, rfl⟩ := List.mem_map.1 hpart
    cases isDigit_of_mem_toDigits hmem
  have hne : (bytes4 n).map Text.decimal ≠ [] := List.cons_ne_nil _ _
  have hlast : ((bytes4 n).map Text.decimal).getLast? = some (Text.decimal (n % 256)) := rfl
  unfold addressParts
  dsimp only
  rw [address4Text_eq, Text.splitAt_joinWith hne hpoint, hlast]
  split
  · next hempty => exact absurd (Option.some.inj hempty) Nat.toDigits_ne_nil
  · rfl

/-- The text of an address is an address and no name. -/
theorem endsInNumber_address4Text (n : Nat) : endsInNumber (address4Text n) = true := by
  have hlast : ((bytes4 n).map Text.decimal).getLast? = some (Text.decimal (n % 256)) := rfl
  have hdigits : (Text.decimal (n % 256)).all Char.isDigit = true :=
    List.all_eq_true.2 fun c hc => isDigit_of_mem_toDigits hc
  have hne : (Text.decimal (n % 256)).isEmpty = false := List.isEmpty_eq_false_iff.2 Nat.toDigits_ne_nil
  unfold endsInNumber
  rw [addressParts_address4Text, hlast]
  dsimp only
  rw [hne, hdigits]
  rfl

theorem address4Text_ne_nil (n : Nat) : address4Text n ≠ [] := by
  intro hnil
  have hends := endsInNumber_address4Text n
  rw [hnil] at hends
  cases hends

theorem address4?_address4Text {n : Nat} (hn : n < 2 ^ 32) : address4? (address4Text n) = some n := by
  have hnumbers : ((bytes4 n).map Text.decimal).mapM addressPart? = some (bytes4 n) := by
    have hread : ∀ m, addressPart? (Text.decimal (m % 256)) = some (m % 256) := fun m =>
      addressPart?_decimal _ (Nat.mod_lt _ (by decide))
    simp [bytes4, hread]
  have hsum : n % 256 + (n / 16777216 % 256 * 16777216 + n / 65536 % 256 * 65536 + n / 256 % 256 * 256) = n := by
    omega
  unfold address4?
  rw [addressParts_address4Text, hnumbers]
  have hsmall : ∀ m, ¬ 255 < m % 256 := by omega
  simp [bytes4, hsmall, hsum, Nat.mod_lt]

/-- What is read as an address fits into four bytes. -/
theorem lt_of_address4? {s : List Char} {n : Nat} (h : address4? s = some n) : n < 2 ^ 32 := by
  unfold address4? at h
  obtain ⟨numbers, -, h⟩ := Option.bind_eq_some_iff.1 h
  obtain ⟨final, hfinal, h⟩ := Option.bind_eq_some_iff.1 h
  dsimp only at h
  split at h
  · cases h
  split at h
  · cases h
  split at h
  · cases h
  next hcount hbefore hlast =>
  obtain rfl := Option.some.inj h
  -- The numbers are one to four, and each but the last is a byte.
  match numbers, hfinal, hcount, hbefore, hlast with
  | [a], rfl, _, _, hlast =>
    simp at hlast
    simpa using hlast
  | [a, b], rfl, _, hbefore, hlast =>
    simp at hbefore hlast
    simp
    omega
  | [a, b, c], rfl, _, hbefore, hlast =>
    simp at hbefore hlast
    simp
    omega
  | [a, b, c, d], rfl, _, hbefore, hlast =>
    simp at hbefore hlast
    simp
    omega
  | _ :: _ :: _ :: _ :: _ :: _, _, hcount, _, _ => simp at hcount

/-! ## Addresses of the sixth version -/

/-- The groups of an address. -/
structure IsAddress6 (gs : List Nat) : Prop where
  length : gs.length = 8
  small : ∀ g ∈ gs, g < 65536

/-- Groups with colons between them. -/
def groupsText (gs : List Nat) : List Char :=
  Text.joinWith [':'] (gs.map (Nat.toDigits 16))

/-! ### Groups -/

theorem hexValue?_digitChar : ∀ d < 16, Text.hexValue? (Nat.digitChar d) = some d := by
  decide

theorem isHexDigit_of_mem_toDigits {g : Nat} {c : Char} (hc : c ∈ Nat.toDigits 16 g) :
    c ∈ "0123456789abcdef".toList := by
  have hdigit : ∀ d < 16, Nat.digitChar d ∈ "0123456789abcdef".toList := by decide
  induction g using Nat.strongRecOn with
  | ind g ih =>
    by_cases hg : g < 16
    · rw [Nat.toDigits_of_lt_base hg, List.mem_singleton] at hc
      exact hc ▸ hdigit g hg
    · rw [Nat.toDigits_of_base_le (by decide) (Nat.not_lt.1 hg)] at hc
      rcases List.mem_append.1 hc with hc | hc
      · exact ih (g / 16) (by omega) hc
      · exact List.mem_singleton.1 hc ▸ hdigit _ (Nat.mod_lt _ (by decide))

theorem colon_not_mem_toDigits (g : Nat) : ':' ∉ Nat.toDigits 16 g ∧ '.' ∉ Nat.toDigits 16 g :=
  ⟨fun hmem => absurd (isHexDigit_of_mem_toDigits hmem) (by decide),
    fun hmem => absurd (isHexDigit_of_mem_toDigits hmem) (by decide)⟩

theorem foldlM_toDigits (g : Nat) :
    (Nat.toDigits 16 g).foldlM (fun n c => (Text.hexValue? c).map fun d => n * 16 + d) 0 = some g := by
  induction g using Nat.strongRecOn with
  | ind g ih =>
    by_cases hg : g < 16
    · rw [Nat.toDigits_of_lt_base hg]
      simp [hexValue?_digitChar g hg]
    · rw [Nat.toDigits_of_base_le (by decide) (Nat.not_lt.1 hg), List.foldlM_append, ih (g / 16) (by omega)]
      simp [hexValue?_digitChar (g % 16) (Nat.mod_lt _ (by decide)), Nat.div_add_mod']

theorem group?_toDigits {g : Nat} (hg : g < 65536) : groups?.group? (Nat.toDigits 16 g) = some g := by
  have hlength : (Nat.toDigits 16 g).length ≤ 4 := (Nat.length_toDigits_le_iff (by decide) (by decide)).2 hg
  unfold groups?.group?
  rw [if_neg, foldlM_toDigits]
  simp only [List.isEmpty_iff, Nat.toDigits_ne_nil, false_or, not_lt]
  exact hlength

theorem groups?_toDigits {gs : List Nat} (hgs : ∀ g ∈ gs, g < 65536) :
    groups? (gs.map (Nat.toDigits 16)) = some gs := by
  induction gs with
  | nil => rfl
  | cons g gs ih =>
    obtain ⟨hg, hgs⟩ := List.forall_mem_cons.1 hgs
    cases gs with
    | nil =>
      have hpoint : (Nat.toDigits 16 g).contains '.' = false := by
        simpa using (colon_not_mem_toDigits g).2
      simp only [List.map_cons, List.map_nil]
      rw [groups?, hpoint]
      simp [group?_toDigits hg]
    | cons g' gs =>
      have hmore := ih hgs
      simp only [List.map_cons] at hmore ⊢
      rw [groups?, group?_toDigits hg, hmore]
      · rfl
      · nofun

theorem lt_of_hexValue? {c : Char} {d : Nat} (h : Text.hexValue? c = some d) : d < 16 := by
  unfold Text.hexValue? at h
  simp only [Char.le_def, UInt32.le_iff_toNat_le] at h
  split at h
  · next hrange =>
    obtain rfl := Option.some.inj h
    have hhigh : c.toNat ≤ '9'.toNat := hrange.2
    have : '9'.toNat = 57 ∧ '0'.toNat = 48 := by decide
    omega
  split at h
  · next hrange =>
    obtain rfl := Option.some.inj h
    have hhigh : c.toNat ≤ 'f'.toNat := hrange.2
    have : 'f'.toNat = 102 ∧ 'a'.toNat = 97 := by decide
    omega
  split at h
  · next hrange =>
    obtain rfl := Option.some.inj h
    have hhigh : c.toNat ≤ 'F'.toNat := hrange.2
    have : 'F'.toNat = 70 ∧ 'A'.toNat = 65 := by decide
    omega
  · cases h

/-- Four digits make no more than four digits can. -/
theorem lt_of_group? {p : List Char} {g : Nat} (h : groups?.group? p = some g) : g < 65536 := by
  have hfold : ∀ (ds : List Char) (n : Nat),
      ds.foldlM (fun n c => (Text.hexValue? c).map fun d => n * 16 + d) n = some g →
      g < (n + 1) * 16 ^ ds.length := by
    intro ds
    induction ds with
    | nil =>
      intro n h
      obtain rfl := Option.some.inj h
      simp
    | cons c ds ih =>
      intro n h
      rw [List.foldlM_cons] at h
      obtain ⟨m, hm, h⟩ := Option.bind_eq_some_iff.1 h
      obtain ⟨d, hd, rfl⟩ := Option.map_eq_some_iff.1 hm
      have hlt := lt_of_hexValue? hd
      calc g < (n * 16 + d + 1) * 16 ^ ds.length := ih _ h
        _ ≤ ((n + 1) * 16) * 16 ^ ds.length := Nat.mul_le_mul_right _ (by omega)
        _ = (n + 1) * 16 ^ (c :: ds).length := by rw [List.length_cons, Nat.pow_succ]; ring
  unfold groups?.group? at h
  split at h
  · cases h
  · next hlength =>
    simp only [not_or, not_lt] at hlength
    calc g < (0 + 1) * 16 ^ p.length := hfold p 0 h
      _ ≤ (0 + 1) * 16 ^ 4 := Nat.mul_le_mul_left _ (Nat.pow_le_pow_right (by decide) hlength.2)

theorem forall_mem_of_mapM {α β : Type} {f : α → Option β} {P : β → Prop} (hf : ∀ a b, f a = some b → P b)
    {as : List α} {bs : List β} (h : as.mapM f = some bs) : ∀ b ∈ bs, P b := by
  induction as generalizing bs with
  | nil =>
    obtain rfl := Option.some.inj h
    nofun
  | cons a as ih =>
    rw [List.mapM_cons] at h
    obtain ⟨b, hb, h⟩ := Option.bind_eq_some_iff.1 h
    obtain ⟨more, hmore, h⟩ := Option.bind_eq_some_iff.1 h
    obtain rfl := Option.some.inj h
    exact List.forall_mem_cons.2 ⟨hf a b hb, ih hmore⟩

theorem lt_of_embedded4? {p : List Char} {gs : List Nat} (h : embedded4? p = some gs) :
    ∀ g ∈ gs, g < 65536 := by
  unfold embedded4? at h
  obtain ⟨numbers, hnumbers, h⟩ := Option.bind_eq_some_iff.1 h
  have hbyte : ∀ b ∈ numbers, b ≤ 255 := by
    refine forall_mem_of_mapM (fun part b hb => ?_) hnumbers
    split at hb
    · cases hb
    · dsimp only at hb
      split at hb
      · next hsmall => exact Option.some.inj hb ▸ hsmall
      · cases hb
  split at h
  · obtain rfl := Option.some.inj h
    simp only [List.forall_mem_cons, List.not_mem_nil, false_imp_iff, implies_true, and_true] at hbyte ⊢
    omega
  · cases h

theorem lt_of_groups? {pieces : List (List Char)} {gs : List Nat} (h : groups? pieces = some gs) :
    ∀ g ∈ gs, g < 65536 := by
  fun_induction groups? pieces generalizing gs with
  | case1 =>
    obtain rfl := Option.some.inj h
    nofun
  | case2 p hpoint => exact lt_of_embedded4? h
  | case3 p hpoint =>
    obtain ⟨g, hg, rfl⟩ := Option.map_eq_some_iff.1 h
    simpa using lt_of_group? hg
  | case4 p rest hrest ih =>
    obtain ⟨g, hg, h⟩ := Option.bind_eq_some_iff.1 h
    obtain ⟨more, hmore, h⟩ := Option.bind_eq_some_iff.1 h
    obtain rfl := Option.some.inj h
    exact List.forall_mem_cons.2 ⟨lt_of_group? hg, ih hmore⟩

/-! ### Colons -/

section Colons

variable {c : Char} {t s before after : List Char}

/-- Two colons stand behind what has no colon in it. -/
theorem splitOnce_append (ht : c ∉ t) (s : List Char) :
    Text.splitOnce [c, c] (t ++ s) = (Text.splitOnce [c, c] s).map fun (before, after) => (t ++ before, after) := by
  induction t with
  | nil => simp
  | cons d t ih =>
    simp only [List.mem_cons, not_or] at ht
    have hskip : Text.dropPrefix? [c, c] (d :: (t ++ s)) = none := if_neg ht.1
    rw [List.cons_append, Text.splitOnce, hskip]
    dsimp only
    rw [ih ht.2, Option.map_map]
    rfl

theorem splitOnce_cons_of_head {d : Char} (hd : d ≠ c) (s : List Char) :
    Text.splitOnce [c, c] (c :: d :: s) =
      (Text.splitOnce [c, c] (d :: s)).map fun (before, after) => (c :: before, after) := by
  have hskip : Text.dropPrefix? [c, c] (c :: d :: s) = none := by
    simp [Text.dropPrefix?, Ne.symm hd]
  rw [Text.splitOnce, hskip]

end Colons

theorem exists_groupsText_cons (g : Nat) (gs : List Nat) :
    ∃ d t, d ≠ ':' ∧ groupsText (g :: gs) = d :: t := by
  obtain ⟨d, t, hdigits⟩ := List.exists_cons_of_ne_nil (Nat.toDigits_ne_nil (n := g) (b := 16))
  have hd : d ≠ ':' := by
    rintro rfl
    exact (colon_not_mem_toDigits g).1 (by simp [hdigits])
  unfold groupsText
  cases gs with
  | nil => exact ⟨d, t, hd, hdigits⟩
  | cons g' gs => exact ⟨d, _, hd, by rw [List.map_cons, List.map_cons, Text.joinWith, hdigits]; rfl⟩

theorem groupsText_cons_cons (g g' : Nat) (gs : List Nat) :
    groupsText (g :: g' :: gs) = Nat.toDigits 16 g ++ ':' :: groupsText (g' :: gs) := by
  simp [groupsText, Text.joinWith]

/-- Between groups stand single colons. -/
theorem splitOnce_groupsText (gs : List Nat) : Text.splitOnce [':', ':'] (groupsText gs) = none := by
  induction gs with
  | nil => rfl
  | cons g gs ih =>
    have hcolon := (colon_not_mem_toDigits g).1
    cases gs with
    | nil =>
      have hpass := splitOnce_append hcolon []
      rw [List.append_nil] at hpass
      exact hpass
    | cons g' gs =>
      obtain ⟨d, t, hd, htext⟩ := exists_groupsText_cons g' gs
      rw [groupsText_cons_cons, splitOnce_append hcolon, htext, splitOnce_cons_of_head hd, ← htext, ih]
      rfl

/-- The first two colons stand behind the groups. -/
theorem splitOnce_groupsText_append (gs : List Nat) (after : List Char) :
    Text.splitOnce [':', ':'] (groupsText gs ++ ':' :: ':' :: after) = some (groupsText gs, after) := by
  induction gs with
  | nil => rfl
  | cons g gs ih =>
    have hcolon := (colon_not_mem_toDigits g).1
    cases gs with
    | nil =>
      have hpass := splitOnce_append hcolon (':' :: ':' :: after)
      rw [show Text.splitOnce [':', ':'] (':' :: ':' :: after) = some ([], after) from rfl] at hpass
      simpa [groupsText, Text.joinWith] using hpass
    | cons g' gs =>
      obtain ⟨d, t, hd, htext⟩ := exists_groupsText_cons g' gs
      rw [groupsText_cons_cons, List.append_assoc, List.cons_append, splitOnce_append hcolon, htext,
        List.cons_append, splitOnce_cons_of_head hd, ← List.cons_append, ← htext, ih]
      rfl

/-! ### Zeros -/

theorem replicate_zeroRun_append (gs : List Nat) :
    List.replicate (zeroRun gs) 0 ++ gs.drop (zeroRun gs) = gs := by
  have hzeros : gs.takeWhile (· == 0) = List.replicate (zeroRun gs) 0 := by
    refine List.eq_replicate_iff.2 ⟨rfl, fun g hg => ?_⟩
    have hall := List.all_eq_true.1 (List.all_takeWhile (p := (· == 0)) (l := gs)) g hg
    exact eq_of_beq hall
  have hsplit := List.takeWhile_append_dropWhile (p := (· == 0)) (l := gs)
  have hrest : gs.drop (zeroRun gs) = gs.dropWhile (· == 0) := calc
    gs.drop (zeroRun gs) = (gs.takeWhile (· == 0) ++ gs.dropWhile (· == 0)).drop (zeroRun gs) := by rw [hsplit]
    _ = gs.dropWhile (· == 0) := List.drop_left
  rw [hrest, ← hzeros, hsplit]

/-- The longest run is the whole run at its place, and longer than one. -/
theorem zeroRun_of_longestZeros {gs : List Nat} :
    ∀ i n, longestZeros gs = some (i, n) → 2 ≤ n ∧ n = zeroRun (gs.drop i) := by
  unfold longestZeros
  refine List.foldlRecOn
    (motive := fun best => ∀ i n, best = some (i, n) → 2 ≤ n ∧ n = zeroRun (gs.drop i)) _ _ ?_ ?_
  · rintro i n ⟨⟩
  · rintro best hbest j - i n hnext
    dsimp only at hnext
    cases best with
    | none =>
      dsimp only at hnext
      split at hnext
      · next hlonger =>
        obtain ⟨rfl, rfl⟩ := Prod.mk.inj (Option.some.inj hnext)
        exact ⟨hlonger, rfl⟩
      · cases hnext
    | some run =>
      dsimp only at hnext
      split at hnext
      · next hlonger =>
        obtain ⟨rfl, rfl⟩ := Prod.mk.inj (Option.some.inj hnext)
        exact ⟨(hbest run.1 run.2 rfl).1.trans hlonger.le, rfl⟩
      · exact hbest i n hnext

/-- A run that is left out is a run of at least two zeros. -/
theorem zeros_of_longestZeros {gs : List Nat} {i n : Nat} (h : longestZeros gs = some (i, n)) :
    2 ≤ n ∧ gs.drop i = List.replicate n 0 ++ gs.drop (i + n) := by
  obtain ⟨hn, rfl⟩ := zeroRun_of_longestZeros i n h
  refine ⟨hn, ?_⟩
  rw [← List.drop_drop, replicate_zeroRun_append]

/-! ### Texts -/

/-- The text of an address without its brackets. -/
def insideText (gs : List Nat) : List Char :=
  match longestZeros gs with
  | some (i, n) => groupsText (gs.take i) ++ ':' :: ':' :: groupsText (gs.drop (i + n))
  | none => groupsText gs

theorem address6Text_eq (gs : List Nat) : address6Text gs = '[' :: insideText gs ++ [']'] := by
  unfold address6Text insideText groupsText
  cases longestZeros gs with
  | none => rfl
  | some run => simp

theorem mem_groupsText {gs : List Nat} {c : Char} (hc : c ∈ groupsText gs) :
    c ∈ "0123456789abcdef:".toList := by
  have hsub : ∀ c ∈ "0123456789abcdef".toList, c ∈ "0123456789abcdef:".toList := by decide
  induction gs with
  | nil => cases hc
  | cons g gs ih =>
    cases gs with
    | nil => exact hsub c (isHexDigit_of_mem_toDigits hc)
    | cons g' gs =>
      rw [groupsText_cons_cons] at hc
      rcases List.mem_append.1 hc with hc | hc
      · exact hsub c (isHexDigit_of_mem_toDigits hc)
      · rcases List.mem_cons.1 hc with rfl | hc
        · decide
        · exact ih hc

theorem mem_insideText {gs : List Nat} {c : Char} (hc : c ∈ insideText gs) :
    c ∈ "0123456789abcdef:".toList := by
  unfold insideText at hc
  split at hc
  · rcases List.mem_append.1 hc with hc | hc
    · exact mem_groupsText hc
    · rcases List.mem_cons.1 hc with rfl | hc
      · decide
      · rcases List.mem_cons.1 hc with rfl | hc
        · decide
        · exact mem_groupsText hc
  · exact mem_groupsText hc

/-- Groups are read back from the text of them, which is empty without groups. -/
theorem side_groupsText {gs : List Nat} (hgs : ∀ g ∈ gs, g < 65536) :
    (if (groupsText gs).isEmpty then some [] else groups? (Text.splitAt (· == ':') (groupsText gs))) =
      some gs := by
  cases gs with
  | nil => rfl
  | cons g gs =>
    obtain ⟨d, t, -, htext⟩ := exists_groupsText_cons g gs
    have hsplit : Text.splitAt (· == ':') (groupsText (g :: gs)) = (g :: gs).map (Nat.toDigits 16) := by
      refine Text.splitAt_joinWith (List.cons_ne_nil _ _) fun piece hpiece => ?_
      obtain ⟨h, -, rfl⟩ := List.mem_map.1 hpiece
      exact (colon_not_mem_toDigits h).1
    rw [hsplit, groups?_toDigits hgs, htext]
    rfl

theorem address6?_insideText {gs : List Nat} (hgs : IsAddress6 gs) : address6? (insideText gs) = some gs := by
  unfold address6? insideText
  dsimp only
  cases hzeros : longestZeros gs with
  | none =>
    dsimp only
    rw [splitOnce_groupsText]
    dsimp only
    rw [side_groupsText hgs.small]
    simp [hgs.length]
  | some run =>
    obtain ⟨i, n⟩ := run
    obtain ⟨hn, hrun⟩ := zeros_of_longestZeros hzeros
    dsimp only
    rw [splitOnce_groupsText_append]
    dsimp only
    have hpoint : (groupsText (gs.take i)).contains '.' = false := by
      simpa using fun hmem => absurd (mem_groupsText hmem) (by decide)
    rw [hpoint, side_groupsText fun g hg => hgs.small g (List.mem_of_mem_take hg),
      side_groupsText fun g hg => hgs.small g (List.mem_of_mem_drop hg)]
    -- What is left out is what makes eight.
    have hcount := congrArg List.length hrun
    simp only [List.length_append, List.length_replicate, List.length_drop, hgs.length] at hcount
    have hi : i + n ≤ 8 := by omega
    have hgap : 8 - (gs.take i).length - (gs.drop (i + n)).length = n := by
      simp only [List.length_take, List.length_drop, hgs.length]
      omega
    have hshort : (gs.take i).length + (gs.drop (i + n)).length ≤ 7 := by
      simp only [List.length_take, List.length_drop, hgs.length]
      omega
    have hall : gs.take i ++ List.replicate n 0 ++ gs.drop (i + n) = gs := by
      rw [List.append_assoc, ← hrun, List.take_append_drop]
    show (if _ + _ ≤ 7 then some _ else none) = some gs
    rw [if_pos hshort, hgap, hall]

/-- What is read as an address has eight groups. -/
theorem isAddress6_of_address6? {s : List Char} {gs : List Nat} (h : address6? s = some gs) :
    IsAddress6 gs := by
  have hside : ∀ {t : List Char} {gs : List Nat},
      (if t.isEmpty then some [] else groups? (Text.splitAt (· == ':') t)) = some gs →
      ∀ g ∈ gs, g < 65536 := by
    intro t gs h
    split at h
    · obtain rfl := Option.some.inj h
      nofun
    · exact lt_of_groups? h
  unfold address6? at h
  dsimp only at h
  split at h
  · split at h
    · cases h
    · obtain ⟨a, ha, h⟩ := Option.bind_eq_some_iff.1 h
      obtain ⟨b, hb, h⟩ := Option.bind_eq_some_iff.1 h
      split at h
      · next hshort =>
        obtain rfl := Option.some.inj h
        refine ⟨?_, fun g hg => ?_⟩
        · simp only [List.length_append, List.length_replicate]
          omega
        · rcases List.mem_append.1 hg with hg | hg
          · rcases List.mem_append.1 hg with hg | hg
            · exact hside ha g hg
            · rw [List.eq_of_mem_replicate hg]
              decide
          · exact hside hb g hg
      · cases h
  · obtain ⟨a, ha, h⟩ := Option.bind_eq_some_iff.1 h
    split at h
    · next hlength =>
      obtain rfl := Option.some.inj h
      exact ⟨hlength, hside ha⟩
    · cases h

end Url
end SqlCells
