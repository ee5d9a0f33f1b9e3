import SqlCells.Proofs.Url.Host
import SqlCells.Proofs.Url.Path

/-!
# Parts of URLs read back

The scheme, user name and password, the port, the path, the query and the fragment are cut from a text one
after another.  Each part that was read has nothing in it to escape or to cut at, and is read as itself
where a character follows that ends it.
-/

namespace SqlCells
namespace Url

variable {k : SchemeKind} {scheme s rest : List Char}

/-! ## The parts of a text -/

/-- Whether a text is empty or starts with a character that ends the authority. -/
def EndsAuthority (k : SchemeKind) (s : List Char) : Prop :=
  ∀ c ∈ s.head?, endsAuthority k c = true

/-- Only blanks at the end of a text are dropped if there are no others around it. -/
theorem clean_append_cons {c : Char} {t : List Char} (hs : ∀ d ∈ s ++ [c], 0x20 < d.toNat)
    (ht : ∀ d ∈ t, 0x20 ≤ d.toNat) :
    clean (s ++ c :: t) = s ++ c :: Text.dropTailWhile (fun d => decide (d.toNat ≤ 0x20)) t := by
  have hc : 0x20 < c.toNat := hs c (by simp)
  have hfront : (s ++ c :: t).dropWhile (fun d => decide (d.toNat ≤ 0x20)) = s ++ c :: t := by
    cases s with
    | nil => exact List.dropWhile_cons_of_neg (by simpa using hc)
    | cons e s => exact List.dropWhile_cons_of_neg (by simpa using hs e (by simp))
  have hend : Text.dropTailWhile (fun d => decide (d.toNat ≤ 0x20)) (s ++ c :: t) =
      s ++ c :: Text.dropTailWhile (fun d => decide (d.toNat ≤ 0x20)) t :=
    Text.dropTailWhile_append_cons (by simpa using hc) s t
  unfold clean
  dsimp only
  rw [hfront, hend, List.filter_eq_self]
  intro d hd
  have hcode : 0x20 ≤ d.toNat := by
    obtain ⟨tail, htail, -⟩ := Text.exists_append_of_dropTailWhile (fun d => decide (d.toNat ≤ 0x20)) t
    rcases List.mem_append.1 hd with hd | hd
    · exact (hs d (by simp [hd])).le
    · rcases List.mem_cons.1 hd with rfl | hd
      · exact hc.le
      · exact ht d (htail ▸ List.mem_append_left tail hd)
  have hne : ∀ e : Char, e.toNat < 0x20 → (d == e) = false := by
    rintro e he
    refine beq_false_of_ne ?_
    rintro rfl
    omega
  rw [hne '\t' (by decide), hne '\n' (by decide), hne '\r' (by decide)]
  rfl

theorem clean_of_printable (hs : ∀ c ∈ s, 0x20 < c.toNat) : clean s = s := by
  rcases List.eq_nil_or_concat s with rfl | ⟨init, c, rfl⟩
  · rfl
  · rw [List.concat_eq_append] at hs ⊢
    exact clean_append_cons hs (by simp)

/-! ### Schemes -/

/-- A scheme that was read: a letter, then letters, digits and three signs, all in lower case. -/
structure IsScheme (scheme : List Char) : Prop where
  head : ∃ c rest, scheme = c :: rest ∧ c.isAlpha = true
  part : ∀ c ∈ scheme, isSchemePart c = true ∧ c.toLower = c

theorem toNat_of_isSchemePart {c : Char} (hc : isSchemePart c = true) : c.toNat < 0x80 := by
  simp only [isSchemePart, Bool.or_eq_true, beq_iff_eq] at hc
  rcases hc with ((halphanum | rfl) | rfl) | rfl
  · exact Text.toNat_of_isAlphanum halphanum
  all_goals decide

theorem printable_of_isSchemePart {c : Char} (hc : isSchemePart c = true) : 0x20 < c.toNat := by
  have hascii := toNat_of_isSchemePart hc
  revert hc
  refine Text.ascii_induction (motive := fun c => isSchemePart c = true → 0x20 < c.toNat) ?_ hascii
  decide +kernel

theorem takeScheme?_append (hscheme : IsScheme scheme) (rest : List Char) :
    takeScheme? (scheme ++ ':' :: rest) = some (scheme, rest) := by
  obtain ⟨c, more, hcons, halpha⟩ := hscheme.head
  have hname : (scheme ++ ':' :: rest).takeWhile isSchemePart = scheme := by
    refine takeWhile_append_of_head? (fun c hc => (hscheme.part c hc).1) fun c hc => ?_
    obtain rfl : ':' = c := Option.some.inj hc
    decide
  have hlower : scheme.map Char.toLower = scheme := by
    rw [List.map_congr_left fun c hc => (hscheme.part c hc).2, List.map_id']
  have hhead : scheme.head? = some c := by rw [hcons]; rfl
  unfold takeScheme?
  rw [hname]
  dsimp only
  rw [hhead, List.drop_left]
  show (if c.isAlpha = true then some (scheme.map Char.toLower, rest) else none) = _
  rw [if_pos halpha, hlower]

theorem isScheme_of_takeScheme? (h : takeScheme? s = some (scheme, rest)) : IsScheme scheme := by
  have hpart : ∀ c, isSchemePart c = true →
      isSchemePart c.toLower = true ∧ c.toLower.toLower = c.toLower ∧ (c.isAlpha = true → c.toLower.isAlpha = true) := by
    intro c hc
    have hascii := toNat_of_isSchemePart hc
    revert hc
    refine Text.ascii_induction (motive := fun c => isSchemePart c = true → isSchemePart c.toLower = true ∧
      c.toLower.toLower = c.toLower ∧ (c.isAlpha = true → c.toLower.isAlpha = true)) ?_ hascii
    decide +kernel
  have hall : ∀ c ∈ s.takeWhile isSchemePart, isSchemePart c = true := List.all_eq_true.1 List.all_takeWhile
  unfold takeScheme? at h
  dsimp only at h
  split at h
  · next c rest' hhead _ =>
    split at h
    · next halpha =>
      obtain ⟨rfl, rfl⟩ := Prod.mk.inj (Option.some.inj h)
      obtain ⟨more, hcons⟩ := List.head?_eq_some_iff.1 hhead
      have hmem : c ∈ s.takeWhile isSchemePart := hcons ▸ List.mem_cons_self
      refine ⟨⟨c.toLower, more.map Char.toLower, by rw [hcons]; rfl, (hpart c (hall c hmem)).2.2 halpha⟩, ?_⟩
      intro d hd
      obtain ⟨e, he, rfl⟩ := List.mem_map.1 hd
      exact ⟨(hpart e (hall e he)).1, (hpart e (hall e he)).2.1⟩
    · cases h
  · cases h

/-! ### User name and password -/

theorem keepsEscapes_userinfoSet : KeepsEscapes userinfoSet := by
  decide

/-- User name and password as they are read. -/
structure IsUserinfo (username : List Char) (password : Option (List Char)) : Prop where
  username : ∀ c ∈ username, IsKept userinfoSet c
  password : ∀ p ∈ password, p ≠ [] ∧ ∀ c ∈ p, IsKept userinfoSet c

theorem not_endsAuthority_of_isKept {c : Char} (hc : IsKept userinfoSet c) : endsAuthority k c = false := by
  have hset : ∀ d ∈ ['/', '?', '#', '\\'], c ≠ d := by
    rintro d hd rfl
    have hmem : ∀ d ∈ ['/', '?', '#', '\\'], d ∈ userinfoSet := by decide
    exact hc.2.2 (hmem c hd)
  simp only [List.forall_mem_cons] at hset
  obtain ⟨hslash, hquestion, hhash, hback, -⟩ := hset
  simp [endsAuthority, hslash, hquestion, hhash, hback]

theorem takeWhile_authority {t : List Char} (ht : ∀ c ∈ t, endsAuthority k c = false)
    (hrest : EndsAuthority k rest) : (t ++ rest).takeWhile (fun c => !endsAuthority k c) = t :=
  takeWhile_append_of_head? (fun c hc => by simp [ht c hc]) fun c hc => by simp [hrest c hc]

/-- What precedes the at sign, cut at its first colon. -/
def cutInfo (info : List Char) : List Char × Option (List Char) :=
  match Text.splitOnce [':'] info with
  | some (name, []) => (name, none)
  | some (name, password) => (name, some (escape userinfoSet password))
  | none => (info, none)

theorem cutInfo_of_not_mem {name : List Char} (hcolon : ':' ∉ name) : cutInfo name = (name, none) := by
  unfold cutInfo
  rw [Text.splitOnce_singleton_eq_none_iff.2 hcolon]

theorem cutInfo_append {name p : List Char} (hcolon : ':' ∉ name) (hp : p ≠ []) :
    cutInfo (name ++ ':' :: p) = (name, some (escape userinfoSet p)) := by
  unfold cutInfo
  rw [Text.splitOnce_singleton_eq_some_iff.2 ⟨rfl, hcolon⟩]
  cases p with
  | nil => exact absurd rfl hp
  | cons c p => rfl

theorem password_of_cutInfo {info p : List Char} (hp : (cutInfo info).2 = some p) :
    p ≠ [] ∧ ∀ c ∈ p, IsKept userinfoSet c := by
  unfold cutInfo at hp
  split at hp
  · cases hp
  · next hne _ =>
    obtain rfl := Option.some.inj hp
    exact ⟨fun hnil => hne (escape_eq_nil_iff.1 hnil), fun c hc => isKept_of_mem_escape keepsEscapes_userinfoSet hc⟩
  · cases hp

/-- What is read when something precedes the last at sign of the authority. -/
theorem takeUserinfo_of_at {info host : List Char}
    (hat : Text.splitOnceLast '@' (s.takeWhile fun c => !endsAuthority k c) = some (info, host)) (hne : info ≠ []) :
    takeUserinfo k s = .ok ⟨escape userinfoSet (cutInfo info).1, (cutInfo info).2,
      !(cutInfo info).1.isEmpty || (cutInfo info).2.isSome,
      host ++ s.drop (s.takeWhile fun c => !endsAuthority k c).length⟩ := by
  unfold takeUserinfo
  dsimp only
  rw [hat]
  dsimp only
  split
  · exact absurd rfl hne
  · rfl

section Userinfo

variable {t : List Char} (ht : ∀ c ∈ t, endsAuthority k c = false ∧ c ≠ '@') (hrest : EndsAuthority k rest)

include ht hrest

/-- Without an at sign nothing precedes the host. -/
theorem takeUserinfo_host : takeUserinfo k (t ++ rest) = .ok ⟨[], none, false, t ++ rest⟩ := by
  have hat : '@' ∉ t := fun hmem => (ht _ hmem).2 rfl
  have hauthority := takeWhile_authority (fun c hc => (ht c hc).1) hrest
  unfold takeUserinfo
  dsimp only
  rw [hauthority, Text.splitOnceLast_eq_none_iff.2 hat]

/-- What stands before the last at sign is cut and escaped. -/
theorem takeUserinfo_append {info : List Char} (hne : info ≠ []) (hinfo : ∀ c ∈ info, endsAuthority k c = false) :
    takeUserinfo k (info ++ '@' :: (t ++ rest)) =
      .ok ⟨escape userinfoSet (cutInfo info).1, (cutInfo info).2,
        !(cutInfo info).1.isEmpty || (cutInfo info).2.isSome, t ++ rest⟩ := by
  have hat : '@' ∉ t := fun hmem => (ht _ hmem).2 rfl
  have hall : ∀ c ∈ info ++ '@' :: t, endsAuthority k c = false := by
    intro c hc
    rcases List.mem_append.1 hc with hc | hc
    · exact hinfo c hc
    · rcases List.mem_cons.1 hc with rfl | hc
      · cases k <;> rfl
      · exact (ht c hc).1
  have hwhole : info ++ '@' :: (t ++ rest) = (info ++ '@' :: t) ++ rest := by simp
  have hauthority := takeWhile_authority hall hrest
  have hcut : Text.splitOnceLast '@' (info ++ '@' :: t) = some (info, t) :=
    Text.splitOnceLast_eq_some_iff.2 ⟨rfl, hat⟩
  rw [hwhole, takeUserinfo_of_at (by rw [hauthority]; exact hcut) hne, hauthority, List.drop_left]

/-- User name and password are read up to the at sign that ends them. -/
theorem takeUserinfo_userinfoText {u : Url} (hinfo : IsUserinfo u.username u.password) :
    takeUserinfo k (u.userinfoText ++ (t ++ rest)) =
      .ok ⟨u.username, u.password, !u.username.isEmpty || u.password.isSome, t ++ rest⟩ := by
  have hcolon : ':' ∉ u.username := fun hmem => absurd (hinfo.username _ hmem) (by decide)
  have hname : ∀ c ∈ u.username, endsAuthority k c = false := fun c hc =>
    not_endsAuthority_of_isKept (hinfo.username c hc)
  unfold userinfoText
  cases hpassword : u.password with
  | none =>
    cases husername : u.username with
    | nil => exact takeUserinfo_host (t := t) ht hrest
    | cons c name =>
      have hread := takeUserinfo_append ht hrest (List.cons_ne_nil c name) (husername ▸ hname)
      rw [cutInfo_of_not_mem (husername ▸ hcolon), escape_of_kept (husername ▸ hinfo.username)] at hread
      simpa using hread
  | some p =>
    obtain ⟨hp, hkept⟩ := hinfo.password p hpassword
    have hends : ∀ c ∈ u.username ++ ':' :: p, endsAuthority k c = false := by
      intro c hc
      rcases List.mem_append.1 hc with hc | hc
      · exact hname c hc
      · rcases List.mem_cons.1 hc with rfl | hc
        · cases k <;> rfl
        · exact not_endsAuthority_of_isKept (hkept c hc)
    have hread := takeUserinfo_append ht hrest (by simp) hends
    rw [cutInfo_append hcolon hp, escape_of_kept hinfo.username, escape_of_kept hkept] at hread
    cases husername : u.username <;> simpa [husername] using hread

end Userinfo

theorem isUserinfo_of_takeUserinfo {info : Userinfo} (h : takeUserinfo k s = .ok info) :
    IsUserinfo info.username info.password ∧
      (info.given = false → info.username = [] ∧ info.password = none) := by
  have hempty : IsUserinfo [] none := ⟨nofun, nofun⟩
  cases hat : Text.splitOnceLast '@' (s.takeWhile fun c => !endsAuthority k c) with
  | none =>
    unfold takeUserinfo at h
    dsimp only at h
    rw [hat] at h
    obtain rfl := Except.ok.inj h
    exact ⟨hempty, fun _ => ⟨rfl, rfl⟩⟩
  | some parts =>
    obtain ⟨text, host⟩ := parts
    by_cases hne : text = []
    · unfold takeUserinfo at h
      dsimp only at h
      rw [hat, hne] at h
      dsimp only at h
      split at h
      · obtain rfl := Except.ok.inj h
        exact ⟨hempty, fun _ => ⟨rfl, rfl⟩⟩
      · cases h
    · rw [takeUserinfo_of_at hat hne] at h
      obtain rfl := Except.ok.inj h
      refine ⟨⟨fun c hc => isKept_of_mem_escape keepsEscapes_userinfoSet hc, fun p hp => password_of_cutInfo hp⟩,
        fun hgiven => ?_⟩
      simp only [Bool.or_eq_false_iff, Bool.not_eq_false', List.isEmpty_iff, Option.isSome_eq_false_iff,
        Option.isNone_iff_eq_none] at hgiven
      exact ⟨escape_eq_nil_iff.2 hgiven.1, hgiven.2⟩

/-! ### Ports -/

/-- A port as it is read: not the one that the scheme stands for. -/
def IsPort (scheme : List Char) (port : Option Nat) : Prop :=
  ∀ n ∈ port, n ≤ 65535 ∧ defaultPort? scheme ≠ some n

/-- Only special schemes stand for ports. -/
theorem defaultPort?_of_plain (hk : schemeKind scheme = .plain) : defaultPort? scheme = none := by
  unfold defaultPort?
  split
  case h_6 => rfl
  all_goals
    next heq =>
      rw [schemeKind, heq] at hk
      cases hk

theorem takePort_append {n : Nat} (hn : IsPort scheme (some n)) (hrest : EndsAuthority k rest) :
    takePort scheme (Text.decimal n ++ rest) = .ok (some n, rest) := by
  obtain ⟨hsmall, hother⟩ := hn n rfl
  have hends : ∀ c ∈ rest.head?, (c == '/' || c == '\\' || c == '?' || c == '#') = true := by
    intro c hc
    have hauthority := hrest c hc
    simp only [endsAuthority, Bool.or_eq_true, Bool.and_eq_true, beq_iff_eq] at hauthority ⊢
    tauto
  have hdigits : (Text.decimal n ++ rest).takeWhile Char.isDigit = Text.decimal n := by
    refine takeWhile_append_of_head? (fun c hc => isDigit_of_mem_toDigits hc) fun c hc => ?_
    have hslash := hends c hc
    simp only [Bool.or_eq_true, beq_iff_eq] at hslash
    rcases hslash with ((rfl | rfl) | rfl) | rfl <;> rfl
  have hvalue : (Text.decimal n).foldl (fun n c => n * 10 + (c.toNat - '0'.toNat)) 0 = n := digitsValue_toDigits n
  have hne : (Text.decimal n).isEmpty = false := List.isEmpty_eq_false_iff.2 Nat.toDigits_ne_nil
  unfold takePort
  rw [hdigits]
  dsimp only
  rw [List.drop_left, hvalue, hne, if_neg hother, if_neg]
  · rfl
  · rw [not_or]
    refine ⟨Nat.not_lt.2 hsmall, ?_⟩
    cases rest with
    | nil => exact Bool.false_ne_true
    | cons c rest =>
      dsimp only
      rw [hends c rfl]
      exact Bool.false_ne_true

theorem isPort_of_takePort {port : Option Nat} (h : takePort scheme s = .ok (port, rest)) :
    IsPort scheme port := by
  have hport : ∀ (n : Nat) (absent ended : Bool) (after : List Char),
      (if 65535 < n ∨ (!ended) = true then Except.error Flaw.badPort
        else if absent then .ok (none, after)
        else .ok (if defaultPort? scheme = some n then none else some n, after)) = .ok (port, rest) →
      IsPort scheme port := by
    intro n absent ended after h
    split at h
    · cases h
    next hsmall =>
    split at h
    · obtain ⟨rfl, -⟩ := Prod.mk.inj (Except.ok.inj h)
      nofun
    · obtain ⟨rfl, -⟩ := Prod.mk.inj (Except.ok.inj h)
      intro m hm
      split at hm
      · cases hm
      · next hother =>
        obtain rfl := Option.some.inj hm
        exact ⟨by omega, hother⟩
  exact hport _ _ _ _ h

/-! ### Query and fragment -/

/-- What is escaped in a query. -/
def querySetOf (k : SchemeKind) : List Char :=
  if k = .plain then querySet else specialQuerySet

theorem keepsEscapes_querySetOf (k : SchemeKind) : KeepsEscapes (querySetOf k) := by
  cases k <;> decide

/-- Query and fragment as they are read. -/
structure IsQuery (k : SchemeKind) (query fragment : Option (List Char)) : Prop where
  query : ∀ q ∈ query, ∀ c ∈ q, IsKept (querySetOf k) c
  fragment : ∀ f ∈ fragment, ∀ c ∈ f, IsKept fragmentSet c

/-- Query and fragment as they stand at the end of a URL. -/
def queryText (query fragment : Option (List Char)) : List Char :=
  optionalPart '?' query ++ optionalPart '#' fragment

theorem head?_queryText (query fragment : Option (List Char)) :
    ∀ c ∈ (queryText query fragment).head?, c = '?' ∨ c = '#' := by
  cases query with
  | some q =>
    intro c hc
    exact Or.inl (Option.some.inj hc).symm
  | none =>
    cases fragment with
    | some f =>
      intro c hc
      exact Or.inr (Option.some.inj hc).symm
    | none => nofun

theorem takeQuery_queryText {query fragment : Option (List Char)} (h : IsQuery k query fragment) :
    takeQuery k (queryText query fragment) = (query, fragment) := by
  have hset : (if k = .plain then querySet else specialQuerySet) = querySetOf k := rfl
  cases query with
  | none =>
    cases fragment with
    | none => rfl
    | some f =>
      show (none, some (escape fragmentSet f)) = _
      rw [escape_of_kept (h.fragment f rfl)]
  | some q =>
    have hhash : '#' ∉ q := fun hmem => (h.query q rfl '#' hmem).2.2 (by cases k <;> decide)
    cases fragment with
    | none =>
      simp only [queryText, optionalPart, List.append_nil, takeQuery]
      rw [Text.splitOnce_singleton_eq_none_iff.2 hhash, hset, escape_of_kept (h.query q rfl)]
    | some f =>
      simp only [queryText, optionalPart, List.cons_append, takeQuery]
      rw [Text.splitOnce_singleton_eq_some_iff.2 ⟨rfl, hhash⟩, hset]
      dsimp only
      rw [escape_of_kept (h.query q rfl), escape_of_kept (h.fragment f rfl)]

theorem isQuery_takeQuery (k : SchemeKind) (s : List Char) : IsQuery k (takeQuery k s).1 (takeQuery k s).2 := by
  have hquery : ∀ t : List Char, ∀ q ∈ some (escape (querySetOf k) t), ∀ c ∈ q, IsKept (querySetOf k) c := by
    intro t q hq c hc
    obtain rfl := Option.some.inj hq
    exact isKept_of_mem_escape (keepsEscapes_querySetOf k) hc
  have hfragment : ∀ t : List Char, ∀ f ∈ some (escape fragmentSet t), ∀ c ∈ f, IsKept fragmentSet c := by
    intro t f hf c hc
    obtain rfl := Option.some.inj hf
    exact isKept_of_mem_escape (by decide) hc
  unfold takeQuery
  dsimp only
  split
  · split
    · exact ⟨hquery _, hfragment _⟩
    · exact ⟨hquery _, nofun⟩
  · exact ⟨nofun, hfragment _⟩
  · exact ⟨nofun, nofun⟩

theorem takePath_append {path : List Char} (hpath : ∀ c ∈ path, c ≠ '?' ∧ c ≠ '#')
    (query fragment : Option (List Char)) :
    takePath (path ++ queryText query fragment) = (path, queryText query fragment) := by
  have hinside : ∀ c ∈ path, (!(c == '?' || c == '#')) = true := by
    intro c hc
    simp [hpath c hc]
  have hstop : ∀ c ∈ (queryText query fragment).head?, (!(c == '?' || c == '#')) = false := by
    intro c hc
    rcases head?_queryText query fragment c hc with rfl | rfl <;> rfl
  unfold takePath
  dsimp only
  rw [takeWhile_append_of_head? hinside hstop, dropWhile_append_of_head? hinside hstop]

end Url
end SqlCells
