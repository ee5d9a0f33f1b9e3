import SqlCells.Proofs.Run.Literals
import SqlCells.Run.MetaCommand

/-!
# Patterns of relations

A command that lists relations takes a pattern, in which a star stands for any text and a question mark for
any character.  The query it becomes has a `LIKE` condition, whose patterns give these roles to the percent
sign and the underscore, and in which a backslash takes the next character for itself.  Both are lists of the
same elements, so the two select the same names exactly if no character of the pattern is one of those three.
-/

namespace SqlCells
namespace MetaCommand

open Persist Sql

variable {p q n command name : List Char} {es : List Element} {c : Char}

/-! ## Two languages of patterns -/

/-- What one place of a pattern stands for. -/
inductive Element where
  /-- Any text, also an empty one. -/
  | any
  /-- Any character. -/
  | one
  /-- One character itself. -/
  | only (c : Char)
  deriving DecidableEq, Repr

/-- Whether a name is put together as a pattern says. -/
inductive Fits : List Element → List Char → Prop
  | nil : Fits [] []
  | any (skipped : List Char) {es : List Element} {n : List Char} (h : Fits es n) :
      Fits (.any :: es) (skipped ++ n)
  | one (c : Char) {es : List Element} {n : List Char} (h : Fits es n) : Fits (.one :: es) (c :: n)
  | only (c : Char) {es : List Element} {n : List Char} (h : Fits es n) : Fits (.only c :: es) (c :: n)

/-- What a character of a command's pattern stands for. -/
def Element.ofPattern (c : Char) : Element :=
  if c = '*' then .any else if c = '?' then .one else .only c

/-- Whether a name is one that a command's pattern asks for. -/
def Matches (p n : List Char) : Prop :=
  Fits (p.map Element.ofPattern) n

/-- What a character of a `LIKE` pattern stands for where no backslash is in front of it. -/
def Element.ofLike (c : Char) : Element :=
  if c = '%' then .any else if c = '_' then .one else .only c

/-- A `LIKE` pattern read from the left. One that ends with a single backslash is refused. -/
def likeElements? : List Char → Option (List Element)
  | [] => some []
  | ['\\'] => none
  | '\\' :: c :: rest => (likeElements? rest).map (.only c :: ·)
  | c :: rest => (likeElements? rest).map (.ofLike c :: ·)

/-- Whether a name satisfies a `LIKE` condition. -/
def Like (q n : List Char) : Prop :=
  ∃ es, likeElements? q = some es ∧ Fits es n

/-- What becomes of a pattern's character in a condition: the wildcards keep their roles, and the other
characters get those that they have there. -/
def Element.ofWritten (c : Char) : Element :=
  if c = '*' then .any else if c = '?' then .one else .ofLike c

/-- The text of a pattern in a `LIKE` condition. -/
def likeText (p : List Char) : List Char :=
  p.map fun c => if c = '*' then '%' else if c = '?' then '_' else c

/-- Whether a character has a role of its own in `LIKE` patterns. -/
def isLikeSign (c : Char) : Bool :=
  c == '%' || c == '_' || c == '\\'

/-! ## Fitting names -/

/-- The shortest text that one place of a pattern stands for, a free character chosen as `a`. -/
def Element.shortest : Element → List Char
  | .any => []
  | .one => ['a']
  | .only c => [c]

/-- The shortest name that fits. -/
def shortest (es : List Element) : List Char :=
  es.flatMap Element.shortest

theorem fits_shortest (es : List Element) : Fits es (shortest es) := by
  induction es with
  | nil => exact .nil
  | cons e es ih =>
    cases e with
    | any => exact .any [] ih
    | one => exact .one 'a' ih
    | only c => exact .only c ih

/-- A pattern asks for its own spelling among others. -/
theorem matches_self (p : List Char) : Matches p p := by
  unfold Matches
  induction p with
  | nil => exact .nil
  | cons c p ih =>
    rw [List.map_cons, Element.ofPattern]
    split
    · exact .any [c] ih
    · split
      · exact .one c ih
      · exact .only c ih

/-- A name holds every ordinary character of a pattern it fits at least as often. -/
theorem count_le_of_matches (h : Matches p n) (hstar : c ≠ '*') (hmark : c ≠ '?') :
    p.count c ≤ n.count c := by
  unfold Matches at h
  induction p generalizing n with
  | nil => exact Nat.zero_le _
  | cons d p ih =>
    rw [List.map_cons, Element.ofPattern] at h
    split at h
    · next hd =>
      subst hd
      cases h with
      | any skipped h =>
        rw [List.count_cons_of_ne (Ne.symm hstar), List.count_append]
        exact Nat.le_add_left_of_le (ih h)
    · split at h
      · next hd =>
        subst hd
        cases h with
        | one e h =>
          rw [List.count_cons_of_ne (Ne.symm hmark)]
          exact (ih h).trans (List.count_le_count_cons)
      · cases h with
        | only e h =>
          rw [List.count_cons, List.count_cons]
          exact Nat.add_le_add_right (ih h) _

/-- Without wildcards a pattern asks for the name it spells. -/
theorem matches_iff_eq (hplain : ∀ c ∈ p, c ≠ '*' ∧ c ≠ '?') : Matches p n ↔ n = p := by
  constructor
  · intro h
    unfold Matches at h
    induction p generalizing n with
    | nil => cases h; rfl
    | cons d p ih =>
      obtain ⟨⟨hstar, hmark⟩, hplain⟩ := List.forall_mem_cons.1 hplain
      rw [List.map_cons, Element.ofPattern, if_neg hstar, if_neg hmark] at h
      cases h with
      | only _ h => rw [ih hplain h]
  · rintro rfl
    exact matches_self n

/-! ## The condition against the pattern -/

/-- Without a backslash every character of a condition stands for itself or what its sign says. -/
theorem likeElements?_of_not_mem (hq : '\\' ∉ q) : likeElements? q = some (q.map .ofLike) := by
  induction q with
  | nil => rfl
  | cons d q ih =>
    obtain ⟨hd, hq⟩ := not_or.1 (List.mem_cons.not.1 hq)
    rw [likeElements?, ih hq]
    · rfl
    · exact fun heq _ => hd heq.symm
    · exact fun _ _ heq _ => hd heq.symm

/-- Without a backslash in it a pattern is put into a condition character by character. -/
theorem likeElements?_likeText (hp : '\\' ∉ p) :
    likeElements? (likeText p) = some (p.map .ofWritten) := by
  have hq : '\\' ∉ likeText p := by
    intro hmem
    obtain ⟨d, hd, heq⟩ := List.mem_map.1 hmem
    split at heq
    · cases heq
    · split at heq
      · cases heq
      · exact hp (heq ▸ hd)
  rw [likeElements?_of_not_mem hq, likeText, List.map_map]
  congr 1
  refine List.map_congr_left fun d _ => ?_
  dsimp only [Function.comp, Element.ofWritten]
  split
  · rfl
  · split <;> rfl

/-- A condition in which no character has a role of its own reads as the pattern does. -/
theorem like_iff_matches (hp : ∀ c ∈ p, isLikeSign c = false) : Like (likeText p) n ↔ Matches p n := by
  have hback : '\\' ∉ p := fun hmem => absurd (hp _ hmem) (by decide)
  have helements : p.map Element.ofWritten = p.map .ofPattern := by
    refine List.map_congr_left fun d hd => ?_
    have hsign := hp d hd
    simp only [isLikeSign, Bool.or_eq_false_iff, beq_eq_false_iff_ne] at hsign
    obtain ⟨⟨hpercent, hunder⟩, -⟩ := hsign
    rw [Element.ofWritten, Element.ofPattern, Element.ofLike, if_neg hpercent, if_neg hunder]
  unfold Like Matches
  rw [likeElements?_likeText hback, helements]
  simp

theorem fits_ofLike (d : Char) (h : Fits es n) : Fits (.ofLike d :: es) (d :: n) := by
  unfold Element.ofLike
  split
  · exact .any [d] h
  · split
    · exact .one d h
    · exact .only d h

/-- What a pattern asks for satisfies its condition, as long as no backslash is in it. -/
theorem like_of_matches (hp : '\\' ∉ p) (h : Matches p n) : Like (likeText p) n := by
  refine ⟨_, likeElements?_likeText hp, ?_⟩
  unfold Matches at h
  induction p generalizing n with
  | nil => exact h
  | cons d p ih =>
    have hmore : '\\' ∉ p := fun hmem => hp (List.mem_cons_of_mem d hmem)
    rw [List.map_cons, Element.ofPattern] at h
    rw [List.map_cons, Element.ofWritten]
    by_cases hstar : d = '*'
    · rw [if_pos hstar] at h ⊢
      cases h with
      | any skipped h => exact .any skipped (ih hmore h)
    by_cases hmark : d = '?'
    · rw [if_neg hstar, if_pos hmark] at h ⊢
      cases h with
      | one c h => exact .one c (ih hmore h)
    · rw [if_neg hstar, if_neg hmark] at h ⊢
      cases h with
      | only _ h => exact fits_ofLike d (ih hmore h)

/-- The shortest name for a condition without a backslash has no character with a role of its own. -/
theorem isLikeSign_of_mem_shortest (hq : '\\' ∉ q) (hes : likeElements? q = some es) (hc : c ∈ shortest es) :
    isLikeSign c = false := by
  rw [likeElements?_of_not_mem hq] at hes
  obtain rfl := Option.some.inj hes
  obtain ⟨e, he, hmem⟩ := List.mem_flatMap.1 hc
  obtain ⟨d, hd, rfl⟩ := List.mem_map.1 he
  have hback : d ≠ '\\' := fun heq => hq (heq ▸ hd)
  by_cases hpercent : d = '%'
  · rw [Element.ofLike, if_pos hpercent] at hmem
    cases hmem
  by_cases hunder : d = '_'
  · rw [Element.ofLike, if_neg hpercent, if_pos hunder] at hmem
    rw [List.mem_singleton.1 hmem]
    rfl
  · rw [Element.ofLike, if_neg hpercent, if_neg hunder] at hmem
    rw [List.mem_singleton.1 hmem]
    simp [isLikeSign, hpercent, hunder, hback]

theorem count_shortest_ofLike (hc : c ≠ '\\') (es : List Element) :
    (shortest (.ofLike c :: es)).count '\\' = (shortest es).count '\\' := by
  change ((Element.ofLike c).shortest ++ shortest es).count '\\' = _
  by_cases hpercent : c = '%'
  · rw [Element.ofLike, if_pos hpercent]
    rfl
  by_cases hunder : c = '_'
  · rw [Element.ofLike, if_neg hpercent, if_pos hunder]
    rfl
  · rw [Element.ofLike, if_neg hpercent, if_neg hunder]
    exact List.count_cons_of_ne hc

/-- Every backslash that a condition needs in a name is one of two in the condition. -/
theorem count_backslash_shortest (hes : likeElements? q = some es) :
    2 * (shortest es).count '\\' ≤ q.count '\\' := by
  fun_induction likeElements? q generalizing es with
  | case1 =>
    obtain rfl := Option.some.inj hes
    exact Nat.le_refl _
  | case2 => cases hes
  | case3 c rest ih =>
    obtain ⟨more, hmore, rfl⟩ := Option.map_eq_some_iff.1 hes
    have hrest := ih hmore
    change 2 * (c :: shortest more).count '\\' ≤ _
    rw [List.count_cons, List.count_cons_self, List.count_cons]
    split <;> omega
  | case4 c rest hsingle hpair ih =>
    obtain ⟨more, hmore, rfl⟩ := Option.map_eq_some_iff.1 hes
    have hc : c ≠ '\\' := by
      rintro rfl
      cases rest with
      | nil => exact hsingle rfl rfl
      | cons d rest => exact hpair d rest rfl rfl
    rw [count_shortest_ofLike hc, List.count_cons_of_ne hc]
    exact ih hmore

theorem count_backslash_likeText (p : List Char) : (likeText p).count '\\' = p.count '\\' := by
  induction p with
  | nil => rfl
  | cons d p ih =>
    change ((if d = '*' then '%' else if d = '?' then '_' else d) :: likeText p).count '\\' = _
    rw [List.count_cons, List.count_cons, ih]
    congr 1
    split
    · next hd =>
      subst hd
      rfl
    · split
      · next hd =>
        subst hd
        rfl
      · rfl

/-- A sign of conditions in a pattern gives or takes a name: without a backslash the shortest name of the
condition lacks the sign, and with one it has too few backslashes, if any name satisfies the condition. -/
theorem exists_not_iff (hc : c ∈ p) (hsign : isLikeSign c = true) :
    ∃ n, ¬ (Like (likeText p) n ↔ Matches p n) := by
  have hstar : c ≠ '*' := by
    rintro rfl
    cases hsign
  have hmark : c ≠ '?' := by
    rintro rfl
    cases hsign
  cases hes : likeElements? (likeText p) with
  | none =>
    refine ⟨p, fun hiff => ?_⟩
    obtain ⟨es, hsome, -⟩ := hiff.2 (matches_self p)
    cases hes.symm.trans hsome
  | some es =>
    refine ⟨shortest es, fun hiff => ?_⟩
    have hmatches : Matches p (shortest es) := hiff.1 ⟨es, hes, fits_shortest es⟩
    by_cases hback : '\\' ∈ p
    · have hneeded := count_le_of_matches hmatches (c := '\\') (by decide) (by decide)
      have hpairs := count_backslash_shortest hes
      have hpos : 0 < p.count '\\' := List.count_pos_iff.2 hback
      rw [count_backslash_likeText] at hpairs
      omega
    · have hneeded := count_le_of_matches hmatches hstar hmark
      have hpos : 0 < p.count c := List.count_pos_iff.2 hc
      have hmem : c ∈ shortest es := List.count_pos_iff.1 (hpos.trans_le hneeded)
      have hq : '\\' ∉ likeText p := by
        rw [← List.count_eq_zero, count_backslash_likeText]
        exact List.count_eq_zero.2 hback
      rw [isLikeSign_of_mem_shortest hq hes hmem] at hsign
      cases hsign

/-! ## Listing relations -/

/-- The names of the commands that list relations and take a pattern. -/
def listings : List String :=
  ["\\dt", "\\dt+", "\\dv", "\\dv+"]

/-- The types of relations that such a command lists. -/
def listedTypes (listing : String) : List String :=
  if listing = "\\dt" ∨ listing = "\\dt+" then ["BASE TABLE"] else ["VIEW"]

theorem translate_listing {listing : String} (hlisting : listing ∈ listings) {more : List (List Char)}
    (hwords : Text.words (Text.dropSemicolons (Text.trim command)) = listing.toList :: more) :
    translate command = .ok (listRelations (listedTypes listing) more.head?) := by
  unfold translate
  dsimp only
  rw [hwords, List.head?_cons, Option.getD_some, String.ofList_toList, List.getElem?_cons_succ,
    ← List.head?_eq_getElem?]
  simp only [listings, List.mem_cons, List.not_mem_nil, or_false] at hlisting
  rcases hlisting with rfl | rfl | rfl | rfl <;> rfl

/-- A pattern without a point adds one condition to a listing. -/
theorem exists_listRelations_eq (types : List String) (hpoint : '.' ∉ p) :
    ∃ query, listRelations types none = query ++ " ORDER BY 1, 2".toList ∧
      listRelations types (some p) = query ++ " AND table_name LIKE ".toList ++
        Value.sqlString (likeText p) ++ " ORDER BY 1, 2".toList := by
  have hschema : qualified p = (none, p) := by
    rw [qualified, Text.splitOnce_singleton_eq_none_iff.2 hpoint]
  unfold listRelations
  dsimp only
  rw [hschema, List.append_nil]
  dsimp only
  rw [List.nil_append]
  have hpattern : likePattern p = Value.sqlString (likeText p) := rfl
  refine ⟨_, rfl, ?_⟩
  rw [hpattern]
  simp only [List.append_assoc]

/-- A command that lists relations and has a pattern without a point asks what it asks without one, with one
more condition on the name.  The condition selects exactly the names that the pattern asks for if and only
if the pattern has no percent sign, no underscore and no backslash; without a backslash it selects those and
perhaps others.  A pattern without wildcards asks for the name it spells. -/
theorem listing_condition_iff {listing : String} (hlisting : listing ∈ listings) {more : List (List Char)}
    (hwords : Text.words (Text.dropSemicolons (Text.trim command)) = listing.toList :: p :: more)
    (hpoint : '.' ∉ p) :
    ∃ (query condition : List Char) (q : String),
      translate listing.toList = .ok (query ++ " ORDER BY 1, 2".toList) ∧
      translate command =
        .ok (query ++ " AND table_name LIKE ".toList ++ condition ++ " ORDER BY 1, 2".toList) ∧
      ReadBy literal? condition (.text q) ∧
      ((∀ n, Like q.toList n ↔ Matches p n) ↔ ∀ c ∈ p, c ≠ '%' ∧ c ≠ '_' ∧ c ≠ '\\') ∧
      ('\\' ∉ p → ∀ n, Matches p n → Like q.toList n) ∧
      ((∀ c ∈ p, c ≠ '*' ∧ c ≠ '?') → ∀ n, Matches p n ↔ n = p) := by
  obtain ⟨query, hbare, hlisted⟩ := exists_listRelations_eq (listedTypes listing) hpoint
  have hown : Text.words (Text.dropSemicolons (Text.trim listing.toList)) = [listing.toList] := by
    simp only [listings, List.mem_cons, List.not_mem_nil, or_false] at hlisting
    rcases hlisting with rfl | rfl | rfl | rfl <;> decide +kernel
  refine ⟨query, Value.sqlString (likeText p), String.ofList (likeText p), ?_, ?_, ?_, ?_, ?_, ?_⟩
  · rw [translate_listing hlisting hown, List.head?_nil, hbare]
  · rw [translate_listing hlisting hwords, List.head?_cons, hlisted]
  · have hread := readBy_string (String.ofList (likeText p))
    rwa [String.toList_ofList] at hread
  · rw [String.toList_ofList]
    constructor
    · intro hsame c hc
      have hsign : ¬ isLikeSign c = true := by
        intro hsign
        obtain ⟨n, hn⟩ := exists_not_iff hc hsign
        exact hn (hsame n)
      simpa [isLikeSign, and_assoc] using hsign
    · intro hplain n
      refine like_iff_matches fun c hc => ?_
      obtain ⟨hpercent, hunder, hback⟩ := hplain c hc
      simp [isLikeSign, hpercent, hunder, hback]
  · rw [String.toList_ofList]
    exact fun hback n => like_of_matches hback
  · exact fun hplain n => matches_iff_eq hplain

theorem listing_condition_iff_stars :
    Text.words (Text.dropSemicolons (Text.trim "\\dt+\tauth*? x;; ".toList)) =
        ["\\dt+".toList, "auth*?".toList, "x".toList] ∧
      ∃ (query condition : List Char) (q : String),
        translate "\\dt+\tauth*? x;; ".toList =
          .ok (query ++ " AND table_name LIKE ".toList ++ condition ++ " ORDER BY 1, 2".toList) ∧
        ReadBy literal? condition (.text q) ∧ ∀ n, Like q.toList n ↔ Matches "auth*?".toList n := by
  have hwords : Text.words (Text.dropSemicolons (Text.trim "\\dt+\tauth*? x;; ".toList)) =
      ["\\dt+".toList, "auth*?".toList, "x".toList] := by decide +kernel
  have hlisting : "\\dt+" ∈ listings := by decide
  obtain ⟨query, condition, q, -, hquery, hread, hiff, -⟩ :=
    listing_condition_iff hlisting hwords (by decide)
  exact ⟨hwords, query, condition, q, hquery, hread, hiff.2 (by decide)⟩

/-- An underscore is not taken for itself: `\dt a_b` lists the relation `axb` too. -/
theorem underscore_lists_other :
    (∃ query, translate "\\dt a_b".toList =
        .ok (query ++ " AND table_name LIKE 'a_b' ORDER BY 1, 2".toList)) ∧
      literal? (tokens "'a_b'".toList) = some (.text "a_b") ∧
      Like "a_b".toList "axb".toList ∧ ¬ Matches "a_b".toList "axb".toList := by
  refine ⟨?_, by decide +kernel, ⟨[.only 'a', .one, .only 'b'], rfl, ?_⟩, ?_⟩
  · obtain ⟨query, -, hlisted⟩ := exists_listRelations_eq ["BASE TABLE"] (p := "a_b".toList) (by decide)
    refine ⟨query, ?_⟩
    have hlisting : "\\dt" ∈ listings := by decide
    have hwords : Text.words (Text.dropSemicolons (Text.trim "\\dt a_b".toList)) =
        ["\\dt".toList, "a_b".toList] := by decide +kernel
    rw [translate_listing hlisting hwords]
    refine (congrArg Except.ok hlisted).trans ?_
    simp only [List.append_assoc]
    rfl
  · exact .only 'a' (.one 'x' (.only 'b' .nil))
  · rw [matches_iff_eq (by decide)]
    decide

end MetaCommand
end SqlCells
