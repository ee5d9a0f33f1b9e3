import SqlCells.Proofs.Command.Assembly
import SqlCells.Proofs.Text.Words

/-!
# Placeholders

The placeholders that a template is taken apart into stand as far to the left as they can, none in another,
and they are found in the template alone.  Expansion puts the text of its name in the place of each and keeps
everything else, so a text that is put in is never looked through, whatever it is and whatever stands beside it.
-/

namespace SqlCells
namespace Command

variable {c : Char} {s t name spelling rest tail template : List Char} {text : List Char → Option (List Char)}

/-! ## What is a placeholder -/

/-- An ASCII identifier. -/
inductive IsName : List Char → Prop
  | cons {c : Char} {rest : List Char} (hc : Text.isNameStart c = true)
      (hrest : ∀ d ∈ rest, Text.isNameRest d = true) : IsName (c :: rest)

/-- The spellings of the placeholder for a name. -/
inductive IsPlaceholder (name : List Char) : (spelling : List Char) → Prop
  | braces {before after : List Char} (hname : IsName name) (hbefore : ∀ c ∈ before, Text.isBlank c = true)
      (hafter : ∀ c ∈ after, Text.isBlank c = true) :
      IsPlaceholder name ('\x7b' :: '\x7b' :: (before ++ (name ++ (after ++ ['\x7d', '\x7d']))))

/-- Whether a text starts with a placeholder. -/
def StartsPlaceholder (s : List Char) : Prop :=
  ∃ name spelling rest, IsPlaceholder name spelling ∧ s = spelling ++ rest

/-- Whether no placeholder starts in the text `s` when `rest` stands behind it. -/
def IsPlain (s rest : List Char) : Prop :=
  ∀ b, b ≠ [] → b <:+ s → ¬ StartsPlaceholder (b ++ rest)

/-- A placeholder and the text between it and the one before it. -/
structure Occurrence where
  before : List Char
  name : List Char
  spelling : List Char

/-- The template consists of the occurrences and of the tail.  Each placeholder is the first that starts
behind the one before it, and none starts in the tail. -/
inductive Scans : (occs : List Occurrence) → (tail template : List Char) → Prop
  | nil {tail : List Char} (htail : IsPlain tail []) : Scans [] tail tail
  | cons {o : Occurrence} {occs : List Occurrence} {tail rest : List Char}
      (hbefore : IsPlain o.before (o.spelling ++ rest)) (ho : IsPlaceholder o.name o.spelling)
      (h : Scans occs tail rest) :
      Scans (o :: occs) tail (o.before ++ (o.spelling ++ rest))

/-- The text of a template with `f` in the place of its placeholders. -/
def fill (f : Occurrence → List Char) (occs : List Occurrence) (tail : List Char) : List Char :=
  occs.flatMap (fun o => o.before ++ f o) ++ tail

variable {o : Occurrence} {occs more : List Occurrence} {f g : Occurrence → List Char}

theorem fill_cons (f : Occurrence → List Char) (o : Occurrence) (occs : List Occurrence) (tail : List Char) :
    fill f (o :: occs) tail = o.before ++ (f o ++ fill f occs tail) := by
  unfold fill
  rw [List.flatMap_cons, List.append_assoc, List.append_assoc]

theorem fill_congr (hsame : ∀ o ∈ occs, f o = g o) (tail : List Char) : fill f occs tail = fill g occs tail := by
  induction occs with
  | nil => rfl
  | cons o occs ih =>
    obtain ⟨ho, hsame⟩ := List.forall_mem_cons.1 hsame
    rw [fill_cons, fill_cons, ho, ih hsame]

theorem Scans.fill_spelling (h : Scans occs tail template) : fill Occurrence.spelling occs tail = template := by
  induction h with
  | nil => rfl
  | cons hbefore ho h ih => rw [fill_cons, ih]

/-! ## Names -/

theorem isNameRest_of_isNameStart (hc : Text.isNameStart c = true) : Text.isNameRest c = true := by
  unfold Text.isNameStart at hc
  unfold Text.isNameRest Char.isAlphanum
  cases hletter : c.isAlpha <;> simp_all

theorem IsName.ne_nil (h : IsName name) : name ≠ [] := by
  cases h
  exact List.cons_ne_nil _ _

/-- No blank stands in a name. -/
theorem not_isNameRest_of_isBlank (hc : Text.isBlank c = true) : Text.isNameRest c = false := by
  have hclass : ∀ d ∈ Text.blanks, Text.isNameRest d = false := by decide +kernel
  exact hclass c (Text.mem_blanks hc)

/-- Blanks are trimmed up to a name. -/
theorem IsName.trimStart_append (h : IsName name) (s : List Char) : Text.trimStart (name ++ s) = name ++ s := by
  cases h with
  | @cons c rest hc hrest =>
    refine Text.trimStart_of_not_blank ?_ _
    cases hblank : Text.isBlank c with
    | false => rfl
    | true =>
      have hrest : Text.isNameRest c = false := not_isNameRest_of_isBlank hblank
      rw [isNameRest_of_isNameStart hc] at hrest
      cases hrest

theorem takeName_append (h : IsName name) (hs : ∀ d ∈ s.head?, Text.isNameRest d = false) :
    Text.takeName (name ++ s) = name := by
  cases h with
  | @cons c rest hc hrest =>
    rw [List.cons_append, Text.takeName, if_pos hc, takeWhile_append_of_head? hrest hs]

theorem isName_takeName (hs : Text.takeName s ≠ []) : IsName (Text.takeName s) := by
  cases s with
  | nil => exact absurd rfl hs
  | cons c rest =>
    rw [Text.takeName] at hs ⊢
    split at hs
    · next hc =>
      rw [if_pos hc]
      exact .cons hc (List.all_eq_true.1 List.all_takeWhile)
    · exact absurd rfl hs

/-! ## One placeholder -/

/-- A placeholder is found up to its end, whatever stands behind it. -/
theorem placeholder_of_isPlaceholder (h : IsPlaceholder name (c :: spelling)) (rest : List Char) :
    placeholder c (spelling ++ rest) = (.named name, spelling.length) := by
  cases h with
  | @braces before after hname hbefore hafter =>
    have hclosing : Text.trimStart (after ++ '\x7d' :: '\x7d' :: rest) = '\x7d' :: '\x7d' :: rest := by
      rw [Text.trimStart_append hafter, Text.trimStart_of_not_blank (by decide)]
    -- The name is taken up to its end, as neither a blank nor a brace can go on with it.
    have hends : ∀ d ∈ (after ++ '\x7d' :: '\x7d' :: rest).head?, Text.isNameRest d = false := by
      cases after with
      | nil => simpa using (by decide : Text.isNameRest '\x7d' = false)
      | cons d after => simpa using not_isNameRest_of_isBlank (hafter d List.mem_cons_self)
    have hopening : Text.trimStart (before ++ (name ++ (after ++ '\x7d' :: '\x7d' :: rest))) =
        name ++ (after ++ '\x7d' :: '\x7d' :: rest) := by
      rw [Text.trimStart_append hbefore]
      exact hname.trimStart_append _
    have hlength : ('\x7b' :: (before ++ (name ++ (after ++ '\x7d' :: '\x7d' :: rest)))).length - rest.length =
        ('\x7b' :: (before ++ (name ++ (after ++ ['\x7d', '\x7d'])))).length := by
      simp only [List.length_cons, List.length_append, List.length_nil]
      omega
    have hnonempty : name.isEmpty = false := by simpa using hname.ne_nil
    simp only [List.cons_append, List.append_assoc, List.nil_append]
    rw [placeholder]
    simp only [hopening, takeName_append hname hends, List.drop_left, hclosing, hnonempty, hlength]
    rfl

theorem takeName_append_drop (s : List Char) : Text.takeName s ++ s.drop (Text.takeName s).length = s := by
  rw [← List.prefix_iff_eq_append]
  cases s with
  | nil => exact List.prefix_rfl
  | cons c rest =>
    rw [Text.takeName]
    split
    · exact List.cons_prefix_cons.2 ⟨rfl, List.takeWhile_prefix _⟩
    · exact List.nil_prefix

/-- Where no placeholder starts, none is found. -/
theorem placeholder_of_not_startsPlaceholder (hnone : ¬ StartsPlaceholder (c :: s)) :
    placeholder c s = (.plain, 0) := by
  unfold placeholder
  split
  · next inside =>
    dsimp only
    split
    · next tail hclosing =>
      split
      · rfl
      · next hname =>
        -- The text would start with the placeholder that has been taken apart.
        obtain ⟨before, hbefore, hinside⟩ := Text.exists_blanks_trimStart inside
        obtain ⟨after, hafter, hbehind⟩ :=
          Text.exists_blanks_trimStart <|
            (Text.trimStart inside).drop (Text.takeName (Text.trimStart inside)).length
        have hspelled := IsPlaceholder.braces (isName_takeName (by simpa using hname)) hbefore hafter
        have hwhole : before ++ (Text.takeName (Text.trimStart inside) ++ (after ++ '\x7d' :: '\x7d' :: tail)) =
            inside := by
          rw [← hclosing, ← hbehind, takeName_append_drop, ← hinside]
        refine absurd ⟨_, _, tail, hspelled, ?_⟩ hnone
        simp only [List.cons_append, List.append_assoc, List.nil_append, hwhole]
    · rfl
  · rfl

theorem IsPlaceholder.exists_cons (h : IsPlaceholder name spelling) : ∃ more, spelling = '\x7b' :: more := by
  cases h with
  | braces => exact ⟨_, rfl⟩

/-- At most one placeholder starts a text. -/
theorem IsPlaceholder.eq_of_append_eq {other spelling' rest' : List Char} (h : IsPlaceholder name spelling)
    (h' : IsPlaceholder other spelling') (heq : spelling ++ rest = spelling' ++ rest') :
    name = other ∧ spelling = spelling' ∧ rest = rest' := by
  obtain ⟨more, rfl⟩ := h.exists_cons
  obtain ⟨more', rfl⟩ := h'.exists_cons
  have hrest : more ++ rest = more' ++ rest' := List.tail_eq_of_cons_eq heq
  have hfound : placeholder '\x7b' (more ++ rest) = (.named name, more.length) :=
    placeholder_of_isPlaceholder h rest
  rw [hrest, placeholder_of_isPlaceholder h' rest', Prod.mk.injEq, Text.Mention.named.injEq] at hfound
  obtain ⟨hname, hlength⟩ := hfound
  obtain ⟨rfl, rfl⟩ := List.append_inj hrest hlength.symm
  exact ⟨hname.symm, rfl, rfl⟩

theorem startsPlaceholder_cons_iff : StartsPlaceholder (c :: s) ↔ (placeholder c s).1 ≠ .plain := by
  constructor
  · rintro ⟨name, spelling, rest, h, heq⟩
    obtain ⟨more, rfl⟩ := h.exists_cons
    rw [List.cons_append] at heq
    obtain ⟨rfl, rfl⟩ := List.cons_eq_cons.1 heq
    rw [placeholder_of_isPlaceholder h rest]
    exact nofun
  · intro hne
    by_contra hnone
    exact hne (congrArg Prod.fst (placeholder_of_not_startsPlaceholder hnone))

theorem not_startsPlaceholder_nil : ¬ StartsPlaceholder [] := by
  rintro ⟨name, spelling, rest, h, heq⟩
  obtain ⟨more, rfl⟩ := h.exists_cons
  cases heq

instance : DecidablePred StartsPlaceholder
  | [] => isFalse not_startsPlaceholder_nil
  | _ :: _ => decidable_of_iff' _ startsPlaceholder_cons_iff

/-! ## From one place to the next -/

theorem isPlain_nil (rest : List Char) : IsPlain [] rest :=
  fun _ hb hsuffix => absurd (List.suffix_nil.1 hsuffix) hb

theorem isPlain_cons_iff :
    IsPlain (c :: s) rest ↔ ¬ StartsPlaceholder (c :: (s ++ rest)) ∧ IsPlain s rest := by
  constructor
  · intro h
    exact ⟨h _ (List.cons_ne_nil _ _) List.suffix_rfl,
      fun b hb hsuffix => h b hb (hsuffix.trans (List.suffix_cons c s))⟩
  · rintro ⟨hc, hs⟩ b hb hsuffix
    rcases List.suffix_cons_iff.1 hsuffix with rfl | hsuffix
    · exact hc
    · exact hs b hb hsuffix

/-- A plain text ends at the latest where a placeholder starts. -/
theorem IsPlain.eq_nil_of_startsPlaceholder {a : List Char} (h : IsPlain (s ++ a) rest)
    (hstarts : StartsPlaceholder (a ++ rest)) : a = [] := by
  by_contra ha
  exact h a ha (List.suffix_append s a) hstarts

/-- The first placeholder stands at one place only. -/
theorem IsPlain.eq_of_append_eq {rest' : List Char} (hs : IsPlain s rest) (ht : IsPlain t rest')
    (hrest : StartsPlaceholder rest) (hrest' : StartsPlaceholder rest') (heq : s ++ rest = t ++ rest') :
    s = t ∧ rest = rest' := by
  -- If the two places differed, the earlier placeholder would start in the plain text before the later one.
  rcases List.append_eq_append_iff.1 heq with ⟨a, rfl, rfl⟩ | ⟨a, rfl, rfl⟩
  · have ha : a = [] := ht.eq_nil_of_startsPlaceholder hrest
    subst ha
    exact ⟨(List.append_nil s).symm, rfl⟩
  · have ha : a = [] := hs.eq_nil_of_startsPlaceholder hrest'
    subst ha
    exact ⟨List.append_nil t, rfl⟩

theorem expandTemplate_nil (text : List Char → Option (List Char)) : expandTemplate text [] = [] := by
  simp [expandTemplate, Text.replaceMentions, Text.cut]

theorem expandTemplate_cons_of_not_startsPlaceholder (hnone : ¬ StartsPlaceholder (c :: s)) :
    expandTemplate text (c :: s) = c :: expandTemplate text s := by
  unfold expandTemplate Text.replaceMentions
  rw [Text.cut, placeholder_of_not_startsPlaceholder hnone]
  rfl

/-- The text of its name stands for a placeholder, and what is behind it is expanded on its own. -/
theorem expandTemplate_placeholder (h : IsPlaceholder name spelling) (rest : List Char) :
    expandTemplate text (spelling ++ rest) = (text name).getD [] ++ expandTemplate text rest := by
  obtain ⟨more, rfl⟩ := h.exists_cons
  unfold expandTemplate Text.replaceMentions
  rw [List.cons_append, Text.cut, placeholder_of_isPlaceholder h rest]
  dsimp only
  rw [List.drop_left, List.flatMap_cons]

/-- What stands before the next placeholder is kept. -/
theorem expandTemplate_append (hs : IsPlain s rest) :
    expandTemplate text (s ++ rest) = s ++ expandTemplate text rest := by
  induction s with
  | nil => rfl
  | cons c s ih =>
    obtain ⟨hc, hs⟩ := isPlain_cons_iff.1 hs
    rw [List.cons_append, expandTemplate_cons_of_not_startsPlaceholder hc, ih hs, List.cons_append]

/-! ## A whole template -/

/-- A template is expanded by filling in the texts of the names of its placeholders. -/
theorem Scans.expandTemplate_eq (h : Scans occs tail template) (text : List Char → Option (List Char)) :
    expandTemplate text template = fill (fun o => (text o.name).getD []) occs tail := by
  induction h with
  | @nil tail htail =>
    have hkept : expandTemplate text (tail ++ []) = tail ++ expandTemplate text [] := expandTemplate_append htail
    rw [expandTemplate_nil, List.append_nil] at hkept
    exact hkept
  | cons hbefore ho h ih => rw [expandTemplate_append hbefore, expandTemplate_placeholder ho, ih, fill_cons]

/-- A character in front of which no placeholder starts belongs to what is kept. -/
theorem Scans.exists_cons (h : Scans occs tail s) (hnone : ¬ StartsPlaceholder (c :: s)) :
    ∃ occs tail, Scans occs tail (c :: s) := by
  cases h with
  | nil htail =>
    have hplain : IsPlain (c :: s) [] := isPlain_cons_iff.2 ⟨by rwa [List.append_nil], htail⟩
    exact ⟨[], c :: s, .nil hplain⟩
  | @cons o occs tail rest hbefore ho h =>
    let longer : Occurrence := { o with before := c :: o.before }
    have hplain : IsPlain longer.before (o.spelling ++ rest) := isPlain_cons_iff.2 ⟨hnone, hbefore⟩
    exact ⟨longer :: occs, tail, .cons hplain ho h⟩

theorem exists_scans (template : List Char) : ∃ occs tail, Scans occs tail template := by
  -- What is behind a placeholder, or behind a character that is kept, is shorter.
  induction hlength : template.length using Nat.strongRecOn generalizing template with
  | ind n ih =>
    by_cases hstarts : StartsPlaceholder template
    · obtain ⟨name, spelling, rest, h, rfl⟩ := hstarts
      obtain ⟨more, rfl⟩ := h.exists_cons
      obtain ⟨occs, tail, hrest⟩ := ih rest.length (by simp at hlength; omega) rest rfl
      let o : Occurrence := ⟨[], name, '\x7b' :: more⟩
      have hbefore : IsPlain o.before (o.spelling ++ rest) := isPlain_nil _
      exact ⟨o :: occs, tail, .cons hbefore h hrest⟩
    · cases template with
      | nil => exact ⟨[], [], .nil (isPlain_nil [])⟩
      | cons c s =>
        obtain ⟨occs, tail, hs⟩ := ih s.length (by simp at hlength; omega) s rfl
        exact hs.exists_cons hstarts

/-- A plain text holds no placeholder. -/
theorem IsPlain.not_isPlaceholder (h : IsPlain (s ++ (spelling ++ rest)) []) : ¬ IsPlaceholder name spelling := by
  intro hp
  obtain ⟨more, rfl⟩ := hp.exists_cons
  have hnone := h _ (List.cons_ne_nil _ _) (List.suffix_append s _)
  rw [List.append_nil] at hnone
  exact hnone ⟨name, _, rest, hp, rfl⟩

/-- Two ways to take a template apart agree on the first placeholder, and so on what is behind it. -/
theorem Scans.unique {tail' template' : List Char} (h : Scans occs tail template)
    (h' : Scans more tail' template') (heq : template = template') : more = occs ∧ tail' = tail := by
  induction h generalizing more tail' template' with
  | nil htail =>
    cases h' with
    | nil => exact ⟨rfl, heq.symm⟩
    | cons hbefore ho hrest => exact absurd ho (IsPlain.not_isPlaceholder (heq ▸ htail))
  | @cons o occs tail rest hbefore ho hrest ih =>
    cases h' with
    | nil htail => exact absurd ho (IsPlain.not_isPlaceholder (heq ▸ htail))
    | @cons o' more tail' rest' hbefore' ho' hrest' =>
      obtain ⟨hsame, hbehind⟩ := hbefore.eq_of_append_eq hbefore' ⟨o.name, o.spelling, rest, ho, rfl⟩
        ⟨o'.name, o'.spelling, rest', ho', rfl⟩ heq
      obtain ⟨hname, hspelling, hagree⟩ := ho.eq_of_append_eq ho' hbehind
      obtain ⟨rfl, rfl⟩ := ih hrest' hagree
      cases o
      cases o'
      dsimp only at hsame hname hspelling
      subst hsame hname hspelling
      exact ⟨rfl, rfl⟩

/-- The SQL of a command is that of its cell, filled in once. -/
theorem Assembled.exists_scans {ctx : Context} {header body : String} {parts : CellParts} {p : Parsed}
    (h : Assembled ctx header body parts p) :
    ∃ occs tail, Scans occs tail parts.sql ∧
      p.sqlOriginal = String.ofList
        (fill (fun o => (ctx.scope.text? ctx.clients (String.ofList o.name)).getD []) occs tail) := by
  obtain ⟨occs, tail, hscans⟩ := Command.exists_scans parts.sql
  refine ⟨occs, tail, hscans, ?_⟩
  rw [h.sqlOriginal, expanded, hscans.expandTemplate_eq]

/-- A template is taken apart in one way only: each placeholder is the first that starts behind the one before
it.  Whatever the names in it are bound to, expansion puts their texts in the places of the placeholders, keeps
all the rest, and looks through the template alone.  So it sees no more of a scope than the texts of these
names. -/
theorem expandTemplate_scans (template : List Char) :
    ∃ occs tail, Scans occs tail template ∧ fill Occurrence.spelling occs tail = template ∧
      (∀ occs' tail', Scans occs' tail' template → occs' = occs ∧ tail' = tail) ∧
      (∀ (scope : Variables) (clients : Clients),
        expandTemplate (fun name => scope.text? clients (String.ofList name)) template =
          fill (fun o => (scope.text? clients (String.ofList o.name)).getD []) occs tail) ∧
      ∀ (scope scope' : Variables) (clients clients' : Clients),
        (∀ o ∈ occs, (scope.text? clients (String.ofList o.name)).getD [] =
          (scope'.text? clients' (String.ofList o.name)).getD []) →
        expandTemplate (fun name => scope.text? clients (String.ofList name)) template =
          expandTemplate (fun name => scope'.text? clients' (String.ofList name)) template := by
  obtain ⟨occs, tail, h⟩ := exists_scans template
  refine ⟨occs, tail, h, h.fill_spelling, fun occs' tail' h' => h.unique h' rfl,
    fun scope clients => h.expandTemplate_eq _, fun scope scope' clients clients' hsame => ?_⟩
  rw [h.expandTemplate_eq, h.expandTemplate_eq]
  exact fill_congr hsame tail

/-- A template whose second placeholder stands right behind a brace that belongs to none. -/
def crowded : List Char :=
  "\x7b\x7b\x7bx\x7d\x7d\x7d\x7b\x7b y \x7d\x7d".toList

/-- The placeholders of `crowded`. -/
def crowdedOccurrences : List Occurrence :=
  [⟨['\x7b'], ['x'], "\x7b\x7bx\x7d\x7d".toList⟩, ⟨['\x7d'], ['y'], "\x7b\x7b y \x7d\x7d".toList⟩]

theorem scans_crowded : Scans crowdedOccurrences [] crowded := by
  have hx : IsPlaceholder ['x'] "\x7b\x7bx\x7d\x7d".toList :=
    @IsPlaceholder.braces ['x'] [] [] (.cons rfl nofun) nofun nofun
  have hy : IsPlaceholder ['y'] "\x7b\x7b y \x7d\x7d".toList :=
    @IsPlaceholder.braces ['y'] [' '] [' '] (.cons rfl nofun) (by decide) (by decide)
  have hbrace {c : Char} {s : List Char} (hnone : ¬ StartsPlaceholder (c :: s)) : IsPlain [c] s :=
    isPlain_cons_iff.2 ⟨hnone, isPlain_nil s⟩
  exact .cons (hbrace (by decide)) hx (.cons (hbrace (by decide)) hy (.nil (isPlain_nil [])))

/-- A scope in which the text of `x` makes up a placeholder with the braces around it, and that of `y` is
one. -/
def crowdedScope : Variables :=
  ⟨[("x", .value (.text "\x7by\x7d")), ("y", .value (.text "\x7b\x7bx\x7d\x7d"))]⟩

theorem expandTemplate_scans_crowded :
    Scans crowdedOccurrences [] crowded ∧
      expandTemplate (fun name => crowdedScope.text? ⟨[]⟩ (String.ofList name)) crowded =
        "\x7b\x7by\x7d\x7d\x7b\x7bx\x7d\x7d".toList ∧
      expandTemplate (fun name => crowdedScope.text? ⟨[]⟩ (String.ofList name)) crowded =
        expandTemplate (fun name => (crowdedScope.set "z" (.value .null)).text? ⟨[]⟩ (String.ofList name)) crowded := by
  obtain ⟨occs, tail, h, -, hunique, hfill, hsame⟩ := expandTemplate_scans crowded
  obtain ⟨rfl, rfl⟩ := hunique _ _ scans_crowded
  exact ⟨h, (hfill crowdedScope ⟨[]⟩).trans (by decide), hsame _ _ _ _ (by decide)⟩

end Command
end SqlCells
