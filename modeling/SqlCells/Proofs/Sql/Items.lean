import SqlCells.Proofs.Number.Numerals
import SqlCells.Proofs.Sql.Splitting
import SqlCells.Proofs.Text.Case
import SqlCells.Text.Cut

/-!
# Written tokens

Statements are put together from words, names and strings in quotes, and numbers, with spaces, commas and
parentheses around them.  Each part is read as its own tokens wherever it stands in such a statement: a
quote inside a name or a string is written twice, so that no character of it ends it.
-/

namespace SqlCells
namespace Sql

/-- The text can be read, as these tokens and what separates them. -/
def ReadAs (s : List Char) (ts : List Token) : Prop :=
  ∃ ls, Lexed s ls ∧ significant ls = ts

/-- Whether a text is over or goes on with a space, a comma or a closing parenthesis. -/
def Stops (b : List Char) : Prop :=
  ∀ d ∈ b.head?, d = ' ' ∨ d = ',' ∨ d = ')'

/-- Where it stops, the text is read as these tokens, and what is behind as if it stood alone. -/
def IsItem (s : List Char) (ts : List Token) : Prop :=
  ∀ b us, Stops b → ReadAs b us → ReadAs (s ++ b) (ts ++ us)

variable {c : Char} {b rest s t w : List Char} {token : Token} {n : Nat} {ts us : List Token}

/-! ## Texts read as tokens -/

theorem Stops.ne (h : Stops b) {q : Char} (hq : ¬ (q = ' ' ∨ q = ',' ∨ q = ')')) :
    ∀ d ∈ b.head?, d ≠ q := by
  rintro d hd rfl
  exact hq (h d hd)

theorem ReadAs.nil : ReadAs [] [] :=
  ⟨[], .nil, rfl⟩

theorem ReadAs.tokens_eq (h : ReadAs s ts) : tokens s = ts := by
  obtain ⟨ls, hls, rfl⟩ := h
  exact hls.tokens_eq

/-- A token in front of a text. -/
theorem ReadAs.cons (hscan : scan c (w ++ b) = .ok (token, w.length)) (htoken : token.isTrivia = false)
    (hb : ReadAs b us) : ReadAs (c :: (w ++ b)) (token :: us) := by
  obtain ⟨ls, hls, rfl⟩ := hb
  have hrest : Lexed ((w ++ b).drop w.length) ls := by rwa [List.drop_left]
  refine ⟨⟨token, c :: (w ++ b).take w.length, .start⟩ :: ls, .cons hscan hrest, ?_⟩
  exact significant_cons_of_token htoken ls

theorem ReadAs.blank (hb : ReadAs b us) : ReadAs (' ' :: b) us := by
  obtain ⟨ls, hls, rfl⟩ := hb
  exact ⟨⟨.blank, [' '], .start⟩ :: ls, .cons (n := 0) rfl hls, significant_cons_of_trivia rfl ls⟩

/-- Parentheses and commas are tokens whatever follows them. -/
theorem ReadAs.mark (hc : c = '(' ∨ c = ')' ∨ c = ',') (hb : ReadAs b us) :
    ReadAs (c :: b) (.symbol c.toString :: us) := by
  have hscan : scan c ([] ++ b) = .ok (.symbol c.toString, 0) := by
    rcases hc with rfl | rfl | rfl <;> rfl
  exact .cons hscan rfl hb

theorem IsItem.readAs (h : IsItem s ts) : ReadAs s ts := by
  have hall := h [] [] nofun .nil
  rwa [List.append_nil, List.append_nil] at hall

theorem isItem_of_scan (htoken : token.isTrivia = false)
    (hscan : ∀ b, Stops b → scan c (w ++ b) = .ok (token, w.length)) : IsItem (c :: w) [token] :=
  fun b _ hstops hb => .cons (hscan b hstops) htoken hb

/-- Two items with a space between them. -/
theorem IsItem.spaced (hs : IsItem s ts) (ht : IsItem t us) : IsItem (s ++ ' ' :: t) (ts ++ us) := by
  intro b more hstops hb
  have hbehind : ReadAs (' ' :: (t ++ b)) (us ++ more) := (ht b more hstops hb).blank
  have hall := hs _ _ (fun _ hd => Or.inl (Option.mem_some_iff.1 hd).symm) hbehind
  rwa [List.append_assoc, List.append_assoc, List.cons_append]

/-! ## Words -/

/-- A word as it is written without quotes. -/
def isBareWord : List Char → Bool
  | [] => false
  | c :: rest => Text.isNameStart c && rest.all isWordPart

/-- A letter or an underscore may start a word and starts no number. -/
theorem isWordStart_of_nameStart (hc : Text.isNameStart c = true) :
    (c.isDigit || c == '.') = false ∧ isWordStart c = true := by
  have hascii : c.toNat < 0x80 := by
    rcases Bool.or_eq_true_iff.1 hc with halpha | hunder
    · exact Text.toNat_of_isAlphanum (Bool.or_eq_true_iff.2 (Or.inl halpha))
    · obtain rfl : c = '_' := by simpa using hunder
      decide
  revert hc
  refine Text.ascii_induction (motive := fun c => Text.isNameStart c = true →
    (c.isDigit || c == '.') = false ∧ isWordStart c = true) ?_ hascii
  decide +kernel

/-- A letter starts a word, unless a quote makes it the mark of a literal. -/
theorem scan_nameStart (hc : Text.isNameStart c = true)
    (hnext : ∀ q ∈ rest.head?, q ≠ '\'' ∧ q ≠ '"' ∧ q ≠ '&') : scan c rest = .ok (scanWord c rest) := by
  obtain ⟨hnumber, hword⟩ := isWordStart_of_nameStart hc
  obtain ⟨start, hstart, hscan⟩ := exists_start c rest
  rw [hscan]
  cases hstart with
  | word => rfl
  | literal hletter hquote | raw hletter hquote =>
    obtain ⟨hsingle, hdouble, -⟩ := hnext _ rfl
    exact absurd hquote (not_or.2 ⟨hsingle, hdouble⟩)
  | escaped => exact absurd rfl (hnext '\'' rfl).1
  | unicode => exact absurd rfl (hnext '&' rfl).2.2
  | number hc' => exact absurd hc' (by simpa using hnumber)
  | blank hother | operator hnumber' hother => cases hword.symm.trans hother
  | quotedName hquote => rcases hquote with rfl | rfl <;> cases hc
  -- The other signs are no letters.
  | _ => cases hc

theorem isItem_word (hw : isBareWord w = true) : IsItem w [.word (String.ofList w) none] := by
  cases w with
  | nil => cases hw
  | cons c w =>
    obtain ⟨hstart, hall⟩ := Bool.and_eq_true_iff.1 hw
    have hpart : ∀ e ∈ w, isWordPart e = true := List.all_eq_true.1 hall
    refine isItem_of_scan rfl fun b hstops => ?_
    have htail : wordTail (w ++ b) = w := by
      refine takeWhile_append_of_head? hpart fun d hd => ?_
      rcases hstops d hd with rfl | rfl | rfl <;> decide
    rw [scan_nameStart hstart, scanWord, htail]
    -- The word goes on or stops, and neither is a quote.
    intro q hq
    cases w with
    | nil => rcases hstops q hq with rfl | rfl | rfl <;> decide
    | cons e w =>
      obtain rfl : e = q := Option.some.inj hq
      have he := hpart e List.mem_cons_self
      refine ⟨?_, ?_, ?_⟩ <;> rintro rfl <;> exact absurd he (by decide)

/-! ## Quotes -/

/-- A text with every quote in it written twice. -/
def doubled (quote : Char) (s : List Char) : List Char :=
  s.flatMap fun c => if c = quote then [quote, quote] else [c]

theorem doubled_of_not_mem {quote : Char} (hs : quote ∉ s) : doubled quote s = s := by
  have hself : ∀ c ∈ s, (if c = quote then [quote, quote] else [c]) = [c] := by
    intro c hc
    apply if_neg
    rintro rfl
    exact hs hc
  unfold doubled
  rw [List.flatMap_congr hself]
  exact List.flatMap_singleton' s

/-- Between quotes a text whose quotes are written twice is read up to its end. -/
theorem quotedBody_doubled {quote : Char} (s : List Char) (hb : ∀ q ∈ b.head?, q ≠ quote) :
    quotedBody quote (doubled quote s ++ quote :: b) = some (s, (doubled quote s).length + 1) := by
  induction s with
  | nil =>
    cases b with
    | nil => simp [doubled, quotedBody]
    | cons d b => simp [doubled, quotedBody, hb d rfl]
  | cons c s ih =>
    by_cases hc : c = quote
    · have hcons : doubled quote (c :: s) = quote :: quote :: doubled quote s := by
        simp [doubled, hc]
      rw [hcons, List.cons_append, List.cons_append, quotedBody, if_pos rfl]
      simp [ih, hc]
    · have hcons : doubled quote (c :: s) = c :: doubled quote s := by
        simp [doubled, hc]
      rw [hcons, List.cons_append, quotedBody.eq_def]
      simp [hc, ih]

theorem isItem_quotedName {quote : Char} (hquote : quote = '"' ∨ quote = '`') (s : List Char) :
    IsItem (quote :: doubled quote s ++ [quote]) [.word (String.ofList s) (some quote)] := by
  refine isItem_of_scan rfl fun b hstops => ?_
  have hother : ¬ (quote = ' ' ∨ quote = ',' ∨ quote = ')') := by
    rcases hquote with rfl | rfl <;> decide
  have hbody := quotedBody_doubled s (hstops.ne hother)
  simp [scan_quotedName hquote, scanQuotedName, hbody]

/-- A string is read in front of anything but another quote. -/
theorem ReadAs.string (s : List Char) (hnext : ∀ q ∈ b.head?, q ≠ '\'') (hb : ReadAs b us) :
    ReadAs ('\'' :: (doubled '\'' s ++ ['\''] ++ b)) (.literal .plain (String.ofList s) :: us) := by
  refine .cons ?_ rfl hb
  have hbody := quotedBody_doubled s hnext
  simp [scan_string, scanLiteral, hbody]

theorem isItem_string (s : List Char) :
    IsItem ('\'' :: doubled '\'' s ++ ['\'']) [.literal .plain (String.ofList s)] :=
  fun _ _ hstops hb => .string s (hstops.ne (by decide)) hb

theorem isItem_hexadecimal {digits : List Char} (hdigits : '\'' ∉ digits) :
    IsItem ('X' :: '\'' :: digits ++ ['\'']) [.literal .hexadecimal (String.ofList digits)] := by
  refine isItem_of_scan rfl fun b hstops => ?_
  have hbody := quotedBody_doubled digits (hstops.ne (q := '\'') (by decide))
  rw [doubled_of_not_mem hdigits] at hbody
  simp [scan_hexadecimal, scanLiteral, hbody]
  omega

/-! ## Numbers -/

theorem scan_digit (hc : c.isDigit = true) : scan c rest = .ok (scanNumber (c :: rest)) := by
  rw [scan_of_class (p := Char.isDigit) (by decide +kernel) hc, Start.ofChar, hc]
  rfl

theorem scanDecimal_of_stops {mantissa : List Char} (hpoint : mantissa ≠ ['.']) (hstops : Stops b) :
    scanDecimal (mantissa ++ b) mantissa =
      (.number (String.ofList mantissa) false, mantissa.length - 1) := by
  have hexponent : takeExponent b = [] := by
    cases b with
    | nil => rfl
    | cons d b => rcases hstops d rfl with rfl | rfl | rfl <;> rfl
  have hsuffix : b.head? ≠ some 'L' := fun hhead => hstops.ne (by decide) _ hhead rfl
  unfold scanDecimal
  rw [if_neg hpoint, List.drop_left, hexponent, List.append_nil]
  simp [hsuffix]

/-- A numeral is read as a number and ends where the text stops. -/
theorem scanNumber_numeral {d : Decimal} (hs : Numeral s d) (hstops : Stops b) :
    scanNumber (s ++ b) = (.number (String.ofList s) false, s.length - 1) := by
  have hdigit : ∀ c ∈ b.head?, c.isDigit = false := by
    intro c hc
    rcases hstops c hc with rfl | rfl | rfl <;> rfl
  cases hs with
  | @whole ds hne hdigits =>
    have hhex : b.head? ≠ some 'x' := fun hhead => hstops.ne (by decide) _ hhead rfl
    have hfraction : fraction b = [] := by
      cases b with
      | nil => rfl
      | cons d b => rcases hstops d rfl with rfl | rfl | rfl <;> rfl
    rw [scanNumber_eq, takeWhile_append_of_head? hdigits hdigit, dropWhile_append_of_head? hdigits hdigit]
    dsimp only
    rw [hfraction, List.append_nil, if_neg fun h => hhex h.2]
    apply scanDecimal_of_stops _ hstops
    rintro rfl
    exact absurd (hdigits '.' List.mem_cons_self) (by decide)
  | @point ds frac hne hdigits hfrac =>
    have hpoint : ∀ c ∈ ('.' :: (frac ++ b)).head?, c.isDigit = false := by
      intro c hc
      obtain rfl := Option.mem_some_iff.1 hc
      rfl
    have hfraction : fraction ('.' :: (frac ++ b)) = '.' :: frac := by
      rw [fraction, takeWhile_append_of_head? hfrac hdigit]
    have hmantissa : ds ++ '.' :: frac ≠ ['.'] := by
      intro heq
      have hlength := congrArg List.length heq
      have hpos := List.length_pos_iff.2 hne
      rw [List.length_append, List.length_cons, List.length_singleton] at hlength
      omega
    have hdecimal := scanDecimal_of_stops hmantissa hstops
    rw [List.append_assoc, List.cons_append] at hdecimal ⊢
    rw [scanNumber_eq, takeWhile_append_of_head? hdigits hpoint, dropWhile_append_of_head? hdigits hpoint]
    dsimp only
    rw [hfraction, if_neg (by simp), hdecimal]

theorem isItem_numeral {d : Decimal} (hs : Numeral s d) : IsItem s [.number (String.ofList s) false] := by
  obtain ⟨c, w, rfl, hc⟩ := hs.exists_cons
  refine isItem_of_scan rfl fun b hstops => ?_
  have hread := scanNumber_numeral hs hstops
  rw [scan_digit hc]
  exact congrArg Except.ok hread

/-- A minus sign that no other follows starts an operator. -/
theorem scan_minus (hc : c ≠ '-') (rest : List Char) :
    scan '-' (c :: rest) = .ok (scanOperator '-' (c :: rest)) := by
  obtain ⟨start, hstart, hscan⟩ := exists_start '-' (c :: rest)
  rw [hscan]
  cases hstart with
  | operator => rfl
  | lineComment => exact absurd rfl hc
  | literal hletter | raw hletter | escaped hletter | unicode hletter => cases hletter
  | quotedName hquote => simp at hquote
  | number hnumber => simp at hnumber
  | word hnumber hword => cases hword
  | blank hword hblank => cases hblank

/-- A minus sign in front of a number is a token of its own. -/
theorem isItem_negative {d : Decimal} (hs : Numeral s d) :
    IsItem ('-' :: s) [.symbol "-", .number (String.ofList s) false] := by
  intro b us hstops hb
  have hnumber : ReadAs (s ++ b) (.number (String.ofList s) false :: us) :=
    isItem_numeral hs b us hstops hb
  obtain ⟨c, w, rfl, hc⟩ := hs.exists_cons
  have hminus : c ≠ '-' := by rintro rfl; cases hc
  have harrow : '>' ≠ c := by rintro rfl; cases hc
  -- No operator goes on with a digit.
  have hnone : ((operators '-').find? fun op => Text.startsWith ('-' :: (c :: w ++ b)) op.toList) = none := by
    rw [List.find?_eq_none]
    intro op hop
    rw [Text.startsWith_iff]
    obtain rfl | rfl : op = "->>" ∨ op = "->" := by simpa [operators] using hop
    · exact fun hprefix => harrow (List.cons_prefix_cons.1 (List.cons_prefix_cons.1 hprefix).2).1
    · exact fun hprefix => harrow (List.cons_prefix_cons.1 (List.cons_prefix_cons.1 hprefix).2).1
  have hsymbol : scanOperator '-' (c :: w ++ b) = (.symbol "-", 0) := by
    rw [scanOperator, hnone]
    rfl
  have hscan : scan '-' ([] ++ (c :: w ++ b)) = .ok (.symbol "-", 0) := by
    rw [List.nil_append, List.cons_append, scan_minus hminus]
    exact congrArg Except.ok hsymbol
  exact ReadAs.cons (w := []) hscan rfl hnumber

/-! ## Lists -/

/-- The tokens of items with commas between them. -/
def listed (items : List (List Token)) : List Token :=
  [Token.symbol ","].intercalate items

/-- The tokens of a list in parentheses. -/
def enclosed (items : List (List Token)) : List Token :=
  .symbol "(" :: listed items ++ [.symbol ")"]

@[simp]
theorem listed_singleton (ts : List Token) : listed [ts] = ts := by
  simp [listed]

@[simp]
theorem listed_cons_cons (ts us : List Token) (items : List (List Token)) :
    listed (ts :: us :: items) = ts ++ .symbol "," :: listed (us :: items) := by
  simp [listed, List.intercalate_cons_cons]

theorem isItem_joinWith {texts : List (List Char)} {items : List (List Token)}
    (hitems : List.Forall₂ IsItem texts items) :
    IsItem (Text.joinWith [',', ' '] texts) (listed items) := by
  induction hitems with
  | nil => exact fun _ _ _ hb => hb
  | @cons s ts texts items hs hitems ih =>
    cases hitems with
    | nil =>
      rw [listed_singleton]
      exact hs
    | @cons t us texts items ht hitems =>
      intro b more hstops hb
      have hbehind : ReadAs (',' :: ' ' :: (_ ++ b)) (.symbol "," :: _) :=
        (ih b more hstops hb).blank.mark (Or.inr (Or.inr rfl))
      have hcomma : Stops (',' :: ' ' :: (Text.joinWith [',', ' '] (t :: texts) ++ b)) := by
        intro d hd
        exact Or.inr (Or.inl (Option.mem_some_iff.1 hd).symm)
      have hall := hs _ _ hcomma hbehind
      rw [listed_cons_cons, Text.joinWith]
      simpa using hall

theorem isItem_enclosed {texts : List (List Char)} {items : List (List Token)}
    (hitems : List.Forall₂ IsItem texts items) :
    IsItem ('(' :: Text.joinWith [',', ' '] texts ++ [')']) (enclosed items) := by
  intro b us _ hb
  have hclosed : ReadAs (')' :: b) (.symbol ")" :: us) := hb.mark (Or.inr (Or.inl rfl))
  have hstops : Stops (')' :: b) := fun d hd => Or.inr (Or.inr (Option.mem_some_iff.1 hd).symm)
  have hall := (isItem_joinWith hitems _ _ hstops hclosed).mark (c := '(') (Or.inl rfl)
  simpa [enclosed] using hall

/-! ## Lists read from tokens -/

/-- The items of a list up to its closing parenthesis, and what is behind it; `item` is what was read of
the item at hand. -/
def items? (item : List Token) : List Token → Option (List (List Token) × List Token)
  | [] => none
  | t :: rest =>
    if t = .symbol ")" then some ([item], rest)
    else if t = .symbol "," then (items? [] rest).map fun (items, behind) => (item :: items, behind)
    else if t = .symbol "(" then none
    else items? (item ++ [t]) rest

/-- The items of a list in parentheses, and what is behind it. -/
def enclosed? : List Token → Option (List (List Token) × List Token)
  | [] => none
  | t :: rest => if t = .symbol "(" then items? [] rest else none

theorem length_of_items? {item ts behind : List Token} {items : List (List Token)}
    (hread : items? item ts = some (items, behind)) : behind.length < ts.length := by
  induction ts generalizing item items with
  | nil => cases hread
  | cons t rest ih =>
    rw [items?] at hread
    rw [List.length_cons]
    split at hread
    · cases hread
      exact Nat.lt_succ_self _
    · split at hread
      · obtain ⟨⟨more, left⟩, hmore, heq⟩ := Option.map_eq_some_iff.1 hread
        cases heq
        exact Nat.lt_succ_of_lt (ih hmore)
      · split at hread
        · cases hread
        · exact Nat.lt_succ_of_lt (ih hread)

theorem length_of_enclosed? {ts behind : List Token} {items : List (List Token)}
    (hread : enclosed? ts = some (items, behind)) : behind.length < ts.length := by
  cases ts with
  | nil => cases hread
  | cons t rest =>
    rw [enclosed?] at hread
    split at hread
    · exact Nat.lt_succ_of_lt (length_of_items? hread)
    · cases hread

/-- Lists in parentheses with commas between them, up to the end. -/
def lists? (ts : List Token) : Option (List (List (List Token))) :=
  match _h : enclosed? ts with
  | none => none
  | some (items, []) => some [items]
  | some (items, t :: rest) => if t = .symbol "," then (lists? rest).map (items :: ·) else none
termination_by ts.length
decreasing_by
  have := length_of_enclosed? _h
  rw [List.length_cons] at this
  omega

theorem lists?_of_enclosed? {ts behind : List Token} {items : List (List Token)}
    (hread : enclosed? ts = some (items, behind)) :
    lists? ts = match behind with
      | [] => some [items]
      | t :: rest => if t = .symbol "," then (lists? rest).map (items :: ·) else none := by
  rw [lists?]
  split
  · next hnone => cases hread.symm.trans hnone
  · next hlast =>
    cases hread.symm.trans hlast
    rfl
  · next hmore =>
    cases hread.symm.trans hmore
    rfl

/-- Tokens none of which a list or a statement ends or goes on with. -/
def IsPlain (ts : List Token) : Prop :=
  ∀ t ∈ ts, t ∉ [.symbol "(", .symbol ")", .symbol ",", Token.semicolon]

theorem IsPlain.semicolon_not_mem (h : IsPlain ts) : .semicolon ∉ ts :=
  fun hmem => h _ hmem (by simp)

theorem semicolon_not_mem_listed {items : List (List Token)} (hitems : ∀ item ∈ items, .semicolon ∉ item) :
    .semicolon ∉ listed items := by
  induction items with
  | nil => exact List.not_mem_nil
  | cons ts items ih =>
    obtain ⟨hts, hitems⟩ := List.forall_mem_cons.1 hitems
    cases items with
    | nil => rwa [listed_singleton]
    | cons us items => simp [hts, ih hitems]

theorem semicolon_not_mem_enclosed {items : List (List Token)} (hitems : ∀ item ∈ items, IsPlain item) :
    .semicolon ∉ enclosed items := by
  have hlisted := semicolon_not_mem_listed fun item hitem => (hitems item hitem).semicolon_not_mem
  simp [enclosed, hlisted]

theorem items?_append {item ts : List Token} (hts : IsPlain ts) (rest : List Token) :
    items? item (ts ++ rest) = items? (item ++ ts) rest := by
  induction ts generalizing item with
  | nil => rw [List.nil_append, List.append_nil]
  | cons t ts ih =>
    have ht := hts t List.mem_cons_self
    simp only [List.mem_cons, List.not_mem_nil, or_false, not_or] at ht
    rw [List.cons_append, items?, if_neg ht.2.1, if_neg ht.2.2.1, if_neg ht.1,
      ih fun u hu => hts u (List.mem_cons_of_mem _ hu), List.append_assoc, List.singleton_append]

/-- A list is read back as its items. -/
theorem enclosed?_enclosed {items : List (List Token)} (hne : items ≠ [])
    (hitems : ∀ item ∈ items, IsPlain item) (rest : List Token) :
    enclosed? (enclosed items ++ rest) = some (items, rest) := by
  have hread : items? [] (listed items ++ .symbol ")" :: rest) = some (items, rest) := by
    induction items with
    | nil => exact absurd rfl hne
    | cons ts items ih =>
      obtain ⟨hts, hitems⟩ := List.forall_mem_cons.1 hitems
      cases items with
      | nil =>
        rw [listed_singleton, items?_append hts, List.nil_append, items?, if_pos rfl]
      | cons us items =>
        rw [listed_cons_cons, List.append_assoc, items?_append hts, List.nil_append, List.cons_append, items?,
          if_neg (by decide), if_pos rfl, ih (List.cons_ne_nil _ _) hitems]
        rfl
  have hopen : enclosed items ++ rest = .symbol "(" :: (listed items ++ .symbol ")" :: rest) := by
    simp [enclosed]
  rw [hopen, enclosed?, if_pos rfl, hread]

theorem lists?_listed {rows : List (List (List Token))} (hne : rows ≠ [])
    (hrows : ∀ row ∈ rows, row ≠ [] ∧ ∀ item ∈ row, IsPlain item) :
    lists? (listed (rows.map enclosed)) = some rows := by
  induction rows with
  | nil => exact absurd rfl hne
  | cons row rows ih =>
    obtain ⟨⟨hrow, hitems⟩, hrows⟩ := List.forall_mem_cons.1 hrows
    cases rows with
    | nil =>
      have hread := enclosed?_enclosed hrow hitems []
      rw [List.append_nil] at hread
      rw [List.map_singleton, listed_singleton, lists?_of_enclosed? hread]
    | cons next rows =>
      have hread := enclosed?_enclosed hrow hitems (.symbol "," :: listed ((next :: rows).map enclosed))
      have hmore := ih (List.cons_ne_nil _ _) hrows
      rw [List.map_cons] at hmore hread
      rw [List.map_cons, List.map_cons, listed_cons_cons, lists?_of_enclosed? hread]
      dsimp only
      rw [if_pos rfl, hmore]
      rfl

/-! ## Items read as values -/

/-- The text stands in lists as an item that is read as the value. -/
def ReadBy {α : Type} (read : List Token → Option α) (s : List Char) (a : α) : Prop :=
  ∃ ts, IsItem s ts ∧ IsPlain ts ∧ read ts = some a

/-- Texts that are read as values are the items of a list of them. -/
theorem exists_items {α : Type} {read : List Token → Option α} {texts : List (List Char)} {values : List α}
    (h : List.Forall₂ (ReadBy read) texts values) :
    ∃ items, List.Forall₂ IsItem texts items ∧ (∀ item ∈ items, IsPlain item) ∧
      items.mapM read = some values := by
  induction h with
  | nil => exact ⟨[], .nil, nofun, rfl⟩
  | @cons s a texts values hs h ih =>
    obtain ⟨ts, hitem, hplain, hread⟩ := hs
    obtain ⟨items, hitems, hplains, hreads⟩ := ih
    refine ⟨ts :: items, .cons hitem hitems, List.forall_mem_cons.2 ⟨hplain, hplains⟩, ?_⟩
    simp [hread, hreads]

/-! ## Statements -/

/-- A text without semicolons among its tokens, that starts with no comment and has no blanks around it,
is a statement of its own. -/
theorem splitStatements_of_readAs {d : Char} (h : ReadAs s ts) (hts : .semicolon ∉ ts)
    (hhead : s.head? = some c) (hc : Text.isBlank c = false ∧ c ≠ ';' ∧ c ≠ '-' ∧ c ≠ '/')
    (hlast : s.getLast? = some d) (hd : Text.isBlank d = false) : splitStatements s = [s] := by
  obtain ⟨ls, hls, rfl⟩ := h
  have hruns : ∀ b : Nesting, b.Runs ls := by
    have hnone : ∀ l ∈ ls, l.token ≠ .semicolon := fun l hl htoken =>
      hts (mem_significant_semicolon.2 ⟨l, hl, htoken⟩)
    clear hls hts
    induction ls with
    | nil => exact fun b => .nil
    | cons l ls ih =>
      intro b
      obtain ⟨hl, hnone⟩ := List.forall_mem_cons.1 hnone
      exact .cons (fun hcut => hl hcut.1) (ih hnone _)
  have hwhole : Unterminated s := ⟨ls, hruns {}, hls⟩
  obtain ⟨w, rfl⟩ := List.head?_eq_some_iff.1 hhead
  have htrim : Text.trim (c :: w) = c :: w := by
    obtain ⟨front, hfront⟩ := List.getLast?_eq_some_iff.1 hlast
    unfold Text.trim
    rw [Text.trimStart_of_not_blank hc.1, hfront, Text.trimEnd_append_of_not_blank hd]
  have hmeaning := isMeaningful_trim hc.1 hc.2.1 hc.2.2.1 hc.2.2.2 w
  rw [hwhole.splitStatements_eq, meaningful_singleton hmeaning, htrim]

end Sql
end SqlCells
