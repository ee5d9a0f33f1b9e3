import SqlCells.Proofs.Command.Comments
import SqlCells.Proofs.Text.Spaced

/-!
# Flags with their values

A flag that takes a value and has a letter is written in four ways: by one of its names or by its letter, and
with the value as a word of its own or attached.  In each of them the words in front of it are read first, then
the flag is given its value without the quotes around it, and then the words behind it are read.
-/

namespace SqlCells
namespace Command

variable {s : Setting} {flag : Flag} {name : String} {letter : Char} {v w line : List Char}
  {before after ws : List (List Char)} {args : Args} {rest : List Item}

/-! ## Lines of words -/

/-- The line consists of the words with blanks around them, at least one between each two. -/
inductive Row : List (List Char) → List Char → Prop
  | nil {blanks : List Char} (hblanks : ∀ c ∈ blanks, Text.isBlank c = true) : Row [] blanks
  | cons {blanks w after : List Char} {ws : List (List Char)} (hblanks : ∀ c ∈ blanks, Text.isBlank c = true)
      (hafter : Text.EndsWord after) (h : Row ws after) : Row (w :: ws) (blanks ++ (w ++ after))

theorem splitWords_blanks {blanks : List Char} (hblanks : ∀ c ∈ blanks, Text.isBlank c = true)
    (line : List Char) : splitWords (blanks ++ line) = splitWords line := by
  induction blanks with
  | nil => rfl
  | cons c blanks ih =>
    obtain ⟨hc, hblanks⟩ := List.forall_mem_cons.1 hblanks
    rw [List.cons_append, splitWords_cons hc, ih hblanks]

theorem Row.splitWords_eq (h : Row ws line) (hws : ∀ w ∈ ws, IsWhole w) : splitWords line = ws := by
  induction h with
  | @nil blanks hblanks =>
    have hnone := splitWords_blanks hblanks []
    rwa [List.append_nil] at hnone
  | @cons blanks w after ws hblanks hafter h ih =>
    obtain ⟨hw, hws⟩ := List.forall_mem_cons.1 hws
    have hmore := ih hws
    rw [splitWords_blanks hblanks]
    cases after with
    | nil =>
      obtain rfl : [] = ws := hmore
      rw [List.append_nil, splitWords_of_isWhole hw]
    | cons c after =>
      have hc : Text.isBlank c = true := hafter c rfl
      rw [splitWords_append hw hc, ← hmore, splitWords_cons hc]

theorem Row.cons_blank {c : Char} (hc : Text.isBlank c = true) (h : Row ws line) : Row ws (c :: line) := by
  cases h with
  | nil hblanks => exact .nil (List.forall_mem_cons.2 ⟨hc, hblanks⟩)
  | cons hblanks hafter h =>
    rw [← List.cons_append]
    exact .cons (List.forall_mem_cons.2 ⟨hc, hblanks⟩) hafter h

theorem row_joinWith (ws : List (List Char)) : Row ws (Text.joinWith [' '] ws) := by
  induction ws with
  | nil => exact .nil nofun
  | cons w ws ih =>
    cases ws with
    | nil =>
      have hrow : Row [w] ([] ++ (w ++ [])) := .cons nofun nofun (.nil nofun)
      rwa [List.nil_append, List.append_nil] at hrow
    | cons v ws =>
      have hspace : Text.EndsWord (' ' :: Text.joinWith [' '] (v :: ws)) := Text.endsWord_cons (by decide) _
      rw [Text.joinWith_cons [' '] w (List.cons_ne_nil v ws), List.append_assoc]
      have hrow : Row (w :: v :: ws) ([] ++ (w ++ ' ' :: Text.joinWith [' '] (v :: ws))) :=
        .cons nofun hspace (ih.cons_blank (by decide))
      exact hrow

/-! ## The flags there are -/

theorem mem_all (flag : Flag) : flag ∈ Flag.all := by
  cases flag with
  | switch s => cases s <;> decide
  | setting s => cases s <;> decide

theorem ofName?_of_mem (hname : name ∈ flag.names) : Flag.ofName? name.toList = some flag := by
  have hall : ∀ flag ∈ Flag.all, ∀ name ∈ flag.names, Flag.ofName? name.toList = some flag := by decide
  exact hall flag (mem_all flag) name hname

theorem ofLetter?_of_letter? (hletter : flag.letter? = some letter) : Flag.ofLetter? letter = some flag := by
  have hall : ∀ flag ∈ Flag.all, (flag.letter?.all fun letter => Flag.ofLetter? letter == some flag) = true := by
    decide
  have hflag := hall flag (mem_all flag)
  rw [hletter, Option.all_some] at hflag
  exact eq_of_beq hflag

/-- Whether a text can stand between two dashes and an equals sign as a flag's name. -/
def IsLongName (s : List Char) : Prop :=
  s.head?.any Text.isLetter = true ∧ ∀ c ∈ s, c ≠ '=' ∧ Text.isBlank c = false ∧ isQuote c = false

theorem isLongName_of_mem (hname : name ∈ flag.names) : IsLongName name.toList := by
  have hall : ∀ flag ∈ Flag.all, ∀ name ∈ flag.names, name.toList.head?.any Text.isLetter = true ∧
      ∀ c ∈ name.toList, c ≠ '=' ∧ Text.isBlank c = false ∧ isQuote c = false := by decide
  exact hall flag (mem_all flag) name hname

theorem isAlpha_of_letter? (hletter : flag.letter? = some letter) :
    letter.isAlpha = true ∧ Text.isBlank letter = false ∧ isQuote letter = false := by
  have hall : ∀ flag ∈ Flag.all,
      (flag.letter?.all fun letter => letter.isAlpha && !Text.isBlank letter && !isQuote letter) = true := by
    decide
  have hflag := hall flag (mem_all flag)
  rw [hletter, Option.all_some] at hflag
  simpa [and_assoc] using hflag

/-! ## Four spellings -/

/-- The ways to write a flag that has a letter and takes a value. -/
inductive Spelling where
  | nameApart
  | nameJoined
  | letterApart
  | letterJoined

/-- The words in which a flag and its value are written. -/
def Spelling.words (name : List Char) (letter : Char) (v : List Char) : Spelling → List (List Char)
  | .nameApart => ['-' :: '-' :: name, v]
  | .nameJoined => ['-' :: '-' :: (name ++ '=' :: v)]
  | .letterApart => [['-', letter], v]
  | .letterJoined => ['-' :: letter :: v]

/-- The items that those words are. -/
def Spelling.items (name : List Char) (letter : Char) (v : List Char) : Spelling → List Item
  | .nameApart => [.long name none, .word v]
  | .nameJoined => [.long name (some v)]
  | .letterApart => [.short letter none, .word v]
  | .letterJoined => [.short letter (some v)]

theorem classify_long {s : List Char} (hs : IsLongName s) : classify ('-' :: '-' :: s) = .long s none := by
  obtain ⟨hfirst, hplain⟩ := hs
  cases s with
  | nil => cases hfirst
  | cons d s =>
    have hletter : Text.isLetter d = true := hfirst
    have hnone : Text.splitOnce ['='] (d :: s) = none :=
      Text.splitOnce_singleton_eq_none_iff.2 fun hmem => (hplain '=' hmem).1 rfl
    rw [classify_dashes, if_pos hletter, hnone]

theorem classify_long_append {s : List Char} (hs : IsLongName s) (v : List Char) :
    classify ('-' :: '-' :: (s ++ '=' :: v)) = .long s (some v) := by
  obtain ⟨hfirst, hplain⟩ := hs
  cases s with
  | nil => cases hfirst
  | cons d s =>
    have hletter : Text.isLetter d = true := hfirst
    have hsome : Text.splitOnce ['='] (d :: (s ++ '=' :: v)) = some (d :: s, v) :=
      Text.splitOnce_singleton_eq_some_iff.2 ⟨rfl, fun hmem => (hplain '=' hmem).1 rfl⟩
    rw [List.cons_append, classify_dashes, if_pos hletter, hsome]

theorem classify_short (hletter : letter.isAlpha = true) (v : List Char) :
    classify ('-' :: letter :: v) = .short letter (if v.isEmpty then none else some v) := by
  have hdash : letter ≠ '-' := by
    rintro rfl
    cases hletter
  unfold classify
  split
  · next heq => exact absurd (List.cons.inj (List.cons.inj heq).2).1 hdash
  · next heq =>
    obtain ⟨rfl, rfl⟩ := List.cons.inj (List.cons.inj heq).2
    rw [if_pos hletter]
  · next hno => exact (hno letter v rfl).elim

theorem map_classify_words (hname : IsLongName name.toList) (hletter : letter.isAlpha = true) (hv : v ≠ [])
    (hdash : v.head? ≠ some '-') (spelling : Spelling) :
    (spelling.words name.toList letter v).map classify = spelling.items name.toList letter v := by
  cases spelling with
  | nameApart =>
    rw [Spelling.words, List.map_cons, List.map_singleton, classify_long hname, classify_of_head? hdash]
    rfl
  | nameJoined =>
    rw [Spelling.words, List.map_singleton, classify_long_append hname]
    rfl
  | letterApart =>
    rw [Spelling.words, List.map_cons, List.map_singleton, classify_short hletter, classify_of_head? hdash]
    rfl
  | letterJoined =>
    rw [Spelling.words, List.map_singleton, classify_short hletter, if_neg (by simpa using hv)]
    rfl

theorem keepsWord_short (hletter : letter.isAlpha = true) (v : List Char) :
    keepsWord isKnownFlag ('-' :: letter :: v) = true := by
  have hno : Text.startsWith ('-' :: letter :: v) ['-', '-'] = false := by
    rw [Bool.eq_false_iff, Ne, Text.startsWith_iff]
    rintro ⟨rest, heq⟩
    obtain rfl := (List.cons.inj (List.cons.inj heq).2).1
    cases hletter
  unfold keepsWord
  rw [if_neg (by simp [hno])]

theorem keepsWord_long (hname : name ∈ flag.names) {v : List Char} (hv : ∀ c ∈ v.head?, c = '=') :
    keepsWord isKnownFlag ('-' :: '-' :: (name.toList ++ v)) = true := by
  have hplain : ∀ c ∈ name.toList, (c != '=') = true := fun c hc => by
    simpa using ((isLongName_of_mem hname).2 c hc).1
  have hstop : ∀ c ∈ v.head?, (c != '=') = false := fun c hc => by simp [hv c hc]
  rw [keepsWord_dashes, List.takeWhile_cons_of_pos (by decide), List.takeWhile_cons_of_pos (by decide),
    takeWhile_append_of_head? hplain hstop, isKnownFlag_dashes, ofName?_of_mem hname]
  rfl

/-- No spelling starts a comment. -/
theorem keepsWord_words (hname : name ∈ flag.names) (hletter : letter.isAlpha = true)
    (hdash : v.head? ≠ some '-') (spelling : Spelling) :
    ∀ w ∈ spelling.words name.toList letter v, keepsWord isKnownFlag w = true := by
  have hvalue : keepsWord isKnownFlag v = true := keepsWord_of_head? hdash
  cases spelling with
  | nameApart =>
    have hlong := keepsWord_long hname (v := []) nofun
    rw [List.append_nil] at hlong
    exact List.forall_mem_cons.2 ⟨hlong, List.forall_mem_singleton.2 hvalue⟩
  | nameJoined =>
    refine List.forall_mem_singleton.2 (keepsWord_long hname ?_)
    rintro _ ⟨⟩
    rfl
  | letterApart =>
    exact List.forall_mem_cons.2 ⟨keepsWord_short hletter [], List.forall_mem_singleton.2 hvalue⟩
  | letterJoined => exact List.forall_mem_singleton.2 (keepsWord_short hletter v)

theorem isWhole_words (hname : name ∈ flag.names) (hletter : flag.letter? = some letter) (hv : IsWhole v)
    (spelling : Spelling) : ∀ w ∈ spelling.words name.toList letter v, IsWhole w := by
  have hdash : Text.isBlank '-' = false ∧ isQuote '-' = false := by decide
  have hlong : IsTogether ('-' :: '-' :: name.toList) :=
    isTogether_of_forall (List.forall_mem_cons.2 ⟨hdash, List.forall_mem_cons.2
      ⟨hdash, fun c hc => ((isLongName_of_mem hname).2 c hc).2⟩⟩)
  have hshort : IsTogether ['-', letter] :=
    isTogether_of_forall (List.forall_mem_cons.2 ⟨hdash, List.forall_mem_singleton.2
      (isAlpha_of_letter? hletter).2⟩)
  cases spelling with
  | nameApart =>
    exact List.forall_mem_cons.2 ⟨⟨List.cons_ne_nil _ _, hlong⟩, List.forall_mem_singleton.2 hv⟩
  | nameJoined =>
    have hequals : IsTogether ['='] := isTogether_of_forall (by decide)
    refine List.forall_mem_singleton.2 ⟨List.cons_ne_nil _ _, ?_⟩
    simpa using hlong.append (hequals.append hv.2)
  | letterApart =>
    exact List.forall_mem_cons.2 ⟨⟨List.cons_ne_nil _ _, hshort⟩, List.forall_mem_singleton.2 hv⟩
  | letterJoined => exact List.forall_mem_singleton.2 ⟨List.cons_ne_nil _ _, hshort.append hv.2⟩

/-- Each spelling asks for the setting with the value that it gives, and for nothing else. -/
theorem read_items (hname : Flag.ofName? name.toList = some (.setting s))
    (hletter : Flag.ofLetter? letter = some (.setting s)) (spelling : Spelling) (args : Args) (rest : List Item) :
    args.read (spelling.items name.toList letter v ++ rest) = (args.assign (unquote v) s).read rest := by
  have hlong : ∀ value, (Item.long name.toList value).mark? =
      .ok (some ⟨.setting s, "--" ++ String.ofList name.toList, value⟩) := by
    intro value
    rw [Item.mark?, hname]
  have hshort : ∀ value, (Item.short letter value).mark? =
      .ok (some ⟨.setting s, "-" ++ String.singleton letter, value⟩) := by
    intro value
    rw [Item.mark?, hletter]
  have hasks : ∀ {item : Item} {items : List Item}, nextRequest item items = .ok (.assign s (unquote v), rest) →
      args.read (item :: items) = (args.assign (unquote v) s).read rest :=
    fun hnext => read_eq_of_nextRequest hnext args
  cases spelling with
  | nameApart => exact hasks (by rw [nextRequest, hlong]; rfl)
  | nameJoined => exact hasks (by rw [nextRequest, hlong]; rfl)
  | letterApart => exact hasks (by rw [nextRequest, hshort]; rfl)
  | letterJoined => exact hasks (by rw [nextRequest, hshort]; rfl)

/-! ## One level of quotes -/

/-- One level of quotes is taken off: the second text is the first without the quotes around it, and the first
itself if there are none. -/
inductive Unquotes : List Char → List Char → Prop
  | quoted {q : Char} {value : List Char} (hq : isQuote q = true) : Unquotes (q :: (value ++ [q])) value
  | plain {v : List Char} (hplain : ∀ q value, isQuote q = true → v ≠ q :: (value ++ [q])) : Unquotes v v

theorem unquotes_unquote (v : List Char) : Unquotes v (unquote v) := by
  unfold unquote
  split
  · next q c rest =>
    split
    · next hquotes =>
      obtain ⟨hq, hlast⟩ := Bool.and_eq_true_iff.1 hquotes
      obtain ⟨inner, hinner⟩ := List.getLast?_eq_some_iff.1 (eq_of_beq hlast)
      rw [hinner, List.dropLast_concat]
      exact .quoted hq
    · next hquotes =>
      refine .plain fun q' value hq' heq => hquotes ?_
      obtain ⟨rfl, hrest⟩ := List.cons.inj heq
      rw [hq', hrest, List.getLast?_concat]
      exact beq_self_eq_true _
  · next hshort =>
    refine .plain fun q value hq heq => ?_
    cases value with
    | nil => exact hshort q q [] heq
    | cons c value => exact hshort q c (value ++ [q]) heq

/-! ## Headers with a flag and its value -/

/-- The arguments that words are read as with a setting between them: those in front are read, the setting is
given its value, and those behind are read, unless a comment starts in front of it. -/
def readAround (before : List (List Char)) (s : Setting) (value : List Char) (after : List (List Char)) :
    Except Fault Args :=
  if ∀ w ∈ before, keepsWord isKnownFlag w = true then
    Args.readWords {} before >>= fun args => (args.assign value s).readWords after
  else Args.readWords {} before

theorem readWords_spelling (hname : name ∈ (Flag.setting s).names)
    (hletter : (Flag.setting s).letter? = some letter) (hv : v ≠ []) (hdash : v.head? ≠ some '-')
    (spelling : Spelling) (before after : List (List Char)) :
    Args.readWords {} (before ++ spelling.words name.toList letter v ++ after) =
      readAround before s (unquote v) after := by
  have halpha : letter.isAlpha = true := (isAlpha_of_letter? hletter).1
  unfold readAround
  split
  · next hkept =>
    -- A flag in front that still wants its value does not find it in the spelling, which starts with a flag.
    have hflag : ∀ value later,
        spelling.items name.toList letter v ++ (after.takeWhile (keepsWord isKnownFlag)).map classify ≠
          .word value :: later := by
      intro value later
      cases spelling <;> nofun
    unfold Args.readWords
    rw [List.append_assoc, List.takeWhile_append_of_pos hkept,
      List.takeWhile_append_of_pos (keepsWord_words hname halpha hdash spelling), List.map_append, List.map_append,
      map_classify_words (isLongName_of_mem hname) halpha hv hdash, read_append hflag,
      List.takeWhile_eq_self_iff.2 hkept]
    simp only [read_items (ofName?_of_mem hname) (ofLetter?_of_letter? hletter)]
  · next hdropped =>
    -- Behind the comment nothing is looked at, the spelling included.
    simp only [not_forall, Bool.not_eq_true] at hdropped
    obtain ⟨w, hw, hflag⟩ := hdropped
    unfold Args.readWords
    rw [List.append_assoc, (takeWhile_append_of_mem hw hflag _).2]

/-- However a flag with a letter and its value are written between other words, the header is read alike: the
words in front, then the setting with the value without one level of quotes, then the words behind. -/
theorem parse_spelling (hname : name ∈ (Flag.setting s).names) (hletter : (Flag.setting s).letter? = some letter)
    (hv : IsWhole v) (hdash : v.head? ≠ some '-') (hbefore : ∀ w ∈ before, IsWhole w)
    (hafter : ∀ w ∈ after, IsWhole w) :
    ∃ value, Unquotes v value ∧ ∀ (spelling : Spelling) (header : String),
      Row (before ++ spelling.words name.toList letter v ++ after) header.toList →
        Args.parse header = readAround before s value after >>= Args.settle := by
  refine ⟨unquote v, unquotes_unquote v, fun spelling header hrow => ?_⟩
  have hwords : ∀ w ∈ before ++ spelling.words name.toList letter v ++ after, IsWhole w :=
    List.forall_mem_append.2 ⟨List.forall_mem_append.2 ⟨hbefore, isWhole_words hname hletter hv spelling⟩, hafter⟩
  rw [parse_eq, hrow.splitWords_eq hwords, readWords_spelling hname hletter hv.1 hdash]

theorem parse_spelling_close :
    (("close" ∈ (Flag.setting .closeKey).names ∧ (Flag.setting .closeKey).letter? = some 'x') ∧
      (IsWhole "'my db'".toList ∧ "'my db'".toList.head? ≠ some '-') ∧
      (∀ w ∈ ["-l".toList], IsWhole w) ∧ ∀ w ∈ ["SELECT".toList], IsWhole w) ∧
    ∃ value, Unquotes "'my db'".toList value ∧
      ∀ header ∈ ["-l --close 'my db' SELECT", "-l --close='my db' SELECT", "-l -x 'my db' SELECT",
        "-l -x'my db' SELECT"],
        Args.parse header = readAround ["-l".toList] .closeKey value ["SELECT".toList] >>= Args.settle := by
  have hname : "close" ∈ (Flag.setting .closeKey).names := List.mem_singleton_self _
  have hletter : (Flag.setting .closeKey).letter? = some 'x' := rfl
  have hinside : Inside '\'' "my db".toList := .of_forall (by decide)
  have hvalue : IsWhole "'my db'".toList := ⟨by decide, (IsUnit.quoted rfl hinside).isTogether⟩
  have hdash : "'my db'".toList.head? ≠ some '-' := by decide
  have hbare : ∀ {w : List Char}, (w ≠ [] ∧ ∀ c ∈ w, Text.isBlank c = false ∧ isQuote c = false) → IsWhole w :=
    fun hw => ⟨hw.1, isTogether_of_forall hw.2⟩
  have hbefore : ∀ w ∈ ["-l".toList], IsWhole w := List.forall_mem_singleton.2 (hbare (by decide))
  have hafter : ∀ w ∈ ["SELECT".toList], IsWhole w := List.forall_mem_singleton.2 (hbare (by decide))
  refine ⟨⟨⟨hname, hletter⟩, ⟨hvalue, hdash⟩, hbefore, hafter⟩, ?_⟩
  obtain ⟨value, hunquotes, hall⟩ := parse_spelling hname hletter hvalue hdash hbefore hafter
  refine ⟨value, hunquotes, ?_⟩
  simp only [List.forall_mem_cons]
  exact ⟨hall .nameApart _ (row_joinWith _), hall .nameJoined _ (row_joinWith _),
    hall .letterApart _ (row_joinWith _), hall .letterJoined _ (row_joinWith _), nofun⟩

end Command
end SqlCells
