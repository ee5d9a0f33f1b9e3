import SqlCells.Command.CellText
import SqlCells.Proofs.Effects
import SqlCells.Proofs.Text.Spaced

/-!
# The parts of a cell's text

A cell's text is, blanks between its parts aside, the word that names a connection, if one does, the variable
and the shovel, if the next word but one is a shovel, and the SQL up to the end.  These parts and nothing else
make up the text, and they determine how it is read.
-/

namespace SqlCells
namespace Command

open Text (IsWord EndsWord Opens)

variable {env : Environment} {config : Config} {s text body rest w word target url : List Char}
  {ws : List (List Char)} {parts : CellParts}

/-! ## Connections -/

/-- Whether a text looks like a URL. -/
def LooksLikeUrl (s : List Char) : Prop :=
  '@' ∈ s ∨ "://".toList <:+: s

/-- Whether a text is a name in brackets. -/
def Bracketed (s name : List Char) : Prop :=
  s = '[' :: (name ++ [']'])

/-- The connection that a word names once its environment references are replaced: the URL that it looks
like, or that of the configured section whose name is in brackets. -/
inductive Names (env : Environment) (config : Config) (word : List Char) : (url : List Char) → Prop
  | url (hurl : LooksLikeUrl (expandEnvironment env word)) :
      Names env config word (expandEnvironment env word)
  | bracketed {name : List Char} {url : String} (hurl : ¬ LooksLikeUrl (expandEnvironment env word))
      (hname : Bracketed (expandEnvironment env word) name)
      (hsection : config.sectionUrl (String.ofList name) = .ok url) : Names env config word url.toList

/-- Whether a word has neither form once its environment references are replaced. -/
def IsPlainWord (env : Environment) (word : List Char) : Prop :=
  ¬ LooksLikeUrl (expandEnvironment env word) ∧ ∀ name, ¬ Bracketed (expandEnvironment env word) name

/-- Only a dollar sign can refer to the environment. -/
theorem expandEnvironment_of_not_mem (hs : '$' ∉ s) : expandEnvironment env s = s := by
  unfold expandEnvironment Text.replaceMentions
  induction s with
  | nil => simp [Text.cut]
  | cons c rest ih =>
    obtain ⟨hc, hrest⟩ := not_or.1 (mt List.mem_cons.2 hs)
    have hplain : environmentMention c rest = (.plain, 0) := if_pos (Ne.symm hc)
    rw [Text.cut, hplain, List.flatMap_cons]
    exact congrArg (c :: ·) (ih hrest)

theorem looksLikeUrl_iff :
    LooksLikeUrl s ↔ (s.contains '@' || Text.contains s [':', '/', '/']) = true := by
  unfold LooksLikeUrl
  rw [Bool.or_eq_true, List.contains_iff_mem, Text.contains_iff]
  rfl

theorem bracketed_iff {name : List Char} :
    (Text.dropPrefix? ['['] s).bind (Text.dropSuffix? [']']) = some name ↔ Bracketed s name := by
  unfold Bracketed
  simp only [Option.bind_eq_some_iff, Text.dropPrefix?_eq_some_iff, Text.dropSuffix?_eq_some_iff]
  constructor
  · rintro ⟨inside, rfl, rfl⟩
    rfl
  · rintro rfl
    exact ⟨name ++ [']'], rfl, rfl⟩

/-- A word stands for the connection it names, for none if it has neither form, and is refused otherwise. -/
theorem connectionOf_eq_ok_iff :
    connectionOf env config word = .ok url ↔ Names env config word url ∨ IsPlainWord env word ∧ url = [] := by
  unfold connectionOf
  dsimp only
  by_cases hurl : LooksLikeUrl (expandEnvironment env word)
  · rw [if_pos (looksLikeUrl_iff.1 hurl)]
    constructor
    · intro hok
      rw [← Except.ok.inj hok]
      exact Or.inl (.url hurl)
    · rintro (hnames | ⟨⟨hnot, -⟩, -⟩)
      · cases hnames with
        | url => rfl
        | bracketed hnot => exact absurd hurl hnot
      · exact absurd hurl hnot
  rw [if_neg (fun h => hurl (looksLikeUrl_iff.2 h))]
  cases hbrackets : (Text.dropPrefix? ['['] (expandEnvironment env word)).bind (Text.dropSuffix? [']']) with
  | none =>
    have hnone : ∀ name, ¬ Bracketed (expandEnvironment env word) name := by
      intro name hname
      cases hbrackets.symm.trans (bracketed_iff.2 hname)
    constructor
    · intro hok
      exact Or.inr ⟨⟨hurl, hnone⟩, (Except.ok.inj hok).symm⟩
    · rintro (hnames | ⟨-, rfl⟩)
      · cases hnames with
        | url h => exact absurd h hurl
        | bracketed _ hname => exact absurd hname (hnone _)
      · rfl
  | some name =>
    have hname : Bracketed (expandEnvironment env word) name := bracketed_iff.1 hbrackets
    constructor
    · intro hok
      obtain ⟨found, hfound, rfl⟩ := Effects.of_map_eq_ok hok
      exact Or.inl (.bracketed hurl hname hfound)
    · rintro (hnames | ⟨⟨-, hnone⟩, -⟩)
      · cases hnames with
        | url h => exact absurd h hurl
        | bracketed _ hother hsection =>
          obtain rfl := Option.some.inj (hbrackets.symm.trans (bracketed_iff.2 hother))
          dsimp only
          rw [hsection]
          rfl
      · exact absurd hname (hnone name)

/-! ## Words -/

theorem firstWord?_of_words (hs : Text.words s = []) : firstWord? s = none := by
  unfold firstWord?
  rw [Text.trimStart_eq_nil_iff.2 (Text.words_eq_nil_iff.1 hs)]
  rfl

theorem firstWord?_of_opens (h : Opens [w] s rest) : firstWord? s = some (w, Text.trimStart rest) := by
  cases h with
  | cons hblanks hw hafter h =>
    cases h with
    | nil =>
      unfold firstWord?
      rw [Text.trimStart_append hblanks, hw.trimStart]
      dsimp only
      rw [if_neg (by simp [hw.1]), hafter.takeWhile hw, List.drop_left]

/-- The first word is the first of the words, and the others are behind it. -/
theorem exists_firstWord? (hs : Text.words s = w :: ws) :
    ∃ rest, Opens [w] s rest ∧ Text.words rest = ws ∧ firstWord? s = some (w, Text.trimStart rest) := by
  have hsplit : Text.words s = [w] ++ ws := hs
  obtain ⟨rest, hopens, hrest⟩ := Text.exists_opens_of_words hsplit
  exact ⟨rest, hopens, hrest, firstWord?_of_opens hopens⟩

theorem firstWord?_trimStart (s : List Char) : firstWord? (Text.trimStart s) = firstWord? s := by
  unfold firstWord? Text.trimStart
  rw [List.dropWhile_idempotent]

/-! ## Shovels -/

/-- The sign between a variable and the SQL whose result it takes. -/
def shovel : List Char :=
  ['<', '<']

theorem not_names_shovel : ¬ Names env config shovel url := by
  have hexpand : expandEnvironment env shovel = shovel := expandEnvironment_of_not_mem (by decide)
  rintro (hurl | ⟨-, hname, -⟩)
  · rw [hexpand, looksLikeUrl_iff] at hurl
    revert hurl
    decide
  · rw [hexpand] at hname
    cases (List.cons.inj hname).1

theorem readShovel_trimStart (parts : CellParts) (s : List Char) :
    readShovel parts (Text.trimStart s) = readShovel parts s := by
  unfold readShovel
  rw [firstWord?_trimStart, Text.trim_trimStart]

/-- Unless the second word is a shovel all words are SQL. -/
theorem readShovel_of_ne (hsecond : (Text.words s)[1]? ≠ some shovel) (url : List Char) :
    readShovel { connection := url } s = { connection := url, sql := Text.trim s } := by
  unfold readShovel
  cases hwords : Text.words s with
  | nil =>
    have hempty : Text.trim s = [] := by
      rw [Text.trim, Text.trimStart_eq_nil_iff.2 (Text.words_eq_nil_iff.1 hwords)]
      rfl
    rw [firstWord?_of_words hwords, hempty]
  | cons target more =>
    obtain ⟨rest, -, hrest, hfirst⟩ := exists_firstWord? hwords
    rw [hfirst]
    dsimp only
    rw [firstWord?_trimStart]
    cases more with
    | nil => rw [firstWord?_of_words hrest]
    | cons second more =>
      obtain ⟨after, -, -, hnext⟩ := exists_firstWord? hrest
      rw [hnext]
      have hne : second ≠ ['<', '<'] := by
        rintro rfl
        exact hsecond (by rw [hwords]; rfl)
      split
      · next heq =>
        cases heq
        exact absurd rfl hne
      · rfl

/-- A shovel binds the variable in front of it, and the SQL is behind it. -/
theorem readShovel_of_opens (h : Opens [target, shovel] s rest) (url : List Char) :
    readShovel { connection := url } s =
      match Text.dropSuffix? ['='] target with
      | some name => { connection := url, sql := Text.trim rest, resultVar := some name, returnsResult := true }
      | none => { connection := url, sql := Text.trim rest, resultVar := some target } := by
  cases h with
  | cons hblanks hw hafter h =>
    have hfirst := firstWord?_of_opens (.cons hblanks hw hafter (.nil _))
    unfold readShovel
    rw [hfirst]
    dsimp only
    rw [firstWord?_trimStart, firstWord?_of_opens h]
    rw [← Text.trim_trimStart rest]
    cases Text.dropSuffix? ['='] target <;> rfl

/-- The variable that the result is bound to, whether it is shown all the same, and the words that say so:
there are such words exactly if the second word is a shovel, and an equals sign behind the variable's name
asks for the result. -/
inductive Binds (s : List Char) : (resultVar : Option (List Char)) → (returnsResult : Bool) →
    (words : List (List Char)) → Prop
  | nothing (hsecond : (Text.words s)[1]? ≠ some shovel) : Binds s none false []
  | quietly {target : List Char} (hsecond : (Text.words s).take 2 = [target, shovel])
      (hplain : target.getLast? ≠ some '=') : Binds s (some target) false [target, shovel]
  | openly {name : List Char} (hsecond : (Text.words s).take 2 = [name ++ ['='], shovel]) :
      Binds s (some name) true [name ++ ['='], shovel]

/-- A word other than a shovel that is one of those that bind a result is the first of them. -/
theorem Binds.of_eq_append {resultVar : Option (List Char)} {returnsResult : Bool} {before after : List (List Char)}
    (h : Binds s resultVar returnsResult (before ++ word :: after)) (hword : word ≠ shovel) :
    before = [] ∧ after = [shovel] := by
  have htwo : ∃ target, before ++ word :: after = [target, shovel] := by
    generalize hbinding : before ++ word :: after = binding at h
    cases h with
    | nothing => cases List.append_eq_nil_iff.1 hbinding |>.2
    | quietly => exact ⟨_, rfl⟩
    | openly => exact ⟨_, rfl⟩
  obtain ⟨target, htwo⟩ := htwo
  cases before with
  | nil => exact ⟨rfl, (List.cons.inj htwo).2⟩
  | cons first before =>
    have hone : before ++ word :: after = [shovel] := (List.cons.inj htwo).2
    cases before with
    | nil => exact absurd (List.cons.inj hone).1 hword
    | cons second before => cases (List.append_eq_nil_iff.1 (List.cons.inj hone).2).2

theorem exists_opens_shovel (hsecond : (Text.words s)[1]? = some shovel) :
    ∃ target rest, (Text.words s).take 2 = [target, shovel] ∧ Opens [target, shovel] s rest := by
  cases hwords : Text.words s with
  | nil => cases hwords ▸ hsecond
  | cons target more =>
    rw [hwords] at hsecond
    cases more with
    | nil => cases hsecond
    | cons second more =>
      obtain rfl : second = shovel := Option.some.inj hsecond
      have hsplit : Text.words s = [target, shovel] ++ more := hwords
      obtain ⟨rest, hopens, -⟩ := Text.exists_opens_of_words hsplit
      exact ⟨target, rest, rfl, hopens⟩

/-- What is behind the connection is read as the words that bind the result, if there are some, and SQL. -/
theorem readShovel_eq_iff :
    readShovel { connection := url } s = parts ↔ parts.connection = url ∧ ∃ words rest,
      Binds s parts.resultVar parts.returnsResult words ∧ Opens words s rest ∧ parts.sql = Text.trim rest := by
  constructor
  · rintro rfl
    by_cases hsecond : (Text.words s)[1]? = some shovel
    · obtain ⟨target, rest, hwords, hopens⟩ := exists_opens_shovel hsecond
      rw [readShovel_of_opens hopens]
      cases hname : Text.dropSuffix? ['='] target with
      | none =>
        have hplain := Text.dropSuffix?_singleton_eq_none_iff.1 hname
        exact ⟨rfl, _, rest, .quietly hwords hplain, hopens, rfl⟩
      | some name =>
        obtain rfl := Text.dropSuffix?_eq_some_iff.1 hname
        exact ⟨rfl, _, rest, .openly hwords, hopens, rfl⟩
    · rw [readShovel_of_ne hsecond]
      exact ⟨rfl, [], s, .nothing hsecond, .nil s, rfl⟩
  · rintro ⟨hconnection, words, rest, hbinds, hopens, hsql⟩
    obtain ⟨connection, sql, resultVar, returnsResult⟩ := parts
    obtain rfl : connection = url := hconnection
    obtain rfl : sql = Text.trim rest := hsql
    dsimp only at hbinds
    cases hbinds with
    | nothing hsecond =>
      cases hopens with
      | nil => exact readShovel_of_ne hsecond connection
    | quietly hsecond hplain =>
      rw [readShovel_of_opens hopens, Text.dropSuffix?_singleton_eq_none_iff.2 hplain]
    | openly hsecond =>
      rw [readShovel_of_opens hopens, Text.dropSuffix?_eq_some_iff.2 rfl]

/-! ## The text -/

/-- The connection that a text names, and the words that say so: the first word if it names one that is not
empty, and no word otherwise. -/
inductive Connects (env : Environment) (config : Config) (text : List Char) : (connection : List Char) →
    (words : List (List Char)) → Prop
  | named {word url : List Char} (hfirst : (Text.words text).head? = some word)
      (hnames : Names env config word url) (hne : url ≠ []) : Connects env config text url [word]
  | unnamed (hfirst : ∀ word ∈ (Text.words text).head?, IsPlainWord env word ∨ Names env config word []) :
      Connects env config text [] []

theorem connectionOf_eq_nil_iff :
    connectionOf env config word = .ok [] ↔ IsPlainWord env word ∨ Names env config word [] := by
  rw [connectionOf_eq_ok_iff]
  simp [or_comm]

/-- A text is read as its connection and what is read behind the connection's word. -/
theorem parseCell_eq_ok_iff_readShovel :
    parseCell env config text = .ok parts ↔ ∃ connection front body,
      Connects env config text connection front ∧ Opens front text body ∧
      readShovel { connection } body = parts := by
  unfold parseCell
  cases hwords : Text.words text with
  | nil =>
    have hsecond : (Text.words text)[1]? ≠ some shovel := by simp [hwords]
    have hempty : Text.trim text = [] := by
      rw [Text.trim, Text.trimStart_eq_nil_iff.2 (Text.words_eq_nil_iff.1 hwords)]
      rfl
    have hread : readShovel { connection := [] } text = {} := by rw [readShovel_of_ne hsecond, hempty]
    rw [firstWord?_of_words hwords]
    constructor
    · intro hok
      refine ⟨[], [], text, .unnamed (by simp [hwords]), .nil text, ?_⟩
      rw [hread, ← Except.ok.inj hok]
    · rintro ⟨connection, front, body, hconnects, hopens, rfl⟩
      cases hconnects with
      | named hfirst => simp [hwords] at hfirst
      | unnamed =>
        cases hopens with
        | nil => rw [hread]
  | cons word more =>
    obtain ⟨rest, hopens, -, hfirst⟩ := exists_firstWord? hwords
    rw [hfirst]
    dsimp only
    constructor
    · intro hok
      cases hconnection : connectionOf env config word with
      | error f =>
        rw [hconnection] at hok
        cases hok
      | ok url =>
        rw [hconnection] at hok
        have hread := Except.ok.inj hok
        -- A section may have an empty URL: then its name stays in the text.
        by_cases hne : url = []
        · subst hne
          refine ⟨[], [], text, .unnamed ?_, .nil text, hread⟩
          rw [hwords]
          rintro _ ⟨⟩
          exact connectionOf_eq_nil_iff.1 hconnection
        · rw [if_neg (by simpa using hne), readShovel_trimStart] at hread
          have hnames : Names env config word url := by
            rcases connectionOf_eq_ok_iff.1 hconnection with hnames | ⟨-, hnil⟩
            · exact hnames
            · exact absurd hnil hne
          exact ⟨url, [word], rest, .named (by rw [hwords]; rfl) hnames hne, hopens, hread⟩
    · rintro ⟨connection, front, body, hconnects, hfront, rfl⟩
      cases hconnects with
      | named hhead hnames hne =>
        obtain rfl : word = _ := Option.some.inj (hwords ▸ hhead : some word = some _)
        obtain rfl := hfront.unique hopens
        rw [connectionOf_eq_ok_iff.2 (Or.inl hnames)]
        dsimp only
        rw [if_neg (by simpa using hne), readShovel_trimStart]
      | unnamed hplain =>
        have hconnection : connectionOf env config word = .ok [] :=
          connectionOf_eq_nil_iff.2 (hplain word (by rw [hwords]; rfl))
        rw [hconnection]
        cases hfront with
        | nil => rfl

/-- A text can be read exactly if its first word, if there is one, is not the name of a missing section. -/
theorem exists_parseCell_iff : (∃ parts, parseCell env config text = .ok parts) ↔
    ∀ word ∈ (Text.words text).head?, ∃ url, connectionOf env config word = .ok url := by
  unfold parseCell
  cases hwords : Text.words text with
  | nil =>
    rw [firstWord?_of_words hwords]
    exact ⟨fun _ => nofun, fun _ => ⟨{}, rfl⟩⟩
  | cons word more =>
    obtain ⟨rest, -, -, hfirst⟩ := exists_firstWord? hwords
    rw [hfirst]
    dsimp only
    constructor
    · rintro ⟨parts, hok⟩ _ ⟨⟩
      cases hconnection : connectionOf env config word with
      | ok url => exact ⟨url, rfl⟩
      | error f =>
        rw [hconnection] at hok
        cases hok
    · intro hword
      obtain ⟨url, hurl⟩ := hword word rfl
      rw [hurl]
      exact ⟨_, rfl⟩

/-- Blanks in front of a text do not matter. -/
theorem parseCell_blanks (hs : ∀ c ∈ s, Text.isBlank c = true) (text : List Char) :
    parseCell env config (s ++ text) = parseCell env config text := by
  have htrim : Text.trimStart (s ++ text) = Text.trimStart text := Text.trimStart_append hs text
  have hfirst : firstWord? (s ++ text) = firstWord? text := by
    rw [← firstWord?_trimStart, htrim, firstWord?_trimStart]
  have hread : ∀ parts, readShovel parts (s ++ text) = readShovel parts text := by
    intro parts
    rw [← readShovel_trimStart, htrim, readShovel_trimStart]
  have hrest : ∀ (parts : CellParts) (url rest : List Char),
      readShovel parts (if url.isEmpty then s ++ text else rest) =
        readShovel parts (if url.isEmpty then text else rest) := by
    intro parts url rest
    split
    · exact hread parts
    · rfl
  simp only [parseCell, hfirst, hrest]

/-- The text of a cell can be read exactly if its first word is not the name of a missing section, and it is
read as the parts that make it up: the word that names a connection that is not empty, if the first word does;
the variable and the shovel, if the second word behind is one, the variable with an equals sign exactly if the
result is shown all the same; and the rest, which is the SQL with blanks around it. -/
theorem parseCell_eq_ok_iff :
    parseCell env config text = .ok parts ↔
      ∃ front body binding rest before after,
        Connects env config text parts.connection front ∧ Opens front text body ∧
        Binds body parts.resultVar parts.returnsResult binding ∧ Opens binding body rest ∧
        rest = before ++ parts.sql ++ after ∧ (∀ c ∈ before ++ after, Text.isBlank c = true) ∧
        Text.trim parts.sql = parts.sql := by
  rw [parseCell_eq_ok_iff_readShovel]
  constructor
  · rintro ⟨connection, front, body, hconnects, hfront, hread⟩
    obtain ⟨rfl, binding, rest, hbinds, hbinding, hsql⟩ := readShovel_eq_iff.1 hread
    obtain ⟨before, after, hrest, hblanks, htrim⟩ := Text.eq_trim_iff.1 hsql
    exact ⟨front, body, binding, rest, before, after, hconnects, hfront, hbinds, hbinding, hrest, hblanks, htrim⟩
  · rintro ⟨front, body, binding, rest, before, after, hconnects, hfront, hbinds, hbinding, hrest, hblanks, htrim⟩
    have hsql := Text.eq_trim_iff.2 ⟨before, after, hrest, hblanks, htrim⟩
    exact ⟨parts.connection, front, body, hconnects, hfront,
      readShovel_eq_iff.2 ⟨rfl, binding, rest, hbinds, hbinding, hsql⟩⟩

end Command
end SqlCells
