import SqlCells.Database.Mock
import SqlCells.Proofs.Run.Conduct
import SqlCells.Proofs.Sql.Trivia
import SqlCells.Proofs.Text.Spaced
import SqlCells.Run.MetaCommand

/-!
# Readings of a backslash command

A statement is a backslash command if there is a backslash behind the comments in front of it.  Its query is
found from its words, comments not being passed over, and a relation that a query about it does not find is
reported if the command starts with `\d` or `\d+` and a space.  The three readings fit together exactly for
commands without comments in front whose first word is followed by a space, and by no other blank, if and only
if a relation is named.
-/

namespace SqlCells
namespace MetaCommand

open Effects

variable {s command rest more : List Char} {ws : List (List Char)} {c d : Char} {k : Client}

/-! ## The words of a command -/

/-- The words of a command without the semicolons it ends with. -/
def commandWords (command : List Char) : List (List Char) :=
  Text.words (Text.dropSemicolons (Text.trim command))

theorem translate_congr {other : List Char} (h : commandWords command = commandWords other) :
    translate command = translate other := by
  have hwords : Text.words (Text.dropSemicolons (Text.trim command)) =
      Text.words (Text.dropSemicolons (Text.trim other)) := h
  unfold translate
  rw [hwords]

/-- A command that is not known is named by its first word. -/
theorem eq_of_translate_error {w : List Char} {f : Fault} (hwords : commandWords command = w :: ws)
    (herror : translate command = .error f) : f = .unsupportedMetaCommand (String.ofList w) := by
  have hwords : Text.words (Text.dropSemicolons (Text.trim command)) = w :: ws := hwords
  unfold translate at herror
  dsimp only at herror
  rw [hwords] at herror
  split at herror
  case h_5 | h_6 => split at herror <;> cases herror
  case h_12 => exact (Except.error.inj herror).symm
  all_goals cases herror

/-- The known commands start with a backslash. -/
theorem translate_of_ne (hwords : commandWords command = (d :: more) :: ws) (hd : d ≠ '\\') :
    translate command = .error (.unsupportedMetaCommand (String.ofList (d :: more))) := by
  cases htranslate : translate command with
  | error f => rw [eq_of_translate_error hwords htranslate]
  | ok sql =>
    have hwords : Text.words (Text.dropSemicolons (Text.trim command)) = (d :: more) :: ws := hwords
    unfold translate at htranslate
    dsimp only at htranslate
    rw [hwords] at htranslate
    split at htranslate
    case h_12 => cases htranslate
    all_goals
      next hname =>
      have hlist := congrArg String.toList hname
      rw [List.head?_cons, Option.getD_some, String.toList_ofList] at hlist
      exact absurd (List.cons.inj hlist).1 hd

/-- The first word of a command starts where the command starts. -/
theorem exists_commandWords (hblank : Text.isBlank d = false) (hsemicolon : d ≠ ';')
    (htrim : Text.trimStart command = d :: rest) :
    ∃ more ws, commandWords command = (d :: more) :: ws := by
  obtain ⟨kept, hkept⟩ := Text.exists_dropTailWhile_cons hblank rest
  obtain ⟨left, hleft⟩ := Text.exists_dropTailWhile_cons (p := (· == ';')) (by simpa using hsemicolon) kept
  have hcommand : Text.dropSemicolons (Text.trim command) = d :: left := by
    unfold Text.trim Text.trimEnd
    rw [htrim, hkept]
    exact hleft
  have hpieces := Text.pieces_eq_cons hblank left
  rw [List.takeWhile_cons_of_pos (by simp [hblank])] at hpieces
  have hwords : commandWords command = Text.pieces Text.isBlank (d :: left) := by
    unfold commandWords
    rw [hcommand, Text.words_eq_pieces]
  exact ⟨_, _, hwords.trans hpieces⟩

/-- A statement with a comment in front is read as another command than what is behind the comment. -/
theorem translate_ne {other : List Char} (hd : d = '-' ∨ d = '/') (htrim : Text.trimStart command = d :: rest)
    (hother : other.head? = some '\\') : translate command ≠ translate other := by
  obtain ⟨tail, rfl⟩ : ∃ tail, other = '\\' :: tail := by
    cases other with
    | nil => cases hother
    | cons e tail => exact ⟨tail, by rw [Option.some.inj hother]⟩
  have hplain : Text.isBlank d = false ∧ d ≠ ';' ∧ d ≠ '\\' := by
    rcases hd with rfl | rfl <;> decide
  obtain ⟨hblank, hsemicolon, hslash⟩ := hplain
  obtain ⟨_, _, hwords⟩ := exists_commandWords hblank hsemicolon htrim
  have hstart : Text.trimStart ('\\' :: tail) = '\\' :: tail := Text.trimStart_of_not_blank (by decide) tail
  obtain ⟨_, _, hown⟩ := exists_commandWords (by decide) (by decide) hstart
  intro hsame
  rw [translate_of_ne hwords hslash] at hsame
  have hfault := eq_of_translate_error hown hsame.symm
  have hname := String.ofList_injective (Fault.unsupportedMetaCommand.inj hfault)
  exact hslash (List.cons.inj hname).1

/-! ## Describing a relation -/

/-- The names of the commands that describe a relation. -/
def describers : List String :=
  ["\\d", "\\d+"]

/-- Whether a command asks for the description of a relation: another word is behind the name. -/
def NamesRelation (command : List Char) : Prop :=
  ∃ name ∈ describers, ∃ relation more, commandWords command = name.toList :: relation :: more

/-- The trimmed command is the name of such a command, a blank and a rest. -/
def Divided (command : List Char) (name : String) (blank : Char) (rest : List Char) : Prop :=
  name ∈ describers ∧ Text.isBlank blank = true ∧ Text.trim command = name.toList ++ blank :: rest

theorem isWord_of_mem {name : String} (hname : name ∈ describers) : Text.IsWord name.toList := by
  simp only [describers, List.mem_cons, List.not_mem_nil, or_false] at hname
  rcases hname with rfl | rfl <;> exact ⟨by decide, by decide⟩

/-- There is one way to take such a command apart. -/
theorem Divided.unique {name other : String} {blank blank' : Char} {rest' : List Char}
    (h : Divided command name blank rest) (h' : Divided command other blank' rest') :
    blank = blank' ∧ rest = rest' := by
  obtain ⟨hname, hblank, htrim⟩ := h
  obtain ⟨hother, hblank', htrim'⟩ := h'
  have hsame : name.toList ++ blank :: rest = other.toList ++ blank' :: rest' := htrim.symm.trans htrim'
  have hwords := congrArg Text.words hsame
  rw [Text.words_append (isWord_of_mem hname) (Text.endsWord_cons hblank rest),
    Text.words_append (isWord_of_mem hother) (Text.endsWord_cons hblank' rest')] at hwords
  rw [(List.cons.inj hwords).1] at hsame
  exact List.cons.inj (List.append_cancel_left hsame)

theorem Divided.commandWords_eq {name : String} {blank : Char} (h : Divided command name blank rest) :
    commandWords command = name.toList :: Text.words (Text.dropSemicolons rest) := by
  obtain ⟨hname, hblank, htrim⟩ := h
  have hsemicolon : (blank == ';') = false := by
    cases heq : blank == ';' with
    | false => rfl
    | true =>
      rw [eq_of_beq heq] at hblank
      cases hblank
  have hcommand : Text.dropSemicolons (Text.trim command) =
      name.toList ++ blank :: Text.dropSemicolons rest := by
    rw [htrim]
    exact Text.dropTailWhile_append_cons (p := (· == ';')) hsemicolon name.toList rest
  unfold commandWords
  rw [hcommand, Text.words_append (isWord_of_mem hname) (Text.endsWord_cons hblank _),
    Text.words_eq_pieces, Text.pieces_cons hblank, Text.words_eq_pieces]

/-- A relation is named behind the name of the command and a blank. -/
theorem exists_divided (h : NamesRelation command) :
    ∃ name blank rest, Divided command name blank rest := by
  obtain ⟨name, hname, relation, more, hwords⟩ := h
  obtain ⟨before, after, hsplit, hbefore, -, hafter, hmore⟩ := Text.exists_opens hwords
  obtain ⟨tail, htail, -⟩ := Text.exists_append_of_dropTailWhile (· == ';') (Text.trim command)
  have htrim : Text.trim command = before ++ (name.toList ++ after) ++ tail := htail.trans (by rw [← hsplit]; rfl)
  -- The trimmed command starts with no blank, so the name stands at its start.
  have hstart : before = [] := by
    cases before with
    | nil => rfl
    | cons b before =>
      have hb : b ∈ (Text.trim command).head? := by
        rw [htrim]
        rfl
      have hblank := hbefore b List.mem_cons_self
      rw [Text.not_blank_of_head?_trim hb] at hblank
      cases hblank
  cases after with
  | nil => cases hmore
  | cons blank rest =>
    refine ⟨name, blank, rest ++ tail, hname, hafter blank rfl, ?_⟩
    rw [htrim, hstart]
    simp

theorem Divided.namesRelation_iff {name : String} {blank : Char} (h : Divided command name blank rest) :
    NamesRelation command ↔ ∃ e ∈ Text.dropSemicolons rest, Text.isBlank e = false := by
  have hnone : Text.words (Text.dropSemicolons rest) = [] ↔
      ¬ ∃ e ∈ Text.dropSemicolons rest, Text.isBlank e = false := by
    rw [Text.words_eq_nil_iff]
    simp
  constructor
  · rintro ⟨other, hother, relation, more, hwords⟩
    rw [h.commandWords_eq] at hwords
    by_contra habsent
    rw [hnone.2 habsent] at hwords
    cases (List.cons.inj hwords).2
  · intro hpresent
    cases hwords : Text.words (Text.dropSemicolons rest) with
    | nil => exact absurd hpresent (hnone.1 hwords)
    | cons relation more =>
      refine ⟨name, h.1, relation, more, ?_⟩
      rw [h.commandWords_eq, hwords]

/-- The command is taken for a description by what it starts with: the blank is a space. -/
theorem describes_iff : describes command = true ↔ ∃ name rest, Divided command name ' ' rest := by
  unfold describes
  dsimp only
  rw [Bool.or_eq_true, Text.startsWith_iff, Text.startsWith_iff]
  constructor
  · rintro (⟨rest, hrest⟩ | ⟨rest, hrest⟩)
    · exact ⟨"\\d", rest, by decide, by decide, by rw [← hrest]; rfl⟩
    · exact ⟨"\\d+", rest, by decide, by decide, by rw [← hrest]; rfl⟩
  · rintro ⟨name, rest, hname, -, htrim⟩
    simp only [describers, List.mem_cons, List.not_mem_nil, or_false] at hname
    rcases hname with rfl | rfl
    · exact Or.inl ⟨rest, by rw [htrim]; rfl⟩
    · exact Or.inr ⟨rest, by rw [htrim]; rfl⟩

/-! ## Answers -/

/-- Whether the outcome is that a relation was not found. -/
def Refused (outcome : Except Fault RawResult) : Prop :=
  ∃ relation, outcome = .error (.relationNotFound relation)

/-- A client whose driver says nothing of the kind itself. -/
def Quiet (k : Client) : Prop :=
  ∀ calls sql limit, ¬ Refused (k.driver.execute calls sql limit)

/-- Whether the query of a command is answered, with no rows. -/
def FindsNothing (k : Client) (command : List Char) : Prop :=
  ∃ sql raw, translate command = .ok sql ∧ k.driver.execute k.calls (String.ofList sql) none = .ok raw ∧
    raw.rows = []

theorem refused_run_iff (hk : Quiet k) (command : List Char) :
    Refused ((run command).run.run k).1 ↔ describes command = true ∧ FindsNothing k command := by
  unfold run
  rw [run_bind, run_lift]
  cases htranslate : translate command with
  | error f =>
    obtain ⟨name, rfl⟩ := exists_of_translate_error htranslate
    constructor
    · rintro ⟨relation, hrefused⟩
      cases hrefused
    · rintro ⟨-, sql, raw, hsql, -⟩
      cases htranslate.symm.trans hsql
  | ok sql =>
    dsimp only
    rw [run_bind]
    have hexecute : (Talk.execute (String.ofList sql) none).run.run k =
        (k.driver.execute k.calls (String.ofList sql) none, _) := rfl
    rw [hexecute]
    cases hanswer : k.driver.execute k.calls (String.ofList sql) none with
    | error f =>
      constructor
      · rintro ⟨relation, hrefused⟩
        exact absurd ⟨relation, hanswer.trans hrefused⟩ (hk _ _ _)
      · rintro ⟨-, sql', raw, hsql, hraw, -⟩
        obtain rfl := Except.ok.inj (htranslate.symm.trans hsql)
        cases hanswer.symm.trans hraw
    | ok raw =>
      dsimp only
      have hfinds : FindsNothing k command ↔ raw.rows = [] := by
        constructor
        · rintro ⟨sql', raw', hsql, hraw, hrows⟩
          obtain rfl := Except.ok.inj (htranslate.symm.trans hsql)
          obtain rfl := Except.ok.inj (hanswer.symm.trans hraw)
          exact hrows
        · exact fun hrows => ⟨sql, raw, htranslate, hanswer, hrows⟩
      rw [hfinds, ← List.isEmpty_iff, ← Bool.and_eq_true]
      split
      · next hmissing => exact iff_of_true ⟨_, rfl⟩ hmissing
      · next hfound =>
        refine iff_of_false ?_ hfound
        rintro ⟨relation, hrefused⟩
        cases hrefused

/-! ## The three readings -/

/-- Whether the three readings of a statement agree: its query is that of the command behind its comments,
and a relation is reported missing exactly if that command names one and its query finds nothing. -/
structure ReadAlike (s : List Char) : Prop where
  translate_eq : translate s = translate (Sql.stripLeadingComments s)
  refused_iff : ∀ k, Quiet k → (Refused ((run s).run.run k).1 ↔
    NamesRelation (Sql.stripLeadingComments s) ∧ FindsNothing k (Sql.stripLeadingComments s))

/-- A client that has nothing in it. -/
def emptyClient : Client :=
  { dialect := .ofName "postgresql" none
    url := ""
    driver :=
      { execute := fun _ _ _ => .ok {}
        setAutocommit := fun _ _ => .ok ()
        commit := fun _ => .ok ()
        close := fun _ => .ok ()
        openRaw := fun _ => .ok ()
        rawExecute := fun _ _ => .ok ()
        rawFetch := fun _ => .ok (.ofRows [] [])
        rawClose := fun _ => .ok () } }

theorem quiet_emptyClient : Quiet emptyClient := by
  rintro calls sql limit ⟨relation, hrefused⟩
  cases hrefused

/-- Commands that describe a relation have a query. -/
theorem Divided.exists_translate {name : String} {blank : Char} (h : Divided command name blank rest) :
    ∃ sql, translate command = .ok sql := by
  have hwords : Text.words (Text.dropSemicolons (Text.trim command)) =
      name.toList :: Text.words (Text.dropSemicolons rest) := h.commandWords_eq
  have hname := h.1
  simp only [describers, List.mem_cons, List.not_mem_nil, or_false] at hname
  unfold translate
  rw [hwords]
  rcases hname with rfl | rfl <;> cases Text.words (Text.dropSemicolons rest) <;> exact ⟨_, rfl⟩

theorem Divided.findsNothing {name : String} {blank : Char} (h : Divided command name blank rest) :
    FindsNothing emptyClient command := by
  obtain ⟨sql, hsql⟩ := h.exists_translate
  exact ⟨sql, {}, hsql, rfl, rfl⟩

/-- A command without a comment in front is read alike if it is taken for a description exactly when it is
one. -/
theorem readAlike_iff_of_bare (hbare : Sql.stripLeadingComments s = Text.trimStart s) :
    ReadAlike s ↔ (describes s = true ↔ NamesRelation s) := by
  have htrim : Text.trim (Text.trimStart s) = Text.trim s := Text.trim_trimStart s
  have hwords : commandWords (Text.trimStart s) = commandWords s := by
    unfold commandWords
    rw [htrim]
  have htranslate : translate (Text.trimStart s) = translate s := translate_congr hwords
  have hnames : NamesRelation (Text.trimStart s) ↔ NamesRelation s := by
    unfold NamesRelation
    rw [hwords]
  have hfinds : ∀ k, FindsNothing k (Text.trimStart s) ↔ FindsNothing k s := by
    intro k
    unfold FindsNothing
    rw [htranslate]
  constructor
  · rintro ⟨-, hrefused⟩
    -- On a client with nothing in it either side alone would make the difference.
    have hempty := hrefused emptyClient quiet_emptyClient
    rw [refused_run_iff quiet_emptyClient, hbare, hnames, hfinds] at hempty
    constructor
    · intro hdescribes
      obtain ⟨name, rest, hdivided⟩ := describes_iff.1 hdescribes
      exact (hempty.1 ⟨hdescribes, hdivided.findsNothing⟩).1
    · intro hnames
      obtain ⟨name, blank, rest, hdivided⟩ := exists_divided hnames
      exact (hempty.2 ⟨hnames, hdivided.findsNothing⟩).1
  · intro hsame
    refine ⟨?_, fun k hk => ?_⟩
    · rw [hbare, htranslate]
    · rw [refused_run_iff hk, hbare, hnames, hfinds, hsame]

/-- A command is taken for a description exactly when it is one if a space is behind the name of the command
just when another word is. -/
theorem describes_iff_namesRelation_iff (s : List Char) :
    (describes s = true ↔ NamesRelation s) ↔
      ∀ name blank rest, Divided s name blank rest →
        (blank = ' ' ↔ ∃ e ∈ Text.dropSemicolons rest, Text.isBlank e = false) := by
  constructor
  · intro hsame name blank rest hdivided
    rw [← hdivided.namesRelation_iff, ← hsame, describes_iff]
    constructor
    · rintro rfl
      exact ⟨name, rest, hdivided⟩
    · rintro ⟨other, rest', hspaced⟩
      exact (hdivided.unique hspaced).1
  · intro hspaced
    constructor
    · intro hdescribes
      obtain ⟨name, rest, hdivided⟩ := describes_iff.1 hdescribes
      exact hdivided.namesRelation_iff.2 ((hspaced name ' ' rest hdivided).1 rfl)
    · intro hnames
      obtain ⟨name, blank, rest, hdivided⟩ := exists_divided hnames
      obtain rfl := (hspaced name blank rest hdivided).2 (hdivided.namesRelation_iff.1 hnames)
      exact describes_iff.2 ⟨name, rest, hdivided⟩

/-- Comments start with a dash or a slash; without one in front only blanks are passed over. -/
theorem stripLeadingComments_cases (s : List Char) :
    Sql.stripLeadingComments s = Text.trimStart s ∨
      ∃ d rest, (d = '-' ∨ d = '/') ∧ Text.trimStart s = d :: rest := by
  rw [Sql.stripLeadingComments]
  split
  · next after hline => exact Or.inr ⟨_, _, Or.inl rfl, hline⟩
  · next after hblock => exact Or.inr ⟨_, _, Or.inr rfl, hblock⟩
  · exact Or.inl rfl

/-- The three readings of a backslash command agree exactly if no comment is in front of it, and `\d` or `\d+`
at its start is followed by a space, and by no other blank, just when something other than blanks and the
closing semicolons is behind. -/
theorem readAlike_iff (hmeta : Sql.isMetaCommand s = true) :
    ReadAlike s ↔ Sql.stripLeadingComments s = Text.trimStart s ∧
      ∀ name blank rest, Divided s name blank rest →
        (blank = ' ' ↔ ∃ e ∈ Text.dropSemicolons rest, Text.isBlank e = false) := by
  have hslash : (Sql.stripLeadingComments s).head? = some '\\' := by
    simpa [Sql.isMetaCommand] using hmeta
  have hbare : ReadAlike s → Sql.stripLeadingComments s = Text.trimStart s := by
    rintro ⟨hsame, -⟩
    rcases stripLeadingComments_cases s with hb | ⟨d, rest, hd, htrim⟩
    · exact hb
    · exact absurd hsame (translate_ne hd htrim hslash)
  constructor
  · intro halike
    have hb := hbare halike
    exact ⟨hb, (describes_iff_namesRelation_iff s).1 ((readAlike_iff_of_bare hb).1 halike)⟩
  · rintro ⟨hb, hspaced⟩
    exact (readAlike_iff_of_bare hb).2 ((describes_iff_namesRelation_iff s).2 hspaced)

theorem readAlike_iff_spaced :
    Sql.isMetaCommand " \\d+  public.t ;;".toList = true ∧ ReadAlike " \\d+  public.t ;;".toList := by
  have hmeta : Sql.isMetaCommand " \\d+  public.t ;;".toList = true := by decide +kernel
  refine ⟨hmeta, (readAlike_iff hmeta).2 ⟨by decide +kernel, fun name blank rest hdivided => ?_⟩⟩
  have hown : Divided " \\d+  public.t ;;".toList "\\d+" ' ' " public.t ;;".toList :=
    ⟨by decide, by decide, by decide +kernel⟩
  obtain ⟨rfl, rfl⟩ := hdivided.unique hown
  exact iff_of_true rfl ⟨'p', by decide +kernel, by decide⟩

/-- A comment in front hides a command, and a tab hides that a relation is described. -/
theorem command_hidden_by_comment_and_tab :
    Sql.isMetaCommand "-- all\n\\dt".toList = true ∧
      Sql.stripLeadingComments "-- all\n\\dt".toList = "\\dt".toList ∧
      translate "-- all\n\\dt".toList = .error (.unsupportedMetaCommand "--") ∧
      translate "\\dt".toList = .ok (listRelations ["BASE TABLE"] none) ∧
      NamesRelation "\\d\tnope".toList ∧ FindsNothing emptyClient "\\d\tnope".toList ∧
      ((run "\\d\tnope".toList).run.run emptyClient).1 = .ok {} := by
  have htab : Divided "\\d\tnope".toList "\\d" '\t' "nope".toList := ⟨by decide, by decide, by decide +kernel⟩
  refine ⟨by decide +kernel, by decide +kernel, by decide +kernel, rfl, ?_, htab.findsNothing, rfl⟩
  exact ⟨"\\d", by decide, "nope".toList, [], by decide +kernel⟩

end MetaCommand
end SqlCells
