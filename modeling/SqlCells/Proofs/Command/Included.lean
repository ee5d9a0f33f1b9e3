import SqlCells.Proofs.Command.Assembly
import SqlCells.Proofs.Command.CellText
import SqlCells.Proofs.Command.Headers
import SqlCells.Proofs.Snippets.Rendering

/-!
# Files in front of commands

The contents of a file that a header asks for are put in front of the header's own words, and the connection
is read off what then comes first.  So a connection at the start of the header is still the command's
connection if the file is blank.  Otherwise the word that names it has become part of the SQL, unless the file
consists of the name of a connection alone and a shovel is behind that word.
-/

namespace SqlCells
namespace Command

open Effects
open Text (IsWord EndsWord Opens)

variable {ctx : Context} {env : Environment} {config : Config} {header header' body path contents first : String}
  {more : List String} {word url rest : List Char} {ws : List (List Char)} {args : Args}
  {parts parts' : CellParts} {p : Parsed} {connection : Option ConnectionRef}

/-! ## The text of a command -/

/-- The text of a command without a file: its words, unless they name an open connection, and its body. -/
def ownText (ctx : Context) (args : Args) (body : String) : List Char :=
  (String.intercalate " " (if (namedConnection? ctx args).isSome then [] else args.line) ++ "\n" ++ body).toList

theorem cellOf_of_no_file (hfile : args.file = none) (body : String) :
    cellOf ctx args body = parseCell ctx.env ctx.config (ownText ctx args body) := by
  unfold cellOf commandText
  rw [hfile]
  rfl

/-- The contents of a file stand in front of the command's own text, on lines of their own. -/
theorem cellOf_of_file (args : Args) (hread : ctx.files.readText path = .ok contents) (body : String) :
    cellOf ctx (args.withFile path) body =
      parseCell ctx.env ctx.config (contents.toList ++ '\n' :: ownText ctx args body) := by
  have htext : ∀ words, commandText ctx (args.withFile path) words body =
      .ok (contents ++ "\n" ++ (String.intercalate " " words ++ "\n" ++ body)) := by
    intro words
    unfold commandText Args.withFile
    dsimp only
    rw [hread]
  have hlist : ∀ own : String, (contents ++ "\n" ++ own).toList = contents.toList ++ '\n' :: own.toList := by
    simp [String.toList_append]
  unfold cellOf
  rw [htext, ok_bind, hlist]
  rfl

/-- What stands in front of the SQL of a command does not decide whether it can be put together. -/
theorem exists_compose {sql composed : String} (hok : compose ctx args sql = .ok composed) (other : String) :
    ∃ text, compose ctx args other = .ok text := by
  unfold compose at hok ⊢
  split at hok
  · next hnone => exact ⟨other, if_pos hnone⟩
  · next hsome =>
    rw [if_neg hsome]
    have hne : args.withSnippets ≠ [] := by simpa using hsome
    -- The chain is found from the names alone.
    obtain ⟨hhyphen, chain, hresolve, hfound, -⟩ := (Snippets.render_eq_ok_iff hne).1 hok
    exact ⟨_, (Snippets.render_eq_ok_iff hne).2 ⟨hhyphen, chain, hresolve, hfound, rfl⟩⟩

/-- A command goes through with a file if its text can be read with the file's contents in front of it. -/
theorem Assembled.exists_with_file (h : Assembled ctx header body parts p)
    (hheader : Args.parse header' = .ok (p.args.withFile path))
    (hcell : cellOf ctx (p.args.withFile path) body = .ok parts')
    (hconnection : chooseConnection ctx p.args (namedConnection? ctx p.args) parts' = .ok connection) :
    ∃ p', Assembled ctx header' body parts' p' ∧ p'.connection = connection := by
  obtain ⟨sql, hsql⟩ := exists_compose h.sql (expanded ctx parts')
  exact ⟨{ connection, sql, sqlOriginal := expanded ctx parts', resultVar := parts'.resultVar.map String.ofList,
           returnsResult := parts'.returnsResult, arguments := p.arguments,
           args := p.args.withFile path },
    ⟨hheader, hcell, hconnection, rfl, hsql, h.arguments, rfl, rfl⟩, rfl⟩

/-! ## The first word of a header -/

theorem chooseConnection_of_ne (hne : parts.connection ≠ []) :
    chooseConnection ctx args none parts = .ok (some (.connectString (String.ofList parts.connection))) :=
  if_pos (by simpa using hne)

/-- A connection that the text names is the command's, unless the header names an open one. -/
theorem Assembled.connection_of_unnamed (h : Assembled ctx header body parts p)
    (hnamed : namedConnection? ctx p.args = none) (hne : parts.connection ≠ []) :
    p.connection = some (.connectString (String.ofList parts.connection)) := by
  have hchosen := h.connection
  rw [hnamed, chooseConnection_of_ne hne] at hchosen
  exact (Except.ok.inj hchosen).symm

/-- The text of a header that names no open connection starts with the header's first word. -/
theorem exists_ownText (hnamed : namedConnection? ctx args = none) (hline : args.line = first :: more)
    (body : String) : ∃ rest, EndsWord rest ∧ ownText ctx args body = first.toList ++ rest := by
  have hblank : Text.isBlank '\n' = true := by decide
  have hspace : Text.isBlank ' ' = true := by decide
  unfold ownText
  rw [hnamed, if_neg nofun, hline]
  cases more with
  | nil => exact ⟨'\n' :: body.toList, Text.endsWord_cons hblank _, by simp [String.toList_append]⟩
  | cons next more =>
    refine ⟨' ' :: (String.intercalate " " (next :: more) ++ "\n" ++ body).toList,
      Text.endsWord_cons hspace _, ?_⟩
    rw [String.intercalate_cons_cons]
    simp [String.toList_append]

theorem head?_words_ownText (hnamed : namedConnection? ctx args = none) (hline : args.line = first :: more)
    (hfirst : (Text.words first.toList).head? = some word) (body : String) :
    (Text.words (ownText ctx args body)).head? = some word := by
  obtain ⟨rest, hrest, hown⟩ := exists_ownText hnamed hline body
  rw [hown, Text.words_append_of_endsWord hrest, List.head?_append, hfirst]
  rfl

/-- The words of a header have become SQL: they stand in the text of the command, as they name no open
connection, and with the body behind them they are the end of the SQL. -/
def HeaderIsSql (ctx : Context) (args : Args) (body : String) (parts : CellParts) : Prop :=
  namedConnection? ctx args = none ∧ Text.trim (ownText ctx args body) <:+ parts.sql

/-! ## Contents in front of words -/

section Contents

variable {contents own front : List Char}

theorem not_trim_suffix (h : Opens (word :: ws) s rest) : ¬ Text.trim s <:+ Text.trim rest := by
  intro hsuffix
  exact absurd hsuffix.length_le (Nat.not_le.2 h.length_trim_lt)

/-- A word that names a connection is taken out of the text. -/
theorem parseCell_of_names (hok : parseCell env config own = .ok parts)
    (hfirst : (Text.words own).head? = some word) (hnames : Names env config word url) (hne : url ≠ []) :
    parts.connection = url ∧ ¬ Text.trim own <:+ parts.sql := by
  have hurl : connectionOf env config word = .ok url := connectionOf_eq_ok_iff.2 (Or.inl hnames)
  obtain ⟨connection, front, body, hconnects, hfront, hread⟩ := parseCell_eq_ok_iff_readShovel.1 hok
  obtain ⟨hconnection, words, rest, -, hrest, hsql⟩ := readShovel_eq_iff.1 hread
  cases hconnects with
  | named hhead hother =>
    obtain rfl := Option.some.inj (hfirst.symm.trans hhead)
    have hsame := hurl.symm.trans (connectionOf_eq_ok_iff.2 (Or.inl hother))
    exact ⟨hconnection.trans (Except.ok.inj hsame).symm, hsql ▸ not_trim_suffix (hfront.append hrest)⟩
  | unnamed hplain =>
    have hnone := hurl.symm.trans (connectionOf_eq_nil_iff.2 (hplain word hfirst))
    exact absurd (Except.ok.inj hnone) hne

/-- Unless the SQL has all of the text behind the contents, the contents have fewer words than stand in front
of the SQL.  So they have none, or the one that names the connection, and the variable and the shovel come
behind them. -/
theorem words_of_not_suffix (hok : parseCell env config (contents ++ '\n' :: own) = .ok parts)
    (hfirst : (Text.words own).head? = some word) (hword : word ≠ shovel)
    (hcut : ¬ Text.trim own <:+ parts.sql) :
    (∀ c ∈ contents, Text.isBlank c = true) ∨ ∃ front, Text.words contents = [front] ∧
      Names env config front parts.connection ∧ parts.connection ≠ [] ∧ (Text.words own)[1]? = some shovel := by
  have hline : Text.isBlank '\n' = true := by decide
  obtain ⟨connection, front, body, hconnects, hfront, hread⟩ := parseCell_eq_ok_iff_readShovel.1 hok
  obtain ⟨hconnection, binding, rest, hbinds, hrest, hsql⟩ := readShovel_eq_iff.1 hread
  have hopens := hfront.append hrest
  have hwords : Text.words contents ++ Text.words own = front ++ binding ++ Text.words rest := by
    rw [← Text.words_append_cons hline, hopens.words_eq]
  have hlonger : ¬ front ++ binding <+: Text.words contents := by
    intro hprefix
    have hbehind := hopens.suffix_of_prefix (Text.endsWord_cons hline own) hprefix
    exact hcut (hsql ▸ Text.trim_suffix_trim ((List.suffix_cons '\n' own).trans hbehind))
  -- What stands in front of the SQL goes on with words of the text behind, the first of which is no shovel.
  obtain ⟨extra, hextra⟩ := (List.prefix_or_prefix_of_prefix (List.prefix_append _ _)
    (hwords ▸ List.prefix_append _ _)).resolve_left hlonger
  have hown : Text.words own = extra ++ Text.words rest := by
    rw [← hextra, List.append_assoc] at hwords
    exact List.append_cancel_left hwords
  cases extra with
  | nil => exact absurd (by rw [← hextra, List.append_nil]) hlonger
  | cons head extra =>
    obtain rfl : head = word := by
      rw [hown] at hfirst
      exact Option.some.inj hfirst
    cases hcontents : Text.words contents with
    | nil => exact Or.inl (Text.words_eq_nil_iff.1 hcontents)
    | cons first more =>
      rw [hcontents] at hextra
      cases hconnects with
      | named hhead hnames hne =>
        obtain ⟨rfl, hbinding⟩ := List.cons.inj hextra
        obtain rfl : more ++ head :: extra = binding := hbinding
        obtain ⟨rfl, rfl⟩ := hbinds.of_eq_append hword
        exact Or.inr ⟨_, rfl, hconnection ▸ hnames, hconnection ▸ hne, by rw [hown]; rfl⟩
      | unnamed =>
        obtain rfl : first :: more ++ head :: extra = binding := hextra
        cases (hbinds.of_eq_append hword).1

/-- Where the contents are the name of a connection and a shovel is behind the first word of the text behind
them, the connection is that of the contents and the word is the variable. -/
theorem exists_parseCell_of_word (hcontents : Text.words contents = [front]) (hnames : Names env config front url)
    (hne : url ≠ []) (hsecond : (Text.words own)[1]? = some shovel) :
    ∃ parts, parseCell env config (contents ++ '\n' :: own) = .ok parts ∧ parts.connection = url ∧
      ¬ Text.trim own <:+ parts.sql := by
  have hline : Text.isBlank '\n' = true := by decide
  have hsplit : Text.words contents = [front] ++ [] := hcontents
  obtain ⟨blanks, hfront, hblanks⟩ := Text.exists_opens_of_words hsplit
  obtain ⟨target, rest, hwords, hrest⟩ := exists_opens_shovel hsecond
  have htext := hfront.append_right (Text.endsWord_cons hline own)
  have hbinding : Opens [target, shovel] (blanks ++ '\n' :: own) rest := by
    have hall : ∀ c ∈ blanks ++ ['\n'], Text.isBlank c = true :=
      List.forall_mem_append.2 ⟨Text.words_eq_nil_iff.1 hblanks, List.forall_mem_singleton.2 hline⟩
    have hopens := hrest.blanks hall
    rwa [List.append_assoc, List.singleton_append] at hopens
  refine ⟨readShovel { connection := url } (blanks ++ '\n' :: own), ?_, (readShovel_eq_iff.1 rfl).1, ?_⟩
  · have hhead : (Text.words (contents ++ '\n' :: own)).head? = some front := by rw [htext.words_eq]; rfl
    exact parseCell_eq_ok_iff_readShovel.2 ⟨url, [front], _, .named hhead hnames hne, htext, rfl⟩
  · rw [readShovel_of_opens hbinding]
    cases Text.dropSuffix? ['='] target <;> exact not_trim_suffix hrest

/-- Blank contents leave the text behind them as it is. -/
theorem parseCell_behind_blank (hcontents : ∀ c ∈ contents, Text.isBlank c = true) (own : List Char) :
    parseCell env config (contents ++ '\n' :: own) = parseCell env config own := by
  have hall : ∀ c ∈ contents ++ ['\n'], Text.isBlank c = true :=
    List.forall_mem_append.2 ⟨hcontents, by decide⟩
  have hsame : parseCell env config (contents ++ ['\n'] ++ own) = parseCell env config own :=
    parseCell_blanks hall own
  rwa [List.append_assoc, List.singleton_append] at hsame

end Contents

/-! ## Commands with a file -/

section WithFile

variable (h : Assembled ctx header body parts p)
  (hheader : Args.parse header' = .ok (p.args.withFile path))
  (hread : ctx.files.readText path = .ok contents)

include h hheader hread

/-- An open connection that the header names is the connection whatever the file holds, if the contents can be
read at all. -/
theorem kept_iff_of_named (hnone : p.args.file = none) (hnamed : (namedConnection? ctx p.args).isSome = true) :
    (∃ p' parts', Assembled ctx header' body parts' p' ∧ p'.connection = p.connection ∧
      ¬ HeaderIsSql ctx p.args body parts') ↔
    ∃ parts, parseCell ctx.env ctx.config contents.toList = .ok parts := by
  have hline : Text.isBlank '\n' = true := by decide
  have hown : ∃ parts, parseCell ctx.env ctx.config (ownText ctx p.args body) = .ok parts :=
    ⟨parts, (cellOf_of_no_file hnone body).symm.trans h.cell⟩
  have hreadable :
      (∃ parts, parseCell ctx.env ctx.config (contents.toList ++ '\n' :: ownText ctx p.args body) = .ok parts) ↔
        ∃ parts, parseCell ctx.env ctx.config contents.toList = .ok parts := by
    -- The first word decides: that of the contents, or that of the command's own text if they have none.
    rw [exists_parseCell_iff] at hown
    rw [exists_parseCell_iff, exists_parseCell_iff, Text.words_append_cons hline]
    cases Text.words contents.toList with
    | nil => exact iff_of_true hown nofun
    | cons word more => exact Iff.rfl
  rw [← hreadable]
  constructor
  · rintro ⟨p', parts', h', -, -⟩
    have hcell := h'.cell
    rw [Except.ok.inj (h'.args.symm.trans hheader), cellOf_of_file p.args hread] at hcell
    exact ⟨parts', hcell⟩
  · rintro ⟨parts', hcell⟩
    have hconnection : chooseConnection ctx p.args (namedConnection? ctx p.args) parts' = .ok p.connection := by
      obtain ⟨ref, href⟩ := Option.isSome_iff_exists.1 hnamed
      rw [← h.connection, href]
      rfl
    obtain ⟨p', h', hsame⟩ :=
      h.exists_with_file hheader ((cellOf_of_file p.args hread body).trans hcell) hconnection
    refine ⟨p', parts', h', hsame, fun hsql => ?_⟩
    rw [hsql.1] at hnamed
    cases hnamed

/-- A connection that the header's first word names is kept out of the SQL only by contents that leave its word
the first, or that name it themselves where that word is the variable of the result. -/
theorem kept_iff_of_word (hnone : p.args.file = none) (hnamed : namedConnection? ctx p.args = none)
    (hline : p.args.line = first :: more) (hfirst : (Text.words first.toList).head? = some word)
    (hnames : Names ctx.env ctx.config word url) (hne : url ≠ []) :
    (∃ p' parts', Assembled ctx header' body parts' p' ∧ p'.connection = p.connection ∧
      ¬ HeaderIsSql ctx p.args body parts') ↔
    (∀ c ∈ contents.toList, Text.isBlank c = true) ∨ ∃ front, Text.words contents.toList = [front] ∧
      Names ctx.env ctx.config front url ∧ (Text.words (ownText ctx p.args body))[1]? = some shovel := by
  have hword := head?_words_ownText hnamed hline hfirst body
  have hown : parseCell ctx.env ctx.config (ownText ctx p.args body) = .ok parts :=
    (cellOf_of_no_file hnone body).symm.trans h.cell
  obtain ⟨hurl, hcut⟩ := parseCell_of_names hown hword hnames hne
  have hconnection : p.connection = some (.connectString (String.ofList url)) :=
    hurl ▸ h.connection_of_unnamed hnamed (hurl ▸ hne)
  constructor
  · rintro ⟨p', parts', h', hsame, hkept⟩
    have hargs : p'.args = p.args.withFile path := Except.ok.inj (h'.args.symm.trans hheader)
    have hcell := h'.cell
    rw [hargs, cellOf_of_file p.args hread] at hcell
    have hshovel : word ≠ shovel := by
      rintro rfl
      exact not_names_shovel hnames
    refine (words_of_not_suffix hcell hword hshovel fun hsql => hkept ⟨hnamed, hsql⟩).imp_right ?_
    rintro ⟨front, hcontents, hfront, hne', hsecond⟩
    -- The text names a connection here, so the section that the header may ask for has no part in it.
    have hother := h'.connection_of_unnamed (hargs ▸ hnamed) hne'
    have hequal : parts'.connection = url := by
      have hstrings := hother.symm.trans (hsame.trans hconnection)
      rwa [Option.some.injEq, ConnectionRef.connectString.injEq, String.ofList_inj] at hstrings
    exact ⟨front, hcontents, hequal ▸ hfront, hsecond⟩
  · intro hcontents
    have hcell : ∃ parts', parseCell ctx.env ctx.config (contents.toList ++ '\n' :: ownText ctx p.args body) =
        .ok parts' ∧ parts'.connection = url ∧ ¬ Text.trim (ownText ctx p.args body) <:+ parts'.sql := by
      rcases hcontents with hblank | ⟨front, hcontents, hfront, hsecond⟩
      · exact ⟨parts, (parseCell_behind_blank hblank _).trans hown, hurl, hcut⟩
      · exact exists_parseCell_of_word hcontents hfront hne hsecond
    obtain ⟨parts', hcell, hurl', hcut'⟩ := hcell
    have hchosen : chooseConnection ctx p.args (namedConnection? ctx p.args) parts' = .ok p.connection := by
      rw [hnamed, chooseConnection_of_ne (hurl' ▸ hne), hurl', hconnection]
    obtain ⟨p', h', hsame⟩ :=
      h.exists_with_file hheader ((cellOf_of_file p.args hread body).trans hcell) hchosen
    exact ⟨p', parts', h', hsame, fun hsql => hcut' hsql.2⟩

end WithFile

/-- A header whose first word names a connection keeps that connection with a file, its words out of the SQL,
exactly in these cases: the word is the whole header and names an open connection, and the contents can be
read; or the contents are blank; or they are the name of the same connection alone, and a shovel is behind the
header's word. -/
theorem kept_with_file_iff (hparse : parse ctx header body = .ok p) (hnone : p.args.file = none)
    (hline : p.args.line = first :: more) (hfirst : (Text.words first.toList).head? = some word)
    (hnames : Names ctx.env ctx.config word url) (hne : url ≠ [])
    (hheader : Args.parse header' = .ok (p.args.withFile path))
    (hread : ctx.files.readText path = .ok contents) :
    (∃ p' parts', Assembled ctx header' body parts' p' ∧ p'.connection = p.connection ∧
      ¬ HeaderIsSql ctx p.args body parts') ↔
    (namedConnection? ctx p.args).isSome = true ∧
        (∃ parts, parseCell ctx.env ctx.config contents.toList = .ok parts) ∨
      namedConnection? ctx p.args = none ∧ ((∀ c ∈ contents.toList, Text.isBlank c = true) ∨
        ∃ front, Text.words contents.toList = [front] ∧ Names ctx.env ctx.config front url ∧
          (Text.words (ownText ctx p.args body))[1]? = some shovel) := by
  obtain ⟨parts, h⟩ := parse_eq_ok_iff.1 hparse
  cases hnamed : namedConnection? ctx p.args with
  | some ref =>
    have hsome : (namedConnection? ctx p.args).isSome = true := by rw [hnamed]; rfl
    rw [kept_iff_of_named h hheader hread hnone hsome]
    simp
  | none =>
    rw [kept_iff_of_word h hheader hread hnone hnamed hline hfirst hnames hne]
    simp

/-- A directory with a file that holds a query. -/
def besideQuery : Context where
  files := { entries := [(["q.sql"], "SELECT 1".toUTF8.toList)] }

/-- A header that only names a connection, as it is read without a file. -/
def namesSqlite : Parsed where
  connection := some (.connectString "sqlite://")
  sql := ""
  sqlOriginal := ""
  resultVar := none
  returnsResult := false
  arguments := []
  args := { line := ["sqlite://"] }

/-- The same header with the file: the connection's name has become SQL. -/
def namesNothing : Parsed where
  connection := none
  sql := "SELECT 1\nsqlite://"
  sqlOriginal := "SELECT 1\nsqlite://"
  resultVar := none
  returnsResult := false
  arguments := []
  args := { line := ["sqlite://"], file := some "q.sql" }

theorem parse_namesSqlite : parse besideQuery "sqlite://" "" = .ok namesSqlite := by
  refine parse_eq_ok_iff.2 ⟨{ connection := "sqlite://".toList }, ?_⟩
  constructor
  · rfl
  · decide +kernel
  · decide +kernel
  · decide +kernel
  · decide +kernel
  · rfl
  · rfl
  · rfl

theorem readText_besideQuery : besideQuery.files.readText "q.sql" = .ok "SELECT 1" := by
  decide +kernel

/-- A file takes the connection away that the header names: its name is the end of the SQL. -/
theorem connection_lost_behind_file :
    parse besideQuery "sqlite://" "" = .ok namesSqlite ∧
      parse besideQuery "sqlite:// --file q.sql" "" = .ok namesNothing := by
  refine ⟨parse_namesSqlite, parse_eq_ok_iff.2 ⟨{ sql := "SELECT 1\nsqlite://".toList }, ?_⟩⟩
  constructor
  · rfl
  · decide +kernel
  · decide +kernel
  · decide +kernel
  · decide +kernel
  · rfl
  · rfl
  · rfl

theorem kept_with_file_iff_query :
    Args.parse "--file q.sql sqlite://" = .ok (namesSqlite.args.withFile "q.sql") ∧
      besideQuery.files.readText "q.sql" = .ok "SELECT 1" ∧
      ¬ ∃ p' parts', Assembled besideQuery "--file q.sql sqlite://" "" parts' p' ∧
        p'.connection = some (.connectString "sqlite://") ∧
        ¬ HeaderIsSql besideQuery namesSqlite.args "" parts' := by
  have hheader : Args.parse "--file q.sql sqlite://" = .ok (namesSqlite.args.withFile "q.sql") := by
    have hpath : IsBare "q.sql".toList := ⟨by decide, by decide⟩
    have hargs : Args.parse "sqlite://" = .ok namesSqlite.args := by rfl
    have hfront := parse_file_front hpath (by decide) hargs rfl
    have htext : "--file " ++ "q.sql" ++ " " ++ "sqlite://" = "--file q.sql sqlite://" := by decide
    rwa [htext] at hfront
  have hnames : Names besideQuery.env besideQuery.config "sqlite://".toList "sqlite://".toList := by
    have hexpand : expandEnvironment besideQuery.env "sqlite://".toList = "sqlite://".toList :=
      expandEnvironment_of_not_mem (by decide)
    have hurl : Names besideQuery.env besideQuery.config "sqlite://".toList _ :=
      .url (by rw [hexpand]; exact looksLikeUrl_iff.2 (by decide))
    rwa [hexpand] at hurl
  refine ⟨hheader, readText_besideQuery, fun hkept => ?_⟩
  have hcases := (kept_with_file_iff parse_namesSqlite rfl rfl (by decide +kernel) hnames (by decide) hheader
    readText_besideQuery).1 hkept
  rcases hcases with ⟨hnamed, -⟩ | ⟨-, hblank | ⟨front, hfront, -⟩⟩
  · revert hnamed
    decide +kernel
  · revert hblank
    decide +kernel
  · have htwo : (Text.words "SELECT 1".toList).length = 2 := by decide +kernel
    rw [hfront] at htwo
    cases htwo

end Command
end SqlCells
