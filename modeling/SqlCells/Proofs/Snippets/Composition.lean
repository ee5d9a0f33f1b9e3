import SqlCells.Proofs.Sql.Cut
import SqlCells.Proofs.Snippets.Rendering

/-!
# Chains as SQL

Bodies are pasted into a chain as they are.  A body that is read up to its end in front of the closing
parenthesis keeps its tokens there, and the query behind the chain keeps its own; a chain without a
semicolon leaves the query's statements where they are cut.  A semicolon in a body ends the statement
there, and a body that is not read up to its end takes what follows into its last token.
-/

namespace SqlCells
namespace Snippets

open Sql

/-! ## The text in front of a query -/

/-- What stands in front of a query. -/
def frontText (q : NameQuoting) (chain : List Snippet) : List Char :=
  "WITH ".toList ++ Text.joinWith [',', ' '] (chain.map (definitionText q)) ++ [' ']

/-- The tokens of one definition in a chain. -/
def definitionTokens (q : NameQuoting) (e : Snippet) : List Token :=
  tokens (q.quote e.name.toList) ++ .word "AS" none :: .symbol "(" ::
    (tokens e.body.toList ++ [.symbol ")"])

/-- The tokens in front of a query. -/
def frontTokens (q : NameQuoting) (chain : List Snippet) : List Token :=
  .word "WITH" none :: [Token.symbol ","].intercalate (chain.map (definitionTokens q))

/-- The name of a snippet can be read as it stands in a chain, and its body is read up to its end in
front of a closing parenthesis. -/
def Composable (q : NameQuoting) (e : Snippet) : Prop :=
  (lex (q.quote e.name.toList)).isOk = true ∧ endsBefore ')' e.body.toList = true

instance (q : NameQuoting) (e : Snippet) : Decidable (Composable q e) :=
  inferInstanceAs (Decidable (_ ∧ _))

variable {q : NameQuoting} {e : Snippet} {chain : List Snippet}

theorem toList_chainText (q : NameQuoting) (chain : List Snippet) (query : String) :
    (chainText q chain query).toList = frontText q chain ++ query.toList := by
  unfold chainText frontText
  rw [String.toList_ofList, List.append_assoc, List.append_assoc, List.append_assoc]
  rfl

theorem leads_blank : Leads [' '] [] :=
  leads_of_scan .blank fun _ => rfl

/-- A name without hyphens has no comment in it that could go on. -/
theorem endsBefore_quote (hread : (lex (q.quote e.name.toList)).isOk = true)
    (hhyphen : hasHyphen e.name = false) : endsBefore ' ' (q.quote e.name.toList) = true := by
  have hplain : '-' ∉ q.quote e.name.toList := by
    have hname : '-' ∉ e.name.toList := by simpa [hasHyphen] using hhyphen
    cases q with
    | bare => exact hname
    | backtick => simpa [NameQuoting.quote] using hname
  obtain ⟨ls, hls⟩ := isOk_lex_iff.1 hread
  exact hls.endsBefore_blank hplain

theorem leads_definition (hcomposable : Composable q e) (hhyphen : hasHyphen e.name = false) :
    Leads (definitionText q e) (definitionTokens q e) := by
  -- Each piece ends at a blank or a parenthesis, which is a token by itself whatever follows it.
  have hname : Leads (q.quote e.name.toList ++ [' ']) (tokens (q.quote e.name.toList) ++ []) :=
    leads_blank.behind (Or.inr rfl) (endsBefore_quote hcomposable.1 hhyphen)
  have has : Leads ("AS".toList ++ [' ']) (tokens "AS".toList ++ []) :=
    leads_blank.behind (Or.inr rfl) (by decide +kernel)
  have hopens : Leads ['('] [.symbol "("] := leads_of_scan (.symbol "(") fun _ => rfl
  have hcloses : Leads [')'] [.symbol ")"] := leads_of_scan (.symbol ")") fun _ => rfl
  have hbody := hcloses.behind (Or.inl rfl) hcomposable.2
  have hall := hname.append (has.append (hopens.append hbody))
  have hword : tokens "AS".toList = [.word "AS" none] := by decide +kernel
  rw [hword] at hall
  simpa [definitionText, definitionTokens] using hall

theorem leads_definitions (hcomposable : ∀ e ∈ chain, Composable q e)
    (hhyphen : ∀ e ∈ chain, hasHyphen e.name = false) (hne : chain ≠ []) :
    Leads (Text.joinWith [',', ' '] (chain.map (definitionText q)))
      ([Token.symbol ","].intercalate (chain.map (definitionTokens q))) := by
  induction chain with
  | nil => exact absurd rfl hne
  | cons e rest ih =>
    have he := leads_definition (hcomposable e List.mem_cons_self) (hhyphen e List.mem_cons_self)
    cases rest with
    | nil => simpa [Text.joinWith] using he
    | cons e' rest =>
      have hrest := ih (fun d hd => hcomposable d (List.mem_cons_of_mem _ hd))
        (fun d hd => hhyphen d (List.mem_cons_of_mem _ hd)) (by simp)
      have hcomma : Leads [','] [.symbol ","] := leads_of_scan (.symbol ",") fun _ => rfl
      have hall := he.append ((hcomma.append leads_blank).append hrest)
      rw [List.map_cons, List.map_cons, Text.joinWith, List.map_cons, List.map_cons,
        List.intercalate_cons_cons, List.append_assoc, List.append_assoc]
      exact hall

theorem leads_with : Leads "WITH ".toList [.word "WITH" none] := by
  have hwith : Leads ("WITH".toList ++ [' ']) (tokens "WITH".toList ++ []) :=
    leads_blank.behind (Or.inr rfl) (by decide +kernel)
  have hword : tokens "WITH".toList = [.word "WITH" none] := by decide +kernel
  rwa [hword] at hwith

theorem leads_front (hcomposable : ∀ e ∈ chain, Composable q e)
    (hhyphen : ∀ e ∈ chain, hasHyphen e.name = false) (hne : chain ≠ []) :
    Leads (frontText q chain) (frontTokens q chain) := by
  have hall := leads_with.append ((leads_definitions hcomposable hhyphen hne).append leads_blank)
  rw [List.append_nil, ← List.append_assoc] at hall
  exact hall

/-! ## The statements of a chain and its query -/

/-- A text that starts with `WITH` is cut at its first semicolon, whatever follows, and what is up to there
is something to run. -/
theorem splitStatements_with (rest : List Char) :
    splitStatements ("WITH ".toList ++ rest) =
      Text.trim (cutText ("WITH ".toList ++ rest)).1 ::
        splitStatements (cutText ("WITH ".toList ++ rest)).2 := by
  have hfirst : firstBareWord? (tokens ("WITH ".toList ++ rest)) ≠ some "CREATE".toList := by
    have hok := leads_with.isOk_lex rest
    -- A text that cannot be read has no words at all.
    cases hread : (lex rest).isOk with
    | true =>
      rw [leads_with.tokens_append hread]
      change some (Text.upper "WITH".toList) ≠ _
      decide +kernel
    | false =>
      rw [hread] at hok
      have hnone : tokens ("WITH ".toList ++ rest) = [] := tokens_of_not_isOk hok
      rw [hnone]
      decide
  have hstart : (cutText ("WITH ".toList ++ rest)).1 = 'W' :: ("ITH ".toList ++ (cutText rest).1) := by
    rw [leads_with.cutText_append (by decide)]
    rfl
  have hmeaning : isMeaningful (Text.trim (cutText ("WITH ".toList ++ rest)).1) = true := by
    rw [hstart]
    exact isMeaningful_trim (by decide +kernel) (by decide) (by decide) (by decide) _
  rw [splitStatements_cutText hfirst, meaningful_singleton hmeaning]
  rfl

/-- Behind a chain without semicolons a query has the statements that it has alone: the first goes on in
front of it. -/
theorem length_splitStatements_front (hleads : Leads (frontText q chain) (frontTokens q chain))
    (hnone : .semicolon ∉ frontTokens q chain) {query : List Char}
    (hfirst : firstBareWord? (tokens query) ≠ some "CREATE".toList)
    (hmeaning : isMeaningful (Text.trim (cutText query).1) = true) :
    (splitStatements (frontText q chain ++ query)).length = (splitStatements query).length := by
  have hfront : frontText q chain ++ query = "WITH ".toList ++
      (Text.joinWith [',', ' '] (chain.map (definitionText q)) ++ [' '] ++ query) := by
    unfold frontText
    rw [List.append_assoc, List.append_assoc, List.append_assoc]
  have hcut := hleads.cutText_append hnone query
  -- Both are cut at the same semicolon, and the same text is left behind it.
  rw [splitStatements_cutText hfirst, meaningful_singleton hmeaning, hfront, splitStatements_with,
    ← hfront, hcut]
  rfl

theorem semicolon_not_mem_frontTokens (hnone : ∀ e ∈ chain, .semicolon ∉ definitionTokens q e) :
    .semicolon ∉ frontTokens q chain := by
  have hdefinitions : .semicolon ∉ [Token.symbol ","].intercalate (chain.map (definitionTokens q)) := by
    induction chain with
    | nil => simp
    | cons e rest ih =>
      have he := hnone e List.mem_cons_self
      have hrest := ih fun d hd => hnone d (List.mem_cons_of_mem _ hd)
      cases rest with
      | nil => simpa using he
      | cons e' rest =>
        rw [List.map_cons] at hrest
        rw [List.map_cons, List.map_cons, List.intercalate_cons_cons]
        simp [he, hrest]
  simpa [frontTokens] using hdefinitions

/-! ## Rendering after any edits -/

/-- Where all that is needed is saved and composable, rendering puts its definitions in front, and they are
read as such. -/
theorem Sound.leads_of_needs {s : Snippets} (hsound : s.Sound) (query : String) {names : List String}
    (hne : names ≠ [])
    (hsaved : ∀ name, s.Needs names name → ∃ e, s.find? name = some e ∧ Composable q e) :
    ∃ chain : List Snippet, s.resolve names = .ok (chain.map Snippet.name) ∧
      (∀ e ∈ chain, s.find? e.name = some e) ∧
      s.render query names q = .ok (chainText q chain query) ∧
      Leads (frontText q chain) (frontTokens q chain) := by
  have hcontains : ∀ name, s.Needs names name → s.contains name = true := by
    intro name hneeds
    obtain ⟨e, hfind, -⟩ := hsaved name hneeds
    exact contains_of_find? hfind
  obtain ⟨text, hrender⟩ := (hsound.renders_iff query q).2 hcontains
  obtain ⟨-, chain, hresolve, hfound, rfl⟩ := (render_eq_ok_iff hne).1 hrender
  have hcollected := collected_of_resolve hresolve
  -- What is in the chain is needed, so that it is composable.
  have hcomposable : ∀ e ∈ chain, Composable q e := by
    intro e he
    have hmem : e.name ∈ chain.map Snippet.name := List.mem_map_of_mem he
    have hneeds : s.Needs names e.name := by simpa using (hcollected.mem e.name).1 hmem
    obtain ⟨found, hfind, hclosed⟩ := hsaved e.name hneeds
    cases (hfound e he).symm.trans hfind
    exact hclosed
  have hhyphen : ∀ e ∈ chain, hasHyphen e.name = false := fun e he =>
    (hsound.unhyphenated e (mem_of_find? (hfound e he)).1).1
  have hchain : chain ≠ [] := by
    rintro rfl
    obtain ⟨name, rest, rfl⟩ := List.exists_cons_of_ne_nil hne
    have hmem := (hcollected.mem name).2 (Or.inr (needs_of_mem List.mem_cons_self))
    cases hmem
  exact ⟨chain, hresolve, hfound, hrender, leads_front hcomposable hhyphen hchain⟩

/-- Whatever has been saved and removed: where all that is needed is saved and composable, rendering gives a
text that can be read when the query can, and its tokens are `WITH`, the definitions in the order in which
the names resolve, with all tokens of each body between parentheses, and the tokens of the query.  The first
statement ends at the first semicolon; if no definition has one, that is the query's, and the text has as
many statements as the query, provided that something to run stands up to there and that the query's first
bare word is not `CREATE`. -/
theorem afterEdits_render_composed (edits : List Edit) (q : NameQuoting) (query : String)
    {names : List String} (hne : names ≠ [])
    (hsaved : ∀ name, (afterEdits edits).Needs names name →
      ∃ e, (afterEdits edits).find? name = some e ∧ Composable q e) :
    let s := afterEdits edits
    ∃ (chain : List Snippet) (text : String),
      s.resolve names = .ok (chain.map Snippet.name) ∧ (∀ e ∈ chain, s.find? e.name = some e) ∧
      s.render query names q = .ok text ∧
      (lex text.toList).isOk = (lex query.toList).isOk ∧
      ((lex query.toList).isOk = true →
        tokens text.toList = .word "WITH" none ::
          ([Token.symbol ","].intercalate (chain.map (definitionTokens q)) ++ tokens query.toList)) ∧
      splitStatements text.toList =
        Text.trim (cutText text.toList).1 :: splitStatements (cutText text.toList).2 ∧
      ((∀ e ∈ chain, .semicolon ∉ definitionTokens q e) →
        cutText text.toList =
          (frontText q chain ++ (cutText query.toList).1, (cutText query.toList).2) ∧
        (firstBareWord? (tokens query.toList) ≠ some "CREATE".toList →
          isMeaningful (Text.trim (cutText query.toList).1) = true →
          (splitStatements text.toList).length = (splitStatements query.toList).length)) := by
  intro s
  obtain ⟨chain, hresolve, hfound, hrender, hleads⟩ :=
    (sound_afterEdits edits).leads_of_needs query hne hsaved
  refine ⟨chain, _, hresolve, hfound, hrender, ?_⟩
  rw [toList_chainText]
  refine ⟨hleads.isOk_lex query.toList, hleads.tokens_append, ?_, ?_⟩
  · unfold frontText
    rw [List.append_assoc, List.append_assoc]
    exact splitStatements_with _
  · intro hnone
    have hfree := semicolon_not_mem_frontTokens hnone
    exact ⟨hleads.cutText_append hfree _, length_splitStatements_front hleads hfree⟩

/-- A snippet whose body holds a parenthesis in quotes and ends with a comment and its line feed. -/
def quotedParenthesis : Edit :=
  .save "x" "SELECT ')' -- one\n" []

theorem afterEdits_render_composed_one :
    ["x"] ≠ [] ∧
      (∀ name, (afterEdits [quotedParenthesis]).Needs ["x"] name →
        ∃ e, (afterEdits [quotedParenthesis]).find? name = some e ∧ Composable .backtick e) ∧
      ∃ (chain : List Snippet) (text : String),
        (afterEdits [quotedParenthesis]).resolve ["x"] = .ok (chain.map Snippet.name) ∧
        (afterEdits [quotedParenthesis]).render "SELECT * FROM x" ["x"] .backtick = .ok text ∧
        tokens text.toList = .word "WITH" none ::
          ([Token.symbol ","].intercalate (chain.map (definitionTokens .backtick)) ++
            tokens "SELECT * FROM x".toList) := by
  have hsaved : ∀ name, (afterEdits [quotedParenthesis]).Needs ["x"] name →
      ∃ e, (afterEdits [quotedParenthesis]).find? name = some e ∧ Composable .backtick e := by
    unfold quotedParenthesis
    rw [afterEdits_one _ (by decide +kernel)]
    intro name hneeds
    have hmem := ((collected_of_resolve (resolve_one "x" _)).mem name).2 (Or.inr hneeds)
    obtain rfl := List.mem_singleton.1 hmem
    exact ⟨⟨"x", "SELECT ')' -- one\n", []⟩, rfl, by decide +kernel⟩
  obtain ⟨chain, text, hresolve, -, hrender, -, htokens, -⟩ :=
    afterEdits_render_composed [quotedParenthesis] .backtick "SELECT * FROM x" (by decide) hsaved
  exact ⟨by decide, hsaved, chain, text, hresolve, hrender, htokens (by decide +kernel)⟩

/-- A body that is one statement ends the statement it is pasted into at its own semicolon, and one that
ends in a comment hides the closing parenthesis and the query. -/
theorem pasted_bodies_break_statement :
    ((splitStatements "SELECT * FROM x".toList).length = 1 ∧
      (splitStatements "SELECT 1;".toList).length = 1 ∧
      (splitStatements "SELECT 1 -- one".toList).length = 1) ∧
    ((afterEdits [.save "x" "SELECT 1;" []]).render "SELECT * FROM x" ["x"] .bare =
        .ok "WITH x AS (SELECT 1;) SELECT * FROM x" ∧
      splitStatements "WITH x AS (SELECT 1;) SELECT * FROM x".toList =
        ["WITH x AS (SELECT 1;".toList, ") SELECT * FROM x".toList]) ∧
    (afterEdits [.save "x" "SELECT 1 -- one" []]).render "SELECT * FROM x" ["x"] .bare =
        .ok "WITH x AS (SELECT 1 -- one) SELECT * FROM x" ∧
      tokens "WITH x AS (SELECT 1 -- one) SELECT * FROM x".toList =
        [.word "WITH" none, .word "x" none, .word "AS" none, .symbol "(", .word "SELECT" none,
          .number "1" false] := by
  refine ⟨by decide +kernel, ⟨?_, by decide +kernel⟩, ?_, by decide +kernel⟩
  · rw [afterEdits_one _ (by decide +kernel), render_one _ _ _ (by decide +kernel)]
    rfl
  · rw [afterEdits_one _ (by decide +kernel), render_one _ _ _ (by decide +kernel)]
    rfl

end Snippets
end SqlCells
