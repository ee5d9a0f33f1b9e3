import SqlCells.Proofs.Command.Headers

/-!
# Comments behind headers

A header is read up to the first word that starts with two dashes and does not name a flag.  So every flag with
two dashes that is read at all is one that exists, and what stands in a comment behind a header changes nothing,
unless the header ends inside quotes.
-/

namespace SqlCells
namespace Command

variable {known : List Char → Bool} {w word rest s : List Char} {place : Place} {header : String} {f : Fault}
  {args : Args} {item : Item} {items : List Item}

/-! ## Arguments by the words of a header -/

/-- The arguments that words are read as, up to the first of them that starts a comment. -/
def Args.readWords (args : Args) (words : List (List Char)) : Except Fault Args :=
  args.read ((words.takeWhile (keepsWord isKnownFlag)).map classify)

/-- Refuses arguments that ask both to replace a table and to append to it. -/
def Args.settle (args : Args) : Except Fault Args :=
  if args.persistReplace && args.append then .error .replaceAndAppend else .ok args

theorem parse_eq (header : String) :
    Args.parse header = Args.readWords {} (splitWords header.toList) >>= Args.settle := by
  unfold Args.parse Args.readWords
  rw [headerItems_eq]
  cases Args.read {} _ with
  | error f => rfl
  | ok args => rfl

/-! ## Words that are kept -/

/-- A word with two dashes in front is kept if what stands before its first equals sign is a flag. -/
theorem keepsWord_dashes (known : List Char → Bool) (s : List Char) :
    keepsWord known ('-' :: '-' :: s) = known (('-' :: '-' :: s).takeWhile (· != '=')) := by
  have hdashes : Text.startsWith ('-' :: '-' :: s) ['-', '-'] = true := Text.startsWith_iff.2 ⟨s, rfl⟩
  unfold keepsWord
  rw [if_pos hdashes]
  rcases Text.splitOnce_singleton_cases '=' ('-' :: '-' :: s) with ⟨hnone, hall⟩ | ⟨value, hsome⟩
  · rw [hnone, hall]
  · rw [hsome]

theorem isKnownFlag_dashes (name : List Char) : isKnownFlag ('-' :: '-' :: name) = (Flag.ofName? name).isSome :=
  rfl

theorem classify_dashes (c : Char) (s : List Char) :
    classify ('-' :: '-' :: c :: s) =
      if Text.isLetter c then
        match Text.splitOnce ['='] (c :: s) with
        | some (name, value) => .long name (some value)
        | none => .long (c :: s) none
      else .word ('-' :: '-' :: c :: s) :=
  rfl

theorem classify_dashes_cases (s : List Char) :
    classify ('-' :: '-' :: s) = .word ('-' :: '-' :: s) ∨
      ∃ value, classify ('-' :: '-' :: s) = .long (s.takeWhile (· != '=')) value := by
  cases s with
  | nil => exact Or.inl rfl
  | cons c s =>
    rw [classify_dashes]
    split
    · rcases Text.splitOnce_singleton_cases '=' (c :: s) with ⟨hnone, hall⟩ | ⟨value, hsome⟩
      · rw [hnone, hall]
        exact Or.inr ⟨none, rfl⟩
      · rw [hsome]
        exact Or.inr ⟨some value, rfl⟩
    · exact Or.inl rfl

/-- A flag with two dashes that is kept exists. -/
theorem mark?_classify_dashes (hkeeps : keepsWord isKnownFlag ('-' :: '-' :: s) = true) :
    (classify ('-' :: '-' :: s)).mark? ≠ .error f := by
  rcases classify_dashes_cases s with hword | ⟨value, hlong⟩
  · rw [hword]
    nofun
  · rw [keepsWord_dashes, List.takeWhile_cons_of_pos (by decide), List.takeWhile_cons_of_pos (by decide),
      isKnownFlag_dashes] at hkeeps
    obtain ⟨flag, hflag⟩ := Option.isSome_iff_exists.1 hkeeps
    rw [hlong, Item.mark?, hflag]
    nofun

/-- Of the words that are kept only a letter behind one dash can be a flag that does not exist. -/
theorem letter_of_mark?_eq_error (hkeeps : keepsWord isKnownFlag w = true)
    (hmark : (classify w).mark? = .error f) :
    ∃ letter : Char, letter.isAlpha = true ∧ f = .unrecognizedArgument ("-" ++ String.singleton letter) := by
  unfold classify at hmark
  split at hmark
  · next rest => exact absurd hmark (mark?_classify_dashes hkeeps)
  · next c attached hdash =>
    split at hmark
    · next hletter =>
      refine ⟨c, hletter, ?_⟩
      rw [Item.mark?] at hmark
      split at hmark
      · cases hmark
      · exact (Except.error.inj hmark).symm
    · cases hmark
  · cases hmark

/-! ## Headers with comments -/

/-- A word that has been started goes on until it is over. -/
theorem exists_wordsFrom_cons (hword : word ≠ []) (place : Place) (s : List Char) :
    ∃ w ws, wordsFrom place word s = w :: ws ∧ word <+: w := by
  induction s generalizing place word with
  | nil => exact ⟨word, [], wordOf_of_ne_nil hword, List.prefix_refl word⟩
  | cons c s ih =>
    rw [wordsFrom]
    split
    · rw [wordOf_of_ne_nil hword]
      exact ⟨word, _, rfl, List.prefix_refl word⟩
    · obtain ⟨w, ws, hwords, hstart⟩ := ih (List.append_ne_nil_of_right_ne_nil word (List.cons_ne_nil c []))
        (place.next c)
      exact ⟨w, ws, hwords, (List.prefix_append word [c]).trans hstart⟩

/-- The first word behind two dashes starts with them. -/
theorem exists_splitWords_dashes (s : List Char) :
    ∃ t ws, splitWords ('-' :: '-' :: s) = ('-' :: '-' :: t) :: ws := by
  obtain ⟨w, ws, hwords, t, rfl⟩ := exists_wordsFrom_cons (List.cons_ne_nil '-' ['-']) .outside s
  exact ⟨t, ws, hwords⟩

/-- What starts a comment outside quotes is dropped with all that is behind it. -/
theorem parse_append_comment {comment : String} (hclosed : IsClosed header.toList)
    (hname : ∀ w ∈ (splitWords ("--" ++ comment).toList).head?, isKnownFlag (w.takeWhile (· != '=')) = false) :
    Args.parse (header ++ " --" ++ comment) = Args.parse header := by
  have hcomment : ("--" ++ comment).toList = '-' :: '-' :: comment.toList := by simp
  have hline : (header ++ " --" ++ comment).toList = header.toList ++ ' ' :: '-' :: '-' :: comment.toList := by simp
  obtain ⟨t, ws, hwords⟩ := exists_splitWords_dashes comment.toList
  have hdrops : keepsWord isKnownFlag ('-' :: '-' :: t) = false := by
    rw [hcomment, hwords] at hname
    rw [keepsWord_dashes]
    exact hname _ rfl
  rw [parse_eq, parse_eq, hline, splitWords_append_cons hclosed (by decide), hwords]
  unfold Args.readWords
  rw [takeWhile_append_stop hdrops]

theorem of_parse_eq_error (hparse : Args.parse header = .error f) :
    (∃ letter : Char, letter.isAlpha = true ∧ f = .unrecognizedArgument ("-" ++ String.singleton letter)) ∨
      (∃ shown, f = .valueUnexpected shown ∨ f = .valueMissing shown) ∨ f = .replaceAndAppend := by
  rw [parse_eq] at hparse
  cases hread : Args.readWords {} (splitWords header.toList) with
  | error f' =>
    rw [hread] at hparse
    cases hparse
    rcases of_read_eq_error hread with ⟨item, hitem, hmark⟩ | hvalue
    · obtain ⟨w, hw, rfl⟩ := List.mem_map.1 hitem
      exact Or.inl (letter_of_mark?_eq_error (List.mem_takeWhile_imp hw) hmark)
    · exact Or.inr (Or.inl hvalue)
  | ok args =>
    rw [hread] at hparse
    change args.settle = .error f at hparse
    unfold Args.settle at hparse
    split at hparse
    · exact Or.inr (Or.inr (Except.error.inj hparse).symm)
    · cases hparse

/-- No message calls an argument with two dashes unknown: such a word starts a comment. -/
theorem not_prefix_message (hparse : Args.parse header = .error f) :
    ¬ "unrecognized argument: --".toList <+: f.message.toList := by
  rcases of_parse_eq_error hparse with ⟨letter, hletter, rfl⟩ | ⟨shown, rfl | rfl⟩ | rfl
  · have hmessage : (Fault.unrecognizedArgument ("-" ++ String.singleton letter)).message =
        "unrecognized argument: " ++ ("-" ++ String.singleton letter) := rfl
    have hdash : '-' ≠ letter := by
      rintro rfl
      cases hletter
    rw [hmessage]
    simp [String.toList_append, hdash]
  · have hmessage : (Fault.valueUnexpected shown).message =
        "argument " ++ shown ++ ": ignored explicit argument" := rfl
    rw [hmessage]
    simp [String.toList_append]
  · have hmessage : (Fault.valueMissing shown).message =
        "argument " ++ shown ++ ": expected one argument" := rfl
    rw [hmessage]
    simp [String.toList_append]
  · have hmessage : Fault.replaceAndAppend.message =
        "You cannot simultaneously persist and append data to a dataframe; please choose to utilize " ++
          "either one or the other." := rfl
    rw [hmessage]
    simp

/-- No header is refused for an unknown argument with two dashes.  And where a header does not end inside quotes,
two dashes behind it drop all that is behind them, if the first word from them on, up to an equals sign, is no
flag. -/
theorem parse_drops_comment (header : String) :
    (∀ f, Args.parse header = .error f → ¬ "unrecognized argument: --".toList <+: f.message.toList) ∧
    ∀ comment : String, IsClosed header.toList →
      (∀ w ∈ (splitWords ("--" ++ comment).toList).head?, isKnownFlag (w.takeWhile (· != '=')) = false) →
      Args.parse (header ++ " --" ++ comment) = Args.parse header :=
  ⟨fun _ hparse => not_prefix_message hparse, fun _ hclosed hname => parse_append_comment hclosed hname⟩

theorem parse_drops_comment_quoted :
    (Args.parse "-z" = .error (.unrecognizedArgument "-z") ∧
      ¬ "unrecognized argument: --".toList <+: (Fault.unrecognizedArgument "-z").message.toList) ∧
    IsClosed "--file 'my q.sql'".toList ∧
    (∀ w ∈ (splitWords ("--" ++ "file-name='a b' --save x").toList).head?,
      isKnownFlag (w.takeWhile (· != '=')) = false) ∧
    Args.parse "--file 'my q.sql' --file-name='a b' --save x" = Args.parse "--file 'my q.sql'" := by
  have hrefused : Args.parse "-z" = .error (.unrecognizedArgument "-z") := by decide
  have hclosed : IsClosed "--file 'my q.sql'".toList := by decide
  have hname : ∀ w ∈ (splitWords ("--" ++ "file-name='a b' --save x").toList).head?,
      isKnownFlag (w.takeWhile (· != '=')) = false := by decide
  exact ⟨⟨hrefused, (parse_drops_comment "-z").1 _ hrefused⟩, hclosed, hname,
    (parse_drops_comment "--file 'my q.sql'").2 "file-name='a b' --save x" hclosed hname⟩

end Command
end SqlCells
