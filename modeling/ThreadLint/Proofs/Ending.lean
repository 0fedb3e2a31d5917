import ThreadLint.Proofs.Truncation

/-!
This module contains how far the members of a file are read. They are read up to the end of the
text, unless a brace was taken alone where none is looked for: then the brace that closes it may
stand for the end.
-/

namespace ThreadLint

open ThreadLint.Parser

namespace Token

variable {tokens : Array Token}

theorem Nested.braceDepth_nonneg {stop : Nat} {opened : List Token}
    (h : Nested tokens stop opened) : 0 ≤ braceDepth tokens stop := by
  induction h with
  | nil inner =>
    rw [braceDepth_eq_of_balanced inner]
    exact Int.le_refl _
  | @cons opener stop outer hopener isOpener around inner ih =>
    rw [braceDepth_eq_of_balanced inner, braceDepth_succ, tokenAt_eq_getElem hopener]
    have hchange : 0 ≤ braceChange tokens[opener] := by
      unfold braceChange
      split
      . decide
      . split
        . next hclose =>
          have hcloser : tokens[opener].isCloser = true := by
            obtain ⟨hkind, htext⟩ := isPunct_iff.1 hclose
            rw [List.mem_singleton] at htext
            exact isPunct_iff.2 ⟨hkind, by simp [htext, brackets]⟩
          exact absurd hcloser (not_isCloser_of_isOpener isOpener)
        . decide
    omega

section

variable {source : Source} {tokens openers : List Token}
  (h : unclosed source tokens = .ok openers)

include h

theorem grouped_of_unclosed : Grouped tokens.toArray :=
  fun _ _ => balanced_of_matching? h

/-- A brace that closes another one stands behind it. -/
theorem one_le_braceDepth {index : Nat} (hindex : index < tokens.length)
    (hclose : (tokenAt tokens.toArray index).isPunct ["\x7d"] = true) :
    1 ≤ braceDepth tokens.toArray index := by
  obtain ⟨opened, hnested⟩ := exists_nested h hindex
  have := hnested.braceDepth_nonneg
  rw [braceDepth_succ, braceChange_of_close hclose] at this
  omega

end

end Token

/-- The members of a file are read in front of a closing brace or of the end of the text. -/
theorem parse_readsTo {text : String} {path : Option String} {parsed : Parsed} {tokens : List Token}
    (h : parse text path = .ok parsed) (htokens : Token.tokenize parsed.source = .ok tokens) :
    ∃ stop, Parser.members (Grammar.ofDepth tokens.length) none tokens.toArray 0
        = .ok (parsed.root.children, stop) ∧
      stop ≤ last tokens.toArray ∧ Enclosed tokens.toArray 0 stop ∧
        isBefore "\x7d" (tokenAt tokens.toArray stop) = false := by
  obtain ⟨tokens', _, nodes, htokens', _, _, hmembers, hsource, hroot⟩ :=
    Parsed.ofSource_eq_ok (parse_eq_ok h)
  rw [hsource, htokens'] at htokens
  cases htokens
  have := Lawful.of_tiles (Token.Tiles.of_tokenize htokens')
  unfold Parsed.members at hmembers
  rw [map_eq_ok] at hmembers
  obtain ⟨⟨_, stop⟩, hmembers, rfl⟩ := hmembers
  obtain ⟨_, hlast, henclosed, _, hends⟩ := Parsed.members_ensures.of_eq_ok (Nat.zero_le _) hmembers
  rw [List.size_toArray] at hmembers
  exact ⟨stop, by rw [hroot, hmembers], hlast, henclosed, hends⟩

/--
The members of a file are read up to the end of the text, or up to a closing brace with a loose
brace in front of it.
-/
theorem parse_readsAll_or_loose {text : String} {path : Option String} {parsed : Parsed}
    {tokens : List Token} (h : parse text path = .ok parsed)
    (htokens : Token.tokenize parsed.source = .ok tokens) :
    ∃ stop, Parser.members (Grammar.ofDepth tokens.length) none tokens.toArray 0
        = .ok (parsed.root.children, stop) ∧
      (stop = last tokens.toArray ∨
        ((tokenAt tokens.toArray stop).isPunct ["\x7d"] = true ∧
          ∃ index, index < stop ∧ IsLoose tokens.toArray index)) := by
  obtain ⟨stop, hmembers, hlast, henclosed, hends⟩ := parse_readsTo h htokens
  obtain ⟨_, openers, _, htokens', hopeners, _, _, hsource, _⟩ :=
    Parsed.ofSource_eq_ok (parse_eq_ok h)
  rw [hsource, htokens'] at htokens
  cases htokens
  have := Lawful.of_tiles (Token.Tiles.of_tokenize htokens')
  refine ⟨stop, hmembers, ?_⟩
  by_cases heq : stop = last tokens.toArray
  . exact .inl heq
  have hclose : (tokenAt tokens.toArray stop).isPunct ["\x7d"] = true := by
    have hnot := not_isEnd_of_lt_last (Nat.lt_of_le_of_ne hlast heq)
    rw [isBefore, hnot, Bool.not_false, Bool.and_true, Bool.not_eq_false'] at hends
    exact hends
  obtain hend | hdepth | ⟨index, _, hlt, hloose⟩ := henclosed (Token.grouped_of_unclosed hopeners)
  . contradiction
  . have hsize : last tokens.toArray < tokens.length := by
      have : last tokens.toArray < tokens.toArray.size := last_lt_size
      simpa using this
    have hopen := Token.one_le_braceDepth hopeners (Nat.lt_of_le_of_lt hlast hsize) hclose
    have hzero : braceDepth tokens.toArray 0 = 0 := rfl
    omega
  . exact .inr ⟨hclose, index, hlt, hloose⟩

/-- Where no brace opens, none is loose. -/
theorem parse_readsAll_or_loose_enum :
    let text := "class C<T>; enum E;"
    ∃ parsed tokens, parse text none = .ok parsed ∧ Token.tokenize parsed.source = .ok tokens ∧
      Parser.members (Grammar.ofDepth tokens.length) none tokens.toArray 0
        = .ok (parsed.root.children, last tokens.toArray) := by
  intro text
  have hok : (parse text none).isOk = true := by decide +kernel
  obtain ⟨parsed, h⟩ := exists_eq_ok hok
  have htokenized : ((Token.tokenize (Source.ofString text none)).map fun tokens =>
      tokens.any (·.isPunct ["\x7b"])).toOption = some false := by
    decide +kernel
  obtain ⟨tokens, htokens, hbraces⟩ := map_eq_ok.1 (eq_ok_of_toOption htokenized)
  rw [← (parse_sited h).1] at htokens
  refine ⟨parsed, tokens, h, htokens, ?_⟩
  obtain ⟨stop, hmembers, rfl | ⟨_, index, _, hbrace, _⟩⟩ := parse_readsAll_or_loose h htokens
  . exact hmembers
  . exfalso
    have := Lawful.of_tiles (Token.Tiles.of_tokenize htokens)
    have hlt := lt_last_of_isPunct hbrace
    have hsize : last tokens.toArray < tokens.toArray.size := last_lt_size
    rw [tokenAt_eq_getElem (by omega), List.getElem_toArray] at hbrace
    rw [List.any_eq_false] at hbraces
    exact hbraces _ (List.getElem_mem _) hbrace

/--
The brace between the angle brackets is taken alone, so that the brace that closes it ends the file.
The class behind it is in no node, and nothing is reported.
-/
theorem members_end_at_loose_brace :
    let text := "class C<\x7b>; \x7d class D \x7b \x7d"
    ∃ parsed tokens stop, parse text none = .ok parsed ∧ parsed.recoveries = [] ∧
      Token.tokenize parsed.source = .ok tokens ∧
        Parser.members (Grammar.ofDepth tokens.length) none tokens.toArray 0
          = .ok (parsed.root.children, stop) ∧
        stop < last tokens.toArray ∧
          ∀ node ∈ parsed.root.children, node.extent.stop < startAt tokens.toArray stop := by
  intro text
  have hparsed : ((parse text none).map fun parsed => parsed.recoveries.length).toOption = some 0 := by
    decide +kernel
  obtain ⟨parsed, h, hrecoveries⟩ := map_eq_ok.1 (eq_ok_of_toOption hparsed)
  have hread : ((Token.tokenize (Source.ofString text none)).map fun tokens =>
      ((Parser.members (Grammar.ofDepth tokens.length) none tokens.toArray 0).map fun read =>
        decide (read.2 < last tokens.toArray) &&
          read.1.all fun node =>
            decide (node.extent.stop < startAt tokens.toArray read.2)).toOption).toOption
      = some (some true) := by
    decide +kernel
  obtain ⟨tokens, htokens, hread⟩ := map_eq_ok.1 (eq_ok_of_toOption hread)
  rw [← (parse_sited h).1] at htokens
  obtain ⟨stop, hmembers, _⟩ := parse_readsTo h htokens
  obtain ⟨_, hread, hleft⟩ := map_eq_ok.1 (eq_ok_of_toOption hread)
  rw [hmembers] at hread
  cases hread
  rw [Bool.and_eq_true, decide_eq_true_eq, List.all_eq_true] at hleft
  refine ⟨parsed, tokens, stop, h, List.eq_nil_of_length_eq_zero hrecoveries, htokens, hmembers,
    hleft.1, ?_⟩
  intro node hmem
  simpa using hleft.2 node hmem

end ThreadLint
