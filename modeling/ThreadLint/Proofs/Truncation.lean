import ThreadLint.Proofs.Grammar.Target
import ThreadLint.Proofs.Token.Open
import ThreadLint.Proofs.Tree.Placement

/-!
This module contains what becomes of a text that is cut off behind a token: it has a syntax tree with
a recovery for every bracket that is open there, unless the cut goes through attributes of the whole
file.
-/

namespace ThreadLint

open ThreadLint.Parser

/--
Whether a text has a syntax tree with a recovery for each of the given brackets and no others.
-/
def Recovers (text : String) (path : Option String) (openers : List Token) : Prop :=
  ∃ parsed, parse text path = .ok parsed ∧
    parsed.recoveries.map (·.opener) = openers ∧
      ∀ recovery ∈ parsed.recoveries, recovery.span.extent = recovery.opener.extent

theorem Parsed.exists_mapM_recovery (source : Source) (openers : List Token) :
    ∃ recoveries, openers.mapM (recovery source) = .ok recoveries ∧
      recoveries.map (·.opener) = openers ∧
        ∀ recovery ∈ recoveries, recovery.span.extent = recovery.opener.extent := by
  induction openers with
  | nil => exact ⟨[], rfl, rfl, by simp⟩
  | cons opener openers ih =>
    obtain ⟨recoveries, hrecoveries, hopeners, hextents⟩ := ih
    obtain ⟨span, hspan, hextent⟩ := recovery_eq_ok source opener
    refine ⟨⟨opener, span⟩ :: recoveries, ?_, by simp [hopeners], ?_⟩
    . rw [List.mapM_cons, hspan, hrecoveries]
      rfl
    . rw [List.forall_mem_cons]
      exact ⟨hextent, hextents⟩

theorem Parsed.members_eq_error_iff {tokens : Array Token} {stop : Stop} :
    members tokens = .error stop ↔
      manyWhile (isBefore "\x7d") (memberGroup (Grammar.ofDepth tokens.size) none) tokens 0 =
        .error stop := by
  unfold members
  rw [members_eq]
  simp only [bind]
  cases manyWhile (isBefore "\x7d") (memberGroup (Grammar.ofDepth tokens.size) none) tokens 0 with
  | error stop' =>
    constructor
    . intro h
      cases h
      rfl
    . intro h
      cases h
      rfl
  | ok result =>
    constructor
    . intro h
      cases h
    . intro h
      cases h

theorem Parsed.members_eq_mismatch_iff {tokens : Array Token} [Lawful tokens] :
    members tokens = .error .mismatch ↔ StopsAtTarget tokens := by
  have hstop (stop : Stop)
      (h : manyWhile (isBefore "\x7d") (memberGroup (Grammar.ofDepth tokens.size) none) tokens 0 =
        .error stop) : stop = .mismatch :=
    eq_mismatch_of_members (members_eq_error_iff.2 h)
  rw [members_eq_error_iff, manyWhile_eq_mismatch_iff hstop]
  constructor
  . intro ⟨index, hreaches, _, hmismatch⟩
    exact ⟨index, hreaches, memberGroup_eq_mismatch_iff.1 hmismatch⟩
  . intro ⟨index, hreaches, hmismatch⟩
    refine ⟨index, hreaches, ?_, memberGroup_eq_mismatch_iff.2 hmismatch⟩
    have hbracket := hmismatch.1
    have hend := Token.not_isEnd_of_isPunct hbracket
    rw [Token.isPunct_iff, List.mem_singleton] at hbracket
    simp [isBefore, Token.isPunct, hbracket, hend]

section

variable {text : String} {path : Option String} {tokens openers : List Token}
  (htokens : Token.tokenize (Source.ofString text path) = .ok tokens)
  (hopeners : Token.unclosed (Source.ofString text path) tokens = .ok openers)

include htokens hopeners

theorem parse_of_stopsAtTarget (h : StopsAtTarget tokens.toArray) :
    parse text path = .error .attributeTarget := by
  have := Lawful.of_tiles (Token.Tiles.of_tokenize htokens)
  obtain ⟨recoveries, hrecoveries, _⟩ :=
    Parsed.exists_mapM_recovery (Source.ofString text path) openers
  have hsource : Parsed.ofSource (Source.ofString text path) = .error .attributeTarget := by
    unfold Parsed.ofSource
    simp only [htokens, hopeners, hrecoveries, Parsed.members_eq_mismatch_iff.2 h, mapError_ok,
      mapError_error, bind, Except.bind]
  unfold parse
  rw [hsource]

theorem recovers_of_not_stopsAtTarget (h : ¬ StopsAtTarget tokens.toArray) :
    Recovers text path openers := by
  have := Lawful.of_tiles (Token.Tiles.of_tokenize htokens)
  obtain ⟨recoveries, hrecoveries, hrest⟩ :=
    Parsed.exists_mapM_recovery (Source.ofString text path) openers
  obtain ⟨nodes, hnodes⟩ : ∃ nodes, Parsed.members tokens.toArray = .ok nodes := by
    cases hmembers : Parsed.members tokens.toArray with
    | ok nodes => exact ⟨nodes, rfl⟩
    | error stop =>
      rw [Parsed.eq_mismatch_of_members hmembers] at hmembers
      exact absurd (Parsed.members_eq_mismatch_iff.1 hmembers) h
  refine ⟨⟨Source.ofString text path, ⟨.compilationUnit, ⟨0, (Source.ofString text path).length⟩, "",
    none, nodes⟩, recoveries⟩, ?_, hrest⟩
  have hsource : Parsed.ofSource (Source.ofString text path) =
      .ok ⟨Source.ofString text path, ⟨.compilationUnit, ⟨0, (Source.ofString text path).length⟩, "",
        none, nodes⟩, recoveries⟩ := by
    unfold Parsed.ofSource
    simp only [htokens, hopeners, hrecoveries, hnodes, mapError_ok, bind, Except.bind]
    rfl
  unfold parse
  rw [hsource]

end

/-! ### Texts that are cut off -/

/--
A text up to an offset.
-/
def cutAt (text : String) (offset : Nat) : String :=
  String.ofList (text.toList.take offset)

/--
The tokens of a text that is cut off behind one of its tokens.
-/
def tokensUpTo (tokens : List Token) (index : Nat) : List Token :=
  if index + 1 < tokens.length then
    tokens.take (index + 1) ++ [Token.endAt (stopAt tokens.toArray index)]
  else tokens

theorem tokenAt_tokensUpTo {tokens : List Token} {index other : Nat} (hother : other ≤ index) :
    tokenAt (tokensUpTo tokens index).toArray other = tokenAt tokens.toArray other := by
  unfold tokensUpTo
  split
  . next hnext =>
    rw [tokenAt_eq_getElem (by simp; omega), tokenAt_eq_getElem (by simp; omega)]
    simp only [List.getElem_toArray]
    rw [List.getElem_append_left (by simp; omega), List.getElem_take]
  . rfl

theorem last_tokensUpTo_le {tokens : List Token} {index : Nat} (hindex : index < tokens.length) :
    last (tokensUpTo tokens index).toArray ≤ index + 1 := by
  unfold tokensUpTo last
  split
  . rw [List.size_toArray, List.length_append, List.length_take, List.length_singleton]
    omega
  . rw [List.size_toArray]
    omega

theorem ofString_cutAt (text : String) (offset : Nat) (path : Option String) :
    Source.ofString (cutAt text offset) path =
      { Source.ofString text path with chars := (Source.ofString text path).chars.take offset } := by
  unfold cutAt Source.ofString
  rw [String.toList_ofList]

theorem cutAt_of_length_le {text : String} {offset : Nat} (h : text.length ≤ offset) :
    cutAt text offset = text := by
  unfold cutAt
  rw [List.take_of_length_le, String.ofList_toList]
  rw [String.length_toList]
  exact h

section

variable {text : String} {path : Option String} {tokens openers : List Token}
  (htokens : Token.tokenize (Source.ofString text path) = .ok tokens) {index : Nat}
  (hindex : index < tokens.length)

include htokens hindex

theorem cutAt_stopAt_last (hlast : ¬ index + 1 < tokens.length) :
    cutAt text (stopAt tokens.toArray index) = text := by
  have tiles := Token.Tiles.of_tokenize htokens
  have := Lawful.of_tiles tiles
  have hend : (tokenAt tokens.toArray index).isEnd = true := by
    rw [Lawful.isEnd_iff]
    simp [last]
    omega
  have hle : index ≤ last tokens.toArray := by
    simp [last]
    omega
  have hmem := tokenAt_mem_of_tiles tiles hle
  have hstart := tiles.start_of_isEnd hmem hend
  have hlength : (Source.ofString text path).chars.length = text.length := String.length_toList
  apply cutAt_of_length_le
  unfold stopAt Token.stop
  omega

theorem tokenize_cutAt :
    Token.tokenize (Source.ofString (cutAt text (stopAt tokens.toArray index)) path) =
      .ok (tokensUpTo tokens index) := by
  have tiles := Token.Tiles.of_tokenize htokens
  have := Lawful.of_tiles tiles
  have hlast : last tokens.toArray = tokens.length - 1 := by simp [last]
  unfold tokensUpTo
  split
  . next hnext =>
    have hend : (tokenAt tokens.toArray index).isEnd = false := not_isEnd_of_lt_last (by omega)
    unfold stopAt
    rw [tokenAt_eq_getElem (by simpa using hindex), List.getElem_toArray] at hend ⊢
    rw [ofString_cutAt]
    rw [← List.take_append_drop index tokens, List.drop_eq_getElem_cons hindex] at htokens
    rw [Token.tokenize_take htokens hend, List.take_succ_eq_append_getElem hindex]
    rw [List.append_assoc]
    rfl
  . next hnext => rw [cutAt_stopAt_last htokens hindex hnext, htokens]

theorem unclosed_tokensUpTo (hopeners : Token.unclosed (Source.ofString text path) tokens = .ok openers) :
    Token.unclosed (Source.ofString (cutAt text (stopAt tokens.toArray index)) path)
      (tokensUpTo tokens index) = .ok (Token.openBefore tokens.toArray (index + 1)) := by
  unfold tokensUpTo
  split
  . next hnext => exact Token.unclosed_take hopeners (by omega) _ rfl
  . next hnext =>
    rw [cutAt_stopAt_last htokens hindex hnext, hopeners, Token.unclosed_eq hopeners]
    rw [show index + 1 = tokens.length by omega]

end

/--
Whether a bracket opens in front of an index, two tokens in front of a colon.
-/
def HasTargetBefore (tokens : List Token) (stop : Nat) : Prop :=
  ∃ index, index + 2 < stop ∧ (tokenAt tokens.toArray index).isPunct ["["] = true ∧
    (tokenAt tokens.toArray (index + 2)).isPunct [":"] = true

/--
A text that is cut off behind a token has a tree with a recovery for every bracket that is open there
exactly if the reader of its members does not come to attributes of the whole file that do not fit.
Otherwise it has no tree, and the attributes begin in front of the cut.
-/
theorem cut_recovers_iff {text : String} {path : Option String} {parsed : Parsed}
    (h : parse text path = .ok parsed) :
    ∃ tokens, Token.tokenize parsed.source = .ok tokens ∧ ∀ index, index < tokens.length →
      let cut := cutAt text (stopAt tokens.toArray index)
      let kept := tokensUpTo tokens index
      Token.tokenize (Source.ofString cut path) = .ok kept ∧
        (Recovers cut path (Token.openBefore tokens.toArray (index + 1)) ↔
          ¬ StopsAtTarget kept.toArray) ∧
        (StopsAtTarget kept.toArray →
          parse cut path = .error .attributeTarget ∧ HasTargetBefore tokens (index + 1)) := by
  obtain ⟨tokens, openers, _, htokens, hopeners, _, _, hsource, _⟩ :=
    Parsed.ofSource_eq_ok (parse_eq_ok h)
  refine ⟨tokens, hsource ▸ htokens, ?_⟩
  intro index hindex cut kept
  have hkept : Token.tokenize (Source.ofString cut path) = .ok kept := tokenize_cutAt htokens hindex
  have hopened := unclosed_tokensUpTo htokens hindex hopeners
  refine ⟨hkept, ⟨?_, recovers_of_not_stopsAtTarget hkept hopened⟩, ?_⟩
  . intro ⟨_, hparsed, _⟩ hstops
    rw [parse_of_stopsAtTarget hkept hopened hstops] at hparsed
    cases hparsed
  . intro hstops
    refine ⟨parse_of_stopsAtTarget hkept hopened hstops, ?_⟩
    have := Lawful.of_tiles (Token.Tiles.of_tokenize hkept)
    obtain ⟨opener, _, hbracket, hcolon, _⟩ := hstops
    have hlt := lt_last_of_isPunct hcolon
    have hlast : last kept.toArray ≤ index + 1 := last_tokensUpTo_le hindex
    rw [tokenAt_tokensUpTo (by omega)] at hbracket hcolon
    exact ⟨opener, by omega, hbracket, hcolon⟩

/-- The brace of the class and the bracket of the method are missing a partner each. -/
example : ((parse "class C \x7b void M(" none).map fun parsed =>
    parsed.recoveries.length).toOption = some 2 := by
  decide +kernel

/-- Behind the first parameter of a method, two brackets are open. -/
theorem cut_recovers_iff_parameter :
    let text := "class C \x7b void M(int x) \x7b \x7d \x7d"
    ∃ parsed tokens, parse text none = .ok parsed ∧ Token.tokenize parsed.source = .ok tokens ∧
      Recovers (cutAt text (stopAt tokens.toArray 7)) none (Token.openBefore tokens.toArray 8) ∧
      (Token.openBefore tokens.toArray 8).map (·.text) = ["\x7b", "("] := by
  intro text
  have hok : (parse text none).isOk = true := by decide +kernel
  obtain ⟨parsed, h⟩ := exists_eq_ok hok
  obtain ⟨tokens, htokens, hcut⟩ := cut_recovers_iff h
  have htokenized : ((Token.tokenize (Source.ofString text none)).map fun tokens =>
      (tokens.length, tokens.any (·.isPunct ["["]),
        (Token.openBefore tokens.toArray 8).map (·.text))).toOption =
      some (13, false, ["\x7b", "("]) := by
    decide +kernel
  obtain ⟨tokens', htokens', heq⟩ := map_eq_ok.1 (eq_ok_of_toOption htokenized)
  rw [(parse_sited h).1, htokens'] at htokens
  cases htokens
  simp only [Prod.mk.injEq] at heq
  obtain ⟨hlength, hbrackets, hopened⟩ := heq
  refine ⟨parsed, tokens, h, (parse_sited h).1 ▸ htokens', ?_, hopened⟩
  obtain ⟨_, hrecovers, htarget⟩ := hcut 7 (by omega)
  rw [hrecovers]
  intro hstops
  obtain ⟨index, hlt, hbracket, _⟩ := (htarget hstops).2
  rw [tokenAt_eq_getElem (by simp; omega), List.getElem_toArray] at hbracket
  rw [List.any_eq_false] at hbrackets
  exact hbrackets _ (List.getElem_mem _) hbracket

/-- The name of an attribute of the whole file may not break off behind its point. -/
theorem cut_in_target :
    let text := "[assembly: A.B]"
    ∃ parsed tokens, parse text none = .ok parsed ∧ Token.tokenize parsed.source = .ok tokens ∧
      ∃ index, index < tokens.length ∧
        parse (cutAt text (stopAt tokens.toArray index)) none = .error .attributeTarget := by
  intro text
  have hok : (parse text none).isOk = true := by decide +kernel
  obtain ⟨parsed, h⟩ := exists_eq_ok hok
  have hcut : ((Token.tokenize (Source.ofString text none)).map fun tokens =>
      (tokens.length, (parse (cutAt text (stopAt tokens.toArray 4)) none).map fun _ => ())).toOption
        = some (8, .error .attributeTarget) := by
    decide +kernel
  obtain ⟨tokens, htokens, heq⟩ := map_eq_ok.1 (eq_ok_of_toOption hcut)
  simp only [Prod.mk.injEq] at heq
  exact ⟨parsed, tokens, h, (parse_sited h).1 ▸ htokens, 4, by omega, map_eq_error.1 heq.2⟩

end ThreadLint
