import ThreadLint.Proofs.Token.Tiling

/-!
This module contains what a byte order mark does to the tokens of a text. No lexeme looks at its own offset, so
the tokens of a text move with it. The mark itself is trivia, but it is not an indentation: a number sign behind
it does not stand at the beginning of a line, and no longer makes a preprocessor line.
-/

namespace ThreadLint

namespace Token

theorem triviaLength_offset (offset other : Nat) (fresh : Bool) (cs : List Char) :
    (triviaLength offset fresh cs).toOption = (triviaLength other fresh cs).toOption := by
  fun_induction triviaLength offset fresh cs generalizing other with
  | case1 => simp [triviaLength]
  | case2 offset fresh rest line =>
    rename_i ih
    rw [triviaLength, toOption_bind, toOption_bind, ih]
  | case3 offset fresh rest hbody =>
    rw [triviaLength, hbody]
    rfl
  | case4 offset fresh rest body hbody ih =>
    rw [triviaLength, hbody]
    dsimp only
    rw [toOption_bind, toOption_bind, ih]
  | case5 offset fresh c rest hline hcomment hspacing ih =>
    rw [triviaLength.eq_4 _ _ _ _ hline hcomment, if_pos hspacing, toOption_bind, toOption_bind, ih]
  | case6 offset fresh c rest hline hcomment hspacing hsign line =>
    rename_i ih
    rw [triviaLength.eq_4 _ _ _ _ hline hcomment, if_neg hspacing, if_pos hsign]
    dsimp only
    rw [toOption_bind, toOption_bind, ih]
  | case7 offset fresh c rest hline hcomment hspacing hsign =>
    rw [triviaLength.eq_4 _ _ _ _ hline hcomment, if_neg hspacing, if_neg hsign]

theorem holeLength_offset (literal literal' offset other depth : Nat) (cs : List Char) :
    (holeLength literal offset depth cs).toOption
      = (holeLength literal' other depth cs).toOption := by
  fun_induction holeLength literal offset depth cs generalizing other with
  | case1 | case11 =>
    rw [holeLength]
    rfl
  | case2 offset depth rest ih => rw [holeLength, toOption_bind, toOption_bind, ih]
  | case3 offset depth rest hdepth => rw [holeLength, if_pos hdepth]
  | case4 offset depth rest hdepth ih =>
    rw [holeLength, if_neg hdepth, toOption_bind, toOption_bind, ih]
  | case5 offset depth rest hinner | case7 offset depth rest hinner
  | case9 offset depth rest hinner =>
    rw [holeLength, hinner]
    rfl
  | case6 offset depth rest inner hinner ih | case8 offset depth rest inner hinner ih
  | case10 offset depth rest inner hinner ih =>
    rw [holeLength, hinner]
    dsimp only
    rw [toOption_bind, toOption_bind, ih]
  | case12 offset depth c rest hopen hclose hplain hverbatim hcharacter hfeed ih =>
    rw [holeLength.eq_8 _ _ _ _ _ hopen hclose hplain hverbatim hcharacter hfeed,
      toOption_bind, toOption_bind, ih]

theorem interpolatedLength_offset (verbatim : Bool) (literal literal' offset other : Nat)
    (cs : List Char) :
    (interpolatedLength verbatim literal offset cs).toOption
      = (interpolatedLength verbatim literal' other cs).toOption := by
  fun_induction interpolatedLength verbatim literal offset cs generalizing other with
  | case1 =>
    rw [interpolatedLength]
    rfl
  | case2 offset rest hverbatim ih | case5 offset c rest hverbatim ih
  | case7 offset rest hverbatim ih =>
    rw [interpolatedLength, if_pos hverbatim, toOption_bind, toOption_bind, ih]
  | case3 offset rest hverbatim => rw [interpolatedLength, if_neg hverbatim]
  | case4 offset rest hsingle => rw [interpolatedLength.eq_3 _ _ _ _ hsingle]
  | case6 offset c rest hverbatim ih =>
    rw [interpolatedLength, if_neg hverbatim, toOption_bind, toOption_bind, ih]
  | case8 offset rest hverbatim =>
    rw [interpolatedLength, if_neg hverbatim]
    rfl
  | case9 offset rest ih => rw [interpolatedLength, toOption_bind, toOption_bind, ih]
  | case10 offset rest hdoubled ih =>
    rw [interpolatedLength.eq_7 _ _ _ _ hdoubled, toOption_bind, toOption_bind,
      holeLength_offset literal literal' (offset + 1) (other + 1)]
    congr 1
    funext hole
    rw [toOption_bind, toOption_bind, ih]
  | case11 offset c rest hdoubled hquote hescape hfeed hbraces hbrace ih =>
    rw [interpolatedLength.eq_8 _ _ _ _ _ hdoubled hquote hescape hfeed hbraces hbrace,
      toOption_bind, toOption_bind, ih]

theorem rawLength_literal (literal other : Nat) (cs : List Char) :
    (rawLength literal cs).toOption = (rawLength other cs).toOption := by
  unfold rawLength
  dsimp only
  split
  . rfl
  . rfl

theorem quotedLength_literal (interpolated verbatim : Bool) (literal other : Nat) (cs : List Char) :
    (quotedLength interpolated verbatim literal cs).toOption
      = (quotedLength interpolated verbatim other cs).toOption := by
  unfold quotedLength
  split
  . rfl
  . exact rawLength_literal literal other _
  . dsimp only
    split
    . rw [toOption_bind, toOption_bind,
        interpolatedLength_offset verbatim literal other (literal + 1) (other + 1)]
    . split
      . rfl
      . rfl

theorem stringLength_offset (offset other : Nat) (cs : List Char) :
    (stringLength offset cs).toOption = (stringLength other cs).toOption := by
  unfold stringLength
  rw [toOption_bind, toOption_bind, quotedLength_literal]

/-- What a lexeme is does not depend on where it stands. -/
theorem lexeme_offset (offset other : Nat) (cs : List Char) :
    (lexeme offset cs).toOption = (lexeme other cs).toOption := by
  unfold lexeme
  split
  . rw [toOption_bind, toOption_bind, stringLength_offset offset other]
  . split
    . split
      . rfl
      . rfl
    . split
      . rfl
      . split
        . rfl
        . split
          . rfl
          . rfl

/--
A token some characters further behind.
-/
def movedBy (distance : Nat) (token : Token) : Token :=
  { token with start := token.start + distance }

/-- The tokens of a text move with the text. -/
theorem tokensFrom_movedBy (distance offset : Nat) (fresh : Bool) (cs : List Char) :
    (tokensFrom (offset + distance) fresh cs).toOption
      = (tokensFrom offset fresh cs).toOption.map (List.map (movedBy distance)) := by
  fun_induction tokensFrom offset fresh cs with
  | case1 offset fresh cs ih =>
    rw [tokensFrom, toOption_bind, toOption_bind, triviaLength_offset (offset + distance) offset]
    cases (triviaLength offset fresh cs).toOption with
    | none => rfl
    | some trivia =>
      rw [Option.bind_some, Option.bind_some]
      split
      . simp [pure, Except.pure, Except.toOption, movedBy, Nat.add_right_comm]
      . next c rest hdrop =>
        rw [toOption_bind, toOption_bind,
          lexeme_offset (offset + distance + trivia) (offset + trivia)]
        cases (lexeme (offset + trivia) (c :: rest)).toOption with
        | none => rfl
        | some found =>
          obtain ⟨kind, length⟩ := found
          have hothers := ih trivia c rest hdrop length
          rw [Option.bind_some, Option.bind_some, toOption_bind, toOption_bind,
            show offset + distance + trivia + length = offset + trivia + length + distance by omega,
            hothers]
          cases (tokensFrom (offset + trivia + length) false (rest.drop (length - 1))).toOption with
          | none => rfl
          | some others =>
            simp [pure, Except.pure, Except.toOption, movedBy, Nat.add_right_comm]

/-! ### The first line -/

/--
Whether a character indents a line.
-/
def isIndentation (c : Char) : Bool :=
  c == ' ' || c == '\t'

/--
Whether a text begins with a preprocessor line.
-/
def beginsWithDirective (cs : List Char) : Bool :=
  (cs.dropWhile isIndentation).head? == some '#'

theorem beginsWithDirective_cons {c : Char} {rest : List Char} (h : isIndentation c = true) :
    beginsWithDirective (c :: rest) = beginsWithDirective rest := by
  unfold beginsWithDirective
  rw [List.dropWhile_cons_of_pos h]

theorem beginsWithDirective_iff {c : Char} {rest : List Char} (h : ¬ isIndentation c = true) :
    beginsWithDirective (c :: rest) = true ↔ c = '#' := by
  unfold beginsWithDirective
  rw [List.dropWhile_cons_of_neg h]
  simp

theorem triviaLength_indentation {offset : Nat} {fresh : Bool} {c : Char} {rest : List Char}
    (h : isIndentation c = true) :
    triviaLength offset fresh (c :: rest) = (triviaLength (offset + 1) fresh rest).map (1 + ·) := by
  unfold isIndentation at h
  rw [Bool.or_eq_true, beq_iff_eq, beq_iff_eq] at h
  rcases h with rfl | rfl
  . rw [triviaLength.eq_4 _ _ _ _ (by simp) (by simp), if_pos (by decide)]
    simp only [freshAfter]
    cases fresh
    . rfl
    . rfl
  . rw [triviaLength.eq_4 _ _ _ _ (by simp) (by simp), if_pos (by decide)]
    simp only [freshAfter]
    cases fresh
    . rfl
    . rfl

/-- On the first line, only a preprocessor line depends on what stands in front of it. -/
theorem triviaLength_fresh {offset : Nat} {cs : List Char} (h : beginsWithDirective cs = false) :
    triviaLength offset false cs = triviaLength offset true cs := by
  induction cs generalizing offset with
  | nil => simp [triviaLength]
  | cons c rest ih =>
    by_cases hindent : isIndentation c = true
    . rw [beginsWithDirective_cons hindent] at h
      rw [triviaLength_indentation hindent, triviaLength_indentation hindent, ih h]
    . have hsign : c ≠ '#' := by
        intro heq
        rw [(beginsWithDirective_iff hindent).2 heq] at h
        cases h
      have hfresh : freshAfter true c = freshAfter false c := by
        unfold isIndentation at hindent
        unfold freshAfter
        rw [Bool.eq_false_iff.2 hindent]
        rfl
      unfold triviaLength
      split
      . rfl
      . rfl
      . rfl
      . next heq =>
        cases heq
        rw [hfresh]
        simp [hsign]

theorem tokensFrom_fresh {offset : Nat} {cs : List Char} (h : beginsWithDirective cs = false) :
    tokensFrom offset false cs = tokensFrom offset true cs := by
  rw [tokensFrom, tokensFrom, triviaLength_fresh h]

/-- At the beginning of a line, a preprocessor line is trivia. Elsewhere its number sign is not. -/
theorem triviaLength_directive {offset : Nat} {cs : List Char} (h : beginsWithDirective cs = true) :
    ∃ length, triviaLength offset false cs = .ok length ∧
      ∀ other trivia, triviaLength other true cs = .ok trivia → length < trivia := by
  induction cs generalizing offset with
  | nil => cases h
  | cons c rest ih =>
    by_cases hindent : isIndentation c = true
    . rw [beginsWithDirective_cons hindent] at h
      obtain ⟨length, hlength, hdirective⟩ := @ih (offset + 1) h
      refine ⟨1 + length, ?_, ?_⟩
      . rw [triviaLength_indentation hindent, hlength]
        rfl
      . intro other trivia htrivia
        rw [triviaLength_indentation hindent, map_eq_ok] at htrivia
        obtain ⟨more, hmore, rfl⟩ := htrivia
        have := hdirective _ more hmore
        omega
    . rw [beginsWithDirective_iff hindent] at h
      subst h
      refine ⟨0, ?_, ?_⟩
      . rw [triviaLength.eq_4 _ _ _ _ (by simp) (by simp)]
        rfl
      . intro other trivia htrivia
        rw [triviaLength.eq_4 _ _ _ _ (by simp) (by simp)] at htrivia
        obtain ⟨more, _, hmore⟩ := bind_eq_ok.1 htrivia
        cases hmore
        omega

theorem head_of_tokensFrom {offset trivia : Nat} {fresh : Bool} {cs : List Char}
    {tokens : List Token} (h : tokensFrom offset fresh cs = .ok tokens)
    (htrivia : triviaLength offset fresh cs = .ok trivia) :
    ∃ first rest, tokens = first :: rest ∧ first.start = offset + trivia := by
  obtain ⟨trivia', htrivia', h⟩ := tokensFrom_eq_ok h
  rw [htrivia] at htrivia'
  cases htrivia'
  rcases h with ⟨_, rfl⟩ | ⟨_, _, _, _, _, _, _, _, rfl⟩
  . exact ⟨_, _, rfl, rfl⟩
  . exact ⟨_, _, rfl, rfl⟩

/-! ### Byte order marks -/

/--
A text with a byte order mark in front of it.
-/
def marked (text : String) : String :=
  String.ofList ('\ufeff' :: text.toList)

/--
What a token is apart from the trivia in front of it: its class, its text and where it stands.
-/
def sight (token : Token) : TokenKind × String × Nat :=
  (token.kind, token.text, token.start)

/--
Either both of two texts are divided into tokens or neither is, and the tokens of the second one are those of
the first one, one character further behind.
-/
structure MovesTokens (outcome moved : Except SyntaxFault (List Token)) : Prop where
  isOk_iff : moved.isOk = outcome.isOk
  sights_eq : ∀ {tokens others : List Token}, outcome = .ok tokens → moved = .ok others →
    others.map sight = tokens.map fun token => (movedBy 1 token).sight

theorem triviaLength_mark (cs : List Char) :
    triviaLength 0 true ('\ufeff' :: cs) = (triviaLength 1 false cs).map (1 + ·) := by
  rw [triviaLength.eq_4 _ _ _ _ (by simp) (by simp), if_pos (by decide)]
  rfl

/-- A byte order mark is trivia, and what follows it does not stand at the beginning of a line. -/
theorem tokensFrom_mark (cs : List Char) :
    (tokensFrom 0 true ('\ufeff' :: cs)).toOption.map (List.map sight)
      = (tokensFrom 1 false cs).toOption.map (List.map sight) := by
  rw [tokensFrom, tokensFrom, triviaLength_mark, toOption_bind, toOption_bind]
  cases triviaLength 1 false cs with
  | error flaw => rfl
  | ok trivia =>
    have hdrop : ('\ufeff' :: cs).drop (1 + trivia) = cs.drop trivia := by
      rw [Nat.add_comm, List.drop_succ_cons]
    change Option.map _ (Option.bind (some (1 + trivia)) _)
      = Option.map _ (Option.bind (some trivia) _)
    rw [Option.bind_some, Option.bind_some]
    split
    . next hnil =>
      rw [hdrop] at hnil
      split
      . rw [Nat.zero_add]
        rfl
      . next hcons =>
        rw [hnil] at hcons
        cases hcons
    . next c rest hcons =>
      rw [hdrop] at hcons
      split
      . next hnil =>
        rw [hcons] at hnil
        cases hnil
      . next hcons' =>
        rw [hcons] at hcons'
        cases hcons'
        rw [Nat.zero_add, toOption_bind, toOption_bind]
        cases (lexeme (1 + trivia) (c :: rest)).toOption with
        | none => rfl
        | some found =>
          rw [Option.bind_some, Option.bind_some, toOption_bind, toOption_bind]
          cases (tokensFrom (1 + trivia + found.2) false (rest.drop (found.2 - 1))).toOption with
          | none => rfl
          | some others => rfl

theorem tokenize_toOption (text : String) (path : Option String) :
    (tokenize (Source.ofString text path)).toOption = (tokensFrom 0 true text.toList).toOption := by
  unfold tokenize
  rw [toOption_mapError]
  rfl

theorem MovesTokens.of_toOption {outcome moved : Except SyntaxFault (List Token)}
    (h : moved.toOption.map (List.map sight)
      = outcome.toOption.map (List.map fun token => (movedBy 1 token).sight)) :
    MovesTokens outcome moved := by
  constructor
  case isOk_iff =>
    cases outcome with
    | error fault =>
      cases moved with
      | error fault => rfl
      | ok others => cases h
    | ok tokens =>
      cases moved with
      | error fault => cases h
      | ok others => rfl
  case sights_eq =>
    rintro tokens others rfl rfl
    exact Option.some.inj h

theorem movesTokens_of_not_directive {text : String} (path : Option String)
    (h : beginsWithDirective text.toList = false) :
    MovesTokens (tokenize (Source.ofString text path))
      (tokenize (Source.ofString (marked text) path)) := by
  apply MovesTokens.of_toOption
  rw [tokenize_toOption, tokenize_toOption, marked, String.toList_ofList, tokensFrom_mark,
    tokensFrom_fresh h, ← Nat.zero_add 1, tokensFrom_movedBy, Option.map_map]
  congr 1
  funext tokens
  exact List.map_map

/-- Behind a mark, a preprocessor line begins with a token where none begins without the mark. -/
theorem not_movesTokens_of_directive {text : String} {path : Option String} {tokens : List Token}
    (h : beginsWithDirective text.toList = true)
    (htokens : tokenize (Source.ofString text path) = .ok tokens) :
    ¬ MovesTokens (tokenize (Source.ofString text path))
      (tokenize (Source.ofString (marked text) path)) := by
  intro hmoves
  obtain ⟨others, hothers⟩ :
      ∃ others, tokenize (Source.ofString (marked text) path) = .ok others := by
    apply exists_eq_ok
    rw [hmoves.isOk_iff, htokens]
    rfl
  have hsights := hmoves.sights_eq htokens hothers
  have htokens : (tokensFrom 0 true text.toList).toOption = some tokens := by
    rw [← tokenize_toOption text path, htokens]
    rfl
  have hmarked : (tokensFrom 1 false text.toList).toOption.map (List.map sight)
      = some (others.map sight) := by
    rw [← tokensFrom_mark, ← String.toList_ofList (l := '\ufeff' :: text.toList), ← marked,
      ← tokenize_toOption (marked text) path, hothers]
    rfl
  obtain ⟨behind, hbehind, hsame⟩ := Option.map_eq_some_iff.1 hmarked
  rw [hsights] at hsame
  obtain ⟨length, hlength, hdirective⟩ := @triviaLength_directive 1 _ h
  obtain ⟨trivia, htrivia, _⟩ := tokensFrom_eq_ok (eq_ok_of_toOption htokens)
  obtain ⟨first, _, rfl, hfirst⟩ := head_of_tokensFrom (eq_ok_of_toOption htokens) htrivia
  obtain ⟨sign, _, rfl, hsign⟩ := head_of_tokensFrom (eq_ok_of_toOption hbehind) hlength
  have hlt : length < trivia := hdirective _ _ htrivia
  simp only [List.map_cons, List.cons.injEq, sight, movedBy, Prod.mk.injEq] at hsame
  have := hsame.1.2.2
  omega

/--
A byte order mark in front of a text moves the tokens of the text by one character, unless the text begins with
a preprocessor line. A text that does is moved only if it has no tokens, with and without the mark.
-/
theorem tokenize_marked_iff (text : String) (path : Option String) :
    MovesTokens (tokenize (Source.ofString text path))
        (tokenize (Source.ofString (marked text) path)) ↔
      (beginsWithDirective text.toList = true →
        (tokenize (Source.ofString text path)).isOk = false ∧
          (tokenize (Source.ofString (marked text) path)).isOk = false) := by
  constructor
  . intro hmoves hdirective
    have hnot : (tokenize (Source.ofString text path)).isOk = false := by
      cases htokens : tokenize (Source.ofString text path) with
      | error fault => rfl
      | ok tokens => exact absurd hmoves (not_movesTokens_of_directive hdirective htokens)
    exact ⟨hnot, hmoves.isOk_iff.trans hnot⟩
  . intro hfails
    cases hdirective : beginsWithDirective text.toList with
    | false => exact movesTokens_of_not_directive path hdirective
    | true =>
      obtain ⟨hfail, hfail'⟩ := hfails hdirective
      refine ⟨hfail'.trans hfail.symm, ?_⟩
      intro tokens others htokens
      rw [htokens] at hfail
      cases hfail

/-- The condition of a preprocessor line becomes code behind a byte order mark. -/
theorem marked_directive :
    ¬ MovesTokens (tokenize (Source.ofString "#if X\nx" none))
      (tokenize (Source.ofString (marked "#if X\nx") none)) := by
  intro hmoves
  have hplain : ((tokenize (Source.ofString "#if X\nx" none)).map List.length).toOption = some 2 := by
    decide +kernel
  have hmarked :
      ((tokenize (Source.ofString (marked "#if X\nx") none)).map List.length).toOption = some 5 := by
    decide +kernel
  obtain ⟨tokens, htokens, hlength⟩ := map_eq_ok.1 (eq_ok_of_toOption hplain)
  obtain ⟨others, hothers, hlength'⟩ := map_eq_ok.1 (eq_ok_of_toOption hmarked)
  have hsights := congrArg List.length (hmoves.sights_eq htokens hothers)
  rw [List.length_map, List.length_map, hlength, hlength'] at hsights
  cases hsights

end Token
end ThreadLint
