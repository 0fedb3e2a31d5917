import ThreadLint.Proofs.Except
import ThreadLint.Proofs.Token.Open

/-!
This module contains the words of brackets that are well nested, and that both the check of the
nesting and the search for the bracket that closes another one are about them: the check accepts the
beginnings of such words, and the search finds the other end of a group of one.
-/

namespace ThreadLint.Token

/--
Whether a word of brackets is well nested: there is nothing in it, or it begins with a bracket that
is closed behind a well nested word, and the rest is well nested too.
-/
inductive WellNested : List String → Prop where
  | nil : WellNested []
  | group {opener closer : String} {inner rest : List String}
    (fitting : (opener, closer) ∈ brackets)
    (hinner : WellNested inner)
    (hrest : WellNested rest) :
    WellNested (opener :: (inner ++ closer :: rest))

/--
Whether a token is a bracket.
-/
def isBracket (token : Token) : Bool :=
  token.isOpener || token.isCloser

/--
The word of the brackets among some tokens.
-/
def bracketWord (tokens : List Token) : List String :=
  (tokens.filter isBracket).map text

/--
The tokens from one index up to another.
-/
def between (tokens : List Token) (start stop : Nat) : List Token :=
  (tokens.take stop).drop start

/--
Whether the bracket at an index belongs to the opening one at another: it is of the kind that closes
it, and what stands between them is well nested.
-/
structure Closes (tokens : List Token) (opener closer : Nat) : Prop where
  lt : opener < closer
  fitting : Fitting tokens.toArray opener closer
  inner : WellNested (bracketWord (between tokens (opener + 1) closer))

/-! ### Words of brackets -/

theorem WellNested.append {first second : List String} (h : WellNested first)
    (hsecond : WellNested second) : WellNested (first ++ second) := by
  induction h with
  | nil => exact hsecond
  | group fitting hinner _ _ ih =>
    rw [List.cons_append, List.append_assoc, List.cons_append]
    exact .group fitting hinner ih

theorem lookup_brackets {opener closer : String} (h : (opener, closer) ∈ brackets) :
    brackets.lookup opener = some closer ∧ brackets.lookup closer = none := by
  have hall : ∀ bracket ∈ brackets,
      brackets.lookup bracket.1 = some bracket.2 ∧ brackets.lookup bracket.2 = none := by
    decide
  exact hall _ h

/--
The closing brackets that are due behind a bracket, the next one first, if some are due in front of
it. There are none if the bracket closes another one than the last that is open.
-/
def dueBehind (closers : List String) (bracket : String) : Option (List String) :=
  match brackets.lookup bracket with
  | some closer => some (closer :: closers)
  | none =>
    match closers with
    | [] => none
    | closer :: outer => if bracket = closer then some outer else none

theorem dueBehind_opener {closers : List String} {opener closer : String}
    (h : brackets.lookup opener = some closer) :
    dueBehind closers opener = some (closer :: closers) := by
  simp [dueBehind, h]

theorem dueBehind_closer {bracket closer : String} {outer : List String}
    (h : brackets.lookup bracket = none) :
    dueBehind (closer :: outer) bracket = if bracket = closer then some outer else none := by
  simp [dueBehind, h]

/-- Behind a well nested word the same brackets are due as in front of it. -/
theorem WellNested.foldlM_dueBehind {word : List String} (h : WellNested word)
    (closers : List String) : word.foldlM dueBehind closers = some closers := by
  induction h generalizing closers with
  | nil => rfl
  | @group opener closer inner rest fitting _ _ ihinner ihrest =>
    obtain ⟨hopener, hcloser⟩ := lookup_brackets fitting
    simp only [List.foldlM_cons, List.foldlM_append, Option.bind_eq_bind, Option.bind_some,
      dueBehind_opener hopener, ihinner, dueBehind_closer hcloser, if_true, ihrest]

/-! ### Brackets among tokens -/

section

variable {tokens : List Token}

theorem bracketWord_append (first second : List Token) :
    bracketWord (first ++ second) = bracketWord first ++ bracketWord second := by
  unfold bracketWord
  rw [List.filter_append, List.map_append]

theorem bracketWord_cons (token : Token) (tokens : List Token) :
    bracketWord (token :: tokens)
      = if token.isBracket then token.text :: bracketWord tokens else bracketWord tokens := by
  unfold bracketWord
  rw [List.filter_cons]
  split <;> rfl

theorem isBracket_of_isOpener {token : Token} (h : token.isOpener = true) :
    token.isBracket = true := by
  rw [isBracket, h, Bool.true_or]

theorem isBracket_of_isCloser {token : Token} (h : token.isCloser = true) :
    token.isBracket = true := by
  rw [isBracket, h, Bool.or_true]

theorem closer?_eq_lookup {token : Token} (h : token.isBracket = true) :
    token.closer? = brackets.lookup token.text := by
  have hkind : token.kind = .punct := by
    rw [isBracket, Bool.or_eq_true] at h
    cases h with
    | inl h => exact (isOpener_text h).1
    | inr h => exact (isPunct_iff.1 h).1
  rw [closer?, hkind]
  rfl

/-- A bracket of a word stands for a token. -/
theorem exists_of_bracketWord_eq {first second : List String} {bracket : String}
    (h : bracketWord tokens = first ++ bracket :: second) :
    ∃ front token back, tokens = front ++ token :: back ∧ bracketWord front = first ∧
      token.text = bracket ∧ token.isBracket = true ∧ bracketWord back = second := by
  unfold bracketWord at h
  obtain ⟨found, others, hfilter, hfirst, hothers⟩ := List.map_eq_append_iff.1 h
  obtain ⟨token, rest, hcons, htext, hrest⟩ := List.map_eq_cons_iff.1 hothers
  rw [hcons] at hfilter
  obtain ⟨front, tail, rfl, hfront, htail⟩ := List.filter_eq_append_iff.1 hfilter
  obtain ⟨plain, back, rfl, hplain, htoken, hback⟩ := List.filter_eq_cons_iff.1 htail
  refine ⟨front ++ plain, token, back, by simp, ?_, htext, htoken, ?_⟩
  . rw [bracketWord, List.filter_append, hfront, List.filter_eq_nil_iff.2 hplain, List.append_nil,
      hfirst]
  . rw [bracketWord, hback, hrest]

/-! ### Tokens between two indices -/

theorem between_self (index : Nat) : between tokens index index = [] := by
  simp [between]

theorem between_cons {start stop : Nat} (hstart : start < tokens.length) (hstop : start < stop) :
    between tokens start stop = tokens[start] :: between tokens (start + 1) stop := by
  unfold between
  have hlt : start < (tokens.take stop).length := by
    rw [List.length_take]
    omega
  rw [List.drop_eq_getElem_cons hlt, List.getElem_take]

theorem between_append {start middle stop : Nat} (hmiddle : start ≤ middle) (hstop : middle ≤ stop) :
    between tokens start stop = between tokens start middle ++ between tokens middle stop := by
  unfold between
  rw [← List.take_append_drop (middle - start) ((tokens.take stop).drop start), List.drop_drop,
    List.take_drop, List.take_take]
  congr 3 <;> omega

/-- Brackets that come in groups make a well nested word. -/
theorem Balanced.wellNested {start stop : Nat} (h : Balanced tokens.toArray start stop) :
    WellNested (bracketWord (between tokens start stop)) := by
  induction h with
  | nil =>
    rw [between_self]
    exact .nil
  | @plain index stop hindex hopener hcloser tail ih =>
    have hindex : index < tokens.length := hindex
    have hle := tail.le
    rw [between_cons hindex (by omega), bracketWord_cons, if_neg]
    . exact ih
    . simpa [isBracket] using And.intro hopener hcloser
  | @group opener closer stop fitting inner tail ihinner ihtail =>
    obtain ⟨hopener, hisOpener⟩ := fitting.isOpener
    obtain ⟨_, hcloser, htext, hisCloser⟩ := fitting
    rw [List.getElem_toArray] at hisOpener hisCloser htext
    have hopener : opener < tokens.length := hopener
    have hcloser : closer < tokens.length := hcloser
    have hinner := inner.le
    have htail := tail.le
    rw [between_cons hopener (by omega), between_append hinner (show closer ≤ stop by omega),
      between_cons hcloser (by omega), bracketWord_cons, if_pos (isBracket_of_isOpener hisOpener),
      bracketWord_append, bracketWord_cons, if_pos (isBracket_of_isCloser hisCloser)]
    exact .group (closer?_eq_some htext).2 ihinner ihtail

theorem between_of_eq_append {start stop : Nat} {front back : List Token} {token : Token}
    (hstop : stop ≤ tokens.length) (h : between tokens start stop = front ++ token :: back) :
    ∃ (middle : Nat) (hmiddle : middle < tokens.length), start ≤ middle ∧ middle < stop ∧
      tokens[middle] = token ∧ between tokens start middle = front ∧
        between tokens (middle + 1) stop = back := by
  have hlength := congrArg List.length h
  rw [between, List.length_drop, List.length_take, List.length_append, List.length_cons] at hlength
  have hmiddle : start + front.length < tokens.length := by omega
  have hlt : start + front.length < stop := by omega
  have hsplit : between tokens start stop = between tokens start (start + front.length) ++
      between tokens (start + front.length) stop :=
    between_append (by omega) (by omega)
  rw [between_cons hmiddle hlt, h] at hsplit
  have hfront : (between tokens start (start + front.length)).length = front.length := by
    rw [between, List.length_drop, List.length_take]
    omega
  obtain ⟨hfirst, hsecond⟩ := List.append_inj hsplit hfront.symm
  obtain ⟨htoken, hback⟩ := List.cons.inj hsecond
  exact ⟨_, hmiddle, by omega, hlt, htoken.symm, hfirst.symm, hback.symm⟩

/-- In a well nested word brackets come in groups. -/
theorem balanced_of_wellNested {start stop : Nat} (hle : start ≤ stop) (hstop : stop ≤ tokens.length)
    (h : WellNested (bracketWord (between tokens start stop))) :
    Balanced tokens.toArray start stop := by
  by_cases heq : start = stop
  . rw [heq]
    exact .nil
  . have hlt : start < tokens.length := by omega
    rw [between_cons hlt (by omega), bracketWord_cons] at h
    split at h
    . next hbracket =>
      generalize hword : tokens[start].text :: bracketWord (between tokens (start + 1) stop) = word
        at h
      cases h with
      | nil => cases hword
      | @group opener closer inner rest fitting hinner hrest =>
        obtain ⟨hopener, hword⟩ := List.cons.inj hword
        obtain ⟨front, token, back, hbetween, rfl, htext, hisBracket, rfl⟩ :=
          exists_of_bracketWord_eq hword
        obtain ⟨middle, hmiddle, hfirst, hlast, rfl, rfl, rfl⟩ :=
          between_of_eq_append hstop hbetween
        have hfitting : Fitting tokens.toArray start middle := by
          refine ⟨hlt, hmiddle, ?_, ?_⟩
          . rw [List.getElem_toArray, List.getElem_toArray, closer?_eq_lookup hbracket, hopener,
              htext]
            exact (lookup_brackets fitting).1
          . rw [List.getElem_toArray]
            rw [isBracket, isOpener, closer?_eq_lookup hisBracket, htext,
              (lookup_brackets fitting).2] at hisBracket
            simpa using hisBracket
        exact .group hfitting (balanced_of_wellNested hfirst (by omega) hinner)
          (balanced_of_wellNested (by omega) hstop hrest)
    . next hbracket =>
      rw [Bool.not_eq_true, isBracket, Bool.or_eq_false_iff] at hbracket
      exact .plain hlt hbracket.1 hbracket.2 (balanced_of_wellNested (by omega) hstop h)
termination_by stop - start

end

/-! ### The check of the nesting -/

/-- The check goes on exactly if brackets are due behind the word that it has read. -/
theorem exists_go_eq_ok_iff {source : Source} {tokens opened : List Token}
    (hopened : ∀ token ∈ opened, token.isOpener = true) :
    (∃ openers, unclosed.go source opened tokens = .ok openers) ↔
      ((bracketWord tokens).foldlM dueBehind (opened.filterMap closer?)).isSome = true := by
  -- The check keeps the brackets that are open, the word only what is due for them.
  induction tokens generalizing opened with
  | nil => simp [unclosed.go, bracketWord]
  | cons token rest ih =>
    unfold unclosed.go
    rw [bracketWord_cons]
    split
    . next hopener =>
      obtain ⟨closer, hcloser⟩ := Option.isSome_iff_exists.1 hopener
      have hbracket := isBracket_of_isOpener hopener
      rw [ih (List.forall_mem_cons.2 ⟨hopener, hopened⟩), List.filterMap_cons_some hcloser]
      rw [closer?_eq_lookup hbracket] at hcloser
      rw [if_pos hbracket, List.foldlM_cons, dueBehind_opener hcloser]
      rfl
    . next hopener =>
      split
      . next hcloser =>
        have hbracket := isBracket_of_isCloser hcloser
        have hnone : brackets.lookup token.text = none := by
          rw [← closer?_eq_lookup hbracket]
          simpa [isOpener] using hopener
        rw [if_pos hbracket, List.foldlM_cons]
        cases opened with
        | nil => simp [dueBehind, hnone]
        | cons opener outer =>
          rw [List.forall_mem_cons] at hopened
          obtain ⟨due, hdue⟩ := Option.isSome_iff_exists.1 hopened.1
          rw [List.filterMap_cons_some hdue, dueBehind_closer hnone]
          dsimp only
          by_cases htext : token.text = due
          . rw [if_pos (by rw [hdue, htext]), if_pos htext]
            exact ih hopened.2
          . rw [if_neg (by simpa [hdue] using Ne.symm htext), if_neg htext]
            simp
      . next hcloser =>
        rw [if_neg (by simpa [isBracket] using And.intro hopener hcloser)]
        exact ih hopened

/-- What is open can be closed. -/
theorem Nested.wellNested {tokens : List Token} {stop : Nat} {opened : List Token}
    (h : Nested tokens.toArray stop opened) {word : List String} (hword : WellNested word) :
    WellNested (bracketWord (tokens.take stop) ++ (word ++ opened.filterMap closer?)) := by
  -- What is open outermost is closed last, so it is put around the word for what is open inside.
  induction h generalizing word with
  | nil inner =>
    have hinner := inner.wellNested
    rw [between, List.drop_zero] at hinner
    simpa using hinner.append hword
  | @cons opener stop outer hopener isOpener _ inner ih =>
    rw [List.getElem_toArray] at isOpener
    have hindex : opener < tokens.length := hopener
    obtain ⟨closer, hcloser⟩ := Option.isSome_iff_exists.1 isOpener
    have hle := inner.le
    have hfront : between tokens 0 stop = tokens.take opener ++
        tokens[opener] :: between tokens (opener + 1) stop := by
      rw [between_append (Nat.zero_le opener) (by omega), between_cons hindex (by omega)]
      rfl
    have hgroup := ih (.group (closer?_eq_some hcloser).2 (inner.wellNested.append hword) .nil)
    rw [between, List.drop_zero] at hfront
    rw [hfront, bracketWord_append, bracketWord_cons, if_pos (isBracket_of_isOpener isOpener),
      List.getElem_toArray, List.filterMap_cons_some hcloser]
    simpa using hgroup

/-- The check accepts the tokens whose brackets are the beginning of a well nested word. -/
theorem exists_unclosed_iff {source : Source} {tokens : List Token} :
    (∃ openers, unclosed source tokens = .ok openers) ↔
      ∃ rest, WellNested (bracketWord tokens ++ rest) := by
  constructor
  . rintro ⟨openers, h⟩
    obtain ⟨opened, hnested⟩ := exists_nested h (Nat.le_refl _)
    have hclosed := hnested.wellNested .nil
    rw [List.take_length] at hclosed
    exact ⟨_, hclosed⟩
  . rintro ⟨rest, h⟩
    have hdue := h.foldlM_dueBehind []
    rw [List.foldlM_append, Option.bind_eq_bind, Option.bind_eq_some_iff] at hdue
    obtain ⟨closers, hclosers, _⟩ := hdue
    apply (exists_go_eq_ok_iff (List.forall_mem_nil _)).2
    rw [List.filterMap_nil, hclosers]
    rfl

/-! ### The brackets that belong together -/

section

variable {source : Source} {tokens openers : List Token}
  (h : unclosed source tokens = .ok openers)

include h

theorem matching?_eq_some_iff {opener closer : Nat} :
    matching? tokens.toArray opener = some closer ↔ Closes tokens opener closer := by
  constructor
  . intro hmatching
    obtain ⟨hlt, hopener, hcloser, htext, hisCloser, _⟩ := matching?_eq_some hmatching
    exact ⟨hlt, ⟨hopener, hcloser, htext, hisCloser⟩, (balanced_of_matching? h hmatching).wellNested⟩
  . intro hcloses
    obtain ⟨_, hcloser, _⟩ := hcloses.fitting
    have hinner := balanced_of_wellNested hcloses.lt (Nat.le_of_lt hcloser) hcloses.inner
    exact hinner.matching?_eq hcloses.fitting

/-- The brackets that nothing closes are those for which the search finds nothing. -/
theorem map_unclosed :
    ((List.range tokens.length).filter fun index =>
      tokens[index]?.any isOpener && (matching? tokens.toArray index).isNone).map (tokens[·]?)
        = openers.map some := by
  rw [unclosed_eq h, openBefore, List.map_filterMap, ← List.filterMap_eq_map', List.filterMap_filter]
  apply List.filterMap_congr
  intro index hindex
  have hindex : index < tokens.length := List.mem_range.1 hindex
  have hall : (matching? tokens.toArray index).all (fun closer => decide (tokens.length ≤ closer))
      = (matching? tokens.toArray index).isNone := by
    cases hmatching : matching? tokens.toArray index with
    | none => rfl
    | some closer =>
      obtain ⟨_, _, hcloser, _⟩ := matching?_eq_some hmatching
      have hcloser : closer < tokens.length := hcloser
      simp [hcloser]
  simp only [List.getElem?_toArray, List.getElem?_eq_getElem hindex, Option.any_some, Option.filter,
    isOpenBefore, hall]
  split <;> simp_all

end

/--
The check of the nesting accepts the tokens whose brackets are the beginning of a well nested word. Of
these it gives the opening brackets that no bracket belongs to, in the order of the text. The search
finds nothing for them, and for each other one the bracket that belongs to it and to no other one.
-/
theorem nesting_exact (source : Source) (tokens : List Token) :
    ((∃ openers, unclosed source tokens = .ok openers) ↔
      ∃ rest, WellNested (bracketWord tokens ++ rest)) ∧
    ∀ openers, unclosed source tokens = .ok openers →
      ∃ indices : List Nat, indices.Pairwise (· < ·) ∧
        indices.map (tokens[·]?) = openers.map some ∧
        (∀ opener, opener ∈ indices ↔
          tokens[opener]?.any isOpener = true ∧ ¬∃ closer, Closes tokens opener closer) ∧
        (∀ opener, tokens[opener]?.any isOpener = true →
          (matching? tokens.toArray opener = none ↔ opener ∈ indices)) ∧
        (∀ opener closer,
          matching? tokens.toArray opener = some closer ↔ Closes tokens opener closer) ∧
        ∀ opener other closer, matching? tokens.toArray opener = some closer →
          matching? tokens.toArray other = some closer → opener = other := by
  refine ⟨exists_unclosed_iff, ?_⟩
  intro openers h
  have hmem (opener : Nat) :
      opener ∈ (List.range tokens.length).filter (fun index =>
        tokens[index]?.any isOpener && (matching? tokens.toArray index).isNone) ↔
          tokens[opener]?.any isOpener = true ∧ matching? tokens.toArray opener = none := by
    rw [List.mem_filter, Bool.and_eq_true, Option.isNone_iff_eq_none, List.mem_range]
    apply and_iff_right_of_imp
    rintro ⟨hopener, _⟩
    obtain ⟨token, htoken, _⟩ := (Option.any_eq_true _ _).1 hopener
    exact (List.getElem?_eq_some_iff.1 htoken).1
  refine ⟨_, List.pairwise_lt_range.filter _, map_unclosed h, ?_, ?_, ?_, ?_⟩
  . intro opener
    rw [hmem, Option.eq_none_iff_forall_ne_some]
    simp only [ne_eq, matching?_eq_some_iff h, not_exists]
  . intro opener hopener
    rw [hmem]
    simp [hopener]
  . exact fun _ _ => matching?_eq_some_iff h
  . exact fun _ _ _ => matching?_injective fun _ _ => balanced_of_matching? h

/-- Two brackets are left open here, one in front of a group with another one in it and one behind. -/
theorem nesting_exact_cut_short :
    let source := Source.ofString "\x7b (a[0]) (" none
    ∃ tokens openers, tokenize source = .ok tokens ∧ unclosed source tokens = .ok openers ∧
      openers.map start = [0, 9] ∧ matching? tokens.toArray 1 = some 6 ∧
        Closes tokens 1 6 := by
  intro source
  have hrun :
      ((tokenize source).toOption.bind fun tokens =>
        (unclosed source tokens).toOption.map fun openers =>
          (openers.map start, matching? tokens.toArray 1)) = some ([0, 9], some 6) := by
    decide +kernel
  obtain ⟨tokens, htokens, hrun⟩ := Option.bind_eq_some_iff.mp hrun
  obtain ⟨openers, hopeners, hrun⟩ := Option.map_eq_some_iff.mp hrun
  obtain ⟨hstarts, hmatching⟩ := Prod.mk.inj hrun
  have hopeners := eq_ok_of_toOption hopeners
  obtain ⟨_, _, _, _, _, hcloses, _⟩ := (nesting_exact source tokens).2 openers hopeners
  exact ⟨tokens, openers, eq_ok_of_toOption htokens, hopeners, hstarts, hmatching,
    (hcloses 1 6).1 hmatching⟩

end ThreadLint.Token
