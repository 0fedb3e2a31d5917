import ThreadLint.Grammar.Lambda
import ThreadLint.Proofs.Grammar.Entry

/-!
This module contains what the parsers for the heads of declarations ensure, and what those for
lambdas and anonymous delegates ensure.
-/

namespace ThreadLint.Parser

/-! ### Attributes, modifiers and parameters -/

section

variable {tokens : Array Token} [Lawful tokens] {cursor : Nat} {g : Grammar}

theorem attributeUse_ensures (hg : g.Sound tokens (cursor + 1)) (hcursor : cursor ≤ last tokens) :
    Ensures tokens (attributeUse g) cursor fun node next => Inside tokens cursor next node := by
  unfold attributeUse
  apply Ensures.here
  apply (typeUse_ensures hcursor).bind
  intro name behind hle hlast hname
  apply Ensures.atPunct
  extract_lets tail
  have htail : ∀ (arguments : List Node) (closer : Option Token) (next : Nat), behind ≤ next →
      next ≤ last tokens → Laid tokens behind next arguments →
      (∀ token ∈ closer, ∃ index, cursor ≤ index ∧ index < next ∧
        token.start = startAt tokens index) →
      Ensures tokens (tail (arguments, closer)) next fun node stop =>
        Inside tokens cursor stop node := by
    intro arguments closer next hbehind hnext harguments hcloser
    have := hname.1
    apply node_inside _ harguments (by omega)
    refine ⟨⟨behind - 1, by omega, by omega, ?_⟩, ?_, ?_⟩
    . rw [hname.2.1.1]
      rfl
    . intro start hstart
      simp only [Option.mem_def, Option.map_eq_some_iff] at hstart
      obtain ⟨token, htoken, rfl⟩ := hstart
      exact hcloser token htoken
    . exact harguments.clear_token_of_lt (by omega) hnext
  clear_value tail
  apply Ensures.ite
  . intro h
    have := hname.1
    apply (argumentList_ensures (hg.mono (by omega)) (.of_isPunct (by simp) h) (by simp)).bind
    rintro ⟨arguments, closer⟩ next hnext hlast ⟨hlt, harguments, hcloser⟩
    apply htail arguments closer next hnext hlast (harguments.mono (by omega))
    intro token htoken
    obtain ⟨index, hindex, hlt, hstart⟩ := hcloser token htoken
    exact ⟨index, by omega, hlt, hstart⟩
  . intro _
    apply Ensures.pure_bind
    apply htail [] none behind (Nat.le_refl _) hlast (laid_nil (Nat.le_refl _))
    rintro _ ⟨⟩

theorem single_of_isWordToken {index : Nat} (h : isWordToken (tokenAt tokens index) = true) :
    Single tokens index := by
  simp only [isWordToken, Bool.or_eq_true, beq_iff_eq] at h
  cases h with
  | inl h => exact .of_kind (by simp [h]) (by simp [h])
  | inr h => exact .of_kind (by simp [h]) (by simp [h])

theorem attributeLists_ensures (hg : g.Sound tokens (cursor + 1)) (hcursor : cursor ≤ last tokens) :
    Ensures tokens (attributeLists g) cursor fun nodes next =>
      Laid tokens cursor next nodes ∧
        ((tokenAt tokens cursor).isPunct ["["] = true → cursor < next) := by
  unfold attributeLists
  apply Ensures.bind (manyWhile_ensures (Laid tokens) hcursor _)
  . rintro lists next hle hlast ⟨hlists, hnot⟩
    refine .pure hlast ⟨.flatten hlists, ?_⟩
    intro hpunct
    apply Nat.lt_of_le_of_ne hle
    intro heq
    rw [← heq, hpunct] at hnot
    cases hnot
  . intro first hfirst _ hpunct
    have hsingle := Single.of_isPunct (by simp) hpunct
    have hlt := hsingle.lt
    apply Ensures.advance hsingle
    apply Ensures.current
    apply Ensures.peek
    extract_lets tail
    have htail : ∀ next, first < next → next ≤ last tokens →
        Ensures tokens (tail ()) next fun nodes stop =>
          first < stop ∧ Laid tokens first stop nodes := by
      intro next hnext hlast
      apply (commaList_ensures hlast _).bind
      . intro attributes behind hle hlast hattributes
        apply (Ensures.expect hlast "]" (by simp)).bind
        intro _ stop _ hlast _
        exact .pure hlast ⟨by omega, hattributes.mono (by omega)⟩
      . intro index hindex hlast _
        exact attributeUse_ensures (hg.mono (by omega)) hlast
    clear_value tail
    apply Ensures.ite
    . intro h
      rw [Bool.and_eq_true] at h
      have hsecond := Single.of_isPunct (by simp) h.2
      apply Ensures.advance (single_of_isWordToken h.1)
      apply Ensures.advance hsecond
      apply htail
      . omega
      . exact hsecond.lt
    . intro _
      exact htail _ (Nat.lt_succ_self _) hlt

theorem modifiers_ensures (hcursor : cursor ≤ last tokens) :
    Ensures tokens modifiers cursor fun _ _ => True := by
  apply loop_ensures (fun _ _ => True) hcursor trivial
  intro found index _ hlast _
  apply Ensures.current
  extract_lets isContextual
  apply Ensures.peek
  apply Ensures.ite
  . intro h
    have hsingle : Single tokens index := by
      rw [Bool.or_eq_true] at h
      cases h with
      | inl h => exact .of_isKeyword h
      | inr h =>
        simp only [isContextual, Bool.and_eq_true] at h
        exact .of_isIdentifier h.1.1
    apply Ensures.advance hsingle
    exact .pure hsingle.lt ⟨Nat.lt_succ_self _, trivial⟩
  . intro _
    exact .pure hlast trivial

theorem skipKeywords_ensures {texts : List String} (hcursor : cursor ≤ last tokens) :
    Ensures tokens (manyWhile (·.isKeyword texts) advance) cursor fun _ _ => True := by
  apply (manyWhile_ensures (fun _ _ _ => True) hcursor _).mono
  . intros
    trivial
  . intro first _ hlast hkeyword
    have hsingle := Single.of_isKeyword hkeyword
    have := hsingle.lt
    apply (Ensures.advance_or_stay hlast (.step hsingle.not_brace)).mono
    intro _ _ _ _ h
    exact ⟨by omega, trivial⟩

theorem parameter_ensures (hg : g.Sound tokens (cursor + 1)) (hcursor : cursor ≤ last tokens) :
    Ensures tokens (parameter g) cursor fun node next => Inside tokens cursor next node := by
  unfold parameter
  apply Ensures.here
  apply (attributeLists_ensures hg hcursor).bind
  intro _ next hle hlast _
  apply (skipKeywords_ensures hlast).bind
  intro _ next hle hlast _
  apply (anyType_ensures hlast).bind
  intro type next hle hlast htype
  apply Ensures.identifier
  intro _ hlt
  apply (Ensures.accept hlt "=" (by simp)).bind
  intro found next hle hlast _
  extract_lets tail
  have htail : ∀ initial stop, next ≤ stop → stop ≤ last tokens → Laid tokens next stop initial →
      Ensures tokens (tail initial) stop fun node stop => Inside tokens cursor stop node := by
    intro initial stop hle hlast hinitial
    exact node_inside trivial hinitial (by omega)
  clear_value tail
  apply Ensures.ite
  . intro _
    apply (hg.expression next (by omega) hlast).bind
    intro value stop hle hlast hvalue
    exact htail [value] stop hle hlast hvalue.laid
  . intro _
    exact htail [] next (Nat.le_refl _) hlast (laid_nil (by omega))

theorem parameterList_ensures {closer : String} (hg : g.Sound tokens (cursor + 1))
    (hcursor : Single tokens cursor) (hcloser : closer ≠ "\x7b") :
    Ensures tokens (parameterList g closer) cursor fun nodes next =>
      (cursor < next ∧ Laid tokens cursor next nodes) ∧
        (next = last tokens ∨ (tokenAt tokens (next - 1)).isPunct [closer] = true) := by
  unfold parameterList
  apply Ensures.advance hcursor
  apply (commaList_ensures hcursor.lt _).bind
  . intro parameters next hle hlast hparameters
    apply (Ensures.expect hlast closer hcloser).bind
    rintro _ _ _ hlast (⟨hpunct, _, _, rfl⟩ | ⟨_, rfl, rfl⟩)
    . exact .pure hlast ⟨⟨by omega, hparameters.mono (by omega)⟩, .inr hpunct⟩
    . exact .pure hlast ⟨⟨by omega, hparameters.mono (by omega)⟩, .inl rfl⟩
  . intro first hfirst hlast _
    exact parameter_ensures (hg.mono (by omega)) hlast

end

/-! ### Lambdas -/

variable {tokens : Array Token} {cursor : Nat}

theorem arrowFollowsGroup_ensures [Lawful tokens] {opener : Nat}
    (hopener : (tokenAt tokens opener).isOpener = true) (hcursor : cursor ≤ last tokens) :
    Ensures tokens (arrowFollowsGroup opener) cursor fun _ next => next = cursor := by
  unfold arrowFollowsGroup
  apply Ensures.closing? hopener
  split
  . next closer hclosing =>
    apply Ensures.tokenNumber (matching?_bounds hclosing).2
    exact .pure hcursor rfl
  . exact .pure hcursor rfl

/--
Whether a lambda may begin at an index. One that begins with the word `await` has it as its
parameter. No brace stands where its parameters are expected.
-/
structure OpensLambda (tokens : Array Token) (first : Nat) : Prop where
  begins : Begins (tokenAt tokens first) = true
  arrow : (tokenAt tokens first).isWord ["await"] = true →
    (tokenAt tokens (first + 1)).isPunct ["=>"] = true
  not_brace : (tokenAt tokens first).isPunct ["\x7b"] = false
  not_brace_of_async : (tokenAt tokens first).isWord ["async"] = true →
    (tokenAt tokens (first + 1)).isPunct ["\x7b"] = false

/-- Behind the word `async` stands what a lambda begins with. -/
theorem opensLambda_of_async (h : (tokenAt tokens cursor).isWord ["async"] = true)
    (hbrace : (tokenAt tokens (cursor + 1)).isPunct ["\x7b"] = false) : OpensLambda tokens cursor where
  begins := begins_of_isWord (by decide) h
  arrow hawait := by simpa using mem_of_isWord h hawait
  not_brace := isPunct_eq_false_of_isWord h
  not_brace_of_async _ := hbrace

/-- What begins with another word than `async` or with a parenthesis is no lambda behind `async`. -/
theorem opensLambda_of_not_async (hbegins : Begins (tokenAt tokens cursor) = true)
    (harrow : (tokenAt tokens cursor).isWord ["await"] = true →
      (tokenAt tokens (cursor + 1)).isPunct ["=>"] = true)
    (hbrace : (tokenAt tokens cursor).isPunct ["\x7b"] = false)
    (hasync : ¬ (tokenAt tokens cursor).isWord ["async"] = true) : OpensLambda tokens cursor where
  begins := hbegins
  arrow := harrow
  not_brace := hbrace
  not_brace_of_async h := absurd h hasync

theorem atLambda_ensures [Lawful tokens] (hcursor : cursor ≤ last tokens) :
    Ensures tokens atLambda cursor fun found next =>
      next = cursor ∧ (found = true → OpensLambda tokens cursor) := by
  have hpure : ∀ b : Bool, (b = true → OpensLambda tokens cursor) →
      Ensures tokens (pure b) cursor fun found next =>
        next = cursor ∧ (found = true → OpensLambda tokens cursor) :=
    fun _ h => .pure hcursor ⟨rfl, h⟩
  have hgroup : ∀ index, (tokenAt tokens index).isPunct ["("] = true → OpensLambda tokens cursor →
      Ensures tokens (arrowFollowsGroup index) cursor fun found next =>
        next = cursor ∧ (found = true → OpensLambda tokens cursor) :=
    fun _ hgroup h => (arrowFollowsGroup_ensures (Token.isOpener_of_isPunct (by decide) hgroup)
      hcursor).mono fun _ _ _ _ heq => ⟨heq, fun _ => h⟩
  unfold atLambda
  apply Ensures.current
  apply Ensures.peek
  apply Ensures.here
  apply Ensures.ite
  . intro h
    have hword := isWord_of_isKeyword h
    refine hpure _ fun _ => opensLambda_of_not_async (begins_of_isKeyword (by decide) h) ?_ ?_ ?_
    . intro hawait
      simpa using mem_of_isWord hword hawait
    . exact isPunct_eq_false_of_isWord hword
    . intro hasync
      simpa using mem_of_isWord hword hasync
  . intro _
    apply Ensures.ite
    . intro h
      apply Ensures.ite
      . intro hnext
        refine hpure _ fun _ => opensLambda_of_async h ?_
        exact isPunct_eq_false_of_isWord (isWord_of_isKeyword hnext)
      . intro _
        apply Ensures.peek
        apply Ensures.ite
        . intro hnext
          rw [Bool.and_eq_true] at hnext
          exact hpure _ fun _ =>
            opensLambda_of_async h (Single.of_isIdentifier hnext.1).not_brace
        . intro _
          apply Ensures.ite
          . intro hnext
            refine hgroup _ hnext (opensLambda_of_async h ?_)
            exact isPunct_eq_false_of_isPunct (by simp) hnext
          . intro _
            apply hpure
            simp
    . intro hasync
      apply Ensures.ite
      . intro h
        rw [Bool.and_eq_true] at h
        refine hpure _ fun _ => opensLambda_of_not_async (begins_of_isIdentifier h.1) ?_ ?_ hasync
        . exact fun _ => h.2
        . exact (Single.of_isIdentifier h.1).not_brace
      . intro _
        apply Ensures.ite
        . intro h
          refine hgroup _ h (opensLambda_of_not_async (begins_of_isPunct (by simp) h) ?_ ?_ hasync)
          . intro hawait
            rw [isPunct_eq_false_of_isWord hawait] at h
            cases h
          . exact isPunct_eq_false_of_isPunct (by simp) h
        . intro _
          apply hpure
          simp

variable [Lawful tokens] {g : Grammar}

/--
What the reader of the parameters of a lambda takes at a time: a token, or a whole group.
-/
def takeLambdaToken (found : List String × Option String) :
    Parser (Progress (List String × Option String) (List String)) := do
  let (names, last) := found
  let token ← current
  if !isBefore ")" token then return .done (last.toList ++ names).reverse
  else if token.isOpener then
    skipGroup
    return .more (names, last)
  else
    let _ ← advance
    if token.isPunct [","] then return .more (last.toList ++ names, none)
    else if token.isIdentifier then return .more (names, some token.identifierName)
    else return .more (names, last)

theorem lambdaParameters_eq :
    lambdaParameters = do
      let _ ← advance
      let names ← loop takeLambdaToken ([], none)
      let _ ← expect ")"
      return names :=
  rfl

theorem takeLambdaToken_ensures (found : List String × Option String) (hcursor : cursor ≤ last tokens) :
    Ensures tokens (takeLambdaToken found) cursor
      (Progress.Holds cursor (fun _ _ => True) fun _ _ => True) := by
  obtain ⟨names, latest⟩ := found
  apply Ensures.current
  apply Ensures.ite
  . intro _
    exact .pure hcursor trivial
  . intro h
    have hlt : cursor < last tokens := by
      apply lt_last_of_isBefore
      simpa using h
    apply Ensures.ite
    . intro hopener
      apply (Ensures.skipGroup hopener).bind
      intro _ _ _ hlast hlt
      exact .pure hlast ⟨hlt, trivial⟩
    . intro hopener
      rw [Bool.not_eq_true] at hopener
      apply Ensures.advance ⟨hlt, not_brace_of_not_isOpener hopener⟩
      apply Ensures.ite
      . intro _
        exact .pure hlt ⟨Nat.lt_succ_self _, trivial⟩
      . intro _
        apply Ensures.ite
        . intro _
          exact .pure hlt ⟨Nat.lt_succ_self _, trivial⟩
        . intro _
          exact .pure hlt ⟨Nat.lt_succ_self _, trivial⟩

theorem lambdaParameters_ensures (hcursor : cursor ≤ last tokens)
    (hbrace : (tokenAt tokens cursor).isPunct ["\x7b"] = false) :
    Ensures tokens lambdaParameters cursor fun _ _ => True := by
  rw [lambdaParameters_eq]
  apply (Ensures.advance_or_stay hcursor (.step hbrace)).bind
  intro _ first _ hlast _
  apply Ensures.bind (Q := fun _ _ => True)
  . apply loop_ensures (fun _ _ => True) hlast trivial
    intro found index _ hlast _
    exact takeLambdaToken_ensures found hlast
  . intro _ _ _ hlast _
    apply (Ensures.expect hlast ")" (by simp)).bind
    intro _ _ _ hlast _
    exact .pure hlast trivial

theorem lambda_ensures (hg : g.Sound tokens (cursor + 1)) (hcursor : cursor ≤ last tokens)
    (hopens : OpensLambda tokens cursor) :
    Ensures tokens (lambda g) cursor fun node next => Valued tokens cursor next node := by
  unfold lambda
  apply Ensures.here
  apply Ensures.atWord
  extract_lets -underBinder tail
  have htail : ∀ next, cursor ≤ next → next ≤ last tokens →
      (tokenAt tokens next).isPunct ["\x7b"] = false →
      Ensures tokens (tail ()) next fun node stop => Valued tokens cursor stop node := by
    intro next hle hlast hbrace
    unfold tail
    apply Ensures.atKeyword
    apply Ensures.ite
    . intro hdelegate
      have hsingle := Single.of_isKeyword hdelegate
      have hlt := hsingle.lt
      apply Ensures.advance hsingle
      apply Ensures.atPunct
      extract_lets -underBinder behind
      have hbehind : ∀ parameters first, next < first → first ≤ last tokens →
          Ensures tokens (behind parameters) first fun node stop =>
            Valued tokens cursor stop node := by
        intro parameters first hfirst hlast
        apply (block_ensures (hg.mono (by omega))).bind
        intro body stop _ _ hbody
        exact node_valued trivial trivial hbody.inside.laid (by omega)
      clear_value behind
      apply Ensures.ite
      . intro h
        have hopener := Single.of_isPunct (by simp) h
        apply (parameterList_ensures (hg.mono (by omega)) hopener (by simp)).bind
        intro parameters first hfirst hlast _
        exact hbehind parameters first (by omega) hlast
      . intro _
        exact hbehind [] (next + 1) (Nat.lt_succ_self _) hlt
    . intro _
      apply Ensures.current
      extract_lets -underBinder behind
      have hbehind : ∀ parameters first, next ≤ first →
          Ensures tokens (behind parameters) first fun node stop =>
            Valued tokens cursor stop node := by
        intro parameters first hfirst
        apply Ensures.require (by simp)
        intro _ hlt
        apply Ensures.atPunct
        extract_lets -underBinder made
        have hmade : ∀ body stop, stop ≤ last tokens → Inside tokens (first + 1) stop body →
            Ensures tokens (made body) stop fun node stop => Valued tokens cursor stop node := by
          intro body stop hlast hbody
          have := hbody.lt
          exact node_valued trivial trivial hbody.laid (by omega)
        clear_value made
        apply Ensures.ite
        . intro _
          apply (block_ensures (hg.mono (by omega))).bind
          intro body stop _ hlast hbody
          exact hmade body stop hlast hbody.inside
        . intro _
          apply (hg.expression (first + 1) (by omega) hlt).bind
          intro body stop _ hlast hbody
          exact hmade body stop hlast hbody
      clear_value behind
      apply Ensures.ite
      . intro h
        apply Ensures.advance (.of_isIdentifier h)
        apply hbehind
        omega
      . intro _
        apply (lambdaParameters_ensures hlast hbrace).bind
        intro parameters first hfirst _ _
        exact hbehind parameters first hfirst
  clear_value tail
  apply Ensures.ite
  . intro h
    have hsingle := Single.of_isWord h
    apply Ensures.advance hsingle
    exact htail _ (Nat.le_succ _) hsingle.lt (hopens.not_brace_of_async h)
  . intro _
    exact htail cursor (Nat.le_refl _) hcursor hopens.not_brace

end ThreadLint.Parser
