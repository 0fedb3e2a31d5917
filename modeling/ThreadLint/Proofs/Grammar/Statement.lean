import ThreadLint.Grammar.Statement
import ThreadLint.Proofs.Grammar.Method

/-!
This module contains what the parsers for statements ensure: a statement is made of all tokens from
its first one up to the cursor, but for the labels in front of it.
-/

namespace ThreadLint.Parser

variable {tokens : Array Token} [Lawful tokens] {cursor first : Nat} {g : Grammar}

/-! ### Local declarations -/

theorem modifiersOfLocal_ensures (hcursor : cursor ≤ last tokens) :
    Ensures tokens modifiersOfLocal cursor fun _ _ => True := by
  apply loop_ensures (fun _ _ => True) hcursor trivial
  intro found index _ hlast _
  apply Ensures.current
  apply Ensures.peek
  apply Ensures.ite
  . intro h
    have hsingle : Single tokens index := by
      rw [Bool.or_eq_true, Bool.and_eq_true] at h
      cases h with
      | inl h => exact .of_isKeyword h
      | inr h => exact .of_isWord h.1
    apply Ensures.advance hsingle
    exact .pure hsingle.lt ⟨Nat.lt_succ_self _, trivial⟩
  . intro _
    exact .pure hlast trivial

theorem localVariables_ensures {form : Form} {terminated : Bool} (hg : g.Sound tokens (cursor + 1))
    (hfirst : first ≤ cursor) (hfits : ∀ stop children, Fits tokens first stop children form) :
    Ensures tokens (localVariables g first form terminated) cursor fun node next =>
      Whole tokens first next node := by
  unfold localVariables
  apply Ensures.here
  apply Ensures.identifier
  intro hname hlt
  apply (declarators_ensures (hg.mono (by omega)) hlt (Nat.lt_succ_self _) hname).bind
  rintro declared next hnext hlast ⟨hdeclared, _⟩
  extract_lets -underBinder tail
  have htail : ∀ stop, next ≤ stop → stop ≤ last tokens →
      Ensures tokens (tail ()) stop fun node stop => Whole tokens first stop node := by
    intro stop hstop hlast
    exact node_whole (hfits _ _) hdeclared (by omega)
  clear_value tail
  apply Ensures.ite
  . intro _
    apply (Ensures.expect hlast ";" (by simp)).bind
    intro _ stop hstop hlast _
    exact htail stop hstop hlast
  . intro _
    exact htail next (Nat.le_refl _) hlast

theorem localHead_ensures (hcursor : cursor ≤ last tokens) :
    Ensures tokens localHead cursor fun result next =>
      (tokenAt tokens next).isIdentifier = true ∧ IsDeclaredName tokens next ∧
        Written tokens cursor next (result.2.1.text, result.2.1.extent) := by
  unfold localHead
  apply (modifiersOfLocal_ensures hcursor).bind
  intro modifiers first hfirst hlast _
  apply Ensures.atWord
  apply Ensures.ite
  . intro _
    apply Ensures.mismatch
  . intro _
    apply (anyType_ensures hlast).bind
    intro type next hnext hlast htype
    have hhead : (tokenAt tokens next).isIdentifier = true →
        (tokenAt tokens next).isIdentifier = true ∧ IsDeclaredName tokens next ∧
          Written tokens cursor next (type.text, type.extent) := fun hname =>
      ⟨hname, htype.isDeclaredName hname, first, next, hfirst, htype.1, Nat.le_refl _, htype.2.1⟩
    apply Ensures.current
    apply Ensures.peek
    apply Ensures.ite
    . intro h
      rw [Bool.and_eq_true] at h
      exact .pure hlast (hhead h.1)
    . intro _
      apply Ensures.ite
      . intro h
        rw [Bool.and_eq_true] at h
        exact .pure hlast (hhead h.1)
      . intro _
        apply Ensures.mismatch

theorem localDeclaration?_ensures {terminated : Bool} (hg : g.Sound tokens (cursor + 1))
    (hfirst : first ≤ cursor) (hcursor : cursor ≤ last tokens) :
    Ensures tokens (localDeclaration? g first terminated) cursor
      (Attempted cursor fun node next => Whole tokens first next node) := by
  unfold localDeclaration?
  apply (Ensures.attempt hcursor (localHead_ensures hcursor)).bind
  intro result next hnext hlast hresult
  split
  . exact .pure hlast hresult
  . next modifiers type =>
    obtain ⟨hname, hdeclared, start, stop, hstart, hlt, hstop, htype⟩ := hresult
    have hsingle := Single.of_isIdentifier hname
    have hnameLast := hsingle.lt
    apply Ensures.advance hsingle
    refine .bind (method_ensures (hg.mono (by omega)) hnameLast (laid_nil (by omega))
      (fun _ => ⟨next, rfl, hdeclared⟩) ?_) ?_
    . refine ⟨next, by omega, Nat.lt_succ_self _, ⟨hname, rfl, rfl⟩, clear_nil _, ?_⟩
      rintro _ ⟨⟩
      exact ⟨⟨start, stop, by omega, hlt, hstop, htype⟩, rfl⟩
    . intro node stop _ hlast hnode
      exact .pure hlast hnode
  . next modifiers type =>
    refine .bind (localVariables_ensures (hg.mono (by omega)) (by omega) fun _ _ => trivial) ?_
    intro node stop _ hlast hnode
    exact .pure hlast hnode

/-! ### Statements that begin with a keyword -/

theorem ifStatement_ensures (hg : g.Sound tokens (cursor + 1)) (hfirst : first ≤ cursor)
    (hcursor : Single tokens cursor) :
    Ensures tokens (ifStatement g first) cursor fun node next => Whole tokens first next node := by
  have hlt := hcursor.lt
  unfold ifStatement
  apply Ensures.advance hcursor
  apply (condition_ensures (hg.mono (by omega))).bind
  intro test next hnext hlast htest
  apply (hg.embedded next (by omega) hlast).bind
  intro whenTrue stop hstop hlast hTrue
  apply Ensures.atKeyword
  extract_lets -underBinder tail
  have htail : ∀ whenFalse behind, stop ≤ behind → behind ≤ last tokens →
      Laid tokens stop behind whenFalse →
      Ensures tokens (tail whenFalse) behind fun node next => Whole tokens first next node := by
    intro whenFalse behind hbehind hlast hFalse
    have hbranches := hTrue.laid.append hFalse (Nat.le_refl _)
    have hchildren := htest.laid.append hbranches (by omega)
    exact node_whole trivial hchildren (by omega)
  clear_value tail
  apply Ensures.ite
  . intro h
    have hsingle := Single.of_isKeyword h
    have hlt := hsingle.lt
    apply Ensures.advance hsingle
    apply (hg.embedded (stop + 1) (by omega) hlt).bind
    intro whenFalse behind hbehind hlast hFalse
    exact htail [whenFalse] behind (by omega) hlast (hFalse.laid.mono (by omega))
  . intro _
    exact htail [] stop (Nat.le_refl _) hlast (laid_nil (by omega))

theorem optionalValue_ensures (hg : g.Sound tokens cursor) (hcursor : cursor ≤ last tokens) :
    Ensures tokens (optionalValue g) cursor fun nodes next => Laid tokens cursor next nodes := by
  unfold optionalValue
  apply Ensures.current
  extract_lets -underBinder tail
  have htail : ∀ value next, next ≤ last tokens → Laid tokens cursor next value →
      Ensures tokens (tail value) next fun nodes stop => Laid tokens cursor stop nodes := by
    intro value next hlast hvalue
    apply (Ensures.expect hlast ";" (by simp)).bind
    intro _ stop hstop hlast _
    exact .pure hlast (hvalue.mono (by omega))
  clear_value tail
  apply Ensures.ite
  . intro _
    apply (hg.expression cursor (Nat.le_refl _) hcursor).bind
    intro value next _ hlast hvalue
    exact htail [value] next hlast hvalue.laid
  . intro _
    exact htail [] cursor hcursor (laid_nil (by omega))

theorem returnStatement_ensures (hg : g.Sound tokens (cursor + 1)) (hfirst : first ≤ cursor)
    (hcursor : Single tokens cursor) :
    Ensures tokens (returnStatement g first) cursor fun node next =>
      Whole tokens first next node := by
  have hlt := hcursor.lt
  unfold returnStatement
  apply Ensures.advance hcursor
  apply (optionalValue_ensures hg hlt).bind
  intro value next hnext hlast hvalue
  exact node_whole trivial hvalue (by omega)

theorem whileStatement_ensures (hg : g.Sound tokens (cursor + 1)) (hfirst : first ≤ cursor)
    (hcursor : Single tokens cursor) :
    Ensures tokens (whileStatement g first) cursor fun node next =>
      Whole tokens first next node := by
  have hlt := hcursor.lt
  unfold whileStatement
  apply Ensures.advance hcursor
  apply (condition_ensures (hg.mono (by omega))).bind
  intro test next hnext hlast htest
  apply (hg.embedded next (by omega) hlast).bind
  intro body stop hstop hlast hbody
  exact node_whole trivial (htest.laid.append hbody.laid (by omega)) (by omega)

theorem doStatement_ensures (hg : g.Sound tokens (cursor + 1)) (hfirst : first ≤ cursor)
    (hcursor : Single tokens cursor) :
    Ensures tokens (doStatement g first) cursor fun node next => Whole tokens first next node := by
  have hlt := hcursor.lt
  unfold doStatement
  apply Ensures.advance hcursor
  apply (hg.embedded _ (Nat.le_refl _) hlt).bind
  intro body next hnext hlast hbody
  apply Ensures.requireKeyword
  intro _ hlt
  apply (condition_ensures (hg.mono (by omega))).bind
  intro test stop hstop hlast htest
  apply (Ensures.expect hlast ";" (by simp)).bind
  intro _ behind hbehind hlast _
  exact node_whole trivial (hbody.laid.append htest.laid (by omega)) (by omega)

theorem forInitializer_ensures (hg : g.Sound tokens cursor) (hcursor : cursor ≤ last tokens) :
    Ensures tokens (forInitializer g) cursor fun nodes next => Laid tokens cursor next nodes := by
  unfold forInitializer
  apply (Ensures.accept hcursor ";" (by simp)).bind
  rintro _ _ _ hlast (⟨rfl, _, rfl⟩ | ⟨rfl, rfl⟩)
  . exact .pure hlast (laid_nil (by omega))
  . apply Ensures.here
    apply (localDeclaration?_ensures (hg.mono (by omega)) (Nat.le_refl _) hlast).bind
    intro result next hnext hlast hresult
    cases result with
    | some declaration =>
      have hwhole : Whole tokens _ next declaration := hresult
      exact .pure hlast hwhole.inside.laid
    | none =>
      cases hresult
      apply (hg.expression _ (Nat.le_refl _) hlast).bind
      intro firstStep start hstart hlast hfirst
      refine .bind (manyWhile_ensures (fun lo hi node => Laid tokens lo hi [node]) hlast ?_) ?_
      . intro index hindex _ hpunct
        have hsingle := Single.of_isPunct (by simp) hpunct
        have hlt := hsingle.lt
        apply Ensures.advance hsingle
        apply (hg.expression _ (by omega) hlt).mono
        intro node stop hstop _ hnode
        exact ⟨by omega, hnode.laid.mono (by omega)⟩
      . intro others stop hstop hlast hothers
        apply (Ensures.expect hlast ";" (by simp)).bind
        intro _ behind hbehind hlast _
        have hall := hfirst.laid.append (Laid.of_chain hothers.1) (Nat.le_refl _)
        exact .pure hlast (hall.mono (by omega))

theorem forStatement_ensures (hg : g.Sound tokens (cursor + 1)) (hfirst : first ≤ cursor)
    (hcursor : Single tokens cursor) :
    Ensures tokens (forStatement g first) cursor fun node next => Whole tokens first next node := by
  have hlt := hcursor.lt
  unfold forStatement
  apply Ensures.advance hcursor
  apply Ensures.require (by simp)
  intro _ hlt
  apply (forInitializer_ensures (hg.mono (by omega)) hlt).bind
  intro initializer next hnext hlast hinitializer
  apply Ensures.atPunct
  extract_lets -underBinder tail
  have htail : ∀ test stop, next ≤ stop → stop ≤ last tokens → Laid tokens next stop test →
      Ensures tokens (tail test) stop fun node next => Whole tokens first next node := by
    intro test stop hstop hlast htest
    apply (Ensures.expect hlast ";" (by simp)).bind
    intro _ start hstart hlast _
    apply (commaList_ensures hlast fun index hindex hlast _ =>
      hg.expression index (by omega) hlast).bind
    intro steps behind hbehind hlast hsteps
    apply (Ensures.expect hlast ")" (by simp)).bind
    intro _ opener hopener hlast _
    apply (hg.embedded opener (by omega) hlast).bind
    intro body close hclose _ hbody
    have hhead := (hinitializer.append htest (by omega)).append hsteps (by omega)
    exact node_whole trivial (hhead.append hbody.laid (by omega)) (by omega)
  clear_value tail
  apply Ensures.ite
  . intro _
    exact htail [] next (Nat.le_refl _) hlast (laid_nil (by omega))
  . intro _
    apply (hg.expression next (by omega) hlast).bind
    intro test stop hstop hlast htest
    exact htail [test] stop hstop hlast htest.laid

theorem foreachStatement_ensures (hg : g.Sound tokens (cursor + 1)) (hfirst : first ≤ cursor)
    (hcursor : Single tokens cursor) :
    Ensures tokens (foreachStatement g first) cursor fun node next =>
      Whole tokens first next node := by
  have hlt := hcursor.lt
  unfold foreachStatement
  apply Ensures.advance hcursor
  apply Ensures.require (by simp)
  intro _ hlt
  apply Ensures.here
  apply (anyType_ensures hlt).bind
  intro type next hnext hlast htype
  have := htype.1
  apply Ensures.atPunct
  extract_lets -underBinder tail
  have htail : ∀ declared stop, next ≤ stop → Laid tokens (cursor + 1) stop declared →
      Ensures tokens (tail declared) stop fun node next => Whole tokens first next node := by
    intro declared stop hstop hdeclared
    apply Ensures.requireKeyword
    intro _ hlt
    apply (hg.expression (stop + 1) (by omega) hlt).bind
    intro collection start hstart hlast hcollection
    apply (Ensures.expect hlast ")" (by simp)).bind
    intro _ opener hopener hlast _
    apply (hg.embedded opener (by omega) hlast).bind
    intro body behind hbehind _ hbody
    have hbehindHead := hcollection.laid.append hbody.laid (by omega)
    have hchildren := hdeclared.append hbehindHead (by omega)
    exact node_whole trivial hchildren (by omega)
  clear_value tail
  apply Ensures.ite
  . intro h
    apply (Ensures.skipGroup (Token.isOpener_of_isPunct (by decide) h)).bind
    intro _ stop hstop _ _
    exact htail [] stop hstop (laid_nil (by omega))
  . intro _
    apply Ensures.here
    apply Ensures.identifier
    intro hname hlt
    refine .bind (node_ensures ?_ (laid_nil (Nat.le_refl next)) (by omega)) ?_
    . exact ⟨⟨hname, rfl, rfl⟩, clear_nil _⟩
    . rintro declared _ _ _ ⟨rfl, hdeclared⟩
      refine .bind (node_ensures trivial hdeclared.inside.laid (by omega)) ?_
      rintro whole _ _ _ ⟨rfl, hwhole⟩
      apply Ensures.pure_bind
      exact htail [whole] _ (by omega) (hwhole.inside.mono (by omega)).laid

theorem catchClause_ensures (hg : g.Sound tokens (cursor + 1)) (hcursor : Single tokens cursor) :
    Ensures tokens (catchClause g) cursor fun nodes next =>
      cursor < next ∧ Laid tokens cursor next nodes := by
  have hlt := hcursor.lt
  unfold catchClause
  apply Ensures.advance hcursor
  apply (skipParentheses_ensures hlt).bind
  intro _ next hnext hlast _
  apply Ensures.atWord
  extract_lets -underBinder tail
  have htail : ∀ test stop, next ≤ stop → Laid tokens next stop test →
      Ensures tokens (tail test) stop fun nodes behind =>
        cursor < behind ∧ Laid tokens cursor behind nodes := by
    intro test stop hstop htest
    apply (block_ensures (hg.mono (by omega))).bind
    intro handler behind hbehind hlast hhandler
    exact .pure hlast ⟨by omega, ((htest.append hhandler.inside.laid (by omega)).mono (by omega))⟩
  clear_value tail
  apply Ensures.ite
  . intro h
    have hsingle := Single.of_isWord h
    have hlt := hsingle.lt
    apply Ensures.advance hsingle
    apply (condition_ensures (hg.mono (by omega))).bind
    intro test stop hstop _ htest
    exact htail [test] stop (by omega) (htest.laid.mono (by omega))
  . intro _
    exact htail [] next (Nat.le_refl _) (laid_nil (by omega))

theorem tryStatement_ensures (hg : g.Sound tokens (cursor + 1)) (hfirst : first ≤ cursor)
    (hcursor : Single tokens cursor) :
    Ensures tokens (tryStatement g first) cursor fun node next => Whole tokens first next node := by
  have hlt := hcursor.lt
  unfold tryStatement
  apply Ensures.advance hcursor
  apply (block_ensures (hg.mono (by omega))).bind
  intro guarded next hnext hlast hguarded
  refine .bind (manyWhile_ensures (Laid tokens) hlast ?_) ?_
  . intro index hindex _ hkeyword
    exact catchClause_ensures (hg.mono (by omega)) (.of_isKeyword hkeyword)
  . intro handlers stop hstop hlast hhandlers
    apply Ensures.atKeyword
    extract_lets -underBinder tail
    have htail : ∀ final behind, stop ≤ behind → behind ≤ last tokens →
        Laid tokens stop behind final →
        Ensures tokens (tail final) behind fun node next => Whole tokens first next node := by
      intro final behind hbehind hlast hfinal
      have hcaught := hguarded.inside.laid.append (Laid.flatten hhandlers.1) (by omega)
      have hchildren := hcaught.append hfinal (by omega)
      exact node_whole trivial hchildren (by omega)
    clear_value tail
    apply Ensures.ite
    . intro h
      have hsingle := Single.of_isKeyword h
      have hlt := hsingle.lt
      apply Ensures.advance hsingle
      apply (block_ensures (hg.mono (by omega))).bind
      intro final behind hbehind hlast hfinal
      exact htail [final] behind (by omega) hlast (hfinal.inside.laid.mono (by omega))
    . intro _
      exact htail [] stop (Nat.le_refl _) hlast (laid_nil (by omega))

theorem usingStatement_ensures (hg : g.Sound tokens (cursor + 1)) (hfirst : first ≤ cursor)
    (hcursor : Single tokens cursor) :
    Ensures tokens (usingStatement g first) cursor fun node next =>
      Whole tokens first next node := by
  have hlt := hcursor.lt
  unfold usingStatement
  apply Ensures.advance hcursor
  apply (Ensures.accept hlt "(" (by simp)).bind
  rintro _ _ _ hlast (⟨rfl, _, rfl⟩ | ⟨rfl, rfl⟩)
  . apply Ensures.here
    apply (localDeclaration?_ensures (hg.mono (by omega)) (Nat.le_refl _) hlast).bind
    intro result next hnext hlast hresult
    extract_lets -underBinder tail
    have htail : ∀ resource stop, Inside tokens (cursor + 1 + 1) stop resource → stop ≤ last tokens →
        Ensures tokens (tail resource) stop fun node next => Whole tokens first next node := by
      intro resource stop hresource hlast
      have := hresource.lt
      apply (Ensures.expect hlast ")" (by simp)).bind
      intro _ opener hopener hlast _
      apply (hg.embedded opener (by omega) hlast).bind
      intro body behind hbehind _ hbody
      exact node_whole trivial (hresource.laid.append hbody.laid (by omega)) (by omega)
    clear_value tail
    cases result with
    | some declaration =>
      have hwhole : Whole tokens (cursor + 1 + 1) next declaration := hresult
      exact htail declaration next hwhole.inside hlast
    | none =>
      cases hresult
      apply (hg.expression _ (by omega) hlast).bind
      intro resource stop _ hlast hresource
      exact htail resource stop hresource hlast
  . apply (anyType_ensures hlast).bind
    intro type next hnext _ _
    exact localVariables_ensures (hg.mono (by omega)) (by omega) fun _ _ => trivial

theorem lockStatement_ensures (hg : g.Sound tokens (cursor + 1)) (hfirst : first ≤ cursor)
    (hcursor : Single tokens cursor) :
    Ensures tokens (lockStatement g first) cursor fun node next =>
      Whole tokens first next node := by
  have hlt := hcursor.lt
  unfold lockStatement
  apply Ensures.advance hcursor
  apply (condition_ensures (hg.mono (by omega))).bind
  intro lock next hnext hlast hlock
  apply (hg.embedded next (by omega) hlast).bind
  intro body stop hstop hlast hbody
  exact node_whole trivial (hlock.laid.append hbody.laid (by omega)) (by omega)

theorem atCaseLabel_ensures (hcursor : cursor ≤ last tokens) :
    Ensures tokens atCaseLabel cursor fun found next =>
      next = cursor ∧ (found = true → Single tokens cursor) := by
  unfold atCaseLabel
  apply Ensures.atKeyword
  apply Ensures.atKeyword
  apply Ensures.peek
  refine .pure hcursor ⟨rfl, fun h => ?_⟩
  rw [Bool.or_eq_true, Bool.and_eq_true] at h
  cases h with
  | inl h => exact .of_isKeyword h
  | inr h => exact .of_isKeyword h.1

/--
What the reader of a choice takes at a time: the label of a case, or a statement.
-/
def caseItem (g : Grammar) : Parser (List Node) := do
  if ← atCaseLabel then
    skipCaseLabel
    return []
  else return [← g.embedded]

theorem switchStatement_eq (g : Grammar) (first : Nat) :
    switchStatement g first = (do
      let _ ← advance
      let subject ← condition g
      let _ ← require ["\x7b"]
      let statements ← manyWhile (isBefore "\x7d") (caseItem g)
      let _ ← expect "\x7d"
      node (.otherStmt "switch") first (subject :: statements.flatten)) :=
  rfl

theorem caseItem_ensures (hg : g.Sound tokens cursor) (hcursor : cursor < last tokens) :
    Ensures tokens (caseItem g) cursor fun nodes next =>
      cursor < next ∧ Laid tokens cursor next nodes := by
  apply (atCaseLabel_ensures (Nat.le_of_lt hcursor)).bind
  rintro isLabel _ _ hlast ⟨rfl, hlabel⟩
  apply Ensures.ite
  . intro h
    apply (skipCaseLabel_ensures (hlabel h)).bind
    intro _ stop _ hlast hstop
    exact .pure hlast ⟨hstop, laid_nil (by omega)⟩
  . intro _
    apply (hg.embedded _ (by omega) hlast).bind
    intro node stop _ hlast hnode
    refine .pure hlast ⟨?_, hnode.laid⟩
    cases hnode with
    | inl hnode => exact hnode.lt
    | inr hnode => omega

theorem switchStatement_ensures (hg : g.Sound tokens (cursor + 1)) (hfirst : first ≤ cursor)
    (hcursor : Single tokens cursor) :
    Ensures tokens (switchStatement g first) cursor fun node next =>
      Whole tokens first next node := by
  have hlt := hcursor.lt
  rw [switchStatement_eq]
  apply Ensures.advance hcursor
  apply (condition_ensures (hg.mono (by omega))).bind
  intro subject next hnext hlast hsubject
  apply Ensures.require_braces
  . intro _ hlt
    refine manyWhile_ensures (Laid tokens) hlt ?_
    intro index hindex _ hbefore
    exact caseItem_ensures (hg.mono (by omega)) (lt_last_of_isBefore hbefore)
  . intro _ statements stop behind hstop hbehind hlast hstatements _
    have hsections := Laid.flatten hstatements.1
    exact node_whole trivial (hsubject.laid.append hsections (by omega)) (by omega)

theorem throwStatement_ensures (hg : g.Sound tokens (cursor + 1)) (hfirst : first ≤ cursor)
    (hcursor : Single tokens cursor) :
    Ensures tokens (throwStatement g first) cursor fun node next =>
      Whole tokens first next node := by
  have hlt := hcursor.lt
  unfold throwStatement
  apply Ensures.advance hcursor
  apply (optionalValue_ensures hg hlt).bind
  intro value next hnext hlast hvalue
  exact node_whole trivial hvalue (by omega)

theorem yieldStatement_ensures (hg : g.Sound tokens (cursor + 1)) (hfirst : first ≤ cursor)
    (hcursor : Single tokens cursor) (haction : Single tokens (cursor + 1)) :
    Ensures tokens (yieldStatement g first) cursor fun node next =>
      Whole tokens first next node := by
  have hlt := hcursor.lt
  unfold yieldStatement
  apply Ensures.advance hcursor
  apply Ensures.advance haction
  have hnext := haction.lt
  extract_lets -underBinder tail
  have htail : ∀ value stop, cursor + 2 ≤ stop → stop ≤ last tokens →
      Laid tokens (cursor + 2) stop value →
      Ensures tokens (tail value) stop fun node next => Whole tokens first next node := by
    intro value stop hstop hlast hvalue
    apply (Ensures.expect hlast ";" (by simp)).bind
    intro _ behind hbehind hlast _
    exact node_whole trivial hvalue (by omega)
  clear_value tail
  apply Ensures.ite
  . intro _
    apply (hg.expression (cursor + 2) (by omega) hnext).bind
    intro value stop hstop hlast hvalue
    exact htail [value] stop hstop hlast hvalue.laid
  . intro _
    exact htail [] (cursor + 2) (Nat.le_refl _) hnext (laid_nil (by omega))

theorem jumpStatement_ensures (hfirst : first ≤ cursor) (hcursor : Single tokens cursor) :
    Ensures tokens (jumpStatement first) cursor fun node next => Whole tokens first next node := by
  have hlt := hcursor.lt
  unfold jumpStatement
  apply Ensures.advance hcursor
  apply (Ensures.expect hlt ";" (by simp)).bind
  intro _ next hnext hlast _
  exact node_whole trivial (laid_nil (Nat.le_refl cursor)) (by omega)

theorem guardedStatement_ensures (hg : g.Sound tokens (cursor + 1)) (hfirst : first ≤ cursor)
    (hcursor : Single tokens cursor) :
    Ensures tokens (guardedStatement g first) cursor fun node next =>
      Whole tokens first next node := by
  have hlt := hcursor.lt
  unfold guardedStatement
  apply Ensures.advance hcursor
  apply (skipParentheses_ensures hlt).bind
  intro _ next hnext hlast _
  apply (hg.embedded next (by omega) hlast).bind
  intro body stop hstop hlast hbody
  exact node_whole trivial hbody.laid (by omega)

theorem keywordStatement?_ensures {keyword : String} {parser : Nat → Parser Node}
    (hparser : keywordStatement? g keyword = some parser) (hg : g.Sound tokens (cursor + 1))
    (hcursor : Single tokens cursor) :
    Ensures tokens (parser cursor) cursor fun node next => Whole tokens cursor next node := by
  have hle := Nat.le_refl cursor
  unfold keywordStatement? at hparser
  split at hparser
  all_goals cases hparser
  . exact ifStatement_ensures hg hle hcursor
  . exact returnStatement_ensures hg hle hcursor
  . exact whileStatement_ensures hg hle hcursor
  . exact doStatement_ensures hg hle hcursor
  . exact forStatement_ensures hg hle hcursor
  . exact foreachStatement_ensures hg hle hcursor
  . exact tryStatement_ensures hg hle hcursor
  . exact usingStatement_ensures hg hle hcursor
  . exact lockStatement_ensures hg hle hcursor
  . exact switchStatement_ensures hg hle hcursor
  . exact throwStatement_ensures hg hle hcursor
  . exact jumpStatement_ensures hle hcursor
  . exact jumpStatement_ensures hle hcursor
  . apply (skipConstruct_ensures (Nat.le_of_lt hcursor.lt)).mono
    intro node next _ _ hnode
    cases hnode with
    | inl hnode => exact hnode
    | inr hnode =>
      have := hcursor.lt
      omega
  . exact guardedStatement_ensures hg hle hcursor
  . exact guardedStatement_ensures hg hle hcursor
  . exact guardedStatement_ensures hg hle hcursor
  . exact guardedStatement_ensures hg hle hcursor

/-! ### All statements -/

theorem plainStatement_ensures (hg : g.Sound tokens (cursor + 1)) (hcursor : cursor ≤ last tokens) :
    Ensures tokens (plainStatement g cursor) cursor fun node next =>
      Whole tokens cursor next node := by
  unfold plainStatement
  apply (localDeclaration?_ensures hg (Nat.le_refl _) hcursor).bind
  intro result next _ hlast hresult
  cases result with
  | some declaration => exact .pure hlast hresult
  | none =>
    cases hresult
    apply (expression_ensures hg hcursor).bind
    intro value stop _ hlast hvalue
    have := hvalue.lt
    apply (Ensures.expect hlast ";" (by simp)).bind
    intro _ behind hbehind hlast _
    exact node_whole trivial hvalue.laid (by omega)

theorem identifierStatement_ensures (hg : g.Sound tokens (cursor + 1))
    (hidentifier : (tokenAt tokens cursor).isIdentifier = true) :
    Ensures tokens (identifierStatement g cursor) cursor fun node next =>
      Whole tokens cursor next node ∨ Labelled tokens cursor next node := by
  have hsingle := Single.of_isIdentifier hidentifier
  have hcursor := hsingle.lt
  unfold identifierStatement
  apply Ensures.current
  apply Ensures.peek
  apply Ensures.ite
  . intro h
    rw [Bool.and_eq_true] at h
    apply (yieldStatement_ensures hg (Nat.le_refl _) hsingle (.of_isKeyword h.2)).mono
    intro node next _ _ hnode
    exact .inl hnode
  . intro _
    apply Ensures.ite
    . intro h
      rw [Bool.and_eq_true] at h
      have hsecond := Single.of_isKeyword h.2
      apply Ensures.advance hsingle
      apply Ensures.current
      apply Ensures.ite
      . intro _
        apply (foreachStatement_ensures (hg.mono (by omega)) (Nat.le_succ _) hsecond).mono
        intro node next _ _ hnode
        exact .inl hnode
      . intro _
        apply (usingStatement_ensures (hg.mono (by omega)) (Nat.le_succ _) hsecond).mono
        intro node next _ _ hnode
        exact .inl hnode
    . intro _
      apply Ensures.peek
      apply Ensures.ite
      . intro h
        rw [Bool.and_eq_true] at h
        have hsecond := Single.of_isPunct (by simp) h.1
        apply Ensures.advance hsingle
        apply Ensures.advance hsecond
        apply (hg.statement _ (by omega) hsecond.lt).mono
        rintro node next _ _ ⟨first, hfirst, hlabels, hnode⟩
        refine .inr ⟨first, by omega, ?_, hnode⟩
        intro index hindex hlt
        by_cases heq : index = cursor
        . rw [heq]
          exact noBracket_of_isIdentifier hidentifier
        . by_cases heq : index = cursor + 1
          . rw [heq]
            exact noBracket_of_colon h.1
          . exact hlabels index (by omega) hlt
      . intro _
        apply (plainStatement_ensures hg (Nat.le_of_lt hcursor)).mono
        intro node next _ _ hnode
        exact .inl hnode

theorem statement_whole_or_labelled (hg : g.Sound tokens (cursor + 1))
    (hcursor : cursor ≤ last tokens) :
    Ensures tokens (statement g) cursor fun node next =>
      Whole tokens cursor next node ∨ Labelled tokens cursor next node := by
  have hplain : Ensures tokens (plainStatement g cursor) cursor fun node next =>
      Whole tokens cursor next node ∨ Labelled tokens cursor next node := by
    apply (plainStatement_ensures hg hcursor).mono
    intro node next _ _ hnode
    exact .inl hnode
  unfold statement
  apply Ensures.here
  apply Ensures.current
  apply Ensures.peek
  apply Ensures.ite
  . intro _
    apply (block_ensures hg).mono
    intro node next _ _ hnode
    exact .inl hnode
  . intro _
    apply Ensures.ite
    . intro h
      have hsingle := Single.of_isPunct (by simp) h
      have hlt := hsingle.lt
      apply Ensures.advance hsingle
      refine .mono (node_whole trivial (laid_nil (Nat.le_refl cursor)) (by omega)) ?_
      intro node next _ _ hnode
      exact .inl hnode
    . intro _
      apply Ensures.ite
      . intro hkeyword
        have hsingle : Single tokens cursor := by
          rw [beq_iff_eq] at hkeyword
          exact .of_kind (by simp [hkeyword]) (by simp [hkeyword])
        split
        . next parser hparser =>
          apply Ensures.ite
          . intro _
            exact hplain
          . intro _
            apply (keywordStatement?_ensures hparser hg hsingle).mono
            intro node next _ _ hnode
            exact .inl hnode
        . exact hplain
      . intro _
        apply Ensures.ite
        . intro hidentifier
          exact identifierStatement_ensures hg hidentifier
        . intro _
          exact hplain

omit [Lawful tokens] in
theorem embedded_of_statement {node : Node} {next : Nat}
    (h : statement g tokens cursor = .ok (node, next)) :
    embedded g tokens cursor = .ok (node, next) := by
  simp only [embedded, attempt, here, Bind.bind, h]
  rfl

theorem statement_ensures (hg : g.Sound tokens (cursor + 1)) (hcursor : cursor ≤ last tokens) :
    Ensures tokens (statement g) cursor fun node next => Labelled tokens cursor next node := by
  have h := statement_whole_or_labelled hg hcursor
  apply (h.and_of_eq_ok fun _ _ => embedded_of_statement).mono
  rintro node next _ _ ⟨hnode, hembedded⟩
  cases hnode with
  | inl hnode =>
    obtain ⟨depth, rfl⟩ := hg.depth
    exact hnode.labelled ⟨depth, hembedded⟩
  | inr hnode => exact hnode

theorem embedded_ensures (hg : g.Sound tokens (cursor + 1)) (hcursor : cursor ≤ last tokens) :
    Ensures tokens (embedded g) cursor fun node next => Embedded tokens cursor next node := by
  have h : Ensures tokens (embedded g) cursor fun node next =>
      Labelled tokens cursor next node ∨ Kept tokens cursor next node := by
    unfold embedded
    apply Ensures.here
    apply (Ensures.attempt hcursor (statement_ensures hg hcursor)).bind
    intro result next _ hlast hresult
    cases result with
    | some node => exact .pure hlast (.inl hresult)
    | none =>
      cases hresult
      apply (skipConstruct_ensures hcursor).mono
      intro node next _ _ hnode
      exact .inr hnode
  apply (h.and_of_eq_ok fun _ _ => id).mono
  rintro node next _ _ ⟨hnode, hembedded⟩
  cases hnode with
  | inl hnode => exact .inl hnode
  | inr hnode =>
    obtain ⟨depth, rfl⟩ := hg.depth
    exact hnode.embedded ⟨depth, hembedded⟩

end ThreadLint.Parser
