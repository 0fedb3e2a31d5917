import ThreadLint.Grammar.Statement
import ThreadLint.Proofs.Layout.Expression

/-!
This module contains that methods, declarations of variables and statements are read in the same way
from the same tokens.
-/

namespace ThreadLint.Parser

variable {tokens tokens' : Array Token} {spelled : Bool} [same : SameTokens spelled tokens tokens']
  {g : Grammar} (hg : g.Agrees tokens tokens' spelled)

include same

/-! ### Methods and variables -/

theorem skipConstructorCall_agrees :
    Agrees tokens tokens' Eq skipConstructorCall skipConstructorCall :=
  .choose (accept_agrees ":") (.bind advance_agrees fun _ _ _ => skipParentheses_agrees) (.pure rfl)

include hg

theorem body_agrees : Agrees tokens tokens' (Option.Rel (SameNode spelled)) (body g) (body g) := by
  refine .choose (atPunct_agrees _) ?_ (.choose (accept_agrees "=>") ?_ ?_)
  . exact .bind (block_agrees hg) fun _ _ h => .pure (.some h)
  . refine .bind hg.expression fun _ _ h => .bind (expect_agrees _) fun _ _ _ => ?_
    exact .pure (.some h)
  . exact .bind (expect_agrees _) fun _ _ _ => .pure .none

theorem method_agrees (first : Nat) {attributes attributes' : List Node} {head head' : MethodHead}
    (hattributes : SameNodes spelled attributes attributes')
    (hhead : head.bare spelled = head'.bare spelled) :
    Agrees tokens tokens' (SameNode spelled) (method g first attributes head)
      (method g first attributes' head') := by
  unfold method
  have hconstructor : head.isConstructor = head'.isConstructor :=
    (congrArg MethodHead.isConstructor hhead :)
  refine .bind_eq skipTypeParameters_agrees fun _ => .bind_eq (atPunct_agrees _) fun _ => ?_
  extract_lets -underBinder tail tail'
  have htail : ∀ parameters parameters', SameParameters spelled parameters parameters' →
      Agrees tokens tokens' (SameNode spelled) (tail parameters) (tail' parameters') := by
    intro parameters parameters' hparameters
    unfold tail tail'
    extract_lets -underBinder behind behind'
    have hbehind : Agrees tokens tokens' (SameNode spelled) (behind ()) (behind' ()) := by
      refine .bind_eq skipConstraints_agrees fun _ => .bind (body_agrees hg) fun body body' hbody => ?_
      have hparts := hattributes.append hparameters.nodes
      cases hbody with
      | some hbody =>
        refine node_agrees first ?_ (hparts.append (.cons rfl hbody))
        exact congrArg (fun head : MethodHead => Form.methodDecl { head with hasBody := true }) hhead
      | none =>
        refine node_agrees first ?_ (hparts.append rfl)
        exact congrArg (fun head : MethodHead => Form.methodDecl { head with hasBody := false }) hhead
    clear_value behind behind'
    refine .ite (by rw [hconstructor]) (fun _ => ?_) fun _ => hbehind
    exact .bind_eq skipConstructorCall_agrees fun _ => hbehind
  clear_value tail tail'
  refine .ite rfl (fun _ => .bind (parameterList_agrees hg ")") htail) fun _ => ?_
  exact .bind .mismatch htail

theorem declarator_agrees (nameIndex : Nat) :
    Agrees tokens tokens' (SameNode spelled) (declarator g nameIndex) (declarator g nameIndex) := by
  unfold declarator
  refine .bind (tokenNumber_agrees _) ?_
  rintro _ _ ⟨⟩
  refine .bind_eq (accept_agrees "=") fun _ => ?_
  extract_lets -underBinder whole whole'
  have hwhole : ∀ initial initial', SameNodes spelled initial initial' →
      Agrees tokens tokens' (SameNode spelled) (whole initial) (whole' initial') :=
    fun initial initial' h => node_agrees nameIndex rfl h
  clear_value whole whole'
  refine .ite rfl (fun _ => ?_) fun _ => hwhole _ _ rfl
  exact .bind (initialValue_agrees hg) fun _ _ h => hwhole _ _ (.cons rfl h)

theorem declarators_agrees (nameIndex : Nat) :
    Agrees tokens tokens' (SameNodes spelled) (declarators g nameIndex)
      (declarators g nameIndex) := by
  apply loop_agrees (fun (state state' : Nat × List Node) =>
    state.1 = state'.1 ∧ SameNodes spelled state.2 state'.2) ⟨rfl, rfl⟩
  rintro ⟨nameIndex, found⟩ ⟨_, found'⟩ ⟨rfl, hfound⟩
  refine .bind (declarator_agrees hg nameIndex) fun _ _ h => .choose (accept_agrees ",") ?_ ?_
  . refine .bind_eq .here fun next => .bind identifier_agrees fun _ _ _ => ?_
    exact .pure (.more ⟨rfl, hfound.cons h⟩)
  . exact .pure (.done (hfound.cons h).reverse)

/-! ### Local declarations -/

omit hg in
theorem modifiersOfLocal_agrees : Agrees tokens tokens' Eq modifiersOfLocal modifiersOfLocal := by
  apply loop_agrees Eq rfl
  rintro found _ rfl
  refine .bind current_agrees ?_
  rintro _ _ ⟨⟩
  refine .bind (peek_agrees 1) ?_
  rintro _ _ ⟨⟩
  refine .ite rfl (fun _ => ?_) fun _ => .pure (.done rfl)
  exact .bind advance_agrees fun _ _ _ => .pure (.more rfl)

theorem localVariables_agrees (first : Nat) {form form' : Form}
    (hform : form.bare spelled = form'.bare spelled) (terminated : Bool) :
    Agrees tokens tokens' (SameNode spelled) (localVariables g first form terminated)
      (localVariables g first form' terminated) := by
  unfold localVariables
  refine .bind_eq .here fun nameIndex => .bind identifier_agrees fun _ _ _ => ?_
  refine .bind (declarators_agrees hg nameIndex) fun _ _ h => ?_
  extract_lets -underBinder whole whole'
  have hwhole : Agrees tokens tokens' (SameNode spelled) (whole ()) (whole' ()) :=
    node_agrees first hform h
  clear_value whole whole'
  exact .ite rfl (fun _ => .bind (expect_agrees _) fun _ _ _ => hwhole) fun _ => hwhole

omit hg in
theorem localHead_agrees :
    Agrees tokens tokens'
      (fun head head' => head.1 = head'.1 ∧ SameType spelled head.2.1 head'.2.1 ∧
        head.2.2 = head'.2.2)
      localHead localHead := by
  refine .bind_eq modifiersOfLocal_agrees fun modifiers => .choose (atWord_agrees _) .mismatch ?_
  refine .bind anyType_agrees fun _ _ h => .bind current_agrees ?_
  rintro _ _ ⟨⟩
  refine .bind (peek_agrees 1) ?_
  rintro _ _ ⟨⟩
  refine .ite rfl (fun _ => .pure ⟨rfl, h, rfl⟩) fun _ => ?_
  exact .ite rfl (fun _ => .pure ⟨rfl, h, rfl⟩) fun _ => .mismatch

theorem localDeclaration?_agrees (first : Nat) (terminated : Bool) :
    Agrees tokens tokens' (Option.Rel (SameNode spelled)) (localDeclaration? g first terminated)
      (localDeclaration? g first terminated) := by
  refine .bind localHead_agrees.attempt ?_
  rintro _ _ (h | _)
  . rename_i head head'
    obtain ⟨modifiers, type, isFunction⟩ := head
    obtain ⟨_, type', _⟩ := head'
    obtain ⟨rfl, htype, rfl⟩ := h
    cases isFunction with
    | true =>
      refine .bind advance_agrees ?_
      rintro _ _ ⟨⟩
      refine .bind (method_agrees hg first rfl ?_) fun _ _ h => .pure (.some h)
      exact congrArg (fun text => MethodHead.mk _ ⟨0, 0⟩ modifiers (some (text, ⟨0, 0⟩)) _ _ _) htype
    | false =>
      refine .bind (localVariables_agrees hg first ?_ terminated) fun _ _ h => .pure (.some h)
      exact congrArg (fun text => Form.localDecl text modifiers .statement) htype
  . exact .pure .none

/-! ### Statements that begin with a keyword -/

theorem ifStatement_agrees (first : Nat) :
    Agrees tokens tokens' (SameNode spelled) (ifStatement g first) (ifStatement g first) := by
  unfold ifStatement
  refine .bind advance_agrees fun _ _ _ => .bind (condition_agrees hg) fun _ _ htest => ?_
  refine .bind hg.embedded fun _ _ htrue => .bind_eq (atKeyword_agrees _) fun _ => ?_
  extract_lets -underBinder whole whole'
  have hwhole : ∀ whenFalse whenFalse', SameNodes spelled whenFalse whenFalse' →
      Agrees tokens tokens' (SameNode spelled) (whole whenFalse) (whole' whenFalse') :=
    fun _ _ h => node_agrees first rfl ((h.cons htrue).cons htest)
  clear_value whole whole'
  refine .ite rfl (fun _ => .bind advance_agrees fun _ _ _ => ?_) fun _ => hwhole _ _ rfl
  exact .bind hg.embedded fun _ _ h => hwhole _ _ (.cons rfl h)

theorem optionalValue_agrees :
    Agrees tokens tokens' (SameNodes spelled) (optionalValue g) (optionalValue g) := by
  unfold optionalValue
  refine .bind current_agrees ?_
  rintro _ _ ⟨⟩
  extract_lets -underBinder whole
  have hwhole : ∀ value value', SameNodes spelled value value' →
      Agrees tokens tokens' (SameNodes spelled) (whole value) (whole value') :=
    fun _ _ h => .bind (expect_agrees _) fun _ _ _ => .pure h
  clear_value whole
  refine .ite rfl (fun _ => ?_) fun _ => hwhole _ _ rfl
  exact .bind hg.expression fun _ _ h => hwhole _ _ (.cons rfl h)

theorem returnStatement_agrees (first : Nat) :
    Agrees tokens tokens' (SameNode spelled) (returnStatement g first) (returnStatement g first) := by
  refine .bind advance_agrees fun _ _ _ => .bind (optionalValue_agrees hg) fun _ _ h => ?_
  exact node_agrees first rfl h

theorem whileStatement_agrees (first : Nat) :
    Agrees tokens tokens' (SameNode spelled) (whileStatement g first) (whileStatement g first) := by
  refine .bind advance_agrees fun _ _ _ => .bind (condition_agrees hg) fun _ _ htest => ?_
  exact .bind hg.embedded fun _ _ h => node_agrees first rfl (.cons (.cons rfl h) htest)

theorem doStatement_agrees (first : Nat) :
    Agrees tokens tokens' (SameNode spelled) (doStatement g first) (doStatement g first) := by
  refine .bind advance_agrees fun _ _ _ => .bind hg.embedded fun _ _ hbody => ?_
  refine .bind (requireKeyword_agrees _) fun _ _ _ => .bind (condition_agrees hg) fun _ _ h => ?_
  exact .bind (expect_agrees _) fun _ _ _ => node_agrees first rfl (.cons (.cons rfl h) hbody)

theorem forInitializer_agrees :
    Agrees tokens tokens' (SameNodes spelled) (forInitializer g) (forInitializer g) := by
  refine .choose (accept_agrees ";") (.pure rfl) (.bind_eq .here fun first => ?_)
  refine .bind (localDeclaration?_agrees hg first true) ?_
  rintro _ _ (h | _)
  . exact .pure (.cons rfl h)
  . refine .bind hg.expression fun _ _ hfirst => ?_
    refine .bind (R := SameNodes spelled) (manyWhile_agrees (isPunct_eq _) ?_) ?_
    . exact .bind advance_agrees fun _ _ _ => hg.expression
    . exact fun _ _ h => .bind (expect_agrees _) fun _ _ _ => .pure (h.cons hfirst)

theorem forStatement_agrees (first : Nat) :
    Agrees tokens tokens' (SameNode spelled) (forStatement g first) (forStatement g first) := by
  unfold forStatement
  refine .bind advance_agrees fun _ _ _ => .bind (require_agrees _) fun _ _ _ => ?_
  refine .bind (forInitializer_agrees hg) fun _ _ hinitializer => ?_
  refine .bind_eq (atPunct_agrees _) fun _ => ?_
  extract_lets -underBinder whole whole'
  have hwhole : ∀ test test', SameNodes spelled test test' →
      Agrees tokens tokens' (SameNode spelled) (whole test) (whole' test') := by
    intro test test' htest
    refine .bind (expect_agrees _) fun _ _ _ => ?_
    refine .bind (commaList_agrees (isBefore_eq _) hg.expression) fun _ _ hsteps => ?_
    refine .bind (expect_agrees _) fun _ _ _ => .bind hg.embedded fun _ _ h => ?_
    exact node_agrees first rfl (((hinitializer.append htest).append hsteps).append (.cons rfl h))
  clear_value whole whole'
  refine .ite rfl (fun _ => hwhole _ _ rfl) fun _ => ?_
  exact .bind hg.expression fun _ _ h => hwhole _ _ (.cons rfl h)

theorem foreachStatement_agrees (first : Nat) :
    Agrees tokens tokens' (SameNode spelled) (foreachStatement g first)
      (foreachStatement g first) := by
  unfold foreachStatement
  refine .bind advance_agrees fun _ _ _ => .bind (require_agrees _) fun _ _ _ => ?_
  refine .bind_eq .here fun typeIndex => .bind anyType_agrees fun type type' htype => ?_
  refine .bind_eq (atPunct_agrees _) fun _ => ?_
  extract_lets -underBinder whole
  have hwhole : ∀ declared declared', SameNodes spelled declared declared' →
      Agrees tokens tokens' (SameNode spelled) (whole declared) (whole declared') := by
    intro declared declared' hdeclared
    refine .bind (requireKeyword_agrees _) fun _ _ _ => .bind hg.expression fun _ _ h => ?_
    refine .bind (expect_agrees _) fun _ _ _ => .bind hg.embedded fun _ _ hbody => ?_
    exact node_agrees first rfl (hdeclared.append (.cons (.cons rfl hbody) h))
  clear_value whole
  refine .ite rfl (fun _ => .bind_eq skipGroup_agrees fun _ => hwhole _ _ rfl) fun _ => ?_
  refine .bind_eq .here fun nameIndex => .bind identifier_agrees ?_
  rintro _ _ ⟨⟩
  refine .bind (node_agrees nameIndex rfl rfl) fun _ _ h => ?_
  refine .bind (node_agrees typeIndex ?_ (.cons rfl h)) fun _ _ h => hwhole _ _ (.cons rfl h)
  exact congrArg (fun text => Form.localDecl text [] .loopVariable) htype

theorem catchClause_agrees :
    Agrees tokens tokens' (SameNodes spelled) (catchClause g) (catchClause g) := by
  unfold catchClause
  refine .bind advance_agrees fun _ _ _ => .bind_eq skipParentheses_agrees fun _ => ?_
  refine .bind_eq (atWord_agrees _) fun _ => ?_
  extract_lets -underBinder whole
  have hwhole : ∀ test test', SameNodes spelled test test' →
      Agrees tokens tokens' (SameNodes spelled) (whole test) (whole test') :=
    fun _ _ htest => .bind (block_agrees hg) fun _ _ h => .pure (htest.append (.cons rfl h))
  clear_value whole
  refine .ite rfl (fun _ => .bind advance_agrees fun _ _ _ => ?_) fun _ => hwhole _ _ rfl
  exact .bind (condition_agrees hg) fun _ _ h => hwhole _ _ (.cons rfl h)

theorem tryStatement_agrees (first : Nat) :
    Agrees tokens tokens' (SameNode spelled) (tryStatement g first) (tryStatement g first) := by
  unfold tryStatement
  refine .bind advance_agrees fun _ _ _ => .bind (block_agrees hg) fun _ _ hguarded => ?_
  refine .bind (manyWhile_agrees (isKeyword_eq _) (catchClause_agrees hg)) fun _ _ hhandlers => ?_
  refine .bind_eq (atKeyword_agrees _) fun _ => ?_
  extract_lets -underBinder whole whole'
  have hwhole : ∀ last last', SameNodes spelled last last' →
      Agrees tokens tokens' (SameNode spelled) (whole last) (whole' last') :=
    fun _ _ h => node_agrees first rfl ((hhandlers.flatten.cons hguarded).append h)
  clear_value whole whole'
  refine .ite rfl (fun _ => .bind advance_agrees fun _ _ _ => ?_) fun _ => hwhole _ _ rfl
  exact .bind (block_agrees hg) fun _ _ h => hwhole _ _ (.cons rfl h)

theorem usingStatement_agrees (first : Nat) :
    Agrees tokens tokens' (SameNode spelled) (usingStatement g first) (usingStatement g first) := by
  unfold usingStatement
  refine .bind advance_agrees fun _ _ _ => .choose (accept_agrees "(") (.bind_eq .here fun _ => ?_) ?_
  . refine .bind (localDeclaration?_agrees hg _ false) fun declared? declared?' h => ?_
    extract_lets -underBinder whole
    have hwhole : ∀ resource resource', SameNode spelled resource resource' →
        Agrees tokens tokens' (SameNode spelled) (whole resource) (whole resource') := by
      intro resource resource' hresource
      refine .bind (expect_agrees _) fun _ _ _ => .bind hg.embedded fun _ _ h => ?_
      exact node_agrees first rfl (.cons (.cons rfl h) hresource)
    clear_value whole
    cases h with
    | some h => exact hwhole _ _ h
    | none => exact .bind hg.expression hwhole
  . refine .bind anyType_agrees fun type type' htype => localVariables_agrees hg first ?_ true
    exact congrArg (fun text => Form.localDecl text [] .resource) htype

theorem lockStatement_agrees (first : Nat) :
    Agrees tokens tokens' (SameNode spelled) (lockStatement g first) (lockStatement g first) := by
  refine .bind advance_agrees fun _ _ _ => .bind (condition_agrees hg) fun _ _ hlock => ?_
  exact .bind hg.embedded fun _ _ h => node_agrees first rfl (.cons (.cons rfl h) hlock)

omit hg in
theorem atCaseLabel_agrees : Agrees tokens tokens' Eq atCaseLabel atCaseLabel := by
  refine .bind_eq (atKeyword_agrees _) fun _ => .bind_eq (atKeyword_agrees _) fun _ => ?_
  refine .bind (peek_agrees 1) ?_
  rintro _ _ ⟨⟩
  exact .pure rfl

theorem switchStatement_agrees (first : Nat) :
    Agrees tokens tokens' (SameNode spelled) (switchStatement g first) (switchStatement g first) := by
  refine .bind advance_agrees fun _ _ _ => .bind (condition_agrees hg) fun _ _ hsubject => ?_
  refine .bind (require_agrees _) fun _ _ _ => ?_
  refine .bind (R := SameView (List.map (Node.bare spelled))) (manyWhile_agrees (isBefore_eq _) ?_) ?_
  . refine .choose atCaseLabel_agrees (.bind_eq skipCaseLabel_agrees fun _ => .pure rfl) ?_
    exact .bind hg.embedded fun _ _ h => .pure (SameView.cons rfl h)
  . refine fun _ _ h => .bind (expect_agrees _) fun _ _ _ => ?_
    exact node_agrees first rfl (h.flatten.cons hsubject)

theorem throwStatement_agrees (first : Nat) :
    Agrees tokens tokens' (SameNode spelled) (throwStatement g first) (throwStatement g first) := by
  refine .bind advance_agrees fun _ _ _ => .bind (optionalValue_agrees hg) fun _ _ h => ?_
  exact node_agrees first rfl h

theorem yieldStatement_agrees (first : Nat) :
    Agrees tokens tokens' (SameNode spelled) (yieldStatement g first) (yieldStatement g first) := by
  unfold yieldStatement
  refine .bind advance_agrees fun _ _ _ => .bind advance_agrees ?_
  rintro _ _ ⟨⟩
  extract_lets -underBinder whole
  have hwhole : ∀ value value', SameNodes spelled value value' →
      Agrees tokens tokens' (SameNode spelled) (whole value) (whole value') :=
    fun _ _ h => .bind (expect_agrees _) fun _ _ _ => node_agrees first rfl h
  clear_value whole
  refine .ite rfl (fun _ => ?_) fun _ => hwhole _ _ rfl
  exact .bind hg.expression fun _ _ h => hwhole _ _ (.cons rfl h)

omit hg in
theorem jumpStatement_agrees (first : Nat) :
    Agrees tokens tokens' (SameNode spelled) (jumpStatement first) (jumpStatement first) := by
  refine .bind advance_agrees ?_
  rintro _ _ ⟨⟩
  exact .bind (expect_agrees _) fun _ _ _ => node_agrees first rfl rfl

theorem guardedStatement_agrees (first : Nat) :
    Agrees tokens tokens' (SameNode spelled) (guardedStatement g first)
      (guardedStatement g first) := by
  refine .bind advance_agrees ?_
  rintro _ _ ⟨⟩
  refine .bind_eq skipParentheses_agrees fun _ => ?_
  exact .bind hg.embedded fun _ _ h => node_agrees first rfl (.cons rfl h)

theorem keywordStatement?_agrees {keyword : String} {parser : Nat → Parser Node}
    (hparser : keywordStatement? g keyword = some parser) (first : Nat) :
    Agrees tokens tokens' (SameNode spelled) (parser first) (parser first) := by
  unfold keywordStatement? at hparser
  split at hparser
  all_goals cases hparser
  . exact ifStatement_agrees hg first
  . exact returnStatement_agrees hg first
  . exact whileStatement_agrees hg first
  . exact doStatement_agrees hg first
  . exact forStatement_agrees hg first
  . exact foreachStatement_agrees hg first
  . exact tryStatement_agrees hg first
  . exact usingStatement_agrees hg first
  . exact lockStatement_agrees hg first
  . exact switchStatement_agrees hg first
  . exact throwStatement_agrees hg first
  . exact jumpStatement_agrees first
  . exact jumpStatement_agrees first
  . exact skipConstruct_agrees first "goto"
  . exact guardedStatement_agrees hg first
  . exact guardedStatement_agrees hg first
  . exact guardedStatement_agrees hg first
  . exact guardedStatement_agrees hg first

/-! ### All statements -/

theorem plainStatement_agrees (first : Nat) :
    Agrees tokens tokens' (SameNode spelled) (plainStatement g first) (plainStatement g first) := by
  refine .bind (localDeclaration?_agrees hg first true) ?_
  rintro _ _ (h | _)
  . exact .pure h
  . refine .bind (expression_agrees hg) fun _ _ h => .bind (expect_agrees _) fun _ _ _ => ?_
    exact node_agrees first rfl (.cons rfl h)

theorem identifierStatement_agrees (first : Nat) :
    Agrees tokens tokens' (SameNode spelled) (identifierStatement g first)
      (identifierStatement g first) := by
  refine .bind current_agrees ?_
  rintro _ _ ⟨⟩
  refine .bind (peek_agrees 1) ?_
  rintro _ _ ⟨⟩
  refine .ite rfl (fun _ => yieldStatement_agrees hg first) fun _ => ?_
  refine .ite rfl (fun _ => .bind advance_agrees fun _ _ _ => .bind current_agrees ?_) fun _ => ?_
  . rintro _ _ ⟨⟩
    refine .ite rfl (fun _ => foreachStatement_agrees hg first) fun _ => ?_
    exact usingStatement_agrees hg first
  . refine .bind (peek_agrees 2) ?_
    rintro _ _ ⟨⟩
    refine .ite rfl (fun _ => ?_) fun _ => plainStatement_agrees hg first
    exact .bind advance_agrees fun _ _ _ => .bind advance_agrees fun _ _ _ => hg.statement

theorem statement_agrees : Agrees tokens tokens' (SameNode spelled) (statement g) (statement g) := by
  refine .bind_eq .here fun first => .bind current_agrees ?_
  rintro _ _ ⟨⟩
  refine .bind (peek_agrees 1) ?_
  rintro _ _ ⟨⟩
  refine .ite rfl (fun _ => block_agrees hg) fun _ => .ite rfl (fun _ => ?_) fun _ => ?_
  . exact .bind advance_agrees fun _ _ _ => node_agrees first rfl rfl
  refine .ite rfl (fun _ => ?_) fun _ => ?_
  . dsimp only
    split
    . next parser hparser =>
      refine .ite rfl (fun _ => plainStatement_agrees hg first) fun _ => ?_
      exact keywordStatement?_agrees hg hparser first
    . exact plainStatement_agrees hg first
  . refine .ite rfl (fun _ => identifierStatement_agrees hg first) fun _ => ?_
    exact plainStatement_agrees hg first

theorem embedded_agrees : Agrees tokens tokens' (SameNode spelled) (embedded g) (embedded g) := by
  refine .bind_eq .here fun first => .bind (statement_agrees hg).attempt ?_
  rintro _ _ (h | _)
  . exact .pure h
  . exact skipConstruct_agrees first "unparsed"

end ThreadLint.Parser
