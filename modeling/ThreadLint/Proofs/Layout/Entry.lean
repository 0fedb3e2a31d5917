import ThreadLint.Grammar.Method
import ThreadLint.Proofs.Layout.Agrees

/-!
This module contains that types, and what is passed over, are read in the same way from the same
tokens, and that blocks, contents, arguments, the heads of declarations and lambdas are too, as long as
the constructs inside them are.
-/

namespace ThreadLint.Parser

variable {tokens tokens' : Array Token} {spelled : Bool} [same : SameTokens spelled tokens tokens']

include same

/-! ### What is passed over -/

theorem skipConstruct_agrees (first : Nat) (keyword : String) :
    Agrees tokens tokens' (SameNode spelled) (skipConstruct first keyword)
      (skipConstruct first keyword) := by
  unfold skipConstruct
  refine .bind_eq (.seek first) fun _ => ?_
  refine .bind_eq ?_ fun _ => .bind_eq .here fun cursor => ?_
  . apply loop_agrees (fun _ _ => True) trivial
    intro _ _ _
    refine .bind current_agrees ?_
    rintro _ _ ⟨⟩
    refine .ite rfl (fun _ => .pure (.done rfl)) fun _ => .ite rfl (fun _ => ?_) fun _ => ?_
    . exact .bind advance_agrees fun _ _ _ => .pure (.done rfl)
    . refine .ite rfl (fun _ => .bind_eq skipGroup_agrees fun _ => ?_) fun _ => ?_
      . refine .ite rfl (fun _ => ?_) fun _ => .pure (.more trivial)
        exact .bind_eq (accept_agrees ";") fun _ => .pure (.done rfl)
      . exact .bind advance_agrees fun _ _ _ => .pure (.more trivial)
  . refine .ite rfl (fun _ => .bind advance_agrees fun _ _ _ => ?_) fun _ => ?_
    . exact node_agrees first rfl rfl
    . exact node_agrees first rfl rfl

theorem skipTypeParameters_agrees :
    Agrees tokens tokens' Eq skipTypeParameters skipTypeParameters := by
  refine .choose (atPunct_agrees _) ?_ (.pure rfl)
  apply loop_agrees Eq rfl
  rintro depth _ rfl
  refine .choose atEnd_agrees (.pure (.done rfl)) (.bind advance_agrees ?_)
  rintro _ _ ⟨⟩
  refine .ite rfl (fun _ => .pure (.more rfl)) fun _ => .ite rfl (fun _ => ?_) fun _ => ?_
  . exact .ite rfl (fun _ => .pure (.done rfl)) fun _ => .pure (.more rfl)
  . exact .pure (.more rfl)

theorem skipConstraints_agrees : Agrees tokens tokens' Eq skipConstraints skipConstraints := by
  apply loop_agrees (fun _ _ => True) trivial
  intro _ _ _
  refine .choose (atWord_agrees _) (.bind advance_agrees fun _ _ _ => ?_) (.pure (.done rfl))
  refine .bind_eq (skipWhile_agrees ?_ ?_) fun _ => .pure (.more trivial)
  . rintro _ _ ⟨⟩
    rfl
  . rintro _ _ ⟨⟩
    rfl

theorem skipCaseLabel_agrees : Agrees tokens tokens' Eq skipCaseLabel skipCaseLabel := by
  refine .bind advance_agrees fun _ _ _ => .bind_eq (skipWhile_agrees ?_ ?_) fun _ => ?_
  . rintro _ _ ⟨⟩
    rfl
  . rintro _ _ ⟨⟩
    rfl
  . exact .bind_eq (accept_agrees ":") fun _ => .pure rfl

/-! ### Types -/

omit same in
/--
Whether two mentions of a type only differ in where they are written.
-/
def SameType (spelled : Bool) (type type' : TypeUse) : Prop :=
  bareText spelled type.text = bareText spelled type'.text

variable {inner : Parser TypeUse} {cut : Bool}
  (hinner : Agrees tokens tokens' (SameType cut) inner inner)

section

include hinner

theorem typeArgumentList_agrees :
    Agrees tokens tokens' (SameTexts cut) (typeArgumentList inner) (typeArgumentList inner) := by
  unfold typeArgumentList
  refine .bind advance_agrees fun _ _ _ => .bind (R := SameTexts cut) ?_ fun _ _ h => ?_
  . apply loop_agrees (SameTexts cut) rfl
    intro found found' hfound
    refine .bind_eq (atPunct_agrees _) fun _ => ?_
    extract_lets -underBinder added
    have hadded : ∀ found found', SameTexts cut found found' →
        Agrees tokens tokens' (Progress.Alike (SameTexts cut) (SameTexts cut)) (added found)
          (added found') := by
      intro found found' hfound
      exact .choose (accept_agrees ",") (.pure (.more hfound)) (.pure (.done hfound.reverse))
    clear_value added
    refine .ite rfl (fun _ => hadded _ _ hfound) fun _ => ?_
    exact .bind hinner fun _ _ h => hadded _ _ (hfound.cons h)
  . exact .bind (require_agrees _) fun _ _ _ => .pure h

theorem skipTypeArguments_agrees :
    Agrees tokens tokens' Eq (skipTypeArguments inner) (skipTypeArguments inner) :=
  .choose (atPunct_agrees _) (.bind (typeArgumentList_agrees hinner) fun _ _ _ => .pure rfl)
    (.pure rfl)

/-- The text of a type is compared where it is known which tokens it is cut out of. -/
theorem typeWith_agrees (nullable arrays : Bool) :
    Agrees tokens tokens' (SameType false) (typeWith inner nullable arrays)
      (typeWith inner nullable arrays) := by
  unfold typeWith
  refine .bind_eq .here fun first => .bind current_agrees ?_
  rintro _ _ ⟨⟩
  extract_lets -underBinder behind behind'
  have hbehind : Agrees tokens tokens' (SameType false) (behind ()) (behind' ()) := by
    refine .bind_eq ?_ fun _ => .bind_eq .here fun next => ?_
    . apply loop_agrees (fun _ _ => True) trivial
      intro _ _ _
      refine .bind_eq (atPunct_agrees _) fun _ => .ite rfl (fun _ => ?_) fun _ => ?_
      . exact .bind advance_agrees fun _ _ _ => .pure (.more trivial)
      . refine .bind_eq (atPunct_agrees _) fun _ => .bind (peek_agrees 1) ?_
        rintro _ _ ⟨⟩
        refine .ite rfl (fun _ => ?_) fun _ => .pure (.done rfl)
        exact .bind_eq skipGroup_agrees fun _ => .pure (.more trivial)
    . refine .bind (spelling_agrees first next) fun _ _ _ => ?_
      exact .bind lastStop_agrees fun _ _ _ => .pure rfl
  clear_value behind behind'
  refine .ite rfl (fun _ => ?_) fun _ => .ite rfl (fun _ => ?_) fun _ => ?_
  . refine .bind_eq (closing?_agrees first) fun found => ?_
    cases found with
    | some closer => exact .bind_eq (.seek _) fun _ => hbehind
    | none => exact .bind_eq .mismatch fun _ => hbehind
  . refine .bind advance_agrees fun _ _ _ => .bind_eq (skipTypeArguments_agrees hinner) fun _ => ?_
    refine .bind_eq ?_ fun _ => hbehind
    apply loop_agrees (fun _ _ => True) trivial
    intro _ _ _
    refine .bind_eq (atPunct_agrees _) fun _ => .bind (peek_agrees 1) ?_
    rintro _ _ ⟨⟩
    refine .ite rfl (fun _ => ?_) fun _ => .pure (.done rfl)
    refine .bind advance_agrees fun _ _ _ => .bind advance_agrees fun _ _ _ => ?_
    exact .bind_eq (skipTypeArguments_agrees hinner) fun _ => .pure (.more trivial)
  . exact .bind_eq .mismatch fun _ => hbehind

end

theorem typeAtDepth_agrees (depth : Nat) (nullable arrays : Bool) :
    Agrees tokens tokens' (SameType false) (typeAtDepth depth nullable arrays)
      (typeAtDepth depth nullable arrays) := by
  induction depth generalizing nullable arrays with
  | zero => exact .stopWith .exhausted
  | succ depth ih => exact typeWith_agrees (ih true true) nullable arrays

omit same in
theorem le_last_of_typeUse [Lawful tokens] {nullable arrays : Bool} {cursor next : Nat}
    {type : TypeUse} (h : typeUse nullable arrays tokens cursor = .ok (type, next)) :
    cursor ≤ last tokens := by
  apply Nat.le_of_not_lt
  intro hlt
  have hsize : ¬ cursor < tokens.size := by
    unfold last at hlt
    omega
  unfold typeUse at h
  simp only [typeAtDepth, typeWith, Bind.bind, current, here, tokenNumber, if_neg hsize] at h
  cases h

omit same in
theorem isType_of_typeUse [Lawful tokens] {nullable arrays : Bool} {cursor next : Nat}
    {type : TypeUse} (h : typeUse nullable arrays tokens cursor = .ok (type, next)) :
    next ≤ last tokens ∧ IsType tokens cursor type next := by
  have hcursor := le_last_of_typeUse h
  obtain ⟨_, hnext, _, htype⟩ := (typeUse_ensures hcursor).of_eq_ok hcursor h
  exact ⟨hnext, htype⟩

theorem typeUse_agrees (nullable arrays : Bool) :
    Agrees tokens tokens' (SameType spelled) (typeUse nullable arrays)
      (typeUse nullable arrays) := by
  have h : Agrees tokens tokens' (SameType false) (typeUse nullable arrays)
      (typeUse nullable arrays) := by
    intro cursor
    unfold typeUse
    rw [same.size_eq]
    exact typeAtDepth_agrees _ nullable arrays cursor
  refine h.mono_of_eq_ok fun first stop type type' htype htype' _ => bareText_eq fun hspelled => ?_
  have := same.lawful
  have := same.lawful'
  obtain ⟨hnext, _, ⟨_, htext⟩, _⟩ := isType_of_typeUse htype
  obtain ⟨_, _, ⟨_, htext'⟩, _⟩ := isType_of_typeUse htype'
  rw [htext, htext']
  have : last tokens < tokens.size := last_lt_size
  exact spelled_eq fun index hfirst hstop =>
    word_eq hspelled (by omega) (isInside_of_typeUse htype hfirst hstop)

theorem anyType_agrees : Agrees tokens tokens' (SameType spelled) anyType anyType :=
  typeUse_agrees true true

theorem typeArguments?_agrees :
    Agrees tokens tokens' (Option.Rel (SameTexts spelled)) typeArguments? typeArguments? := by
  refine .choose (atPunct_agrees _) (.attempt ?_) (.pure .none)
  refine .bind (typeArgumentList_agrees anyType_agrees) fun _ _ h => .bind current_agrees ?_
  rintro _ _ ⟨⟩
  exact .ite rfl (fun _ => .pure h) fun _ => .mismatch

end ThreadLint.Parser

/-! ### Where the grammar is recursive -/

namespace ThreadLint

open ThreadLint.Parser

variable {tokens tokens' : Array Token} {spelled : Bool}

/--
Whether the parsers of a grammar go the same way on the tokens of two texts.
-/
structure Grammar.Agrees (g : Grammar) (tokens tokens' : Array Token) (spelled : Bool) : Prop where
  expression : Parser.Agrees tokens tokens' (SameNode spelled) g.expression g.expression
  operand : Parser.Agrees tokens tokens' (SameNode spelled) g.operand g.operand
  operation least :
    Parser.Agrees tokens tokens' (SameNode spelled) (g.operation least) (g.operation least)
  pattern designated :
    Parser.Agrees tokens tokens' (SameNode spelled) (g.pattern designated) (g.pattern designated)
  contents : Parser.Agrees tokens tokens' (SameNodes spelled) g.contents g.contents
  statement : Parser.Agrees tokens tokens' (SameNode spelled) g.statement g.statement
  embedded : Parser.Agrees tokens tokens' (SameNode spelled) g.embedded g.embedded
  members owner : Parser.Agrees tokens tokens' (SameNodes spelled) (g.members owner) (g.members owner)

namespace Parser

theorem isBefore_eq (closer : String) (token token' : Token) (h : token.Alike token') :
    isBefore closer token = isBefore closer token' := by
  cases h
  rfl

theorem isPunct_eq (texts : List String) (token token' : Token) (h : token.Alike token') :
    token.isPunct texts = token'.isPunct texts := by
  cases h
  rfl

theorem isKeyword_eq (texts : List String) (token token' : Token) (h : token.Alike token') :
    token.isKeyword texts = token'.isKeyword texts := by
  cases h
  rfl

variable [same : SameTokens spelled tokens tokens'] {g : Grammar}
  (hg : g.Agrees tokens tokens' spelled)

include same hg

theorem block_agrees : Agrees tokens tokens' (SameNode spelled) (block g) (block g) := by
  refine .bind_eq .here fun first => .bind (require_agrees _) fun _ _ _ => ?_
  refine .bind (manyWhile_agrees (isBefore_eq _) hg.embedded) fun _ _ h => ?_
  exact .bind (expect_agrees _) fun _ _ _ => node_agrees first rfl h

theorem initialValue_agrees :
    Agrees tokens tokens' (SameNode spelled) (initialValue g) (initialValue g) := by
  refine .choose (atPunct_agrees _) (.bind_eq .here fun first => ?_) hg.expression
  exact .bind hg.contents fun _ _ h => node_agrees first rfl h

theorem contentsItem_agrees :
    Agrees tokens tokens' (SameNode spelled) (contentsItem g) (contentsItem g) := by
  refine .choose (atPunct_agrees _) (initialValue_agrees hg) (.choose (atPunct_agrees _) ?_ ?_)
  . refine .bind_eq skipGroup_agrees fun _ => .bind (require_agrees _) fun _ _ _ => ?_
    exact initialValue_agrees hg
  . exact hg.expression

theorem contents_agrees : Agrees tokens tokens' (SameNodes spelled) (contents g) (contents g) := by
  refine .bind advance_agrees fun _ _ _ => ?_
  refine .bind (commaList_agrees (isBefore_eq _) (contentsItem_agrees hg)) fun _ _ h => ?_
  exact .bind (expect_agrees _) fun _ _ _ => .pure h

omit hg in
theorem declaredArgument?_agrees :
    Agrees tokens tokens' (Option.Rel (SameNode spelled)) declaredArgument? declaredArgument? := by
  refine .attempt (.bind anyType_agrees fun type type' h => .bind_eq .here fun first => ?_)
  refine .bind identifier_agrees ?_
  rintro _ _ ⟨⟩
  refine .choose (atPunct_agrees _) (node_agrees first ?_ rfl) .mismatch
  exact congrArg (fun text => Form.identifier _ (.declaration text)) h

theorem argument_agrees : Agrees tokens tokens' (SameNode spelled) (argument g) (argument g) := by
  unfold argument
  refine .bind current_agrees ?_
  rintro _ _ ⟨⟩
  refine .bind (peek_agrees 1) ?_
  rintro _ _ ⟨⟩
  extract_lets -underBinder value
  have hvalue : Agrees tokens tokens' (SameNode spelled) (value ()) (value ()) := by
    refine .choose (atKeyword_agrees _) (.bind advance_agrees fun _ _ _ => ?_) hg.expression
    refine .bind declaredArgument?_agrees ?_
    rintro _ _ (h | _)
    . exact .pure h
    . exact hg.expression
  clear_value value
  refine .ite rfl (fun _ => ?_) fun _ => hvalue
  exact .bind advance_agrees fun _ _ _ => .bind advance_agrees fun _ _ _ => hvalue

theorem argumentList_agrees (closer : String) :
    Agrees tokens tokens'
      (fun result result' => SameNodes spelled result.1 result'.1 ∧
        Option.Rel Token.Alike result.2 result'.2)
      (argumentList g closer) (argumentList g closer) := by
  refine .bind advance_agrees fun _ _ _ => ?_
  refine .bind (commaList_agrees (isBefore_eq _) (argument_agrees hg)) fun _ _ h => ?_
  exact .bind (expect_agrees _) fun _ _ hcloser => .pure ⟨h, hcloser⟩

/-! ### Heads of declarations -/

theorem attributeUse_agrees :
    Agrees tokens tokens' (SameNode spelled) (attributeUse g) (attributeUse g) := by
  unfold attributeUse
  refine .bind_eq .here fun first => .bind (typeUse_agrees _ _) fun name name' hname => ?_
  refine .bind_eq (atPunct_agrees _) fun _ => ?_
  extract_lets -underBinder use use'
  have huse : ∀ arguments arguments' closer closer', SameNodes spelled arguments arguments' →
      Option.Rel Token.Alike closer closer' →
      Agrees tokens tokens' (SameNode spelled) (use (arguments, closer))
        (use' (arguments', closer')) := by
    intro arguments arguments' closer closer' harguments hcloser
    refine node_agrees first ?_ harguments
    have hclose : (closer.map Token.start).map (fun _ => 0) = (closer'.map Token.start).map fun _ => 0 := by
      cases hcloser with
      | some _ => rfl
      | none => rfl
    simp only [Form.bare]
    rw [hname, hclose]
  clear_value use use'
  refine .ite rfl (fun _ => ?_) fun _ => huse _ _ _ _ rfl .none
  exact .bind (argumentList_agrees hg ")") fun _ _ h => huse _ _ _ _ h.1 h.2

theorem attributeLists_agrees :
    Agrees tokens tokens' (SameNodes spelled) (attributeLists g) (attributeLists g) := by
  unfold attributeLists
  refine .bind (manyWhile_agrees (isPunct_eq _) ?_) fun _ _ h => .pure h.flatten
  refine .bind advance_agrees fun _ _ _ => .bind current_agrees ?_
  rintro _ _ ⟨⟩
  refine .bind (peek_agrees 1) ?_
  rintro _ _ ⟨⟩
  extract_lets -underBinder uses
  have huses : Agrees tokens tokens' (SameNodes spelled) (uses ()) (uses ()) := by
    refine .bind (commaList_agrees (isBefore_eq _) (attributeUse_agrees hg)) fun _ _ h => ?_
    exact .bind (expect_agrees _) fun _ _ _ => .pure h
  clear_value uses
  refine .ite rfl (fun _ => ?_) fun _ => huses
  exact .bind advance_agrees fun _ _ _ => .bind advance_agrees fun _ _ _ => huses

omit hg in
theorem modifiers_agrees : Agrees tokens tokens' Eq modifiers modifiers := by
  apply loop_agrees Eq rfl
  rintro found _ rfl
  refine .bind current_agrees ?_
  rintro _ _ ⟨⟩
  refine .bind (peek_agrees 1) ?_
  rintro _ _ ⟨⟩
  refine .ite rfl (fun _ => ?_) fun _ => .pure (.done rfl)
  exact .bind advance_agrees fun _ _ _ => .pure (.more rfl)

theorem parameter_agrees :
    Agrees tokens tokens'
      (fun node node' =>
        (node.bare spelled, node.form.name?) = (node'.bare spelled, node'.form.name?))
      (parameter g) (parameter g) := by
  unfold parameter
  refine .bind_eq .here fun first => .bind (attributeLists_agrees hg) fun _ _ _ => ?_
  refine .bind (manyWhile_agrees (isKeyword_eq _) (advance_agrees.mono fun _ _ h => h.text_eq))
    fun _ _ _ => ?_
  refine .bind anyType_agrees fun type type' htype => .bind identifier_agrees ?_
  rintro _ _ ⟨⟩
  refine .bind_eq (accept_agrees "=") fun _ => ?_
  extract_lets -underBinder made made'
  have hmade : ∀ initial initial', SameNodes spelled initial initial' →
      Agrees tokens tokens'
        (fun node node' =>
          (node.bare spelled, node.form.name?) = (node'.bare spelled, node'.form.name?))
        (made initial) (made' initial') := by
    intro initial initial' hinitial
    refine (node_agrees_form first ?_ hinitial).mono ?_
    . exact congrArg (Form.parameter _) htype
    . rintro node node' ⟨h, hform, hform'⟩
      rw [hform, hform', h]
      rfl
  clear_value made made'
  refine .ite rfl (fun _ => ?_) fun _ => hmade _ _ rfl
  exact .bind hg.expression fun _ _ h => hmade _ _ (.cons rfl h)

theorem parameterList_agrees (closer : String) :
    Agrees tokens tokens' (SameParameters spelled) (parameterList g closer)
      (parameterList g closer) := by
  refine .bind advance_agrees fun _ _ _ => ?_
  refine .bind (commaList_agrees (isBefore_eq _) (parameter_agrees hg)) fun _ _ h => ?_
  exact .bind (expect_agrees _) fun _ _ _ => .pure h

/-! ### Lambdas -/

omit hg in
theorem arrowFollowsGroup_agrees (opener : Nat) :
    Agrees tokens tokens' Eq (arrowFollowsGroup opener) (arrowFollowsGroup opener) := by
  refine .bind_eq (closing?_agrees opener) fun found => ?_
  cases found with
  | none => exact .pure rfl
  | some closer =>
    refine .bind (tokenNumber_agrees _) ?_
    rintro _ _ ⟨⟩
    exact .pure rfl

omit hg in
theorem atLambda_agrees : Agrees tokens tokens' Eq atLambda atLambda := by
  refine .bind current_agrees ?_
  rintro _ _ ⟨⟩
  refine .bind (peek_agrees 1) ?_
  rintro _ _ ⟨⟩
  refine .bind_eq .here fun cursor => .ite rfl (fun _ => .pure rfl) fun _ => ?_
  refine .ite rfl (fun _ => ?_) fun _ => .ite rfl (fun _ => .pure rfl) fun _ => ?_
  . refine .ite rfl (fun _ => .pure rfl) fun _ => .bind (peek_agrees 2) ?_
    rintro _ _ ⟨⟩
    refine .ite rfl (fun _ => .pure rfl) fun _ => ?_
    exact .ite rfl (fun _ => arrowFollowsGroup_agrees _) fun _ => .pure rfl
  . exact .ite rfl (fun _ => arrowFollowsGroup_agrees _) fun _ => .pure rfl

omit hg in
theorem lambdaParameters_agrees : Agrees tokens tokens' Eq lambdaParameters lambdaParameters := by
  refine .bind advance_agrees fun _ _ _ => .bind_eq ?_ fun names => ?_
  . apply loop_agrees Eq rfl
    rintro ⟨names, last⟩ _ rfl
    refine .bind current_agrees ?_
    rintro _ _ ⟨⟩
    refine .ite rfl (fun _ => .pure (.done rfl)) fun _ => .ite rfl (fun _ => ?_) fun _ => ?_
    . exact .bind_eq skipGroup_agrees fun _ => .pure (.more rfl)
    . refine .bind advance_agrees fun _ _ _ => .ite rfl (fun _ => .pure (.more rfl)) fun _ => ?_
      exact .ite rfl (fun _ => .pure (.more rfl)) fun _ => .pure (.more rfl)
  . exact .bind (expect_agrees _) fun _ _ _ => .pure rfl

theorem lambda_agrees : Agrees tokens tokens' (SameNode spelled) (lambda g) (lambda g) := by
  unfold lambda
  refine .bind_eq .here fun first => .bind_eq (atWord_agrees _) fun isAsync => ?_
  extract_lets -underBinder behind
  have hbehind : Agrees tokens tokens' (SameNode spelled) (behind ()) (behind ()) := by
    refine .choose (atKeyword_agrees _) (.bind advance_agrees fun _ _ _ => ?_) ?_
    . refine .bind_eq (atPunct_agrees _) fun _ => ?_
      extract_lets -underBinder made
      have hmade : ∀ parameters parameters', SameParameters spelled parameters parameters' →
          Agrees tokens tokens' (SameNode spelled) (made parameters) (made parameters') := by
        intro parameters parameters' hparameters
        refine .bind (block_agrees hg) fun _ _ h => node_agrees first ?_ (.cons rfl h)
        rw [hparameters.names]
      clear_value made
      refine .ite rfl (fun _ => ?_) fun _ => hmade _ _ rfl
      exact .bind (parameterList_agrees hg ")") fun _ _ h => hmade _ _ h
    . refine .bind current_agrees ?_
      rintro _ _ ⟨⟩
      extract_lets -underBinder made
      have hmade : ∀ parameters,
          Agrees tokens tokens' (SameNode spelled) (made parameters) (made parameters) := by
        intro parameters
        refine .bind (require_agrees _) fun _ _ _ => .bind_eq (atPunct_agrees _) fun _ => ?_
        extract_lets -underBinder whole
        have hwhole : ∀ body body', SameNode spelled body body' →
            Agrees tokens tokens' (SameNode spelled) (whole body) (whole body') :=
          fun body body' h => node_agrees first rfl (.cons rfl h)
        clear_value whole
        exact .ite rfl (fun _ => .bind (block_agrees hg) hwhole) fun _ => .bind hg.expression hwhole
      clear_value made
      refine .ite rfl (fun _ => .bind advance_agrees ?_) fun _ => ?_
      . rintro _ _ ⟨⟩
        exact hmade _
      . exact .bind_eq lambdaParameters_agrees hmade
  clear_value behind
  exact .ite rfl (fun _ => .bind advance_agrees fun _ _ _ => hbehind) fun _ => hbehind

end Parser

end ThreadLint
