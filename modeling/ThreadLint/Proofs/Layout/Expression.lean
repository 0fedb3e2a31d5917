import ThreadLint.Proofs.Layout.Entry

/-!
This module contains that expressions are read in the same way from the same tokens. Where angle
brackets touch matters here, as two of them that do are one operator.
-/

namespace ThreadLint.Parser

variable {tokens tokens' : Array Token} {spelled : Bool} [same : SameTokens spelled tokens tokens']
  {g : Grammar} (hg : g.Agrees tokens tokens' spelled)

include same

/-! ### Primary expressions -/

theorem spellingBetween_agrees {opener closer : Nat}
    (hopener : (tokenAt tokens opener).isPunct ["("] = true)
    (hclosing : Token.matching? tokens opener = some closer) :
    Agrees tokens tokens' (fun text text' => bareText spelled text = bareText spelled text')
      (spellingBetween opener closer) (spellingBetween opener closer) := by
  intro cursor
  refine .ok cursor (bareText_eq fun hspelled => ?_)
  obtain ⟨hlt, _, hsize, _⟩ := Token.matching?_eq_some hclosing
  have hword : ∀ index, opener + 1 ≤ index → index ≤ closer →
      (tokenAt tokens index).word = (tokenAt tokens' index).word :=
    fun index hfirst hstop =>
      word_eq hspelled (by omega) (isInside_of_matching? hopener hclosing hfirst hstop)
  have hwords : (tokens.extract (opener + 1) closer).toList.map Token.word
      = (tokens'.extract (opener + 1) closer).toList.map Token.word :=
    map_word_eq fun index hfirst hstop => hword index hfirst (Nat.le_of_lt hstop)
  have hremarks : (tokenAt tokens closer).remarks = (tokenAt tokens' closer).remarks :=
    congrArg Prod.snd (hword closer hlt (Nat.le_refl _))
  unfold Token.remarks at hremarks
  rw [dropBlanks_append, dropBlanks_append, dropBlanks_written, dropBlanks_written, hwords, hremarks]

omit same in
theorem eq_of_atPunct_eq_ok {texts : List String} {cursor next : Nat} {found : Bool}
    (h : atPunct texts tokens cursor = .ok (found, next)) :
    cursor = next ∧ (tokenAt tokens cursor).isPunct texts = found := by
  simp only [atPunct, current, here, tokenNumber, Bind.bind] at h
  split at h
  . next htoken =>
    split at htoken
    . cases htoken
      cases h
      exact ⟨rfl, rfl⟩
    . cases htoken
  . cases h

theorem skipParentheses_agrees : Agrees tokens tokens' Eq skipParentheses skipParentheses :=
  .choose (atPunct_agrees _) skipGroup_agrees (.pure rfl)

theorem literal_agrees (kind : LiteralKind) :
    Agrees tokens tokens' (SameNode spelled) (literal kind) (literal kind) := by
  refine .bind_eq .here fun first => .bind advance_agrees ?_
  rintro _ _ ⟨⟩
  exact node_agrees first rfl rfl

/-- The operand of such an expression is cut out of the file, with what stands between its tokens. -/
theorem typeLiteral_agrees (kind : LiteralKind) (hkind : kind = .typeOf ∨ kind = .sizeOf) :
    Agrees tokens tokens' (SameNode spelled) (typeLiteral kind) (typeLiteral kind) := by
  have := same.lawful
  refine .bind_eq .here fun first => .bind advance_agrees fun _ _ _ opener => ?_
  refine (atPunct_agrees _ opener).bind ?_
  rintro next opens _ hopens rfl
  obtain ⟨rfl, rfl⟩ := eq_of_atPunct_eq_ok hopens
  cases hopener : (tokenAt tokens opener).isPunct ["("] with
  | false => exact .error _
  | true =>
    refine (Agrees.here opener).bind ?_
    rintro _ _ _ ⟨⟩ rfl
    refine (closing?_agrees opener opener).bind ?_
    rintro _ found _ hclosing rfl
    rw [closing?_eq (Token.isOpener_of_isPunct (by decide) hopener), Except.ok.injEq,
      Prod.mk.injEq] at hclosing
    obtain ⟨hclosing, rfl⟩ := hclosing
    cases found with
    | none => exact .error _
    | some closer =>
      refine Agrees.bind (spellingBetween_agrees hopener hclosing) (fun _ _ h => ?_) opener
      refine .bind_eq (.seek _) fun _ => node_agrees first ?_ rfl
      obtain rfl | rfl := hkind
      . exact congrArg (Form.literal .typeOf) h
      . exact congrArg (Form.literal .sizeOf) h

theorem nameExpression_agrees :
    Agrees tokens tokens' (SameNode spelled) nameExpression nameExpression := by
  refine .bind_eq .here fun first => .bind advance_agrees ?_
  rintro _ _ ⟨⟩
  refine .ite rfl (fun _ => ?_) fun _ => node_agrees first rfl rfl
  refine .bind typeArguments?_agrees fun _ _ h => node_agrees first ?_ rfl
  exact congrArg (fun arguments => Form.identifier _ (.name arguments)) (SameTexts.optional h)

include hg

theorem condition_agrees : Agrees tokens tokens' (SameNode spelled) (condition g) (condition g) := by
  refine .bind (require_agrees _) fun _ _ _ => .bind hg.expression fun _ _ h => ?_
  exact .bind (expect_agrees _) fun _ _ _ => .pure h

theorem objectCreation_agrees :
    Agrees tokens tokens' (SameNode spelled) (objectCreation g) (objectCreation g) := by
  unfold objectCreation
  refine .bind_eq .here fun first => .bind advance_agrees fun _ _ _ => ?_
  refine .bind_eq (atPunct_agrees _) fun _ => ?_
  extract_lets -underBinder tail
  have htail : ∀ typeName typeName' arguments arguments',
      typeName.map (bareText spelled) = typeName'.map (bareText spelled) →
      SameNodes spelled arguments arguments' →
      Agrees tokens tokens' (SameNode spelled) (tail (typeName, arguments))
        (tail (typeName', arguments')) := by
    intro typeName typeName' arguments arguments' htypeName harguments
    refine .bind_eq (atPunct_agrees _) fun _ => ?_
    extract_lets -underBinder whole whole'
    have hwhole : ∀ items items', SameNodes spelled items items' →
        Agrees tokens tokens' (SameNode spelled) (whole items) (whole' items') := by
      intro items items' hitems
      refine node_agrees first ?_ (harguments.append hitems)
      simp only [Form.bare]
      rw [htypeName, harguments.length_eq]
    clear_value whole whole'
    exact .ite rfl (fun _ => .bind (contents_agrees hg) hwhole) fun _ => hwhole _ _ rfl
  clear_value tail
  refine .ite rfl (fun _ => ?_) fun _ => ?_
  . exact .bind (argumentList_agrees hg ")") fun _ _ h => htail none none _ _ rfl h.1
  refine .bind_eq (atPunct_agrees _) fun _ => .ite rfl (fun _ => ?_) fun _ => ?_
  . exact .bind_eq skipGroup_agrees fun _ => htail none none _ _ rfl rfl
  refine .bind_eq (atPunct_agrees _) fun _ => .ite rfl (fun _ => ?_) fun _ => ?_
  . exact htail none none _ _ rfl rfl
  refine .bind (typeUse_agrees _ _) fun type type' htype => .bind_eq (atPunct_agrees _) fun _ => ?_
  extract_lets -underBinder made made'
  have hmade : ∀ arguments arguments', SameNodes spelled arguments arguments' →
      Agrees tokens tokens' (SameNode spelled) (made arguments) (made' arguments') :=
    fun arguments arguments' h => htail _ _ _ _ (congrArg some htype) h
  clear_value made made'
  refine .ite rfl (fun _ => .bind (argumentList_agrees hg "]") ?_) fun _ => ?_
  . rintro ⟨sizes, _⟩ ⟨sizes', _⟩ ⟨h, _⟩
    exact .bind (manyWhile_agrees (isPunct_eq _) skipGroup_agrees) fun _ _ _ => hmade _ _ h
  . refine .bind_eq (atPunct_agrees _) fun _ => .ite rfl (fun _ => ?_) fun _ => hmade _ _ rfl
    exact .bind (argumentList_agrees hg ")") fun _ _ h => hmade _ _ h.1

theorem group_agrees : Agrees tokens tokens' (SameNode spelled) (group g) (group g) := by
  refine .bind_eq .here fun first => .choose (atPunct_agrees _) ?_ (.choose (atPunct_agrees _) ?_ ?_)
  . refine .bind (argumentList_agrees hg ")") ?_
    rintro ⟨items, _⟩ ⟨items', _⟩ ⟨h, _⟩
    match items, items', h with
    | [], [], _ => exact .mismatch
    | [_], [_], h => exact node_agrees first rfl h
    | _ :: _ :: _, _ :: _ :: _, h => exact node_agrees first rfl h
    | [], _ :: _, h => cases h.length_eq
    | _ :: _, [], h => cases h.length_eq
    | [_], _ :: _ :: _, h => cases h.length_eq
    | _ :: _ :: _, [_], h => cases h.length_eq
  . refine .bind (argumentList_agrees hg "]") ?_
    rintro ⟨items, _⟩ ⟨items', _⟩ ⟨h, _⟩
    exact node_agrees first rfl h
  . exact .mismatch

omit same hg in
theorem literalKind?_eq {token token' : Token} (h : token.Alike token') :
    literalKind? token = literalKind? token' := by
  cases h
  rfl

theorem primary_agrees : Agrees tokens tokens' (SameNode spelled) (primary g) (primary g) := by
  unfold primary
  refine .bind_eq .here fun first => .bind current_agrees fun token token' htoken => ?_
  refine .choose atLambda_agrees (lambda_agrees hg) ?_
  rw [literalKind?_eq htoken]
  cases literalKind? token' with
  | some kind => exact literal_agrees kind
  | none => ?_
  cases htoken
  refine .ite rfl (fun _ => ?_) fun _ => .ite rfl (fun _ => typeLiteral_agrees _ (.inl rfl)) fun _ => ?_
  . refine .bind advance_agrees fun _ _ _ => .bind_eq skipParentheses_agrees fun _ => ?_
    exact node_agrees first rfl rfl
  refine .ite rfl (fun _ => typeLiteral_agrees _ (.inr rfl)) fun _ => ?_
  refine .ite rfl (fun _ => objectCreation_agrees hg) fun _ => ?_
  refine .ite rfl (fun _ => nameExpression_agrees) fun _ => ?_
  refine .ite rfl (fun _ => .bind advance_agrees fun _ _ _ => ?_) fun _ => group_agrees hg
  exact .bind (condition_agrees hg) fun _ _ h => node_agrees first rfl (.cons rfl h)

/-! ### Behind and in front of an expression -/

theorem behind?_agrees (first : Nat) {inner inner' : Node} (hinner : SameNode spelled inner inner') :
    Agrees tokens tokens' (Option.Rel (SameNode spelled)) (behind? g first inner)
      (behind? g first inner') := by
  unfold behind?
  refine .bind current_agrees ?_
  rintro _ _ ⟨⟩
  refine .bind (peek_agrees 1) ?_
  rintro _ _ ⟨⟩
  have hmade : ∀ form children children', SameNodes spelled children children' →
      Agrees tokens tokens' (Option.Rel (SameNode spelled))
        (do return some (← node form first (inner :: children)))
        (do return some (← node form first (inner' :: children'))) := by
    intro form children children' h
    exact .bind (node_agrees first rfl (h.cons hinner)) fun _ _ h => .pure (.some h)
  refine .ite rfl (fun _ => .bind advance_agrees fun _ _ _ => ?_) fun _ => ?_
  . refine .ite rfl (fun _ => ?_) fun _ => .bind identifier_agrees ?_
    . exact .bind (argumentList_agrees hg "]") fun _ _ h => hmade _ _ _ h.1
    . rintro _ _ ⟨⟩
      refine .bind typeArguments?_agrees fun _ _ h => ?_
      refine .bind (node_agrees first ?_ (.cons rfl hinner)) fun _ _ h => .pure (.some h)
      exact congrArg (Form.memberAccess _ _ _) (SameTexts.optional h)
  refine .ite rfl (fun _ => .bind (argumentList_agrees hg ")") fun _ _ h => ?_) fun _ => ?_
  . exact hmade _ _ _ h.1
  refine .ite rfl (fun _ => .bind (argumentList_agrees hg "]") fun _ _ h => ?_) fun _ => ?_
  . exact hmade _ _ _ h.1
  refine .ite rfl (fun _ => .bind advance_agrees fun _ _ _ => hmade _ _ _ rfl) fun _ => ?_
  refine .ite rfl (fun _ => ?_) fun _ => .pure .none
  exact .bind advance_agrees fun _ _ _ => .bind_eq skipGroup_agrees fun _ => hmade _ _ _ rfl

theorem withBehind_agrees (first : Nat) {inner inner' : Node}
    (hinner : SameNode spelled inner inner') :
    Agrees tokens tokens' (SameNode spelled) (withBehind g first inner)
      (withBehind g first inner') := by
  apply loop_agrees (SameNode spelled) hinner
  intro inner inner' hinner
  refine .bind (behind?_agrees hg first hinner) ?_
  rintro _ _ (h | _)
  . exact .pure (.more h)
  . exact .pure (.done hinner)

omit hg in
theorem atCast_agrees : Agrees tokens tokens' Eq atCast atCast := by
  refine .choose (atPunct_agrees _) (.bind_eq .here fun cursor => ?_) (.pure rfl)
  refine .bind_eq (closing?_agrees cursor) fun found => ?_
  cases found with
  | none => exact .pure rfl
  | some closer =>
    refine .bind_eq (.lookahead (.bind_eq (.seek _) fun _ => ?_)) fun typed => ?_
    . refine .bind anyType_agrees.attempt ?_
      rintro _ _ (_ | _)
      . exact .bind_eq .here fun _ => .pure rfl
      . exact .pure rfl
    . refine .ite rfl (fun _ => .bind (tokenNumber_agrees _) ?_) fun _ => .pure rfl
      rintro _ _ ⟨⟩
      refine .bind (tokenNumber_agrees _) ?_
      rintro _ _ ⟨⟩
      exact .pure rfl

theorem operand_agrees : Agrees tokens tokens' (SameNode spelled) (operand g) (operand g) := by
  unfold operand
  refine .bind_eq .here fun first => .bind current_agrees ?_
  rintro _ _ ⟨⟩
  refine .ite rfl (fun _ => .bind advance_agrees fun _ _ _ => ?_) fun _ => ?_
  . exact .bind hg.operand fun _ _ h => node_agrees first rfl (.cons rfl h)
  refine .bind (peek_agrees 1) ?_
  rintro _ _ ⟨⟩
  refine .ite rfl (fun _ => .bind advance_agrees fun _ _ _ => ?_) fun _ => ?_
  . exact .bind hg.operand fun _ _ h => node_agrees first rfl (.cons rfl h)
  refine .ite rfl (fun _ => .bind advance_agrees fun _ _ _ => ?_) fun _ => ?_
  . exact .bind hg.expression fun _ _ h => node_agrees first rfl (.cons rfl h)
  refine .choose atCast_agrees (.bind advance_agrees fun _ _ _ => ?_) ?_
  . refine .bind anyType_agrees fun type type' htype => .bind (expect_agrees _) fun _ _ _ => ?_
    refine .bind hg.operand fun _ _ h => node_agrees first ?_ (.cons rfl h)
    exact congrArg Form.cast htype
  . exact .bind (primary_agrees hg) fun _ _ h => withBehind_agrees hg first h

/-! ### Patterns -/

theorem plainPattern_agrees :
    Agrees tokens tokens' (SameNode spelled) (plainPattern g) (plainPattern g) := by
  unfold plainPattern
  refine .bind_eq .here fun first => .bind current_agrees ?_
  rintro _ _ ⟨⟩
  refine .ite rfl (fun _ => primary_agrees hg) fun _ => .ite rfl (fun _ => ?_) fun _ => ?_
  . exact .bind_eq skipGroup_agrees fun _ => node_agrees first rfl rfl
  refine .ite rfl (fun _ => .bind advance_agrees fun _ _ _ => hg.operand) fun _ => ?_
  refine .bind (typeUse_agrees _ _) fun _ _ h => node_agrees first ?_ rfl
  exact congrArg (fun text => Form.identifier text .typeTest) h

theorem pattern_agrees (designated : Bool) :
    Agrees tokens tokens' (SameNode spelled) (pattern g designated) (pattern g designated) := by
  unfold pattern
  refine .bind (plainPattern_agrees hg) fun plain plain' hplain => ?_
  refine .bind_eq (atPunct_agrees _) fun _ => ?_
  extract_lets -underBinder tail tail'
  have htail : Agrees tokens tokens' (SameNode spelled) (tail ()) (tail' ()) := by
    refine .bind current_agrees ?_
    rintro _ _ ⟨⟩
    extract_lets -underBinder whole
    have hwhole : ∀ node node', SameNode spelled node node' →
        Agrees tokens tokens' (SameNode spelled) (whole node) (whole node') := by
      intro node node' hnode
      refine .bind_eq ?_ fun _ => .pure hnode
      apply loop_agrees (fun _ _ => True) trivial
      intro _ _ _
      refine .choose (atWord_agrees _) (.bind advance_agrees fun _ _ _ => ?_) (.pure (.done rfl))
      refine .bind_eq (atWord_agrees _) fun _ => ?_
      extract_lets -underBinder more
      have hmore : Agrees tokens tokens' (Progress.Alike (fun _ _ => True) Eq) (more ()) (more ()) :=
        .bind (hg.pattern designated) fun _ _ _ => .pure (.more trivial)
      clear_value more
      exact .ite rfl (fun _ => .bind advance_agrees fun _ _ _ => hmore) fun _ => hmore
    clear_value whole
    refine .ite rfl (fun _ => .bind advance_agrees fun _ _ _ => ?_) fun _ => hwhole _ _ hplain
    exact hwhole _ _ (hplain.designated _)
  clear_value tail tail'
  exact .ite rfl (fun _ => .bind_eq skipGroup_agrees fun _ => htail) fun _ => htail

/-! ### Operators between operands -/

omit hg in
/-- What looks at two tokens next to each other may see whether they touch. -/
theorem current_next_agrees {rest rest' : Token → Token → Parser (Option (String × Nat))}
    (hrest : ∀ index, Agrees tokens tokens' Eq
      (rest (tokenAt tokens index) (tokenAt tokens (index + 1)))
      (rest' (tokenAt tokens' index) (tokenAt tokens' (index + 1)))) :
    Agrees tokens tokens' Eq (do rest (← current) (← peek 1)) (do rest' (← current) (← peek 1)) := by
  intro cursor
  simp only [Bind.bind, current, here, tokenNumber, peek]
  rw [same.size_eq]
  by_cases h : cursor < tokens'.size
  . rw [if_pos h, if_pos h]
    exact hrest cursor cursor
  . rw [if_neg h, if_neg h]
    exact .error _

omit hg in
theorem operator?_agrees : Agrees tokens tokens' Eq operator? operator? := by
  apply current_next_agrees
  intro index
  have htouch := same.touch_iff index
  have hcurrent := same.alike index
  have hnext := same.alike (index + 1)
  generalize tokenAt tokens index = token at *
  generalize tokenAt tokens' index = token' at *
  generalize tokenAt tokens (index + 1) = next at *
  generalize tokenAt tokens' (index + 1) = next' at *
  have hsame : (token.isPunct [">"] && next.isPunct [">"] && next.start == token.stop)
      = (token'.isPunct [">"] && next'.isPunct [">"] && next'.start == token'.stop) := by
    rw [← isPunct_eq _ _ _ hcurrent, ← isPunct_eq _ _ _ hnext]
    cases hangle : token.isPunct [">"] with
    | false => rfl
    | true =>
      cases hangle' : next.isPunct [">"] with
      | false => rfl
      | true => exact Bool.eq_iff_iff.2 (by simpa using htouch hangle hangle')
  clear htouch
  cases hcurrent
  refine .ite rfl (fun _ => .pure rfl) fun _ => .ite (by rw [hsame]) (fun _ => .pure rfl) fun _ => ?_
  exact .ite rfl (fun _ => .pure rfl) fun _ => .pure rfl

theorem operation_agrees (least : Nat) :
    Agrees tokens tokens' (SameNode spelled) (operation g least) (operation g least) := by
  unfold operation
  refine .bind_eq .here fun first => .bind (operand_agrees hg) fun left left' hleft => ?_
  apply loop_agrees (SameNode spelled) hleft
  intro left left' hleft
  refine .bind_eq operator?_agrees fun op? => ?_
  obtain _ | ⟨op, width⟩ := op?
  . exact .pure (.done hleft)
  refine .ite rfl (fun _ => .pure (.done hleft)) fun _ => .bind_eq .here fun cursor => ?_
  refine .bind_eq (.seek _) fun _ => .ite rfl (fun _ => ?_) fun _ => ?_
  . refine .bind_eq (atWord_agrees _) fun _ => ?_
    extract_lets -underBinder whole whole'
    have hwhole : ∀ negated, Agrees tokens tokens'
        (Progress.Alike (SameNode spelled) (SameNode spelled)) (whole negated) (whole' negated) := by
      intro negated
      refine .bind (pattern_agrees hg _) fun _ _ h => ?_
      rw [h.designation_eq]
      exact .bind (node_agrees first rfl (.cons (.cons rfl h) hleft)) fun _ _ h => .pure (.more h)
    clear_value whole whole'
    exact .ite rfl (fun _ => .bind advance_agrees fun _ _ _ => hwhole _) fun _ => hwhole _
  . refine .bind (hg.operation _) fun _ _ h => ?_
    exact .bind (node_agrees first rfl (.cons (.cons rfl h) hleft)) fun _ _ h => .pure (.more h)

theorem conditional_agrees :
    Agrees tokens tokens' (SameNode spelled) (conditional g) (conditional g) := by
  refine .bind_eq .here fun first => .bind (operation_agrees hg 0) fun _ _ htest => ?_
  refine .choose (accept_agrees "?") (.bind hg.expression fun _ _ htrue => ?_) (.pure htest)
  refine .bind (require_agrees _) fun _ _ _ => .bind hg.expression fun _ _ hfalse => ?_
  exact node_agrees first rfl (.cons (.cons (.cons rfl hfalse) htrue) htest)

theorem expression_agrees :
    Agrees tokens tokens' (SameNode spelled) (expression g) (expression g) := by
  refine .bind_eq .here fun first => .bind (conditional_agrees hg) fun _ _ hleft => ?_
  refine .bind current_agrees ?_
  rintro _ _ ⟨⟩
  refine .ite rfl (fun _ => .bind advance_agrees fun _ _ _ => ?_) fun _ => .pure hleft
  refine .bind (initialValue_agrees hg) fun _ _ h => ?_
  exact node_agrees first rfl (.cons (.cons rfl h) hleft)

end ThreadLint.Parser
