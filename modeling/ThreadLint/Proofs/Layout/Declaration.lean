import ThreadLint.Grammar
import ThreadLint.Proofs.Layout.Statement

/-!
This module contains that declarations, and with them the members of a file, are read in the same
way from the same tokens.
-/

namespace ThreadLint

open ThreadLint.Parser

variable {tokens tokens' : Array Token} {spelled : Bool} [same : SameTokens spelled tokens tokens']
  {g : Grammar} (hg : g.Agrees tokens tokens' spelled)

namespace Parser

include same

theorem usingDirective_agrees (first : Nat) :
    Agrees tokens tokens' (SameNode spelled) (usingDirective first) (usingDirective first) := by
  unfold usingDirective
  refine .bind advance_agrees fun _ _ _ => .bind_eq (atKeyword_agrees _) fun isStatic => ?_
  extract_lets -underBinder behind
  have hbehind : Agrees tokens tokens' (SameNode spelled) (behind ()) (behind ()) := by
    refine .bind current_agrees ?_
    rintro _ _ ⟨⟩
    refine .bind (peek_agrees 1) ?_
    rintro _ _ ⟨⟩
    extract_lets -underBinder whole
    have hwhole : ∀ alias?,
        Agrees tokens tokens' (SameNode spelled) (whole alias?) (whole alias?) := by
      intro alias?
      refine .bind anyType_agrees fun _ _ h => .bind (expect_agrees _) fun _ _ _ => ?_
      refine node_agrees first ?_ rfl
      exact congrArg (fun text => Form.usingDirective text alias? isStatic) h
    clear_value whole
    refine .ite rfl (fun _ => .bind advance_agrees ?_) fun _ => hwhole _
    rintro _ _ ⟨⟩
    exact .bind advance_agrees fun _ _ _ => hwhole _
  clear_value behind
  exact .ite rfl (fun _ => .bind advance_agrees fun _ _ _ => hbehind) fun _ => hbehind

theorem baseList_agrees : Agrees tokens tokens' (SameBases spelled) baseList baseList := by
  refine .choose (accept_agrees ":") ?_ (.pure rfl)
  apply loop_agrees (SameBases spelled) rfl
  intro found found' hfound
  refine .bind ?_ fun base base' (hbase : bareText spelled base.1 = bareText spelled base'.1) => ?_
  . refine .bind (typeUse_agrees _ _) fun _ _ h => .bind_eq skipParentheses_agrees fun _ => ?_
    exact .pure h
  . have hall := hfound.cons (congrArg (fun text => (text, (⟨0, 0⟩ : Extent))) hbase)
    exact .choose (accept_agrees ",") (.pure (.more hall)) (.pure (.done hall.reverse))

theorem lastNameIndex_agrees (nameIndex : Nat) :
    Agrees tokens tokens' Eq (lastNameIndex nameIndex) (lastNameIndex nameIndex) := by
  apply loop_agrees Eq rfl
  rintro nameIndex _ rfl
  refine .bind_eq (atPunct_agrees _) fun _ => .bind (peek_agrees 1) ?_
  rintro _ _ ⟨⟩
  refine .ite rfl (fun _ => ?_) fun _ => .pure (.done rfl)
  refine .bind advance_agrees fun _ _ _ => .bind advance_agrees fun _ _ _ => ?_
  exact .bind_eq .here fun _ => .pure (.more rfl)

include hg

theorem namespaceDeclaration_agrees (first : Nat) :
    Agrees tokens tokens' (SameNode spelled) (namespaceDeclaration g first)
      (namespaceDeclaration g first) := by
  refine .bind advance_agrees fun _ _ _ => .bind (typeUse_agrees _ _) fun _ _ hname => ?_
  refine .choose (accept_agrees ";") ?_ (.bind (require_agrees _) fun _ _ _ => ?_)
  . refine .bind (hg.members none) fun _ _ h => node_agrees first ?_ h
    exact congrArg (fun text => Form.namespaceDecl text true) hname
  . refine .bind (hg.members none) fun _ _ h => .bind (expect_agrees _) fun _ _ _ => ?_
    refine node_agrees first ?_ h
    exact congrArg (fun text => Form.namespaceDecl text false) hname

theorem typeMembers_agrees (keyword name : String) :
    Agrees tokens tokens' (SameNodes spelled) (typeMembers g keyword name)
      (typeMembers g keyword name) := by
  unfold typeMembers
  refine .ite rfl (fun _ => ?_) fun _ => ?_
  . exact .choose (atPunct_agrees _) (.bind_eq skipGroup_agrees fun _ => .pure rfl) (.pure rfl)
  . refine .choose (accept_agrees _) ?_ (.bind (expect_agrees _) fun _ _ _ => .pure rfl)
    exact .bind (hg.members _) fun _ _ h => .bind (expect_agrees _) fun _ _ _ => .pure h

theorem typeDeclaration_agrees (first : Nat) {attributes attributes' : List Node}
    (hattributes : SameNodes spelled attributes attributes') (modifiers : List String) :
    Agrees tokens tokens' (SameNode spelled) (typeDeclaration g first attributes modifiers)
      (typeDeclaration g first attributes' modifiers) := by
  unfold typeDeclaration
  refine .bind advance_agrees ?_
  rintro _ _ ⟨⟩
  refine .bind_eq (atKeyword_agrees _) fun _ => ?_
  extract_lets -underBinder named named'
  have hnamed : Agrees tokens tokens' (SameNode spelled) (named ()) (named' ()) := by
    refine .bind identifier_agrees ?_
    rintro _ _ ⟨⟩
    refine .bind_eq skipTypeParameters_agrees fun _ => .bind_eq (atPunct_agrees _) fun _ => ?_
    extract_lets -underBinder whole whole'
    have hwhole : Agrees tokens tokens' (SameNode spelled) (whole ()) (whole' ()) := by
      refine .bind baseList_agrees fun _ _ hbases => .bind_eq skipConstraints_agrees fun _ => ?_
      refine .bind (typeMembers_agrees hg _ _) fun _ _ h => .bind_eq (accept_agrees _) fun _ => ?_
      refine node_agrees first ?_ (hattributes.append h)
      exact congrArg (fun bases => Form.classDecl ⟨_, ⟨0, 0⟩, _, modifiers, bases⟩) hbases
    clear_value whole whole'
    refine .ite rfl (fun _ => ?_) fun _ => hwhole
    exact .bind (parameterList_agrees hg _) fun _ _ _ => hwhole
  clear_value named named'
  exact .ite rfl (fun _ => .bind advance_agrees fun _ _ _ => hnamed) fun _ => hnamed

theorem accessors_agrees :
    Agrees tokens tokens' (SameNodes spelled) (accessors g) (accessors g) := by
  refine .bind (require_agrees _) fun _ _ _ => ?_
  refine .bind (R := SameView (List.map (Node.bare spelled))) (manyWhile_agrees (isBefore_eq _) ?_) ?_
  . refine .bind (attributeLists_agrees hg) fun _ _ _ => ?_
    refine .bind (manyWhile_agrees (isKeyword_eq _) (advance_agrees.mono fun _ _ h => h.text_eq))
      fun _ _ _ => ?_
    refine .choose (atWord_agrees _) (.bind advance_agrees fun _ _ _ => ?_) .mismatch
    refine .bind (body_agrees hg) ?_
    rintro _ _ (h | _)
    . exact .pure (SameView.cons rfl h)
    . exact .pure rfl
  . exact fun _ _ h => .bind (expect_agrees _) fun _ _ _ => .pure h.flatten

theorem property_agrees (first : Nat) {attributes attributes' : List Node}
    (hattributes : SameNodes spelled attributes attributes') {form form' : Form}
    (hform : form.bare spelled = form'.bare spelled) :
    Agrees tokens tokens' (SameNode spelled) (property g first attributes form)
      (property g first attributes' form') := by
  unfold property
  refine .bind_eq (atPunct_agrees _) fun _ => ?_
  extract_lets -underBinder behind behind'
  have hbehind : Agrees tokens tokens' (SameNode spelled) (behind ()) (behind' ()) := by
    refine .bind_eq (accept_agrees "=>") fun _ => ?_
    extract_lets -underBinder whole whole'
    have hwhole : ∀ parts parts', SameNodes spelled parts parts' →
        Agrees tokens tokens' (SameNode spelled) (whole parts) (whole' parts') :=
      fun _ _ h => node_agrees first hform (hattributes.append h)
    clear_value whole whole'
    refine .ite rfl (fun _ => .bind hg.expression fun _ _ h => ?_) fun _ => ?_
    . exact .bind (expect_agrees _) fun _ _ _ => hwhole _ _ (.cons rfl h)
    refine .bind (accessors_agrees hg) fun _ _ hbodies => .bind_eq (accept_agrees "=") fun _ => ?_
    extract_lets -underBinder parts parts'
    have hparts : ∀ initial initial', SameNodes spelled initial initial' →
        Agrees tokens tokens' (SameNode spelled) (parts initial) (parts' initial') :=
      fun _ _ h => hwhole _ _ (hbodies.append h)
    clear_value parts parts'
    refine .ite rfl (fun _ => .bind (initialValue_agrees hg) fun _ _ h => ?_) fun _ => ?_
    . exact .bind (expect_agrees _) fun _ _ _ => hparts _ _ (.cons rfl h)
    . exact hparts _ _ rfl
  clear_value behind behind'
  refine .ite rfl (fun _ => ?_) fun _ => hbehind
  exact .bind (parameterList_agrees hg _) fun _ _ _ => hbehind

theorem field_agrees (first : Nat) {attributes attributes' : List Node}
    (hattributes : SameNodes spelled attributes attributes') {form form' : Form}
    (hform : form.bare spelled = form'.bare spelled) (nameIndex : Nat) :
    Agrees tokens tokens' (SameNode spelled) (field g first attributes form nameIndex)
      (field g first attributes' form' nameIndex) := by
  refine .bind (declarators_agrees hg nameIndex) fun _ _ h => .bind (expect_agrees _) fun _ _ _ => ?_
  exact node_agrees first hform (hattributes.append h)

theorem event_agrees (first : Nat) {attributes attributes' : List Node}
    (hattributes : SameNodes spelled attributes attributes') (modifiers : List String) :
    Agrees tokens tokens' (SameNode spelled) (event g first attributes modifiers)
      (event g first attributes' modifiers) := by
  refine .bind advance_agrees fun _ _ _ => .bind anyType_agrees fun type type' htype => ?_
  refine .bind_eq .here fun nameIndex => .bind identifier_agrees ?_
  rintro _ _ ⟨⟩
  refine .choose (atPunct_agrees _) (property_agrees hg first hattributes ?_) ?_
  . exact congrArg (fun text => Form.propertyDecl _ text modifiers true) htype
  . refine field_agrees hg first hattributes ?_ nameIndex
    exact congrArg (fun text => Form.fieldDecl text modifiers true) htype

theorem typedMember_agrees (first : Nat) {attributes attributes' : List Node}
    (hattributes : SameNodes spelled attributes attributes') (modifiers : List String) :
    Agrees tokens tokens' (SameNode spelled) (typedMember g first attributes modifiers)
      (typedMember g first attributes' modifiers) := by
  refine .bind anyType_agrees fun type type' htype => .choose (atKeyword_agrees _) .mismatch ?_
  refine .bind_eq (atKeyword_agrees _) fun _ => .bind (peek_agrees 1) ?_
  rintro _ _ ⟨⟩
  refine .ite rfl (fun _ => .bind advance_agrees fun _ _ _ => ?_) fun _ => ?_
  . refine property_agrees hg first hattributes ?_
    exact congrArg (fun text => Form.propertyDecl _ text modifiers false) htype
  refine .bind_eq .here fun start => .bind identifier_agrees fun _ _ _ => ?_
  refine .bind_eq (lastNameIndex_agrees start) fun nameIndex => .bind (tokenNumber_agrees _) ?_
  rintro _ _ ⟨⟩
  refine .choose (atPunct_agrees _) (method_agrees hg first hattributes ?_) ?_
  . exact congrArg (fun text => MethodHead.mk _ ⟨0, 0⟩ modifiers (some (text, ⟨0, 0⟩)) _ _ _) htype
  refine .choose (atPunct_agrees _) (property_agrees hg first hattributes ?_) ?_
  . exact congrArg (fun text => Form.propertyDecl _ text modifiers false) htype
  . refine field_agrees hg first hattributes ?_ nameIndex
    exact congrArg (fun text => Form.fieldDecl text modifiers false) htype

theorem constructorDeclaration_agrees (first : Nat) {attributes attributes' : List Node}
    (hattributes : SameNodes spelled attributes attributes') (modifiers : List String) :
    Agrees tokens tokens' (SameNode spelled) (constructorDeclaration g first attributes modifiers)
      (constructorDeclaration g first attributes' modifiers) := by
  refine .bind advance_agrees ?_
  rintro _ _ ⟨⟩
  exact method_agrees hg first hattributes rfl

theorem declaration_agrees (owner : Option String) (first : Nat) {attributes attributes' : List Node}
    (hattributes : SameNodes spelled attributes attributes') (modifiers : List String) :
    Agrees tokens tokens' (SameNode spelled) (declaration g owner first attributes modifiers)
      (declaration g owner first attributes' modifiers) := by
  refine .bind current_agrees ?_
  rintro _ _ ⟨⟩
  refine .bind (peek_agrees 1) ?_
  rintro _ _ ⟨⟩
  refine .ite rfl (fun _ => typeDeclaration_agrees hg first hattributes modifiers) fun _ => ?_
  refine .ite rfl (fun _ => .mismatch) fun _ => ?_
  refine .ite rfl (fun _ => event_agrees hg first hattributes modifiers) fun _ => ?_
  refine .ite rfl (fun _ => constructorDeclaration_agrees hg first hattributes modifiers) fun _ => ?_
  exact typedMember_agrees hg first hattributes modifiers

theorem member_agrees (owner : Option String) :
    Agrees tokens tokens' (Option.Rel (SameNode spelled)) (member g owner) (member g owner) := by
  refine .bind_eq .here fun first => .bind current_agrees ?_
  rintro _ _ ⟨⟩
  refine .ite rfl (fun _ => .bind advance_agrees fun _ _ _ => .pure .none) fun _ => ?_
  refine .ite rfl (fun _ => ?_) fun _ => .bind (peek_agrees 1) ?_
  . exact .bind (usingDirective_agrees first) fun _ _ h => .pure (.some h)
  rintro _ _ ⟨⟩
  refine .ite rfl (fun _ => .bind advance_agrees fun _ _ _ => ?_) fun _ => ?_
  . exact .bind (usingDirective_agrees first) fun _ _ h => .pure (.some h)
  refine .ite rfl (fun _ => ?_) fun _ => .bind (attributeLists_agrees hg) fun _ _ hattributes => ?_
  . exact .bind (namespaceDeclaration_agrees hg first) fun _ _ h => .pure (.some h)
  refine .bind_eq modifiers_agrees fun modifiers => ?_
  exact .bind (declaration_agrees hg owner first hattributes modifiers) fun _ _ h => .pure (.some h)

theorem members_agrees (owner : Option String) :
    Agrees tokens tokens' (SameNodes spelled) (members g owner) (members g owner) := by
  refine .bind (R := SameView (List.map (Node.bare spelled))) (manyWhile_agrees (isBefore_eq _) ?_)
    fun _ _ h => .pure h.flatten
  refine .bind_eq (atPunct_agrees _) fun _ => .bind (peek_agrees 2) ?_
  rintro _ _ ⟨⟩
  refine .ite rfl (fun _ => attributeLists_agrees hg) fun _ => .bind_eq .here fun first => ?_
  refine .bind (member_agrees hg owner).attempt ?_
  rintro _ _ (h | _)
  . cases h with
    | some h => exact .pure (SameView.cons rfl h)
    | none => exact .pure rfl
  . exact .bind (skipConstruct_agrees first "member") fun _ _ h => .pure (SameView.cons rfl h)

end Parser

/-! ### The grammar -/

include same

omit same in
theorem Grammar.exhausted_agrees : Grammar.exhausted.Agrees tokens tokens' spelled where
  expression := .stopWith _
  operand := .stopWith _
  operation _ := .stopWith _
  pattern _ := .stopWith _
  contents := .stopWith _
  statement := .stopWith _
  embedded := .stopWith _
  members _ := .stopWith _

include hg in
theorem Grammar.layer_agrees : (layer g).Agrees tokens tokens' spelled where
  expression := expression_agrees hg
  operand := operand_agrees hg
  operation := operation_agrees hg
  pattern := pattern_agrees hg
  contents := contents_agrees hg
  statement := statement_agrees hg
  embedded := embedded_agrees hg
  members := members_agrees hg

theorem Grammar.ofDepth_agrees (depth : Nat) : (ofDepth depth).Agrees tokens tokens' spelled := by
  induction depth with
  | zero => exact exhausted_agrees
  | succ depth ih => exact layer_agrees ih

end ThreadLint
