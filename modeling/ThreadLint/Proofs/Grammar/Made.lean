import ThreadLint.Grammar
import ThreadLint.Proofs.Tree.Place

/-!
This module contains how what is true of every node of a tree follows from what is true of its parts:
one pass over the grammar, whatever is to be shown of the nodes. Operations, that is operands with an
operator in between, are left out; whoever uses the pass says what is true of them.
-/

/-! ### What every node of a tree has -/

namespace ThreadLint

/--
Whether a form is none of code: a type, a member of a type that is no method, or what types stand in.
-/
def Form.isOutside : Form → Bool
  | .compilationUnit | .usingDirective .. | .namespaceDecl .. | .classDecl _ | .propertyDecl ..
  | .fieldDecl .. => true
  | _ => false

/--
Whether a form is one of code and no operation.
-/
def Form.isPlain (form : Form) : Bool :=
  !form.isOutside && form.kind != .binary

namespace Node

/--
Whether nodes all have a property.
-/
def Each (P : Node → Prop) (nodes : List Node) : Prop :=
  ∀ node ∈ nodes, P node

section

variable {P : Node → Prop} {node : Node} {nodes others : List Node}

theorem each_nil : Each P [] := by
  simp [Each]

theorem each_cons : Each P (node :: nodes) ↔ P node ∧ Each P nodes :=
  List.forall_mem_cons

theorem each_append : Each P (nodes ++ others) ↔ Each P nodes ∧ Each P others :=
  List.forall_mem_append

theorem Each.one (h : P node) : Each P [node] :=
  each_cons.2 ⟨h, each_nil⟩

theorem each_flatten {groups : List (List Node)} (h : ∀ group ∈ groups, Each P group) :
    Each P groups.flatten := by
  intro node hmem
  obtain ⟨group, hgroup, hnode⟩ := List.mem_flatten.1 hmem
  exact h group hgroup node hnode

/-- What is true of all nodes of a tree is true of its root and of all nodes of its parts. -/
theorem forall_mem_preorder {node : Node} :
    (∀ other ∈ node.preorder, P other) ↔
      P node ∧ Each (fun child => ∀ other ∈ child.preorder, P other) node.children := by
  simp only [preorder_eq node, List.forall_mem_cons, mem_forestPreorder]
  apply and_congr_right
  intro _
  constructor
  . intro h child hchild other hother
    exact h other ⟨child, hchild, hother⟩
  . rintro h other ⟨child, hchild, hother⟩
    exact h child hchild other hother

end

end Node

open Node

/--
What is true of nodes if a part of code is one of them as soon as all its parts are, and an operand
is a special one.
-/
structure Builds (P Q : Node → Prop) : Prop where
  part : ∀ {node}, Q node → P node
  made : ∀ {node}, node.form.isPlain = true → Each P node.children → Q node
  designated : ∀ {node} (designation : Option String), Q node →
    Q { node with designation := designation }

/--
Whether the constructs of a grammar that code is made of are of one sort, and its operands and
patterns of a special one. Nothing is said of its operations.
-/
structure Grammar.Makes (g : Grammar) (P Q : Node → Prop) : Prop extends Builds P Q where
  expression : g.expression.Yields P
  operand : g.operand.Yields Q
  pattern : ∀ isDesignated, (g.pattern isDesignated).Yields Q
  contents : g.contents.Yields (Each P)
  statement : g.statement.Yields P
  embedded : g.embedded.Yields P

open ThreadLint.Parser

/-- A node is what anything is that has its form and its parts. -/
theorem Parser.node_yields {P : Node → Prop} {form : Form} {children : List Node} (first : Nat)
    (h : ∀ node : Node, node.form = form → node.children = children → P node) :
    Yields (node form first children) P :=
  .skip fun _ => .skip fun _ => .skip fun _ => .ite (.pure (h _ rfl rfl)) (.stopWith _)

namespace Grammar.Makes

variable {P Q : Node → Prop} {g : Grammar} (hg : g.Makes P Q)

include hg

theorem operandNode_yields {form : Form} (first : Nat) {children : List Node}
    (hform : form.isPlain = true) (hchildren : Each P children) :
    Yields (node form first children) Q :=
  Parser.node_yields first fun _ h h' => hg.made (h ▸ hform) (h' ▸ hchildren)

theorem node_yields {form : Form} (first : Nat) {children : List Node}
    (hform : form.isPlain = true) (hchildren : Each P children) :
    Yields (node form first children) P :=
  Parser.node_yields first fun _ h h' => hg.part (hg.made (h ▸ hform) (h' ▸ hchildren))

theorem skipConstruct_yields (first : Nat) (keyword : String) :
    Yields (skipConstruct first keyword) P := by
  refine .skip fun _ => .skip fun _ => .skip fun _ => ?_
  extract_lets behind
  have hbehind : Yields (behind ()) P := hg.node_yields first rfl each_nil
  exact .ite (.skip fun _ => hbehind) hbehind

theorem declaredArgument?_yields :
    Yields declaredArgument? fun found => ∀ node ∈ found, P node := by
  refine .attempt (.skip fun _ => .skip fun first => .skip fun _ => .skip fun _ => .ite ?_ .mismatch)
  exact hg.node_yields first rfl each_nil


/-! ### Entries -/

theorem block_yields : Yields (block g) P := by
  refine .skip fun first => .skip fun _ => (manyWhile_yields _ hg.embedded).bind fun _ h => ?_
  exact .skip fun _ => hg.node_yields first rfl h

theorem initialValue_yields : Yields (initialValue g) P := by
  refine .skip fun _ => .ite (.skip fun first => hg.contents.bind fun _ h => ?_) hg.expression
  exact hg.node_yields first rfl h

theorem contentsItem_yields : Yields (contentsItem g) P := by
  refine .skip fun _ => .ite hg.initialValue_yields (.skip fun _ => .ite ?_ hg.expression)
  exact .skip fun _ => .skip fun _ => hg.initialValue_yields

theorem contents_yields : Yields (Parser.contents g) (Each P) :=
  .skip fun _ => (commaList_yields _ hg.contentsItem_yields).bind fun _ h => .skip fun _ => .pure h

theorem argument_yields : Yields (argument g) P := by
  refine .skip fun _ => .skip fun _ => ?_
  extract_lets behind
  have hbehind : Yields (behind ()) P := by
    refine .skip fun _ => .ite (.skip fun _ => ?_) hg.expression
    refine hg.declaredArgument?_yields.bind fun found hfound => ?_
    cases found with
    | none => exact hg.expression
    | some declared => exact .pure (hfound declared rfl)
  exact .ite (.skip fun _ => .skip fun _ => hbehind) hbehind

theorem argumentList_yields (closer : String) :
    Yields (argumentList g closer) fun result => Each P result.1 :=
  .skip fun _ => (commaList_yields _ hg.argument_yields).bind fun _ h => .skip fun _ => .pure h

/-! ### Heads of declarations -/

theorem parameter_yields : Yields (parameter g) P := by
  refine .skip fun first => .skip fun _ => .skip fun _ => .skip fun _ => .skip fun _ =>
    .skip fun _ => ?_
  extract_lets behind
  have hbehind {initial : List Node} (h : Each P initial) : Yields (behind initial) P :=
    hg.node_yields first rfl h
  exact .ite (hg.expression.bind fun _ h => hbehind (.one h)) (hbehind each_nil)

theorem parameterList_yields (closer : String) : Yields (parameterList g closer) (Each P) :=
  .skip fun _ => (commaList_yields _ hg.parameter_yields).bind fun _ h => .skip fun _ => .pure h

theorem lambda_yields : Yields (lambda g) Q := by
  refine .skip fun first => .skip fun isAsync => ?_
  extract_lets -underBinder behind
  have hbehind : Yields (behind ()) Q := by
    refine .skip fun _ => .ite (.skip fun _ => .skip fun _ => ?_) (.skip fun _ => ?_)
    . extract_lets -underBinder whole
      have hwhole (parameters : List Node) : Yields (whole parameters) Q :=
        hg.block_yields.bind fun _ h => hg.operandNode_yields first rfl (.one h)
      exact .ite (.skip hwhole) (hwhole [])
    . extract_lets -underBinder tail
      have htail (parameters : List String) : Yields (tail parameters) Q := by
        refine .skip fun _ => .skip fun _ => ?_
        extract_lets -underBinder whole
        have hwhole (body : Node) (h : P body) : Yields (whole body) Q :=
          hg.operandNode_yields first rfl (.one h)
        exact .ite (hg.block_yields.bind hwhole) (hg.expression.bind hwhole)
      exact .ite (.skip fun _ => htail _) (.skip htail)
  exact .ite (.skip fun _ => hbehind) hbehind

/-! ### Expressions -/

theorem literal_yields (kind : LiteralKind) : Yields (literal kind) Q :=
  .skip fun first => .skip fun _ => hg.operandNode_yields first rfl each_nil

theorem typeLiteral_yields (kind : LiteralKind) : Yields (typeLiteral kind) Q := by
  refine .skip fun first => .skip fun _ => .skip fun _ => .ite (.skip fun _ => ?_) .mismatch
  refine .skip fun found => ?_
  cases found with
  | none => exact .mismatch
  | some closer => exact .skip fun _ => .skip fun _ => hg.operandNode_yields first rfl each_nil

theorem nameExpression_yields : Yields nameExpression Q := by
  refine .skip fun first => .skip fun _ => .ite (.skip fun _ => ?_) ?_
  . exact hg.operandNode_yields first rfl each_nil
  . exact hg.operandNode_yields first rfl each_nil

theorem condition_yields : Yields (condition g) P :=
  .skip fun _ => hg.expression.bind fun _ h => .skip fun _ => .pure h

theorem objectCreation_yields : Yields (objectCreation g) Q := by
  unfold objectCreation
  refine .skip fun first => .skip fun _ => .skip fun _ => ?_
  extract_lets -underBinder tail
  have htail {typeName : Option String} {arguments : List Node} (h : Each P arguments) :
      Yields (tail (typeName, arguments)) Q := by
    refine .skip fun _ => ?_
    extract_lets -underBinder whole
    have hwhole (items : List Node) (hitems : Each P items) : Yields (whole items) Q :=
      hg.operandNode_yields first rfl (each_append.2 ⟨h, hitems⟩)
    exact .ite (hg.contents_yields.bind hwhole) (hwhole [] each_nil)
  refine .ite ((hg.argumentList_yields ")").bind fun _ h => htail h) (.skip fun _ => ?_)
  refine .ite (.skip fun _ => htail each_nil) (.skip fun _ => .ite (htail each_nil) ?_)
  refine .skip fun type => .skip fun _ => ?_
  extract_lets -underBinder made
  have hmade (arguments : List Node) (h : Each P arguments) :
      Yields (made arguments) Q := htail h
  refine .ite ((hg.argumentList_yields "]").bind fun _ h => .skip fun _ => hmade _ h) ?_
  refine .skip fun _ => .ite ?_ (hmade [] each_nil)
  exact (hg.argumentList_yields ")").bind fun _ h => hmade _ h

theorem group_yields : Yields (group g) Q := by
  refine .skip fun first => .skip fun _ => .ite ?_ (.skip fun _ => .ite ?_ .mismatch)
  . refine (hg.argumentList_yields ")").bind ?_
    rintro ⟨items, _⟩ h
    match items, h with
    | [], _ => exact .mismatch
    | [_], h => exact hg.operandNode_yields first rfl h
    | _ :: _ :: _, h => exact hg.operandNode_yields first rfl h
  . exact (hg.argumentList_yields "]").bind fun _ h => hg.operandNode_yields first rfl h

theorem primary_yields : Yields (primary g) Q := by
  refine .skip fun first => .skip fun token => .skip fun _ => .ite hg.lambda_yields ?_
  cases literalKind? token with
  | some kind => exact hg.literal_yields kind
  | none => ?_
  refine .ite (.skip fun _ => .skip fun _ => hg.operandNode_yields first rfl each_nil) ?_
  refine .ite (hg.typeLiteral_yields _) (.ite (hg.typeLiteral_yields _) ?_)
  refine .ite hg.objectCreation_yields (.ite hg.nameExpression_yields (.ite ?_ hg.group_yields))
  exact .skip fun _ => hg.condition_yields.bind fun _ h => hg.operandNode_yields first rfl (.one h)

theorem behind?_yields (first : Nat) {inner : Node} (h : Q inner) :
    Yields (behind? g first inner) fun found => ∀ outer ∈ found, Q outer := by
  have hmade {form : Form} {others : List Node} (hform : form.isPlain = true)
      (hothers : Each P others) :
      Yields (do return some (← node form first (inner :: others)))
        fun found => ∀ outer ∈ found, Q outer := by
    have hparts : Each P (inner :: others) := each_cons.2 ⟨hg.part h, hothers⟩
    refine (hg.operandNode_yields first hform hparts).bind fun outer houter => .pure ?_
    rintro _ ⟨⟩
    exact houter
  refine .skip fun token => .skip fun next => .ite (.skip fun _ => .ite ?_ ?_) (.ite ?_ (.ite ?_ ?_))
  . exact (hg.argumentList_yields "]").bind fun _ h => hmade rfl h
  . exact .skip fun _ => .skip fun _ => hmade rfl each_nil
  . exact (hg.argumentList_yields ")").bind fun _ h => hmade rfl h
  . exact (hg.argumentList_yields "]").bind fun _ h => hmade rfl h
  . refine .ite (.skip fun _ => hmade rfl each_nil) (.ite ?_ (.pure (by simp)))
    exact .skip fun _ => .skip fun _ => hmade rfl each_nil

theorem withBehind_yields (first : Nat) {inner : Node} (h : Q inner) :
    Yields (withBehind g first inner) Q := by
  refine loop_yields Q (fun inner h => ?_) h
  refine (hg.behind?_yields first h).bind fun found hfound => ?_
  cases found with
  | none => exact .pure h
  | some outer => exact .pure (hfound outer rfl)

theorem operand_yields : Yields (Parser.operand g) Q := by
  have hmade {form : Form} (first : Nat) (hform : form.isPlain = true) :
      Yields (do node form first [← g.operand]) Q :=
    hg.operand.bind fun _ h => hg.operandNode_yields first hform (.one (hg.part h))
  refine .skip fun first => .skip fun token => .ite (.skip fun _ => hmade first rfl) (.skip fun _ => ?_)
  refine .ite (.skip fun _ => hmade first rfl) (.ite (.skip fun _ => ?_) (.skip fun _ => .ite ?_ ?_))
  . exact hg.expression.bind fun _ h => hg.operandNode_yields first rfl (.one h)
  . exact .skip fun _ => .skip fun _ => .skip fun _ => hmade first rfl
  . exact hg.primary_yields.bind fun _ h => hg.withBehind_yields first h

theorem plainPattern_yields : Yields (plainPattern g) Q := by
  refine .skip fun first => .skip fun token => .ite hg.primary_yields (.ite ?_ (.ite ?_ ?_))
  . exact .skip fun _ => hg.operandNode_yields first rfl each_nil
  . exact .skip fun _ => hg.operand
  . exact .skip fun _ => hg.operandNode_yields first rfl each_nil

theorem pattern_yields (designated : Bool) : Yields (Parser.pattern g designated) Q := by
  refine hg.plainPattern_yields.bind fun plain hplain => .skip fun _ => ?_
  extract_lets -underBinder tail
  have htail : Yields (tail ()) Q := by
    refine .skip fun token => ?_
    extract_lets -underBinder whole
    have hwhole {node : Node} (h : Q node) : Yields (whole node) Q :=
      .skip fun _ => .pure h
    exact .ite (.skip fun _ => hwhole (hg.designated _ hplain)) (hwhole hplain)
  exact .ite (.skip fun _ => htail) htail

section

variable (hoperation : Yields (Parser.operation g 0) P)

include hoperation

theorem conditional_yields : Yields (conditional g) P := by
  refine .skip fun first => hoperation.bind fun test htest => .skip fun _ => ?_
  refine .ite (hg.expression.bind fun _ htrue => .skip fun _ => ?_) (.pure htest)
  refine hg.expression.bind fun _ hfalse => hg.node_yields first rfl ?_
  exact each_cons.2 ⟨htest, each_cons.2 ⟨htrue, .one hfalse⟩⟩

theorem expression_yields : Yields (Parser.expression g) P := by
  refine .skip fun first => (hg.conditional_yields hoperation).bind fun left hleft => .skip fun token => ?_
  refine .ite (.skip fun _ => hg.initialValue_yields.bind fun _ h => ?_) (.pure hleft)
  exact hg.node_yields first rfl (each_cons.2 ⟨hleft, .one h⟩)

end

/-! ### Methods and variables -/

theorem body_yields : Yields (body g) fun found => Each P found.toList := by
  refine .skip fun _ => .ite (hg.block_yields.bind fun _ h => .pure (.one h)) (.skip fun _ => ?_)
  refine .ite (hg.expression.bind fun _ h => .skip fun _ => .pure (.one h)) (.skip fun _ => ?_)
  exact .pure each_nil

theorem method_yields (first : Nat) {attributes : List Node} (hattributes : Each P attributes)
    (head : MethodHead) : Yields (method g first attributes head) P := by
  refine .skip fun _ => .skip fun _ => ?_
  extract_lets -underBinder tail
  have htail (parameters : List Node) (h : Each P parameters) :
      Yields (tail parameters) P := by
    unfold tail
    extract_lets -underBinder behind
    have hbehind : Yields (behind ()) P := by
      refine .skip fun _ => hg.body_yields.bind fun _ hbody => hg.node_yields first rfl ?_
      exact each_append.2 ⟨each_append.2 ⟨hattributes, h⟩, hbody⟩
    exact .ite (.skip fun _ => hbehind) hbehind
  exact .ite ((hg.parameterList_yields ")").bind htail) .mismatch_bind

theorem declarator_yields (nameIndex : Nat) : Yields (declarator g nameIndex) P := by
  refine .skip fun name => .skip fun _ => ?_
  extract_lets -underBinder whole
  have hwhole {initial : List Node} (h : Each P initial) : Yields (whole initial) P :=
    hg.node_yields nameIndex rfl h
  exact .ite (hg.initialValue_yields.bind fun _ h => hwhole (.one h)) (hwhole each_nil)

theorem declarators_yields (nameIndex : Nat) : Yields (declarators g nameIndex) (Each P) := by
  refine loop_yields (fun state : Nat × List Node => Each P state.2) ?_ each_nil
  rintro ⟨nameIndex, found⟩ hfound
  refine (hg.declarator_yields nameIndex).bind fun declared hdeclared => .skip fun _ => ?_
  have hall : (Each P) (declared :: found) := each_cons.2 ⟨hdeclared, hfound⟩
  refine .ite (.skip fun _ => .skip fun _ => .pure hall) (.pure ?_)
  intro node hnode
  exact hall node (List.mem_reverse.1 hnode)

theorem localVariables_yields (first : Nat) {form : Form} (hform : form.isPlain = true)
    (terminated : Bool) : Yields (localVariables g first form terminated) P := by
  refine .skip fun nameIndex => .skip fun _ => (hg.declarators_yields nameIndex).bind fun _ h => ?_
  extract_lets -underBinder whole
  have hwhole : Yields (whole ()) P := hg.node_yields first hform h
  exact .ite (.skip fun _ => hwhole) hwhole

theorem localDeclaration?_yields (first : Nat) (terminated : Bool) :
    Yields (localDeclaration? g first terminated) fun found => ∀ node ∈ found, P node := by
  have hmade {part : Parser Node} (h : Yields part P) :
      Yields (do return some (← part)) fun found => ∀ node ∈ found, P node := by
    refine h.bind fun node hnode => .pure ?_
    rintro _ ⟨⟩
    exact hnode
  refine .skip fun head => ?_
  obtain _ | ⟨modifiers, type, isFunction⟩ := head
  . exact .pure (by simp)
  cases isFunction with
  | true => exact .skip fun _ => hmade (hg.method_yields first each_nil _)
  | false => exact hmade (hg.localVariables_yields first rfl terminated)

/-! ### Statements -/

theorem ifStatement_yields (first : Nat) : Yields (ifStatement g first) P := by
  refine .skip fun _ => hg.condition_yields.bind fun _ htest => ?_
  refine hg.embedded.bind fun _ htrue => .skip fun _ => ?_
  extract_lets -underBinder whole
  have hwhole {whenFalse : List Node} (h : Each P whenFalse) : Yields (whole whenFalse) P :=
    hg.node_yields first rfl (each_cons.2 ⟨htest, each_cons.2 ⟨htrue, h⟩⟩)
  exact .ite (.skip fun _ => hg.embedded.bind fun _ h => hwhole (.one h)) (hwhole each_nil)

theorem optionalValue_yields : Yields (optionalValue g) (Each P) := by
  refine .skip fun _ => ?_
  extract_lets -underBinder whole
  have hwhole {value : List Node} (h : Each P value) : Yields (whole value) (Each P) :=
    .skip fun _ => .pure h
  exact .ite (hg.expression.bind fun _ h => hwhole (.one h)) (hwhole each_nil)

theorem returnStatement_yields (first : Nat) : Yields (returnStatement g first) P :=
  .skip fun _ => hg.optionalValue_yields.bind fun _ h => hg.node_yields first rfl h

theorem whileStatement_yields (first : Nat) : Yields (whileStatement g first) P := by
  refine .skip fun _ => hg.condition_yields.bind fun _ htest => hg.embedded.bind fun _ h => ?_
  exact hg.node_yields first rfl (each_cons.2 ⟨htest, .one h⟩)

theorem doStatement_yields (first : Nat) : Yields (doStatement g first) P := by
  refine .skip fun _ => hg.embedded.bind fun _ hbody => .skip fun _ => ?_
  refine hg.condition_yields.bind fun _ h => .skip fun _ => hg.node_yields first rfl ?_
  exact each_cons.2 ⟨hbody, .one h⟩

theorem forInitializer_yields : Yields (forInitializer g) (Each P) := by
  refine .skip fun _ => .ite (.pure each_nil) (.skip fun first => ?_)
  refine (hg.localDeclaration?_yields first true).bind fun found hfound => ?_
  cases found with
  | some declaration => exact .pure (.one (hfound declaration rfl))
  | none =>
    refine hg.expression.bind fun _ hfirst => ?_
    refine (manyWhile_yields (P := P) _ (.skip fun _ => hg.expression)).bind fun _ h => ?_
    exact .skip fun _ => .pure (each_cons.2 ⟨hfirst, h⟩)

theorem forStatement_yields (first : Nat) : Yields (forStatement g first) P := by
  refine .skip fun _ => .skip fun _ => hg.forInitializer_yields.bind fun _ hinitializer => ?_
  refine .skip fun _ => ?_
  extract_lets -underBinder whole
  have hwhole {test : List Node} (htest : Each P test) : Yields (whole test) P := by
    refine .skip fun _ => (commaList_yields _ hg.expression).bind fun _ hsteps => .skip fun _ => ?_
    refine hg.embedded.bind fun _ hbody => hg.node_yields first rfl ?_
    exact each_append.2
      ⟨each_append.2 ⟨each_append.2 ⟨hinitializer, htest⟩, hsteps⟩, .one hbody⟩
  exact .ite (hwhole each_nil) (hg.expression.bind fun _ h => hwhole (.one h))

theorem foreachStatement_yields (first : Nat) : Yields (foreachStatement g first) P := by
  refine .skip fun _ => .skip fun _ => .skip fun typeIndex => .skip fun type => .skip fun _ => ?_
  extract_lets -underBinder whole
  have hwhole {declared : List Node} (hdeclared : Each P declared) :
      Yields (whole declared) P := by
    refine .skip fun _ => hg.expression.bind fun _ hitems => .skip fun _ => ?_
    refine hg.embedded.bind fun _ hbody => hg.node_yields first rfl ?_
    exact each_append.2 ⟨hdeclared, each_cons.2 ⟨hitems, .one hbody⟩⟩
  refine .ite (.skip fun _ => hwhole each_nil) (.skip fun nameIndex => .skip fun name => ?_)
  refine (hg.node_yields nameIndex rfl each_nil).bind fun _ hdeclared => ?_
  exact (hg.node_yields typeIndex rfl (.one hdeclared)).bind fun _ h => hwhole (.one h)

theorem catchClause_yields : Yields (catchClause g) (Each P) := by
  refine .skip fun _ => .skip fun _ => .skip fun _ => ?_
  extract_lets -underBinder whole
  have hwhole {test : List Node} (htest : Each P test) : Yields (whole test) (Each P) :=
    hg.block_yields.bind fun _ h => .pure (each_append.2 ⟨htest, .one h⟩)
  exact .ite (.skip fun _ => hg.condition_yields.bind fun _ h => hwhole (.one h))
    (hwhole each_nil)

theorem tryStatement_yields (first : Nat) : Yields (tryStatement g first) P := by
  refine .skip fun _ => hg.block_yields.bind fun _ hguarded => ?_
  refine (manyWhile_yields _ hg.catchClause_yields).bind fun _ hhandlers => .skip fun _ => ?_
  extract_lets -underBinder whole
  have hwhole {last : List Node} (h : Each P last) : Yields (whole last) P := by
    refine hg.node_yields first rfl (each_append.2 ⟨each_cons.2 ⟨hguarded, ?_⟩, h⟩)
    exact each_flatten hhandlers
  exact .ite (.skip fun _ => hg.block_yields.bind fun _ h => hwhole (.one h)) (hwhole each_nil)

theorem usingStatement_yields (first : Nat) : Yields (usingStatement g first) P := by
  refine .skip fun _ => .skip fun _ => .ite (.skip fun start => ?_) (.skip fun _ => ?_)
  . refine (hg.localDeclaration?_yields start false).bind fun found hfound => ?_
    extract_lets -underBinder whole
    have hwhole (resource : Node) (h : P resource) : Yields (whole resource) P := by
      refine .skip fun _ => hg.embedded.bind fun _ hbody => hg.node_yields first rfl ?_
      exact each_cons.2 ⟨h, .one hbody⟩
    cases found with
    | some declaration => exact hwhole declaration (hfound declaration rfl)
    | none => exact hg.expression.bind hwhole
  . exact hg.localVariables_yields first rfl true

theorem lockStatement_yields (first : Nat) : Yields (lockStatement g first) P := by
  refine .skip fun _ => hg.condition_yields.bind fun _ hlock => hg.embedded.bind fun _ h => ?_
  exact hg.node_yields first rfl (each_cons.2 ⟨hlock, .one h⟩)

theorem switchStatement_yields (first : Nat) : Yields (switchStatement g first) P := by
  refine .skip fun _ => hg.condition_yields.bind fun _ hsubject => .skip fun _ => ?_
  refine (manyWhile_yields (P := (Each P)) _ (.skip fun _ => .ite ?_ ?_)).bind fun _ h => ?_
  . exact .skip fun _ => .pure each_nil
  . exact hg.embedded.bind fun _ h => .pure (.one h)
  . exact .skip fun _ => hg.node_yields first rfl (each_cons.2 ⟨hsubject, each_flatten h⟩)

theorem throwStatement_yields (first : Nat) : Yields (throwStatement g first) P :=
  .skip fun _ => hg.optionalValue_yields.bind fun _ h => hg.node_yields first rfl h

theorem yieldStatement_yields (first : Nat) : Yields (yieldStatement g first) P := by
  refine .skip fun _ => .skip fun _ => ?_
  extract_lets -underBinder whole
  have hwhole {value : List Node} (h : Each P value) : Yields (whole value) P :=
    .skip fun _ => hg.node_yields first rfl h
  exact .ite (hg.expression.bind fun _ h => hwhole (.one h)) (hwhole each_nil)

theorem jumpStatement_yields (first : Nat) : Yields (jumpStatement first) P :=
  .skip fun _ => .skip fun _ => hg.node_yields first rfl each_nil

theorem guardedStatement_yields (first : Nat) : Yields (guardedStatement g first) P :=
  .skip fun _ => .skip fun _ => hg.embedded.bind fun _ h => hg.node_yields first rfl (.one h)

theorem keywordStatement?_yields {keyword : String} {parser : Nat → Parser Node}
    (hparser : keywordStatement? g keyword = some parser) (first : Nat) :
    Yields (parser first) P := by
  unfold keywordStatement? at hparser
  split at hparser
  all_goals cases hparser
  . exact hg.ifStatement_yields first
  . exact hg.returnStatement_yields first
  . exact hg.whileStatement_yields first
  . exact hg.doStatement_yields first
  . exact hg.forStatement_yields first
  . exact hg.foreachStatement_yields first
  . exact hg.tryStatement_yields first
  . exact hg.usingStatement_yields first
  . exact hg.lockStatement_yields first
  . exact hg.switchStatement_yields first
  . exact hg.throwStatement_yields first
  . exact hg.jumpStatement_yields first
  . exact hg.jumpStatement_yields first
  . exact hg.skipConstruct_yields first "goto"
  . exact hg.guardedStatement_yields first
  . exact hg.guardedStatement_yields first
  . exact hg.guardedStatement_yields first
  . exact hg.guardedStatement_yields first

section

variable (hoperation : Yields (Parser.operation g 0) P)

include hoperation

theorem plainStatement_yields (first : Nat) : Yields (plainStatement g first) P := by
  refine (hg.localDeclaration?_yields first true).bind fun found hfound => ?_
  cases found with
  | some declaration => exact .pure (hfound declaration rfl)
  | none =>
    exact (hg.expression_yields hoperation).bind fun _ h => .skip fun _ => hg.node_yields first rfl (.one h)

theorem identifierStatement_yields (first : Nat) :
    Yields (identifierStatement g first) P := by
  refine .skip fun token => .skip fun next => .ite (hg.yieldStatement_yields first) (.ite ?_ ?_)
  . refine .skip fun _ => .skip fun _ => .ite (hg.foreachStatement_yields first) ?_
    exact hg.usingStatement_yields first
  . refine .skip fun _ => .ite (.skip fun _ => .skip fun _ => hg.statement) ?_
    exact hg.plainStatement_yields hoperation first

theorem statement_yields : Yields (Parser.statement g) P := by
  refine .skip fun first => .skip fun token => .skip fun next => .ite hg.block_yields (.ite ?_ ?_)
  . exact .skip fun _ => hg.node_yields first rfl each_nil
  refine .ite ?_ (.ite (hg.identifierStatement_yields hoperation first)
    (hg.plainStatement_yields hoperation first))
  split
  . next parser hparser =>
    exact .ite (hg.plainStatement_yields hoperation first) (hg.keywordStatement?_yields hparser first)
  . exact hg.plainStatement_yields hoperation first

theorem embedded_yields : Yields (Parser.embedded g) P := by
  refine .skip fun first => (hg.statement_yields hoperation).attempt.bind fun found hfound => ?_
  cases found with
  | some node => exact .pure (hfound node rfl)
  | none => exact hg.skipConstruct_yields first "unparsed"

end

theorem layer (hoperation : Yields (Parser.operation g 0) P) : (layer g).Makes P Q where
  toBuilds := hg.toBuilds
  expression := hg.expression_yields hoperation
  operand := hg.operand_yields
  pattern := hg.pattern_yields
  contents := hg.contents_yields
  statement := hg.statement_yields hoperation
  embedded := hg.embedded_yields hoperation

omit hg in
theorem exhausted (h : Builds P Q) : exhausted.Makes P Q where
  toBuilds := h
  expression := .stopWith _
  operand := .stopWith _
  pattern _ := .stopWith _
  contents := .stopWith _
  statement := .stopWith _
  embedded := .stopWith _

end Grammar.Makes

/-! ### Declarations -/

/--
Whether all constructs of a grammar are of one sort. This is the sort of whatever stands outside of
code, too, as soon as all its parts are of it.
-/
structure Grammar.MakesAll (g : Grammar) (P Q : Node → Prop) : Prop extends g.Makes P Q where
  outer : ∀ {node}, node.form.isOutside = true → Each P node.children → P node
  members : ∀ owner, (g.members owner).Yields (Each P)

namespace Grammar.MakesAll

variable {P Q : Node → Prop} {g : Grammar} (hg : g.MakesAll P Q)

include hg

theorem outerNode_yields {form : Form} (first : Nat) {children : List Node}
    (hform : form.isOutside = true) (hchildren : Each P children) :
    Yields (node form first children) P :=
  Parser.node_yields first fun _ h h' => hg.outer (h ▸ hform) (h' ▸ hchildren)

theorem attributeUse_yields : Yields (attributeUse g) P := by
  refine .skip fun first => .skip fun name => .skip fun _ => ?_
  extract_lets -underBinder whole
  have hwhole (result : List Node × Option Token) (h : Each P result.1) : Yields (whole result) P :=
    hg.node_yields first rfl h
  exact .ite ((hg.argumentList_yields ")").bind hwhole) (hwhole ([], none) each_nil)

theorem attributeLists_yields : Yields (attributeLists g) (Each P) := by
  refine (manyWhile_yields (P := Each P) _ (.skip fun _ => .skip fun _ => .skip fun _ => ?_)).bind
    fun lists h => .pure (each_flatten h)
  extract_lets -underBinder behind
  have hbehind : Yields (behind ()) (Each P) :=
    (commaList_yields _ hg.attributeUse_yields).bind fun _ h => .skip fun _ => .pure h
  exact .ite (.skip fun _ => .skip fun _ => hbehind) hbehind

theorem usingDirective_yields (first : Nat) : Yields (usingDirective first) P := by
  refine .skip fun _ => .skip fun isStatic => ?_
  extract_lets -underBinder behind
  have hbehind : Yields (behind ()) P := by
    refine .skip fun _ => .skip fun _ => ?_
    extract_lets -underBinder whole
    have hwhole (alias? : Option String) : Yields (whole alias?) P :=
      .skip fun _ => .skip fun _ => hg.outerNode_yields first rfl each_nil
    exact .ite (.skip fun _ => .skip fun _ => hwhole _) (hwhole none)
  exact .ite (.skip fun _ => hbehind) hbehind

theorem namespaceDeclaration_yields (first : Nat) : Yields (namespaceDeclaration g first) P := by
  refine .skip fun _ => .skip fun _ => .skip fun _ => .ite ?_ (.skip fun _ => ?_)
  . exact (hg.members none).bind fun _ h => hg.outerNode_yields first rfl h
  . exact (hg.members none).bind fun _ h => .skip fun _ => hg.outerNode_yields first rfl h

theorem typeMembers_yields (keyword name : String) :
    Yields (typeMembers g keyword name) (Each P) := by
  refine .ite (.skip fun _ => ?_) (.skip fun _ => .ite ?_ (.skip fun _ => .pure each_nil))
  . extract_lets -underBinder whole
    have hwhole : Yields (whole ()) (Each P) := .pure each_nil
    exact .ite (.skip fun _ => hwhole) hwhole
  . exact (hg.members (some name)).bind fun _ h => .skip fun _ => .pure h

theorem typeDeclaration_yields (first : Nat) {attributes : List Node}
    (hattributes : Each P attributes) (modifiers : List String) :
    Yields (typeDeclaration g first attributes modifiers) P := by
  refine .skip fun keyword => .skip fun _ => ?_
  extract_lets -underBinder behind
  have hbehind : Yields (behind ()) P := by
    refine .skip fun name => .skip fun _ => .skip fun _ => ?_
    extract_lets -underBinder whole
    have hwhole : Yields (whole ()) P := by
      refine .skip fun bases => .skip fun _ => (hg.typeMembers_yields _ _).bind fun _ h => ?_
      exact .skip fun _ => hg.outerNode_yields first rfl (each_append.2 ⟨hattributes, h⟩)
    exact .ite (.skip fun _ => hwhole) hwhole
  exact .ite (.skip fun _ => hbehind) hbehind

theorem accessors_yields : Yields (accessors g) (Each P) := by
  refine .skip fun _ => (manyWhile_yields (P := Each P) _ ?_).bind fun bodies h => ?_
  . refine .skip fun _ => .skip fun _ => .skip fun _ => .ite (.skip fun _ => ?_) .mismatch
    exact hg.body_yields.bind fun _ h => .pure h
  . exact .skip fun _ => .pure (each_flatten h)

variable (first : Nat) {attributes : List Node} (hattributes : Each P attributes)

include hattributes

theorem property_yields {form : Form} (hform : form.isOutside = true) :
    Yields (property g first attributes form) P := by
  refine .skip fun _ => ?_
  extract_lets -underBinder behind
  have hbehind : Yields (behind ()) P := by
    refine .skip fun _ => ?_
    extract_lets -underBinder whole
    have hwhole (parts : List Node) (h : Each P parts) : Yields (whole parts) P :=
      hg.outerNode_yields first hform (each_append.2 ⟨hattributes, h⟩)
    refine .ite (hg.expression.bind fun _ h => .skip fun _ => hwhole _ (.one h)) ?_
    refine hg.accessors_yields.bind fun bodies hbodies => .skip fun _ => ?_
    extract_lets -underBinder initialized
    have hinitialized (initial : List Node) (h : Each P initial) :
        Yields (initialized initial) P := hwhole _ (each_append.2 ⟨hbodies, h⟩)
    refine .ite ?_ (hinitialized [] each_nil)
    exact hg.initialValue_yields.bind fun _ h => .skip fun _ => hinitialized _ (.one h)
  exact .ite (.skip fun _ => hbehind) hbehind

theorem field_yields {form : Form} (hform : form.isOutside = true) (nameIndex : Nat) :
    Yields (field g first attributes form nameIndex) P := by
  refine (hg.declarators_yields nameIndex).bind fun _ h => .skip fun _ => ?_
  exact hg.outerNode_yields first hform (each_append.2 ⟨hattributes, h⟩)

theorem event_yields (modifiers : List String) :
    Yields (event g first attributes modifiers) P := by
  refine .skip fun _ => .skip fun _ => .skip fun nameIndex => .skip fun _ => .skip fun _ => ?_
  exact .ite (hg.property_yields first hattributes rfl) (hg.field_yields first hattributes rfl _)

theorem typedMember_yields (modifiers : List String) :
    Yields (typedMember g first attributes modifiers) P := by
  refine .skip fun type => .skip fun _ => .ite .mismatch (.skip fun _ => .skip fun _ => .ite ?_ ?_)
  . exact .skip fun _ => hg.property_yields first hattributes rfl
  . refine .skip fun start => .skip fun _ => .skip fun nameIndex => .skip fun name => ?_
    refine .skip fun _ => .ite (hg.method_yields first hattributes _) (.skip fun _ => .ite ?_ ?_)
    . exact hg.property_yields first hattributes rfl
    . exact hg.field_yields first hattributes rfl nameIndex

theorem constructorDeclaration_yields (modifiers : List String) :
    Yields (constructorDeclaration g first attributes modifiers) P :=
  .skip fun _ => hg.method_yields first hattributes _

theorem declaration_yields (owner : Option String) (modifiers : List String) :
    Yields (declaration g owner first attributes modifiers) P := by
  refine .skip fun token => .skip fun next => .ite ?_ (.ite .mismatch (.ite ?_ (.ite ?_ ?_)))
  . exact hg.typeDeclaration_yields first hattributes modifiers
  . exact hg.event_yields first hattributes modifiers
  . exact hg.constructorDeclaration_yields first hattributes modifiers
  . exact hg.typedMember_yields first hattributes modifiers

omit hattributes in
theorem member_yields (owner : Option String) :
    Yields (member g owner) fun found => Each P found.toList := by
  have hmade {part : Parser Node} (h : Yields part P) :
      Yields (do return some (← part)) fun found => Each P found.toList :=
    h.bind fun _ h => .pure (.one h)
  refine .skip fun first => .skip fun token => .ite (.skip fun _ => .pure each_nil) ?_
  refine .ite (hmade (hg.usingDirective_yields first)) (.skip fun _ => .ite (.skip fun _ => ?_) ?_)
  . exact hmade (hg.usingDirective_yields first)
  refine .ite (hmade (hg.namespaceDeclaration_yields first)) ?_
  refine hg.attributeLists_yields.bind fun _ h => .skip fun modifiers => ?_
  exact hmade (hg.declaration_yields first h owner modifiers)

omit hattributes in
theorem members_yields (owner : Option String) : Yields (Parser.members g owner) (Each P) := by
  refine (manyWhile_yields (P := Each P) _ ?_).bind fun groups h => .pure (each_flatten h)
  refine .skip fun _ => .skip fun _ => .ite hg.attributeLists_yields (.skip fun first => ?_)
  refine (hg.member_yields owner).attempt.bind fun found hfound => ?_
  cases found with
  | some found => exact .pure (hfound found rfl)
  | none => exact (hg.skipConstruct_yields first "member").bind fun _ h => .pure (.one h)

omit hattributes in
theorem layer (hoperation : Yields (Parser.operation g 0) P) : (layer g).MakesAll P Q where
  toMakes := hg.toMakes.layer hoperation
  outer := hg.outer
  members := hg.members_yields

end Grammar.MakesAll

end ThreadLint
