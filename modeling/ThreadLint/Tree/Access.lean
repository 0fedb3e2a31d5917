import ThreadLint.Tree.Node

/-!
This module contains what nodes of particular kinds are made of.
-/

namespace ThreadLint.Node

/--
The expression whose member is accessed, or whose member is called.
-/
def receiver? (node : Node) : Option Node :=
  match node.form with
  | .memberAccess .. => node.children.head?
  | .callExpr =>
    match node.children.head? with
    | some callee => if callee.kind == .memberAccess then callee.children.head? else none
    | none => none
  | _ => none

theorem size_le_of_mem {child : Node} {children : List Node} (h : child ∈ children) :
    child.size ≤ forestSize children := by
  induction children with
  | nil => simp at h
  | cons node rest ih =>
    rcases List.mem_cons.1 h with rfl | h
    · simp [forestSize]
    · have := ih h
      simp [forestSize]
      omega

theorem size_lt_of_head? {node child : Node} (h : node.children.head? = some child) :
    child.size < node.size := by
  have hmem := size_le_of_mem (List.mem_of_mem_head? h)
  rw [size_eq node]
  omega

/--
The receiver of a call or of an access is smaller than these.
-/
theorem size_receiver?_lt {node receiver : Node} (h : node.receiver? = some receiver) :
    receiver.size < node.size := by
  unfold receiver? at h
  split at h
  · exact size_lt_of_head? h
  · split at h
    · next callee hcallee =>
      split at h
      · exact Nat.lt_trans (size_lt_of_head? h) (size_lt_of_head? hcallee)
      · simp at h
    · simp at h
  · simp at h

/--
The arguments of a call.
-/
def arguments (call : Node) : List Node :=
  call.children.drop 1

/--
Whether a node is a function that may await: a lambda or a declaration that is marked so.
-/
def isAsync (node : Node) : Bool :=
  match node.form with
  | .lambda _ isAsync => isAsync
  | form => form.modifiers.contains "async"

/--
The body of a method, which is its last part.
-/
def methodBody? (method : Node) : Option Node :=
  match method.form with
  | .methodDecl head =>
    if head.hasBody then
      method.children.getLast?.filter fun body =>
        body.kind != .attributeUse && body.kind != .parameter
    else none
  | _ => none

/--
Whether an expression is a name, apart from what is wrapped around it.
-/
def isName (node : Node) (name : String) : Bool :=
  match node.unwrap? with
  | some ⟨.identifier found _, _, _, _, _⟩ => found == name
  | _ => false

/--
Whether an expression is the null literal, apart from what is wrapped around it.
-/
def isNull (node : Node) : Bool :=
  match node.unwrap? with
  | some ⟨.literal kind _, _, _, _, _⟩ => kind == .null
  | _ => false

end ThreadLint.Node
