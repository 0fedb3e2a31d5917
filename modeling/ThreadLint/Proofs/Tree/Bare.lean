import ThreadLint.Tree.Node

/-!
This module contains what a syntax tree says apart from where it is written: the constructs with
their attributes, without extents and trivia. Names of types are the words of the text with all that
stands between them, so that they can be left out too.
-/

namespace ThreadLint

/--
A text that is cut out of the text of a file, unless such texts are left out.
-/
def bareText (spelled : Bool) (text : String) : String :=
  if spelled then text else ""

/--
The head of a type declaration without the places of its names.
-/
def TypeHead.bare (spelled : Bool) (head : TypeHead) : TypeHead :=
  { head with
    nameExtent := ⟨0, 0⟩
    bases := head.bases.map fun base => (bareText spelled base.1, ⟨0, 0⟩) }

/--
The head of a method without the places of its names.
-/
def MethodHead.bare (spelled : Bool) (head : MethodHead) : MethodHead :=
  { head with
    nameExtent := ⟨0, 0⟩
    returnType := head.returnType.map fun result => (bareText spelled result.1, ⟨0, 0⟩) }

/--
What an identifier stands for, with or without the types that it mentions.
-/
def IdentifierRole.bare (spelled : Bool) : IdentifierRole → IdentifierRole
  | name typeArguments => name (typeArguments.map (List.map (bareText spelled)))
  | declaration typeName => declaration (bareText spelled typeName)
  | role => role

namespace Form

/--
What a node records of its construct without the places in which it is written.
-/
def bare (spelled : Bool) : Form → Form
  | usingDirective name alias? isStatic => usingDirective (bareText spelled name) alias? isStatic
  | namespaceDecl name fileScoped => namespaceDecl (bareText spelled name) fileScoped
  | classDecl head => classDecl (head.bare spelled)
  | methodDecl head => methodDecl (head.bare spelled)
  | propertyDecl name typeName modifiers isEvent =>
    propertyDecl name (bareText spelled typeName) modifiers isEvent
  | fieldDecl typeName modifiers isEvent => fieldDecl (bareText spelled typeName) modifiers isEvent
  | parameter name typeName => parameter name (bareText spelled typeName)
  | attributeUse name _ closeParen =>
    attributeUse (bareText spelled name) 0 (closeParen.map fun _ => 0)
  | localDecl typeName modifiers role => localDecl (bareText spelled typeName) modifiers role
  | variableDeclarator name _ => variableDeclarator name ⟨0, 0⟩
  | memberAccess name _ isConditional typeArguments =>
    memberAccess name ⟨0, 0⟩ isConditional (typeArguments.map (List.map (bareText spelled)))
  | identifier name .typeTest => identifier (bareText spelled name) .typeTest
  | identifier name role => identifier name (role.bare spelled)
  | literal .typeOf value => literal .typeOf (bareText spelled value)
  | literal .sizeOf value => literal .sizeOf (bareText spelled value)
  | objectCreation typeName argumentCount =>
    objectCreation (typeName.map (bareText spelled)) argumentCount
  | cast typeName => cast (bareText spelled typeName)
  | form => form

end Form

namespace Node

mutual

/--
A tree without the places in which it is written.
-/
def bare (spelled : Bool) : Node → Node
  | ⟨form, _, _, designation, children⟩ =>
    ⟨form.bare spelled, ⟨0, 0⟩, "", designation, bareForest spelled children⟩

/--
Several trees without the places in which they are written.
-/
def bareForest (spelled : Bool) : List Node → List Node
  | [] => []
  | node :: rest => node.bare spelled :: bareForest spelled rest

end

variable {spelled : Bool}

theorem bareForest_eq_map (nodes : List Node) : bareForest spelled nodes = nodes.map (bare spelled) := by
  induction nodes with
  | nil => rfl
  | cons node rest ih => rw [bareForest, ih, List.map_cons]

theorem bare_eq (node : Node) :
    node.bare spelled = ⟨node.form.bare spelled, ⟨0, 0⟩, "", node.designation,
      node.children.map (bare spelled)⟩ := by
  cases node
  rw [bare, bareForest_eq_map]

theorem forms_bare_eq (node : Node) :
    (node.bare spelled).children.map form = node.children.map fun child => child.form.bare spelled := by
  rw [bare_eq, List.map_map]
  apply List.map_congr_left
  intro child _
  rw [Function.comp_apply, bare_eq]

end Node

/-! ### Trees that only differ in where they are written -/

variable {α γ δ : Type}

/--
Whether each of some items looks like another one.
-/
def SameView (view : α → γ) (items items' : List α) : Prop :=
  items.map view = items'.map view

namespace SameView

section

variable {view : α → γ} {items items' : List α} (h : SameView view items items')

include h

theorem cons {item item' : α} (hitem : view item = view item') :
    SameView view (item :: items) (item' :: items') := by
  unfold SameView at *
  rw [List.map_cons, List.map_cons, hitem, h]

theorem reverse : SameView view items.reverse items'.reverse := by
  unfold SameView at *
  rw [List.map_reverse, List.map_reverse, h]

theorem append {more more' : List α} (hmore : SameView view more more') :
    SameView view (items ++ more) (items' ++ more') := by
  unfold SameView at *
  rw [List.map_append, List.map_append, h, hmore]

theorem map (f : γ → δ) : SameView (fun item => f (view item)) items items' := by
  have h := congrArg (List.map f) h
  rwa [List.map_map, List.map_map] at h

theorem length_eq : items.length = items'.length := by
  rw [← List.length_map view, h, List.length_map]

end

theorem flatten {view : α → γ} {lists lists' : List (List α)}
    (h : SameView (List.map view) lists lists') : SameView view lists.flatten lists'.flatten := by
  unfold SameView at *
  rw [List.map_flatten, List.map_flatten, h]

end SameView

theorem bareText_eq {spelled : Bool} {text text' : String} (h : spelled = true → text = text') :
    bareText spelled text = bareText spelled text' := by
  cases spelled with
  | false => rfl
  | true => rw [h rfl]

/--
Whether each of some texts only differs from another one in what stands between its tokens.
-/
def SameTexts (spelled : Bool) : List String → List String → Prop :=
  SameView (bareText spelled)

theorem SameTexts.optional {spelled : Bool} {texts texts' : Option (List String)}
    (h : Option.Rel (SameTexts spelled) texts texts') :
    texts.map (List.map (bareText spelled)) = texts'.map (List.map (bareText spelled)) := by
  cases h with
  | some h => exact congrArg some h
  | none => rfl

/--
Whether two nodes only differ in where they are written.
-/
def SameNode (spelled : Bool) (node node' : Node) : Prop :=
  node.bare spelled = node'.bare spelled

/--
Whether each of some bases of a type only differs from another one in where it is written.
-/
def SameBases (spelled : Bool) : List (String × Extent) → List (String × Extent) → Prop :=
  SameView fun base => (bareText spelled base.1, (⟨0, 0⟩ : Extent))

namespace SameNode

variable {spelled : Bool} {node node' : Node} (h : SameNode spelled node node')

include h

theorem designation_eq : node.designation = node'.designation := by
  have h := congrArg Node.designation h
  rwa [Node.bare_eq, Node.bare_eq] at h

theorem designated (designation : Option String) :
    SameNode spelled { node with designation } { node' with designation } := by
  unfold SameNode at *
  rw [Node.bare_eq, Node.bare_eq] at *
  injection h with hform _ _ _ hchildren
  rw [hform, hchildren]

end SameNode

/--
Whether each of some nodes only differs from another one in where it is written.
-/
def SameNodes (spelled : Bool) : List Node → List Node → Prop :=
  SameView (Node.bare spelled)

/--
Whether each of some nodes only differs from another one in where it is written, and has the same
name.
-/
def SameParameters (spelled : Bool) : List Node → List Node → Prop :=
  SameView fun node => (node.bare spelled, node.form.name?)

namespace SameParameters

variable {spelled : Bool} {items items' : List Node} (h : SameParameters spelled items items')

include h

theorem nodes : SameNodes spelled items items' :=
  SameView.map h Prod.fst

theorem names : items.filterMap (·.form.name?) = items'.filterMap (·.form.name?) := by
  have h := congrArg (List.filterMap Prod.snd) h
  rwa [List.filterMap_map, List.filterMap_map] at h

end SameParameters

end ThreadLint
