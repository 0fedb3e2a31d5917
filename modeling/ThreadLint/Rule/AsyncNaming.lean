import ThreadLint.Rule

/-!
This module contains the rule about the names of methods whose result is awaited.
-/

namespace ThreadLint.AsyncNaming

/--
The ending of the names of methods whose result is awaited.
-/
def ending : String :=
  "Async"

/--
The names that need no such ending.
-/
def exemptNames : List String :=
  ["Main"]

/--
The modifiers of methods that code outside the type can call.
-/
def visibleModifiers : List String :=
  ["public", "protected", "internal", "partial"]

/--
Where a node mentions a method of its own type: by the plain name, or by the name behind `this` or
`base`.
-/
def mention? (name : String) (node : Node) : Option Nat :=
  match node.form with
  | .identifier found role =>
    match role with
    | .declaration _ => none
    | _ => if found = name then some node.extent.start else none
  | .memberAccess found extent _ _ =>
    match node.children.head? with
    | some ⟨.identifier receiver _, _, _, _, _⟩ =>
      if found = name ∧ (receiver = "this" ∨ receiver = "base") then some extent.start else none
    | _ => none
  | _ => none

/--
The edits that rename the mentions of a method in a part of the tree. A mention that is not written
as the plain name is left alone.
-/
def mentionEdits (file : BoundFile) (name : String) (scope : Node) : List Edit :=
  (scope.walk.filterMap (mention? name)).filterMap fun start =>
    let stop := start + name.length
    if file.source.slice ⟨start, stop⟩ = name then some ⟨start, stop, name ++ ending⟩ else none

/--
The edits without those that begin where an earlier one does, in the order in which they begin.
-/
def distinctEdits (edits : List Edit) : List Edit :=
  (edits.foldl (fun kept edit =>
    if kept.any (·.start == edit.start) then kept else kept ++ [edit]) []).mergeSort
      fun edit other => decide (edit.start ≤ other.start)

/--
The part of the tree in which a method is renamed: its type, or what is around it if it has none.
-/
def scopeOf (place : Place) : Node :=
  match place.type? with
  | some owner => owner.node
  | none =>
    match place.parent? with
    | some parent => parent.node
    | none => place.node

/--
Whether the members of a type can be called from anywhere.
-/
def isInterface (type : Place) : Bool :=
  match type.node.form with
  | .classDecl head => head.keyword == "interface"
  | _ => false

/--
Whether a node declares a method with a name.
-/
def declares (name : String) (node : Node) : Bool :=
  match node.form with
  | .methodDecl head => head.name == name
  | _ => false

/--
The fix that renames a method and its mentions. There is none for a method that other types can call
or whose new name is taken.
-/
def fix (file : BoundFile) (place : Place) (head : MethodHead) : Except Fault (Option Fix) :=
  let renamed := head.name ++ ending
  let scope := scopeOf place
  if visibleModifiers.any head.modifiers.contains || place.type?.any isInterface ||
      scope.walk.any (declares renamed) then
    .ok none
  else
    let declaration : Edit := ⟨head.nameExtent.start, head.nameExtent.stop, renamed⟩
    some <$> Fix.ofEdits ("Rename to " ++ renamed)
      (distinctEdits (declaration :: mentionEdits file head.name scope))

/--
Whether the name of a method is fixed by something else: it replaces an inherited one, or it handles
an event.
-/
def isExempt (file : BoundFile) (head : MethodHead) : Bool :=
  exemptNames.contains head.name || head.modifiers.contains "override" ||
    file.binding.handlesEvent head

/--
Finds methods whose result is awaited and whose name does not say so.
-/
def matcher : Matcher := fun file place => do
  let .methodDecl head := place.node.form | return none
  let some (result, _) := head.returnType | return none
  if head.isConstructor || !Symbol.isAwaitable result then return none
  if Text.endsWith head.name ending || isExempt file head then return none
  return some {
    span := ← file.source.spanOf head.nameExtent
    values := [("name", head.name), ("suggested", head.name ++ ending)]
    fix := fix file place head
  }

/--
The rule about the names of methods whose result is awaited.
-/
def rule : RuleDefinition where
  id := "async-method-naming"
  category := some .design
  severity := some .info
  kinds := [.methodDecl]
  matcher := some matcher
  message := "Method '\x7bname\x7d' returns an awaitable; rename it to '\x7bsuggested\x7d'"
  description := "Methods returning Task or ValueTask without the Async suffix."
  remediation := "Append 'Async' to the method name and update its callers."
  offer := .offered

end ThreadLint.AsyncNaming
