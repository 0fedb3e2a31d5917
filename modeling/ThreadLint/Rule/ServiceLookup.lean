import ThreadLint.Presence
import ThreadLint.Rule

/-!
This module contains the rules about services that are looked up: those that may be missing and are
used without a check, and those that exported parts look up while they are built.
-/

namespace ThreadLint.ServiceLookup

/-! ### Missing services -/

/--
The call that looks up the service that is the value of an expression.
-/
def lookupCall? (file : BoundFile) (expression : Node) : Option Node :=
  expression.unwrap?.filter (file.binding.isCallTagged .serviceLocator)

/--
A variable that is declared with a service as its value: its name, its declarator, and the call that
looks up the service.
-/
structure Service where
  name : String
  declarator : Node
  call : Node

/--
The service that a part of a declaration makes the value of a variable.
-/
def service? (file : BoundFile) (part : Node) : Option Service := do
  let .variableDeclarator name _ := part.form | none
  let call ← lookupCall? file (← part.children.head?)
  return ⟨name, part, call⟩

/--
Whether the first use of a variable in some statements takes it for present.
-/
def isTakenForPresent (statements : List Node) (name : String) : Bool :=
  match Node.firstUse? statements name with
  | some (.dereference, _) => true
  | _ => false

/--
Finds declarations of services that later statements of the block use without a check.
-/
def matchDeclaration : Matcher := fun file place => do
  let some parent := place.parent? | return none
  if parent.node.kind ≠ .block then return none
  let services := place.node.children.filterMap (service? file)
  let unchecked := services.find? fun service =>
    isTakenForPresent place.followingSiblings service.name
  let some service := unchecked | return none
  let stop := place.node.extent.stop
  let assertion := "\n" ++ file.indentationOf place.node ++
    file.qualify "Microsoft" "Assumes.Present" ++ "(" ++ service.name ++ ");"
  return some {
    span := ← file.source.spanOf service.declarator.extent
    values := [("call", file.snippet service.call), ("via", " through '" ++ service.name ++ "'")]
    fix := some <$> Fix.ofEdits ("Assert that '" ++ service.name ++ "' is present")
      [⟨stop, stop, assertion⟩]
  }

/--
Finds accesses to members of a service right where it is looked up.
-/
def matchAccess : Matcher := fun file place => do
  let .memberAccess _ _ isConditional _ := place.node.form | return none
  if isConditional then return none
  let some call := place.node.children.head?.bind (lookupCall? file) | return none
  return some {
    span := ← file.source.spanOf place.node.extent
    values := [("call", file.snippet call), ("via", "")]
  }

/--
Finds uses of services that may be missing.
-/
def matcher : Matcher := fun file place =>
  if place.node.kind = .localDecl then matchDeclaration file place else matchAccess file place

/--
The rule about services that may be missing and are used without a check.
-/
def rule : RuleDefinition where
  id := "unchecked-service-lookup"
  category := some .reliability
  severity := some .warning
  kinds := [.localDecl, .memberAccess]
  matcher := some matcher
  message := "Service lookup '\x7bcall\x7d' is dereferenced\x7bvia\x7d before a null check"
  description :=
    "Service lookups can return null when the service is not registered or not loaded yet."
  remediation := "Check the result for null, or call Assumes.Present before using it."
  offer := .offered

end ThreadLint.ServiceLookup

namespace ThreadLint.ConstructorLookup

/-! ### Lookups in constructors -/

/--
Whether a place lies directly in a constructor.
-/
def isInConstructor (place : Place) : Bool :=
  match place.function? with
  | some ⟨⟨.methodDecl head, _, _, _, _⟩, _⟩ => head.isConstructor
  | _ => false

/--
Finds lookups of services, other than those that are awaited, in constructors of exported types.
-/
def matcher : Matcher := fun file place => do
  let tags := file.binding.tagsAt place
  if !tags.contains .serviceLocator || tags.contains .asyncEntryPoint then return none
  if !isInConstructor place then return none
  let some owner := place.type? | return none
  let .classDecl head := owner.node.form | return none
  if !(file.binding.tagsAt owner).contains .mefExport then return none
  return some {
    span := ← file.source.spanOf place.node.extent
    values := [("call", file.snippet place.node), ("type", head.name)]
  }

/--
The rule about exported parts that look up services while they are built.
-/
def rule : RuleDefinition where
  id := "mef-constructor-service-lookup"
  category := some .design
  severity := some .warning
  kinds := [.callExpr]
  matcher := some matcher
  message := "MEF part '\x7btype\x7d' looks up '\x7bcall\x7d' synchronously in its constructor"
  description := "Synchronous service lookups while the composition container builds a part."
  remediation :=
    "Import the service, or resolve it lazily on first use with GetServiceAsync."

end ThreadLint.ConstructorLookup
