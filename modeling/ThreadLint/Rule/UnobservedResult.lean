import ThreadLint.Rule

/-!
This module contains the rules about results that nobody awaits: calls whose result is to be awaited
and is dropped, and handlers of events that await and return nothing.
-/

namespace ThreadLint.UnobservedResult

/-! ### Calls -/

/--
The call whose result an expression drops, if that result is to be awaited. Calls that only
configure how it is awaited are looked through.
-/
def droppedCall? (file : BoundFile) (expression : Node) : Option Node :=
  if expression.kind ≠ .callExpr then none
  else if (file.binding.callTags expression).contains .asyncEntryPoint then some expression
  else if !Text.endsWith ((Binding.target? expression false).getD "") "ConfigureAwait" then none
  else
    match _h : expression.receiver? with
    | none => none
    | some inner => droppedCall? file inner
termination_by expression.size
decreasing_by exact Node.size_receiver?_lt _h

/--
Finds statements that drop a result that is to be awaited.
-/
def matcher : Matcher := fun file place => do
  let some expression := place.node.children.head? | return none
  let some call := droppedCall? file expression | return none
  let start := expression.extent.start
  return some {
    span := ← file.source.spanOf expression.extent
    values := [("call", file.snippet call)]
    fix :=
      if place.mayAwait then some <$> Fix.ofEdits "Await the call" [⟨start, start, "await "⟩]
      else .ok none
  }

/--
The rule about calls whose result is to be awaited and is dropped.
-/
def rule : RuleDefinition where
  id := "unobserved-async-result"
  category := some .reliability
  severity := some .warning
  kinds := [.exprStmt]
  matcher := some matcher
  message :=
    "Result of async call '\x7bcall\x7d' is never observed; exceptions it throws are lost"
  description := "Calls returning a task whose result is silently dropped."
  remediation := "Await the call, or assign it to '_' if fire-and-forget is intended."
  offer := .offered

end ThreadLint.UnobservedResult

namespace ThreadLint.AsyncVoid

/-! ### Handlers -/

/--
The types of a sender.
-/
def senderTypes : List String :=
  ["object", "Object", "System.Object"]

/--
The types of the parameters of a method.
-/
def parameterTypes (method : Node) : List String :=
  method.children.filterMap fun child =>
    match child.form with
    | .parameter _ typeName => some typeName
    | _ => none

/--
Whether a method has the parameters of a handler of events: a sender and the arguments of an event.
-/
def isHandlerShaped (method : Node) : Bool :=
  match parameterTypes method with
  | [sender, arguments] =>
    senderTypes.contains (Text.trimEnd '?' sender) &&
      Text.endsWith (Text.beforeFirst '<' arguments) "EventArgs"
  | _ => false

/--
Finds handlers of events that may await and return nothing.
-/
def matcher : Matcher := fun file place => do
  let .methodDecl head := place.node.form | return none
  if head.isConstructor || !head.modifiers.contains "async" then return none
  let some ("void", result) := head.returnType | return none
  if !file.binding.handlesEvent head && !isHandlerShaped place.node then return none
  let task := file.qualify Symbol.tasks "Task"
  return some {
    span := ← file.source.span result.start head.nameExtent.stop
    values := [("name", head.name)]
    fix := some <$> Fix.ofEdits ("Return " ++ task ++ " instead of void")
      [⟨result.start, result.stop, task⟩]
  }

/--
The rule about handlers of events that await and return nothing.
-/
def rule : RuleDefinition where
  id := "async-void-entry"
  category := some .reliability
  severity := some .error
  kinds := [.methodDecl]
  matcher := some matcher
  message := "async void event handler '\x7bname\x7d' crashes the host if it throws"
  description :=
    "async void methods used as event callbacks; their exceptions cannot be caught."
  remediation := "Return Task and observe it, or catch every exception inside the handler."
  offer := .offered

end ThreadLint.AsyncVoid
