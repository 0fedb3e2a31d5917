import ThreadLint.Rule

/-!
This module contains the rules about the UI thread: about waits that block it, with how such a wait is
written as one that awaits, and about handlers of commands that do not assert it first.
-/

namespace ThreadLint.BlockingWait

/--
The expression `x` in `x.GetAwaiter().GetResult()`.
-/
def awaiterReceiver? (node : Node) : Option Node := do
  guard (node.kind == .callExpr && node.arguments.isEmpty)
  let inner ← node.receiver?
  guard (inner.kind == .callExpr && inner.arguments.isEmpty)
  match ← inner.children.head? with
  | ⟨.memberAccess "GetAwaiter" _ _ _, _, _, _, receiver :: _⟩ => some receiver
  | _ => none

/--
The expression of the only statement of a block.
-/
def onlyExpression? (block : Node) : Option Node :=
  match block.children with
  | [statement] =>
    if statement.kind == .exprStmt || statement.kind == .returnStmt then statement.children.head?
    else none
  | _ => none

/--
What a delegate without parameters returns to be awaited, if the delegate does nothing else.
-/
def inlineBody? (delegate : Node) : Option Node := do
  let .lambda parameters isAsync := delegate.form | none
  guard parameters.isEmpty
  let body ← delegate.children.head?
  if isAsync then
    let result ← if body.kind == .block then onlyExpression? body else some body
    guard (result.kind == .await)
    result.children.head?
  else
    guard (body.kind != .block)
    return body

/--
A wait for several tasks with the method replaced by the one whose result is awaited. One that is
not a statement of its own, or whose last argument is a time limit, has no such form.
-/
def combined? (file : BoundFile) (place : Place) (replacement : String) :
    Except Fault (Option String) := do
  let node := place.node
  let some ⟨.memberAccess _ name _ _, _, _, _, _⟩ := node.children.head? | return none
  let some parent := place.parent? | return none
  if parent.node.kind ≠ .exprStmt then return none
  if let some last := node.arguments.getLast? then
    match last.unwrap? with
    | none => throw .emptyOperand
    | some operand => if operand.kind = .literal then return none
  let front := file.source.slice ⟨node.extent.start, name.start⟩
  let back := file.source.slice ⟨name.stop, node.extent.stop⟩
  return some ("await " ++ front ++ Text.lastSegment replacement ++ back)

/--
Source text that awaits in place of a wait, for a way of awaiting.
-/
def awaitingBy? (file : BoundFile) (place : Place) (entry : SymbolEntry) :
    AwaitStrategy → Except Fault (Option String)
  | .wait => .ok do
    guard (node.kind != .callExpr || node.arguments.isEmpty)
    return awaitText file.source (← node.receiver?) place
  | .result => .ok do
    guard (node.kind == .memberAccess)
    return awaitText file.source (← node.children.head?) place
  | .getResult => .ok do
    return awaitText file.source (← awaiterReceiver? node) place
  | .whenAll | .whenAny => combined? file place (entry.replacement.getD "")
  | .runInline => .ok do
    let [delegate] := arguments | none
    return awaitText file.source (← inlineBody? delegate) place
  | .delay => .ok do
    let [duration] := arguments | none
    let delay := file.qualify Symbol.tasks (entry.replacement.getD "")
    return awaitWritten (delay ++ "(" ++ file.textOf duration ++ ")") place
where
  node : Node := place.node
  arguments : List Node := if place.node.kind == .callExpr then place.node.arguments else []

/--
Source text that awaits in place of a wait, if there is any.
-/
def awaiting? (file : BoundFile) (place : Place) (entry : Option SymbolEntry) :
    Except Fault (Option String) :=
  match entry with
  | none => .ok none
  | some entry =>
    match entry.strategy with
    | none => .ok none
    | some strategy => awaitingBy? file place entry strategy

/--
Whether a node gets the result of something other than a task.
-/
def isForeignResult (node : Node) (entry : Option SymbolEntry) : Bool :=
  match entry with
  | some entry => entry.strategy == some .getResult && (awaiterReceiver? node).isNone
  | none => false

/--
Whether a place is code of the UI thread: it lies directly in a method or property, and the type
around it, or the method itself, is an entry point.
-/
def isOnUIThread (file : BoundFile) (place : Place) : Bool :=
  match place.function? with
  | none => false
  | some function =>
    function.node.kind != .lambda &&
      ((place.type?.any fun owner => (file.binding.tagsAt owner).contains .asyncEntryPoint) ||
        (file.binding.tagsAt function).contains .asyncEntryPoint)

/--
What to do about a wait that cannot be written as one that awaits.
-/
def manualRemedy : String :=
  "manual fix required: make the caller async or move the wait off the UI thread"

/--
Whether a wait on the UI thread is to be reported: one that no switch to the thread comes before.
-/
def isReported (file : BoundFile) (place : Place) (entry : Option SymbolEntry) : Bool :=
  (file.binding.tagsAt place).contains .blockingWait && !isForeignResult place.node entry &&
    isOnUIThread file place && !place.precededBy (file.binding.makesCallTagged .uiThreadSwitch)

/--
Finds waits that block the UI thread.
-/
def matcher : Matcher := fun file place => do
  let entry := file.binding.symbolAt? place
  if !isReported file place entry then return none
  let awaiting ← if place.mayAwait then awaiting? file place entry else pure none
  let extent := place.node.extent
  let remedy := match awaiting with
    | some text => "use '" ++ Text.oneLine text ++ "' instead"
    | none => manualRemedy
  return some {
    span := ← file.source.spanOf extent
    values := [("call", file.snippet place.node), ("remedy", remedy)]
    fix := awaiting.mapM fun text =>
      Fix.ofEdits "Await instead of blocking" [⟨extent.start, extent.stop, text⟩]
  }

/--
The rule about waits that block the UI thread.
-/
def rule : RuleDefinition where
  id := "blocking-call-on-affinity-thread"
  category := some .threading
  severity := some .error
  kinds := [.callExpr, .memberAccess]
  matcher := some matcher
  message := "Blocking wait '\x7bcall\x7d' can deadlock the UI thread; \x7bremedy\x7d"
  description := "Synchronous waits on tasks in UI-affine package and window code."
  remediation :=
    "Make the caller async and await the task, or switch to a background thread first."
  offer := .offered

end ThreadLint.BlockingWait

namespace ThreadLint.CommandHandler

/--
Whether a statement asserts the UI thread.
-/
def assertsUIThread (file : BoundFile) (statement : Node) : Bool :=
  statement.kind == .exprStmt &&
    ((statement.children.head?.bind Node.unwrap?).any
      (file.binding.isCallTagged .uiThreadSwitch))

/--
The edit that asserts the UI thread at the beginning of a body.
-/
def assertion (file : BoundFile) (body : Node) : Edit :=
  let call := file.qualify Symbol.shell "ThreadHelper.ThrowIfNotOnUIThread" ++ "();"
  match body.children.head? with
  | some first =>
    ⟨first.extent.start, first.extent.start, call ++ "\n" ++ file.indentationOf first⟩
  | none =>
    let start := body.extent.start + 1
    ⟨start, start, "\n" ++ file.indentationOf body ++ "    " ++ call⟩

/--
Finds handlers of commands, other than those that may await, whose first statement does not assert
the UI thread.
-/
def matcher : Matcher := fun file place => do
  let node := place.node
  let .methodDecl head := node.form | return none
  if !(file.binding.tagsAt place).contains .commandHandler || node.isAsync then return none
  let some body := node.methodBody? | return none
  if body.kind ≠ .block then return none
  if body.children.head?.any (assertsUIThread file) then return none
  return some {
    span := ← file.source.spanOf head.nameExtent
    values := [("name", head.name)]
    fix := some <$> Fix.ofEdits "Assert the UI thread on entry" [assertion file body]
  }

/--
The rule about handlers of commands that do not assert the UI thread first.
-/
def rule : RuleDefinition where
  id := "command-handler-thread-assert"
  category := some .threading
  severity := some .warning
  kinds := [.methodDecl]
  matcher := some matcher
  message := "Command handler '\x7bname\x7d' does not assert that it runs on the UI thread"
  description := "Menu command handlers that touch UI state without checking the calling thread."
  remediation :=
    "Call ThreadHelper.ThrowIfNotOnUIThread() as the first statement of the handler."
  offer := .offered

end ThreadLint.CommandHandler
