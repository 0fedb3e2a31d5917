/-!
This module contains the closed vocabularies that describe what is known of an API symbol.
-/

namespace ThreadLint

/--
What a symbol means to the rules, which ask for these labels and never for names.
-/
inductive SymbolTag where
  | asyncEntryPoint
  | uiThreadSwitch
  | blockingWait
  | serviceLocator
  | themeToken
  | mefExport
  | commandHandler
  deriving DecidableEq, Repr, Inhabited

namespace SymbolTag

/--
All tags.
-/
def all : List SymbolTag :=
  [asyncEntryPoint, uiThreadSwitch, blockingWait, serviceLocator, themeToken, mefExport,
   commandHandler]

/--
The word for a tag.
-/
def name : SymbolTag → String
  | asyncEntryPoint => "AsyncEntryPoint"
  | uiThreadSwitch => "UiThreadSwitch"
  | blockingWait => "BlockingWait"
  | serviceLocator => "ServiceLocator"
  | themeToken => "ThemeToken"
  | mefExport => "MefExport"
  | commandHandler => "CommandHandler"

/--
The second spelling under which settings may name a tag.
-/
def screamingName : SymbolTag → String
  | asyncEntryPoint => "ASYNC_ENTRY_POINT"
  | uiThreadSwitch => "UI_THREAD_SWITCH"
  | blockingWait => "BLOCKING_WAIT"
  | serviceLocator => "SERVICE_LOCATOR"
  | themeToken => "THEME_TOKEN"
  | mefExport => "MEF_EXPORT"
  | commandHandler => "COMMAND_HANDLER"

end SymbolTag

/--
What a base type is able to do, which stands in for its place in a class hierarchy.
-/
inductive Capability where
  | backgroundLoad
  | asyncInit
  deriving DecidableEq, Repr, Inhabited

/--
The word for a capability.
-/
def Capability.name : Capability → String
  | backgroundLoad => "supports-background-load"
  | asyncInit => "supports-async-init"

/--
What sort of API a symbol is.
-/
inductive SymbolKind where
  | type
  | method
  | property
  | attributeType
  deriving DecidableEq, Repr, Inhabited

/--
The word for a sort of symbol.
-/
def SymbolKind.name : SymbolKind → String
  | type => "type"
  | method => "method"
  | property => "property"
  | attributeType => "attribute"

/--
How a wait that blocks is written as one that awaits.
-/
inductive AwaitStrategy where
  /-- `t.Wait()` becomes `await t`. -/
  | wait
  /-- `t.Result` becomes `await t`. -/
  | result
  /-- `t.GetAwaiter().GetResult()` becomes `await t`. -/
  | getResult
  /-- `Task.WaitAll(a, b)` becomes `await Task.WhenAll(a, b)`. -/
  | whenAll
  /-- `Task.WaitAny(a, b)` becomes `await Task.WhenAny(a, b)`. -/
  | whenAny
  /-- `factory.Run(async () => await x)` becomes `await x`. -/
  | runInline
  /-- `Thread.Sleep(n)` becomes `await Task.Delay(n)`. -/
  | delay
  deriving DecidableEq, Repr, Inhabited

/--
The word for a strategy.
-/
def AwaitStrategy.name : AwaitStrategy → String
  | wait => "wait"
  | result => "result"
  | getResult => "get-result"
  | whenAll => "when-all"
  | whenAny => "when-any"
  | runInline => "run-inline"
  | delay => "delay"

end ThreadLint
