import ThreadLint.Symbol.Entry

/-!
This module contains the symbols of the host framework that are known from the start. Rules ask for
the tags of a symbol and never for its name, so a symbol that is added here is picked up by every
rule that looks for its tags.
-/

namespace ThreadLint.Symbol

/--
The namespace of packages and windows.
-/
def shell : String :=
  "Microsoft.VisualStudio.Shell"

/--
The namespace of tasks.
-/
def tasks : String :=
  "System.Threading.Tasks"

/--
The namespace of the community toolkit.
-/
def toolkit : String :=
  "Community.VisualStudio.Toolkit"

/--
The namespace of composition.
-/
def composition : String :=
  "System.ComponentModel.Composition"

/--
The capabilities of packages that load in the background.
-/
def asyncPackage : List Capability :=
  [.backgroundLoad, .asyncInit]

/--
Base types. The members of packages and windows run on the UI thread, and command objects take their
handler as the first argument of the constructor.
-/
def types : List SymbolEntry :=
  [{ name := shell ++ ".AsyncPackage", kind := .type, tags := [.asyncEntryPoint],
     capabilities := asyncPackage },
   { name := toolkit ++ ".ToolkitPackage", kind := .type, tags := [.asyncEntryPoint],
     capabilities := asyncPackage },
   { name := shell ++ ".Package", kind := .type, tags := [.asyncEntryPoint],
     replacement := some "AsyncPackage" },
   { name := shell ++ ".ToolWindowPane", kind := .type, tags := [.asyncEntryPoint] },
   { name := "Microsoft.VisualStudio.PlatformUI.DialogWindow", kind := .type,
     tags := [.asyncEntryPoint] },
   { name := toolkit ++ ".BaseCommand", kind := .type, tags := [.asyncEntryPoint] },
   { name := toolkit ++ ".BaseToolWindow", kind := .type, tags := [.asyncEntryPoint] },
   { name := "System.ComponentModel.Design.MenuCommand", kind := .type, tags := [.commandHandler] },
   { name := shell ++ ".OleMenuCommand", kind := .type, tags := [.commandHandler] }]

/--
Calls and properties that switch to the UI thread, assert it, or block it.
-/
def threadMembers : List SymbolEntry :=
  [{ name := "SwitchToMainThreadAsync", kind := .method,
     tags := [.uiThreadSwitch, .asyncEntryPoint], isSuffix := true },
   { name := shell ++ ".ThreadHelper.ThrowIfNotOnUIThread", kind := .method,
     tags := [.uiThreadSwitch], replacement := some "ThreadHelper.ThrowIfNotOnUIThread" },
   { name := "Dispatcher.VerifyAccess", kind := .method, tags := [.uiThreadSwitch],
     isSuffix := true },
   { name := "Wait", kind := .method, tags := [.blockingWait], isSuffix := true,
     strategy := some .wait },
   { name := "Result", kind := .property, tags := [.blockingWait], isSuffix := true,
     strategy := some .result },
   { name := "GetResult", kind := .method, tags := [.blockingWait], isSuffix := true,
     strategy := some .getResult },
   { name := tasks ++ ".Task.WaitAll", kind := .method, tags := [.blockingWait],
     strategy := some .whenAll, replacement := some "Task.WhenAll" },
   { name := tasks ++ ".Task.WaitAny", kind := .method, tags := [.blockingWait],
     strategy := some .whenAny, replacement := some "Task.WhenAny" },
   { name := "JoinableTaskFactory.Run", kind := .method, tags := [.blockingWait], isSuffix := true,
     strategy := some .runInline },
   { name := "System.Threading.Thread.Sleep", kind := .method, tags := [.blockingWait],
     strategy := some .delay, replacement := some "Task.Delay" }]

/--
Calls whose result the caller must await.
-/
def asyncMembers : List SymbolEntry :=
  [{ name := "JoinableTaskFactory.RunAsync", kind := .method, tags := [.asyncEntryPoint],
     isSuffix := true },
   { name := tasks ++ ".Task.Run", kind := .method, tags := [.asyncEntryPoint] },
   { name := tasks ++ ".Task.Delay", kind := .method, tags := [.asyncEntryPoint] },
   { name := tasks ++ ".Task.WhenAll", kind := .method, tags := [.asyncEntryPoint] },
   { name := tasks ++ ".Task.WhenAny", kind := .method, tags := [.asyncEntryPoint] }]

/--
Calls that look up a service. Those that do not return a task may return null.
-/
def serviceMembers : List SymbolEntry :=
  [{ name := "GetService", kind := .method, tags := [.serviceLocator], isSuffix := true },
   { name := "GetGlobalService", kind := .method, tags := [.serviceLocator], isSuffix := true },
   { name := "GetServiceAsync", kind := .method, tags := [.serviceLocator, .asyncEntryPoint],
     isSuffix := true },
   { name := "GetGlobalServiceAsync", kind := .method, tags := [.serviceLocator, .asyncEntryPoint],
     isSuffix := true }]

/--
Properties that take part in the rendering of themes.
-/
def themeProperties : List SymbolEntry :=
  ["Background", "Foreground", "BorderBrush", "Fill", "Stroke", "Source"].map fun name =>
    { name := name, kind := .property, tags := [.themeToken], isSuffix := true }

/--
Attributes of composition and of packages.
-/
def attributes : List SymbolEntry :=
  [{ name := composition ++ ".ExportAttribute", kind := .attributeType, tags := [.mefExport] },
   { name := "System.Composition.ExportAttribute", kind := .attributeType, tags := [.mefExport] },
   { name := composition ++ ".ImportingConstructorAttribute", kind := .attributeType,
     role := some .importingConstructor },
   { name := shell ++ ".PackageRegistrationAttribute", kind := .attributeType,
     role := some .packageRegistration }]

/--
The symbols that are known from the start.
-/
def builtin : List SymbolEntry :=
  types ++ threadMembers ++ asyncMembers ++ serviceMembers ++ themeProperties ++ attributes

end ThreadLint.Symbol
