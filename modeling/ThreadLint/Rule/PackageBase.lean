import ThreadLint.Rule

/-!
This module contains the rules about packages: those that derive from a base that initialises them on
the UI thread, and those that could load in the background and are not registered to do so.
-/

namespace ThreadLint.PackageBase

/-! ### Bases -/

/--
A base of a type that has a replacement.
-/
structure OldBase where
  written : String
  extent : Extent
  entry : SymbolEntry
  replacement : String

/--
The replacement for a known base that cannot initialise without the UI thread.
-/
def replacement? (entry : SymbolEntry) : Option String := do
  guard (entry.kind == .type && !entry.capabilities.contains .asyncInit)
  entry.replacement.filter fun name => !name.isEmpty

/--
The first base of a type that has a replacement.
-/
def oldBase? (scope : Scope) (head : TypeHead) : Option OldBase :=
  (head.bases.zip (Traits.bases scope head)).findSome? fun ((written, extent), entry) => do
    let entry ← entry
    return ⟨written, extent, entry, ← replacement? entry⟩

/--
The fix that derives from the replacement: it puts the new name where the old one is written for the
last time, unless it is not written at all.
-/
def fix (file : BoundFile) (base : OldBase) : Except Fault (Option Fix) :=
  let name := base.entry.shortName
  (Text.lastOffset? name.toList (file.source.slice base.extent).toList).mapM fun offset =>
    let start := base.extent.start + offset
    Fix.ofEdits ("Derive from " ++ base.replacement)
      [⟨start, start + name.length, base.replacement⟩]

/--
Finds types with a base that has a replacement.
-/
def matcher : Matcher := fun file place => do
  let .classDecl head := place.node.form | return none
  let some base := oldBase? file.binding.scope head | return none
  return some {
    span := ← file.source.spanOf base.extent
    values := [("name", head.name), ("base", base.written), ("replacement", base.replacement)]
    fix := fix file base
  }

/--
The rule about packages that derive from a base that initialises them on the UI thread.
-/
def rule : RuleDefinition where
  id := "synchronous-package-base"
  category := some .performance
  severity := some .warning
  kinds := [.classDecl]
  matcher := some matcher
  message :=
    "'\x7bname\x7d' derives from the synchronous '\x7bbase\x7d'; derive from " ++
      "'\x7breplacement\x7d' instead"
  description :=
    "Packages that initialise synchronously and block the UI thread while loading."
  remediation := "Derive from AsyncPackage and move initialisation into InitializeAsync."
  offer := .offered

end ThreadLint.PackageBase

namespace ThreadLint.BackgroundLoad

/-! ### Registrations -/

/--
The property of a registration that lets a package load in the background.
-/
def property : String :=
  "AllowsBackgroundLoading"

/--
The assignment that lets a package load in the background.
-/
def assignment : String :=
  property ++ " = true"

/--
The attribute that registers a type as a package.
-/
def registration? (file : BoundFile) (type : Node) : Option Node :=
  (type.childrenOf .attributeUse).find? fun registration =>
    (file.binding.symbol? registration false).any fun entry =>
      entry.role == some .packageRegistration

/--
The assignment to the property among the arguments of a registration.
-/
def setting? (registration : Node) : Option Node :=
  registration.children.find? fun argument =>
    argument.kind == .assignment && argument.children.head?.any (·.isName property)

/--
Whether an assignment assigns the literal `true`.
-/
def isOn (setting : Node) : Bool :=
  match setting.children.getLast?.bind Node.unwrap? with
  | some ⟨.literal _ value, _, _, _, _⟩ => value == "true"
  | _ => false

/--
The edit that sets the property: in place of the value that it has, behind the other arguments, or
in new parentheses.
-/
def edit (registration : Node) (setting : Option Node) : Edit :=
  match setting.bind fun setting => setting.children.getLast? with
  | some value => ⟨value.extent.start, value.extent.stop, "true"⟩
  | none =>
    match registration.form with
    | .attributeUse _ _ (some close) =>
      ⟨close, close, if registration.children.isEmpty then assignment else ", " ++ assignment⟩
    | .attributeUse _ stop none => ⟨stop, stop, "(" ++ assignment ++ ")"⟩
    | _ => ⟨registration.extent.stop, registration.extent.stop, ""⟩

/--
Finds types that could load in the background and are registered without that.
-/
def matcher : Matcher := fun file place => do
  let .classDecl head := place.node.form | return none
  if !(file.binding.traits head).capabilities.contains .backgroundLoad then return none
  let some registration := registration? file place.node | return none
  let setting := setting? registration
  if setting.any isOn then return none
  return some {
    span := ← file.source.spanOf registration.extent
    values := [("name", head.name)]
    fix := some <$> Fix.ofEdits ("Set " ++ assignment) [edit registration setting]
  }

/--
The rule about packages that could load in the background and are not registered to do so.
-/
def rule : RuleDefinition where
  id := "missing-background-load"
  category := some .performance
  severity := some .warning
  kinds := [.classDecl]
  matcher := some matcher
  message :=
    "Package '\x7bname\x7d' can load in the background but its registration does not allow it"
  description :=
    "Async packages registered without AllowsBackgroundLoading load on the UI thread."
  remediation := "Add AllowsBackgroundLoading = true to the PackageRegistration attribute."
  offer := .offered

end ThreadLint.BackgroundLoad
