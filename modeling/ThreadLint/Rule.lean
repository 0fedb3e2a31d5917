import ThreadLint.Awaiting
import ThreadLint.Binding
import ThreadLint.Finding
import ThreadLint.Template.Fill

/-!
This module contains rules: what they see of a file, which is its text and what its names stand for,
how one is defined, when a definition makes sense, and what a rule reports at a place of a file.
-/

namespace ThreadLint

/--
The source of a file together with its binding.
-/
structure BoundFile where
  source : Source
  binding : Binding
  deriving Inhabited

namespace BoundFile

/--
The text of a node.
-/
def textOf (file : BoundFile) (node : Node) : String :=
  file.source.textOf node

/--
The text of a node as messages quote it.
-/
def snippet (file : BoundFile) (node : Node) : String :=
  file.source.snippet node Source.snippetLimit

/--
The white space at the beginning of the line on which a node begins.
-/
def indentationOf (file : BoundFile) (node : Node) : String :=
  file.source.indentationAt node.extent.start

/--
Whether a namespace is in view, through a directive or because code of the file lies in it.
-/
def imports (file : BoundFile) (space : String) : Bool :=
  file.binding.scope.namespaces.contains space

/--
A name of a namespace as it has to be written in the file: as it is if the namespace is in view,
else with the namespace in front.
-/
def qualify (file : BoundFile) (space name : String) : String :=
  if file.imports space then name else space ++ "." ++ name

end BoundFile

/--
What a rule found at a place: the span to report, the values for the fields of its message, and the
fix for it.
-/
structure Hit where
  span : Span
  values : List (String × String)
  fix : Except Fault (Option Fix) := .ok none

/--
What a rule looks for. It is asked about every place whose node is of one of the kinds of the rule.
-/
abbrev Matcher := BoundFile → Place → Except Fault (Option Hit)

/--
Whether a rule offers fixes. An offer may be defined in a way that nothing can be made of.
-/
inductive FixOffer where
  | never
  | offered
  | unusable
  deriving DecidableEq, Repr, Inhabited

/--
The definition of a rule, which need not make sense.
-/
structure RuleDefinition where
  id : String
  category : Option Category
  severity : Option Severity
  kinds : List NodeKind
  matcher : Option Matcher
  message : String
  description : String := ""
  remediation : String := ""
  offer : FixOffer := .never

/--
A rule that can be evaluated.
-/
structure Rule where
  id : String
  category : Category
  severity : Severity
  kinds : List NodeKind
  matcher : Matcher
  message : Template
  offersFixes : Bool

namespace RuleDefinition

/--
Whether a character may stand in the name of a rule besides hyphens.
-/
def isIdChar (c : Char) : Bool :=
  c.isLower || c.isDigit

/--
Whether a text is the name of a rule: groups of lower-case letters and digits, with single hyphens
between them and a letter in front. A line feed behind the name is let through.
-/
def isId (id : String) : Bool :=
  let cs := match id.toList.reverse with
    | '\n' :: rest => rest.reverse
    | _ => id.toList
  let groups := Text.pieces '-' (String.ofList cs)
  groups.all (fun group => !group.isEmpty && group.toList.all isIdChar) &&
    cs.head?.any Char.isLower

/--
The rule that a definition stands for.
-/
def rule (definition : RuleDefinition) : Except RuleProblem Rule := do
  let id := definition.id
  if !isId id then throw (.badId id)
  let some category := definition.category | throw (.noCategory id)
  let some severity := definition.severity | throw (.noSeverity id)
  if definition.kinds.isEmpty then throw (.noNodeKinds id)
  let some matcher := definition.matcher | throw (.noMatcher id)
  if definition.offer = .unusable then throw (.noFixTemplate id)
  if definition.message.isEmpty then throw (.emptyMessage id)
  let message ← (Template.ofString definition.message).mapError (.malformedMessage id)
  return {
    id := id
    category := category
    severity := severity
    kinds := definition.kinds
    matcher := matcher
    message := message
    offersFixes := definition.offer = .offered
  }

end RuleDefinition

namespace Rule

/--
The fault of a rule whose message cannot be filled.
-/
def fillFault (rule : Rule) (path : String) : FillProblem → Fault
  | .missing field => .promise (.missingField rule.id field) (some path)
  | .malformed problem => .badValue (.template problem)
  | .noMember => .noMember
  | .notAnIndex | .noLayout => .wrongType

/--
What a rule reports at a place.
-/
def check (rule : Rule) (file : BoundFile) (place : Place) : Except Fault (Option Finding) := do
  let some hit ← rule.matcher file place | return none
  let message ← (rule.message.fill hit.values).mapError (rule.fillFault file.source.path)
  let fix ← if rule.offersFixes then hit.fix else pure none
  return some {
    path := file.source.path
    rule := rule.id
    category := some rule.category
    severity := rule.severity
    span := hit.span
    message := message
    fix := fix
  }

end Rule

end ThreadLint
