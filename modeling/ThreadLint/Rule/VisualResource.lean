import ThreadLint.Rule
import ThreadLint.Visual

/-!
This module contains the rule about fixed colours and brushes where the theme should give them.
-/

namespace ThreadLint.VisualResource

/--
The length of the values in messages.
-/
def valueLimit : Int :=
  40

/--
Finds assignments of a fixed colour or brush to a property that takes part in themes.
-/
def matcher : Matcher := fun file place => do
  let node := place.node
  let .assignment "=" := node.form | return none
  if !(file.binding.tagsAt place).contains .themeToken then return none
  let some target := node.children.head? | return none
  let some value := node.children.getLast? | return none
  if !value.isVisual then return none
  let property := match target.dottedName? with
    | some name => if name.isEmpty then file.textOf target else name
    | none => file.textOf target
  return some {
    span := ← file.source.spanOf node.extent
    values :=
      [("value", file.source.snippet value valueLimit), ("property", Text.lastSegment property)]
  }

/--
The rule about fixed colours and brushes where the theme should give them.
-/
def rule : RuleDefinition where
  id := "hardcoded-visual-resource"
  category := some .theming
  severity := some .info
  kinds := [.assignment]
  matcher := some matcher
  message :=
    "Hard-coded visual resource '\x7bvalue\x7d' assigned to themed property '\x7bproperty\x7d'"
  description := "Literal colours and brushes that do not follow the host theme."
  remediation :=
    "Bind the property to a theme resource key (EnvironmentColors, VsBrushes) instead."

end ThreadLint.VisualResource
