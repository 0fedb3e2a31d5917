import ThreadLint.Rule.AsyncNaming
import ThreadLint.Rule.UnobservedResult
import ThreadLint.Rule.PackageBase
import ThreadLint.Rule.BlockingWait
import ThreadLint.Rule.ServiceLookup
import ThreadLint.Rule.Set
import ThreadLint.Rule.VisualResource

/-!
This module contains the catalogue of the built-in rules.
-/

namespace ThreadLint

namespace RuleDefinition

/--
The built-in rules, in the order in which they are listed and asked.
-/
def catalogue : List RuleDefinition :=
  [BlockingWait.rule, CommandHandler.rule,
   UnobservedResult.rule, AsyncVoid.rule, ServiceLookup.rule,
   PackageBase.rule, BackgroundLoad.rule,
   ConstructorLookup.rule, AsyncNaming.rule,
   VisualResource.rule]

/--
The built-in rule with a name.
-/
def find? (id : String) : Option RuleDefinition :=
  catalogue.find? (·.id == id)

end RuleDefinition

end ThreadLint
