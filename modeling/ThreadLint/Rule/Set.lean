import ThreadLint.Rule

/-!
This module contains sets of rules, with an index by the kinds of nodes that they inspect, and how
such a set is selected from definitions.
-/

namespace ThreadLint

/--
The rules for the kinds of nodes, each kind with the rules that inspect nodes of it.
-/
abbrev RuleIndex := List (NodeKind × List Rule)

/--
Rules in the order in which they are asked.
-/
structure RuleSet where
  rules : List Rule
  index : RuleIndex

namespace RuleIndex

/--
Adds a rule behind those for a kind of node.
-/
def insert (index : RuleIndex) (kind : NodeKind) (rule : Rule) : RuleIndex :=
  match index with
  | [] => [(kind, [rule])]
  | (other, rules) :: rest =>
    if other = kind then (other, rules ++ [rule]) :: rest
    else (other, rules) :: insert rest kind rule

/--
Adds a rule behind those for each of its kinds of nodes.
-/
def insertAll (index : RuleIndex) (rule : Rule) : RuleIndex :=
  rule.kinds.eraseDups.foldl (fun index kind => index.insert kind rule) index

/--
The rules for a kind of node.
-/
def lookup (index : RuleIndex) (kind : NodeKind) : List Rule :=
  (List.lookup kind index).getD []

end RuleIndex

namespace RuleSet

/--
The set of some rules.
-/
def ofRules (rules : List Rule) : RuleSet where
  rules := rules
  index := rules.foldl RuleIndex.insertAll []

/--
The number of rules.
-/
def size (ruleSet : RuleSet) : Nat :=
  ruleSet.rules.length

/--
The names of the rules.
-/
def ids (ruleSet : RuleSet) : List String :=
  ruleSet.rules.map Rule.id

/--
The rule with a name.
-/
def get? (ruleSet : RuleSet) (id : String) : Option Rule :=
  ruleSet.rules.find? (·.id == id)

/--
Whether there is a rule with a name.
-/
def contains (ruleSet : RuleSet) (id : String) : Bool :=
  ruleSet.rules.any (·.id == id)

/--
The rules that inspect nodes of a kind, in the order of the set.
-/
def rulesFor (ruleSet : RuleSet) (kind : NodeKind) : List Rule :=
  ruleSet.index.lookup kind

/--
The categories of the rules.
-/
def categories (ruleSet : RuleSet) : List Category :=
  Category.all.filter fun category => ruleSet.rules.any (·.category == category)

/--
The names that occur in a list more than once, in ascending order.
-/
def repeated (ids : List String) : List String :=
  (ids.eraseDups.filter fun id => decide (1 < ids.count id)).mergeSort fun a b => decide (a ≤ b)

/--
The names in a list that are not among the known ones, in ascending order.
-/
def unknown (known ids : List String) : List String :=
  (ids.eraseDups.filter fun id => !known.contains id).mergeSort fun a b => decide (a ≤ b)

/--
The set of the defined rules that belong to one of the categories and are not disabled. Without
categories all of them count. All definitions must make sense, their names must be distinct, and
every disabled name must be one of them.
-/
def select (categories : Option (List Category)) (disabled : List String)
    (definitions : List RuleDefinition) : Except RuleProblem RuleSet := do
  let rules ← definitions.mapM RuleDefinition.rule
  let ids := rules.map Rule.id
  if let first :: others := repeated ids then throw (.duplicates first others)
  if let first :: others := unknown ids disabled then throw (.unknown first others)
  let wanted (rule : Rule) : Bool :=
    (match categories with
      | some categories => categories.contains rule.category
      | none => true) && !disabled.contains rule.id
  return ofRules (rules.filter wanted)

end RuleSet

end ThreadLint
