import ThreadLint.Grammar.Expression

/-!
This module contains methods, from the parameters on, and declarators of variables. Both occur among
members and among statements.
-/

namespace ThreadLint.Parser

/--
The body of a method or accessor: a block, an expression behind an arrow, or a semicolon alone.
-/
def body (g : Grammar) : Parser (Option Node) := do
  if ← atPunct ["\x7b"] then return some (← block g)
  else if ← accept "=>" then
    let value ← g.expression
    let _ ← expect ";"
    return some value
  else
    let _ ← expect ";"
    return none

/--
The call of another constructor in the head of a constructor.
-/
def skipConstructorCall : Parser Unit := do
  if ← accept ":" then
    let _ ← advance
    skipParentheses

/--
A method, constructor or local function behind its name. The head holds what was read before.
-/
def method (g : Grammar) (first : Nat) (attributes : List Node) (head : MethodHead) :
    Parser Node := do
  skipTypeParameters
  let parameters ← do
    if ← atPunct ["("] then parameterList g ")" else mismatch
  if head.isConstructor then skipConstructorCall
  skipConstraints
  let body ← body g
  node (.methodDecl { head with hasBody := body.isSome }) first
    (attributes ++ parameters ++ body.toList)

/--
A declarator: a variable with its initial value, if it has one. The name stands at an index.
-/
def declarator (g : Grammar) (nameIndex : Nat) : Parser Node := do
  let name ← tokenNumber nameIndex
  let initial ← do
    if ← accept "=" then pure [← initialValue g] else pure []
  node (.variableDeclarator name.identifierName name.extent) nameIndex initial

/--
Declarators with commas between them. The name of the first one was taken before and stands at an
index.
-/
def declarators (g : Grammar) (nameIndex : Nat) : Parser (List Node) :=
  loop (fun state : Nat × List Node => do
    let (nameIndex, found) := state
    let found := (← declarator g nameIndex) :: found
    if ← accept "," then
      let next ← here
      let _ ← identifier
      return .more (next, found)
    else return .done found.reverse) (nameIndex, [])

end ThreadLint.Parser
