import ThreadLint.Grammar.Method

/-!
This module contains statements.
-/

namespace ThreadLint.Parser

/-! ### Local declarations -/

/--
The keywords that modify local declarations.
-/
def localModifiers : List String :=
  ["const", "static", "unsafe", "readonly", "extern"]

/--
The modifiers of a local declaration.
-/
def modifiersOfLocal : Parser (List String) :=
  loop (fun found : List String => do
    let token ← current
    if token.isKeyword localModifiers || (token.isWord ["async"] && isWordToken (← peek 1)) then
      let _ ← advance
      return .more (token.text :: found)
    else return .done found.reverse) []

/--
Variables of a type, behind that type.
-/
def localVariables (g : Grammar) (first : Nat) (form : Form) (terminated : Bool) : Parser Node := do
  let nameIndex ← here
  let _ ← identifier
  let declared ← declarators g nameIndex
  if terminated then
    let _ ← expect ";"
  node form first declared

/--
The modifiers and type of a local declaration, with the cursor at the name behind it, and whether
the name belongs to a local function.
-/
def localHead : Parser (List String × TypeUse × Bool) := do
  let modifiers ← modifiersOfLocal
  if ← atWord ["await"] then mismatch
  else
    let type ← anyType
    let name ← current
    let after ← peek 1
    if name.isIdentifier && after.isPunct ["(", "<"] then return (modifiers, type, true)
    else if name.isIdentifier && after.isPunct ["=", ";", ","] then return (modifiers, type, false)
    else mismatch

/--
A local declaration or local function, if the tokens at the cursor look like one.
-/
def localDeclaration? (g : Grammar) (first : Nat) (terminated : Bool) : Parser (Option Node) := do
  match ← attempt localHead with
  | none => return none
  | some (modifiers, type, true) =>
    let name ← advance
    return some (← method g first []
      { name := name.identifierName
        nameExtent := name.extent
        modifiers := modifiers
        returnType := some (type.text, type.extent)
        isConstructor := false
        isLocal := true
        hasBody := false })
  | some (modifiers, type, false) =>
    return some (← localVariables g first (.localDecl type.text modifiers .statement) terminated)

/-! ### Statements that begin with a keyword -/

/--
A choice between two statements, or a statement that may be left out.
-/
def ifStatement (g : Grammar) (first : Nat) : Parser Node := do
  let _ ← advance
  let test ← condition g
  let whenTrue ← g.embedded
  let whenFalse ← do
    if ← atKeyword ["else"] then
      let _ ← advance
      pure [← g.embedded]
    else pure []
  node .ifStmt first (test :: whenTrue :: whenFalse)

/--
The value behind a keyword, if there is one, and the semicolon.
-/
def optionalValue (g : Grammar) : Parser (List Node) := do
  let value ← do
    if isBefore ";" (← current) then pure [← g.expression] else pure []
  let _ ← expect ";"
  return value

/--
The end of a function.
-/
def returnStatement (g : Grammar) (first : Nat) : Parser Node := do
  let _ ← advance
  let value ← optionalValue g
  node .returnStmt first value

/--
A loop with its condition in front.
-/
def whileStatement (g : Grammar) (first : Nat) : Parser Node := do
  let _ ← advance
  let test ← condition g
  let body ← g.embedded
  node (.loopStmt "while") first [test, body]

/--
A loop with its condition behind.
-/
def doStatement (g : Grammar) (first : Nat) : Parser Node := do
  let _ ← advance
  let body ← g.embedded
  let _ ← requireKeyword ["while"]
  let test ← condition g
  let _ ← expect ";"
  node (.loopStmt "do") first [body, test]

/--
What a loop does before its first turn, with its semicolon.
-/
def forInitializer (g : Grammar) : Parser (List Node) := do
  if ← accept ";" then return []
  else
    match ← localDeclaration? g (← here) true with
    | some declaration => return [declaration]
    | none =>
      let firstStep ← g.expression
      let others ← manyWhile (·.isPunct [","]) do
        let _ ← advance
        g.expression
      let _ ← expect ";"
      return firstStep :: others

/--
A loop with a step.
-/
def forStatement (g : Grammar) (first : Nat) : Parser Node := do
  let _ ← advance
  let _ ← require ["("]
  let initializer ← forInitializer g
  let test ← do
    if ← atPunct [";"] then pure [] else pure [← g.expression]
  let _ ← expect ";"
  let steps ← commaList (isBefore ")") g.expression
  let _ ← expect ")"
  let body ← g.embedded
  node (.loopStmt "for") first (initializer ++ test ++ steps ++ [body])

/--
A loop over the items of a collection.
-/
def foreachStatement (g : Grammar) (first : Nat) : Parser Node := do
  let _ ← advance
  let _ ← require ["("]
  let typeIndex ← here
  let type ← anyType
  let declared ← do
    if ← atPunct ["("] then
      skipGroup
      pure []
    else
      let nameIndex ← here
      let name ← identifier
      let declared ← node (.variableDeclarator name.identifierName name.extent) nameIndex []
      pure [← node (.localDecl type.text [] .loopVariable) typeIndex [declared]]
  let _ ← requireKeyword ["in"]
  let collection ← g.expression
  let _ ← expect ")"
  let body ← g.embedded
  node (.loopStmt "foreach") first (declared ++ [collection, body])

/--
A handler of exceptions: its condition, if it has one, and its block.
-/
def catchClause (g : Grammar) : Parser (List Node) := do
  let _ ← advance
  skipParentheses
  let test ← do
    if ← atWord ["when"] then
      let _ ← advance
      pure [← condition g]
    else pure []
  let handler ← block g
  return test ++ [handler]

/--
A block with handlers of exceptions.
-/
def tryStatement (g : Grammar) (first : Nat) : Parser Node := do
  let _ ← advance
  let guarded ← block g
  let handlers ← manyWhile (·.isKeyword ["catch"]) (catchClause g)
  let last ← do
    if ← atKeyword ["finally"] then
      let _ ← advance
      pure [← block g]
    else pure []
  node .tryStmt first (guarded :: handlers.flatten ++ last)

/--
A statement that frees a resource behind it, or a local declaration that does so at the end of its
block.
-/
def usingStatement (g : Grammar) (first : Nat) : Parser Node := do
  let _ ← advance
  if ← accept "(" then
    let resource ← do
      match ← localDeclaration? g (← here) false with
      | some declaration => pure declaration
      | none => g.expression
    let _ ← expect ")"
    let body ← g.embedded
    node .usingStmt first [resource, body]
  else
    let type ← anyType
    localVariables g first (.localDecl type.text [] .resource) true

/--
A statement that runs under a lock.
-/
def lockStatement (g : Grammar) (first : Nat) : Parser Node := do
  let _ ← advance
  let lock ← condition g
  let body ← g.embedded
  node (.otherStmt "lock") first [lock, body]

/--
Whether the label of a case stands at the cursor.
-/
def atCaseLabel : Parser Bool := do
  return (← atKeyword ["case"]) || ((← atKeyword ["default"]) && (← peek 1).isPunct [":"])

/--
A choice between cases. Their labels are passed over.
-/
def switchStatement (g : Grammar) (first : Nat) : Parser Node := do
  let _ ← advance
  let subject ← condition g
  let _ ← require ["\x7b"]
  let statements ← manyWhile (isBefore "\x7d") do
    if ← atCaseLabel then
      skipCaseLabel
      return []
    else return [← g.embedded]
  let _ ← expect "\x7d"
  node (.otherStmt "switch") first (subject :: statements.flatten)

/--
A statement that throws.
-/
def throwStatement (g : Grammar) (first : Nat) : Parser Node := do
  let _ ← advance
  let value ← optionalValue g
  node (.otherStmt "throw") first value

/--
A statement that hands out an item of a sequence, or ends the sequence.
-/
def yieldStatement (g : Grammar) (first : Nat) : Parser Node := do
  let _ ← advance
  let action ← advance
  let value ← do
    if action.text == "return" then pure [← g.expression] else pure []
  let _ ← expect ";"
  node (.otherStmt "yield") first value

/--
A jump to the end or to the next turn of a loop.
-/
def jumpStatement (first : Nat) : Parser Node := do
  let keyword ← advance
  let _ ← expect ";"
  node (.otherStmt keyword.text) first []

/--
A statement in a special context. What the context is given in parentheses is passed over.
-/
def guardedStatement (g : Grammar) (first : Nat) : Parser Node := do
  let keyword ← advance
  skipParentheses
  let body ← g.embedded
  node (.otherStmt keyword.text) first [body]

/--
The parser for statements with a keyword in front.
-/
def keywordStatement? (g : Grammar) (keyword : String) : Option (Nat → Parser Node) :=
  match keyword with
  | "if" => some (ifStatement g)
  | "return" => some (returnStatement g)
  | "while" => some (whileStatement g)
  | "do" => some (doStatement g)
  | "for" => some (forStatement g)
  | "foreach" => some (foreachStatement g)
  | "try" => some (tryStatement g)
  | "using" => some (usingStatement g)
  | "lock" => some (lockStatement g)
  | "switch" => some (switchStatement g)
  | "throw" => some (throwStatement g)
  | "break" | "continue" => some jumpStatement
  | "goto" => some fun first => skipConstruct first "goto"
  | "checked" | "unchecked" | "unsafe" | "fixed" => some (guardedStatement g)
  | _ => none

/-! ### All statements -/

/--
A local declaration, or an expression with its semicolon.
-/
def plainStatement (g : Grammar) (first : Nat) : Parser Node := do
  match ← localDeclaration? g first true with
  | some declaration => return declaration
  | none =>
    let value ← expression g
    let _ ← expect ";"
    node .exprStmt first [value]

/--
A statement that begins with an identifier: one with a contextual keyword, one with a label, which
is passed over, or a plain one.
-/
def identifierStatement (g : Grammar) (first : Nat) : Parser Node := do
  let token ← current
  let next ← peek 1
  if token.text == "yield" && next.isKeyword ["return", "break"] then yieldStatement g first
  else if token.text == "await" && next.isKeyword ["foreach", "using"] then
    let _ ← advance
    if (← current).text == "foreach" then foreachStatement g first else usingStatement g first
  else if next.isPunct [":"] && !(← peek 2).isPunct [":"] then
    let _ ← advance
    let _ ← advance
    g.statement
  else plainStatement g first

/--
A statement.
-/
def statement (g : Grammar) : Parser Node := do
  let first ← here
  let token ← current
  let next ← peek 1
  if token.isPunct ["\x7b"] then block g
  else if token.isPunct [";"] then
    let _ ← advance
    node (.otherStmt "empty") first []
  else if token.kind == .keyword then
    match keywordStatement? g token.text with
    | some parser =>
      if (token.text == "checked" || token.text == "unchecked") && next.isPunct ["("] then
        plainStatement g first
      else parser first
    | none => plainStatement g first
  else if token.isIdentifier then identifierStatement g first
  else plainStatement g first

/--
A statement, which is passed over if it is not understood.
-/
def embedded (g : Grammar) : Parser Node := do
  let first ← here
  match ← attempt (statement g) with
  | some node => return node
  | none => skipConstruct first "unparsed"

end ThreadLint.Parser
