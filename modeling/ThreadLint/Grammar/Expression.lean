import ThreadLint.Grammar.Lambda

/-!
This module contains expressions: primary expressions, what stands behind and in front of them,
patterns, and operators with their precedence.
-/

namespace ThreadLint.Parser

/-! ### Primary expressions -/

/--
What is written between the bracket at an index and the bracket at another, without white space.
-/
def spellingBetween (opener closer : Nat) : Parser String := fun tokens cursor =>
  let inside := (tokens.extract (opener + 1) closer).toList
  let written :=
    String.join (inside.map fun t => t.trivia ++ t.text) ++ (tokenAt tokens closer).trivia
  .ok (Text.dropBlanks written, cursor)

/--
The type or size of a type, as a literal.
-/
def typeLiteral (kind : LiteralKind) : Parser Node := do
  let first ← here
  let _ ← advance
  if ← atPunct ["("] then
    let opener ← here
    match ← closing? opener with
    | none => mismatch
    | some closer =>
      let value ← spellingBetween opener closer
      seek (closer + 1)
      node (.literal kind value) first []
  else mismatch

/--
Passes over a group in parentheses, if one stands at the cursor.
-/
def skipParentheses : Parser Unit := do
  if ← atPunct ["("] then skipGroup

/--
An expression that creates an object or an array.
-/
def objectCreation (g : Grammar) : Parser Node := do
  let first ← here
  let _ ← advance
  let (typeName, arguments) ← do
    if ← atPunct ["("] then
      pure (none, (← argumentList g ")").1)
    else if ← atPunct ["["] then
      skipGroup
      pure (none, [])
    else if ← atPunct ["\x7b"] then pure (none, [])
    else
      let type ← typeUse false false
      let arguments ← do
        if ← atPunct ["["] then
          let (sizes, _) ← argumentList g "]"
          let _ ← manyWhile (·.isPunct ["["]) skipGroup
          pure sizes
        else if ← atPunct ["("] then
          pure (← argumentList g ")").1
        else pure []
      pure (some type.text, arguments)
  let items ← do
    if ← atPunct ["\x7b"] then contents g else pure []
  node (.objectCreation typeName arguments.length) first (arguments ++ items)

/--
A condition in parentheses.
-/
def condition (g : Grammar) : Parser Node := do
  let _ ← require ["("]
  let expression ← g.expression
  let _ ← expect ")"
  return expression

/--
A literal of one token.
-/
def literal (kind : LiteralKind) : Parser Node := do
  let first ← here
  let token ← advance
  node (.literal kind token.text) first []

/--
The kind of the literal that a token is.
-/
def literalKind? (token : Token) : Option LiteralKind :=
  match token.kind with
  | .number => some .number
  | .string => some .string
  | .char => some .char
  | .keyword =>
    if token.text = "true" ∨ token.text = "false" then some .bool
    else if token.text = "null" then some .null
    else none
  | _ => none

/--
An expression in parentheses or brackets, or several.
-/
def group (g : Grammar) : Parser Node := do
  let first ← here
  if ← atPunct ["("] then
    let (items, _) ← argumentList g ")"
    match items with
    | [] => mismatch
    | [item] => node (.paren .single) first [item]
    | items => node (.paren .tuple) first items
  else if ← atPunct ["["] then
    let (items, _) ← argumentList g "]"
    node (.paren .contents) first items
  else mismatch

/--
A name with its type arguments.
-/
def nameExpression : Parser Node := do
  let first ← here
  let token ← advance
  if token.isIdentifier then
    let typeArguments ← typeArguments?
    node (.identifier token.identifierName (.name typeArguments)) first []
  else node (.identifier token.text (.name none)) first []

/--
An expression that no operator takes apart.
-/
def primary (g : Grammar) : Parser Node := do
  let first ← here
  let token ← current
  if ← atLambda then lambda g
  else
    match literalKind? token with
    | some kind => literal kind
    | none =>
      if token.isKeyword ["default"] then
        let _ ← advance
        skipParentheses
        node (.literal .default "default") first []
      else if token.isKeyword ["typeof"] then typeLiteral .typeOf
      else if token.isKeyword ["sizeof"] then typeLiteral .sizeOf
      else if token.isKeyword ["new"] then objectCreation g
      else if token.isKeyword ["this", "base"] || isPredefinedType token || token.isIdentifier then
        nameExpression
      else if token.isKeyword ["checked", "unchecked"] then
        let _ ← advance
        let inner ← condition g
        node (.paren .single) first [inner]
      else group g

/-! ### Behind an expression -/

/--
The texts that may follow the operator that takes an operand for not null.
-/
def nullForgivingFollowers : List String :=
  [".", "?.", ")", ";", ",", "]", "\x7d", "[", "??", ":", "="]

/--
What an expression and the tokens behind it make together, if anything: a member, a call, an
element, or an operation on it.
-/
def behind? (g : Grammar) (first : Nat) (inner : Node) : Parser (Option Node) := do
  let token ← current
  let next ← peek 1
  if token.isPunct [".", "?.", "::"] then
    let _ ← advance
    if token.text == "?." && next.isPunct ["["] then
      let (indices, _) ← argumentList g "]"
      return some (← node (.elementAccess true) first (inner :: indices))
    else
      let name ← identifier
      let typeArguments ← typeArguments?
      return some (← node
        (.memberAccess name.identifierName name.extent (token.text == "?.") typeArguments) first
        [inner])
  else if token.isPunct ["("] then
    let (arguments, _) ← argumentList g ")"
    return some (← node .callExpr first (inner :: arguments))
  else if token.isPunct ["["] then
    let (indices, _) ← argumentList g "]"
    return some (← node (.elementAccess false) first (inner :: indices))
  else if token.isPunct ["++", "--"] ||
      (token.isPunct ["!"] && (next.isEnd || nullForgivingFollowers.contains next.text)) then
    let _ ← advance
    return some (← node (.unary token.text false) first [inner])
  else if (token.isKeyword ["switch"] || token.isWord ["with"]) && next.isPunct ["\x7b"] then
    let _ ← advance
    skipGroup
    return some (← node (.unary token.text false) first [inner])
  else return none

/--
An expression with all that stands behind it and belongs to it.
-/
def withBehind (g : Grammar) (first : Nat) (inner : Node) : Parser Node :=
  loop (fun inner : Node => do
    match ← behind? g first inner with
    | some outer => return .more outer
    | none => return .done inner) inner

/-! ### In front of an expression -/

/--
The operators in front of an operand.
-/
def frontOperators : List String :=
  ["!", "-", "+", "~", "++", "--", "&", "*", "^"]

/--
The keywords with which no operand begins.
-/
def noOperand : List String :=
  ["is", "as", "in", "out", "ref", "switch", "when"]

/--
Whether a token is one with which an operand begins for sure: an identifier, a literal, or a keyword
other than those that stand behind or between operands.
-/
def beginsOperand (token : Token) : Bool :=
  token.isIdentifier || token.isLiteral ||
    (token.kind == .keyword && !noOperand.contains token.text)

/--
Whether a parenthesis at the cursor opens a cast: there is a type inside, and behind it begins an
operand that cannot be anything else.
-/
def atCast : Parser Bool := do
  if ← atPunct ["("] then
    let cursor ← here
    match ← closing? cursor with
    | none => return false
    | some closer =>
      let typed ← lookahead do
        seek (cursor + 1)
        match ← attempt anyType with
        | some _ => return (← here) == closer
        | none => return false
      if typed then
        let after ← tokenNumber (closer + 1)
        let inner ← tokenNumber (cursor + 1)
        return beginsOperand after || after.isPunct ["(", "!", "~"] ||
          (isPredefinedType inner && after.isPunct ["-", "+"])
      else return false
  else return false

/--
An expression with the operators in front of it and behind it.
-/
def operand (g : Grammar) : Parser Node := do
  let first ← here
  let token ← current
  if token.isPunct frontOperators then
    let _ ← advance
    let inner ← g.operand
    node (.unary token.text true) first [inner]
  else if token.isWord ["await"] && startsAwaited (← peek 1) then
    let _ ← advance
    let inner ← g.operand
    node .await first [inner]
  else if token.isKeyword ["throw"] then
    let _ ← advance
    let inner ← g.expression
    node (.unary "throw" true) first [inner]
  else if ← atCast then
    let _ ← advance
    let type ← anyType
    let _ ← expect ")"
    let inner ← g.operand
    node (.cast type.text) first [inner]
  else
    withBehind g first (← primary g)
where
  startsAwaited (token : Token) : Bool :=
    beginsOperand token || token.isPunct ["(", "!", "["]

/-! ### Patterns -/

/--
A pattern without its designation.
-/
def plainPattern (g : Grammar) : Parser Node := do
  let first ← here
  let token ← current
  if (literalKind? token).isSome then primary g
  else if token.isPunct ["\x7b", "("] then
    skipGroup
    node (.identifier (token.text ++ token.closer?.getD "") .parts) first []
  else if token.isPunct ["<", ">", "<=", ">="] then
    let _ ← advance
    g.operand
  else
    let type ← typeUse false true
    node (.identifier type.text .typeTest) first []

/--
A pattern. It may have a designation, and others may follow that are read and dropped.
-/
def pattern (g : Grammar) (designated : Bool) : Parser Node := do
  let plain ← plainPattern g
  if ← atPunct ["\x7b"] then skipGroup
  let token ← current
  let whole ← do
    if designated && token.isIdentifier && !token.isWord ["and", "or", "when"] then
      let _ ← advance
      pure { plain with designation := some token.identifierName }
    else pure plain
  loop (fun _ : Unit => do
    if ← atWord ["and", "or"] then
      let _ ← advance
      if ← atWord ["not"] then
        let _ ← advance
      let _ ← g.pattern designated
      return .more ()
    else return .done ()) ()
  return whole

/-! ### Operators between operands -/

/--
The precedence of an operator between two operands. A higher one binds its operands first.
-/
def precedence? (op : String) : Option Nat :=
  [("??", 1), ("||", 2), ("&&", 3), ("|", 4), ("^", 5), ("&", 6), ("==", 7), ("!=", 7), ("<", 8),
   (">", 8), ("<=", 8), (">=", 8), ("is", 8), ("as", 8), ("<<", 9), (">>", 9), ("+", 10), ("-", 10),
   ("*", 11), ("/", 11), ("%", 11)].lookup op

/--
The operator at the cursor and the number of its tokens. Two angle brackets that touch are one
operator.
-/
def operator? : Parser (Option (String × Nat)) := do
  let token ← current
  let next ← peek 1
  if token.isKeyword ["is", "as"] then return some (token.text, 1)
  else if token.isPunct [">"] && next.isPunct [">"] && next.start == token.stop then
    return some (">>", 2)
  else if token.kind == .punct && (precedence? token.text).isSome then return some (token.text, 1)
  else return none

/--
Operands with operators of at least some precedence between them. Operators of one precedence group
to the left, but `??` groups to the right.
-/
def operation (g : Grammar) (least : Nat) : Parser Node := do
  let first ← here
  let left ← operand g
  loop (fun left : Node => do
    match ← operator? with
    | none => return .done left
    | some (op, width) =>
      let rank := (precedence? op).getD 0
      if rank < least then return .done left
      else
        let cursor ← here
        seek (cursor + width)
        if op == "is" || op == "as" then
          let negated ← do
            if op == "is" && (← atWord ["not"]) then
              let _ ← advance
              pure true
            else pure false
          let right ← pattern g (op == "is")
          return .more (← node (.typeTest op negated right.designation) first [left, right])
        else
          let right ← g.operation (if op == "??" then rank else rank + 1)
          return .more (← node (.binary op) first [left, right])) left

/--
A conditional expression, or what may stand in one in front of the question mark.
-/
def conditional (g : Grammar) : Parser Node := do
  let first ← here
  let test ← operation g 0
  if ← accept "?" then
    let whenTrue ← g.expression
    let _ ← require [":"]
    let whenFalse ← g.expression
    node .conditional first [test, whenTrue, whenFalse]
  else return test

/--
The operators that assign.
-/
def assignmentOperators : List String :=
  ["=", "+=", "-=", "*=", "/=", "%=", "&=", "|=", "^=", "<<=", "??="]

/--
An expression.
-/
def expression (g : Grammar) : Parser Node := do
  let first ← here
  let left ← conditional g
  let token ← current
  if token.isPunct assignmentOperators then
    let _ ← advance
    let value ← initialValue g
    node (.assignment token.text) first [left, value]
  else return left

end ThreadLint.Parser
