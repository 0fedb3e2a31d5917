import ThreadLint.Grammar.Entry

/-!
This module contains what stands in the heads of declarations: attributes, modifiers and parameters.
-/

namespace ThreadLint.Parser

/--
The keywords that modify members.
-/
def memberModifiers : List String :=
  ["public", "private", "protected", "internal", "static", "readonly", "virtual", "override",
   "abstract", "sealed", "extern", "unsafe", "new", "const", "volatile"]

/--
The identifiers that modify members if another word follows.
-/
def contextualModifiers : List String :=
  ["async", "partial", "required", "file"]

/--
Whether a token is an identifier or a keyword.
-/
def isWordToken (token : Token) : Bool :=
  token.kind == .identifier || token.kind == .keyword

/--
An attribute with its arguments.
-/
def attributeUse (g : Grammar) : Parser Node := do
  let first ← here
  let name ← typeUse false false
  let (arguments, closer) ← do
    if ← atPunct ["("] then argumentList g ")" else pure ([], none)
  node (.attributeUse name.text name.extent.stop (closer.map Token.start)) first arguments

/--
The attributes of a declaration: lists in brackets, each one with or without a target in front.
-/
def attributeLists (g : Grammar) : Parser (List Node) := do
  let lists ← manyWhile (·.isPunct ["["]) do
    let _ ← advance
    if isWordToken (← current) && (← peek 1).isPunct [":"] then
      let _ ← advance
      let _ ← advance
    let attributes ← commaList (isBefore "]") (attributeUse g)
    let _ ← expect "]"
    return attributes
  return lists.flatten

/--
The modifiers of a declaration.
-/
def modifiers : Parser (List String) :=
  loop (fun found : List String => do
    let token ← current
    let isContextual := token.isIdentifier && contextualModifiers.contains token.text
    if token.isKeyword memberModifiers || (isContextual && isWordToken (← peek 1)) then
      let _ ← advance
      return .more (token.text :: found)
    else return .done found.reverse) []

/--
A parameter. Its attributes are read and dropped.
-/
def parameter (g : Grammar) : Parser Node := do
  let first ← here
  let _ ← attributeLists g
  let _ ← manyWhile (·.isKeyword ["this", "ref", "out", "in", "params"]) advance
  let type ← anyType
  let name ← identifier
  let initial ← do
    if ← accept "=" then pure [← g.expression] else pure []
  node (.parameter name.identifierName type.text) first initial

/--
The parameters between brackets.
-/
def parameterList (g : Grammar) (closer : String) : Parser (List Node) := do
  let _ ← advance
  let parameters ← commaList (isBefore closer) (parameter g)
  let _ ← expect closer
  return parameters

end ThreadLint.Parser
