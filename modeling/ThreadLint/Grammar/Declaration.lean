import ThreadLint.Grammar.Statement

/-!
This module contains declarations: using directives, namespaces, types and the members of types.
-/

namespace ThreadLint.Parser

/--
A using directive, at its keyword.
-/
def usingDirective (first : Nat) : Parser Node := do
  let _ ← advance
  let isStatic ← atKeyword ["static"]
  if isStatic then
    let _ ← advance
  let alias? ← do
    if (← current).isIdentifier && (← peek 1).isPunct ["="] then
      let name ← advance
      let _ ← advance
      pure (some name.identifierName)
    else pure none
  let name ← anyType
  let _ ← expect ";"
  node (.usingDirective name.text alias? isStatic) first []

/--
A namespace, for the rest of the file or in braces.
-/
def namespaceDeclaration (g : Grammar) (first : Nat) : Parser Node := do
  let _ ← advance
  let name ← typeUse false false
  if ← accept ";" then
    let members ← g.members none
    node (.namespaceDecl name.text true) first members
  else
    let _ ← require ["\x7b"]
    let members ← g.members none
    let _ ← expect "\x7d"
    node (.namespaceDecl name.text false) first members

/--
The bases of a type, if it has any.
-/
def baseList : Parser (List (String × Extent)) := do
  if ← accept ":" then
    commaListOf do
      let base ← typeUse false true
      skipParentheses
      return (base.text, base.extent)
  else return []
where
  /-- Items with commas between them, one at least. -/
  commaListOf (item : Parser (String × Extent)) : Parser (List (String × Extent)) :=
    loop (fun found : List (String × Extent) => do
      let found := (← item) :: found
      if ← accept "," then return .more found else return .done found.reverse) []

/--
The members of a type behind its head. Those of an enumeration are passed over.
-/
def typeMembers (g : Grammar) (keyword name : String) : Parser (List Node) := do
  if keyword == "enum" then
    if ← atPunct ["\x7b"] then skipGroup
    return []
  else if ← accept "\x7b" then
    let members ← g.members (some name)
    let _ ← expect "\x7d"
    return members
  else
    let _ ← expect ";"
    return []

/--
A type, from the keyword of its declaration on.
-/
def typeDeclaration (g : Grammar) (first : Nat) (attributes : List Node)
    (modifiers : List String) : Parser Node := do
  let keyword ← advance
  if keyword.text == "record" && (← atKeyword ["class", "struct"]) then
    let _ ← advance
  let name ← identifier
  skipTypeParameters
  if ← atPunct ["("] then
    let _ ← parameterList g ")"
  let bases ← baseList
  skipConstraints
  let members ← typeMembers g keyword.text name.identifierName
  let _ ← accept ";"
  node (.classDecl
      { name := name.identifierName
        nameExtent := name.extent
        keyword := keyword.text
        modifiers := modifiers
        bases := bases }) first (attributes ++ members)

/--
The accessors of a property or event, in braces, as the list of their bodies.
-/
def accessors (g : Grammar) : Parser (List Node) := do
  let _ ← require ["\x7b"]
  let bodies ← manyWhile (isBefore "\x7d") do
    let _ ← attributeLists g
    let _ ← manyWhile
      (·.isKeyword ["private", "protected", "internal", "public", "readonly"]) advance
    if ← atWord ["get", "set", "init", "add", "remove"] then
      let _ ← advance
      return (← body g).toList
    else mismatch
  let _ ← expect "\x7d"
  return bodies.flatten

/--
A property, an indexer or an event with accessors, behind its name.
-/
def property (g : Grammar) (first : Nat) (attributes : List Node) (form : Form) : Parser Node := do
  if ← atPunct ["["] then
    let _ ← parameterList g "]"
  let parts ← do
    if ← accept "=>" then
      let value ← g.expression
      let _ ← expect ";"
      pure [value]
    else
      let bodies ← accessors g
      let initial ← do
        if ← accept "=" then
          let value ← initialValue g
          let _ ← expect ";"
          pure [value]
        else pure []
      pure (bodies ++ initial)
  node form first (attributes ++ parts)

/--
A field or an event without accessors, behind the first name, which stands at an index.
-/
def field (g : Grammar) (first : Nat) (attributes : List Node) (form : Form) (nameIndex : Nat) :
    Parser Node := do
  let declared ← declarators g nameIndex
  let _ ← expect ";"
  node form first (attributes ++ declared)

/--
An event, at its keyword.
-/
def event (g : Grammar) (first : Nat) (attributes : List Node) (modifiers : List String) :
    Parser Node := do
  let _ ← advance
  let type ← anyType
  let nameIndex ← here
  let name ← identifier
  if ← atPunct ["\x7b"] then
    property g first attributes (.propertyDecl name.identifierName type.text modifiers true)
  else field g first attributes (.fieldDecl type.text modifiers true) nameIndex

/--
The index of the last segment of a dotted name, whose first segment was just taken and stands at an
index.
-/
def lastNameIndex (nameIndex : Nat) : Parser Nat :=
  loop (fun nameIndex : Nat => do
    if (← atPunct ["."]) && (← peek 1).isIdentifier then
      let _ ← advance
      let _ ← advance
      return .more ((← here) - 1)
    else return .done nameIndex) nameIndex

/--
A method, property or field, at its type.
-/
def typedMember (g : Grammar) (first : Nat) (attributes : List Node) (modifiers : List String) :
    Parser Node := do
  let type ← anyType
  if ← atKeyword ["operator"] then mismatch
  else if (← atKeyword ["this"]) && (← peek 1).isPunct ["["] then
    let _ ← advance
    property g first attributes (.propertyDecl "this" type.text modifiers false)
  else
    let start ← here
    let _ ← identifier
    let nameIndex ← lastNameIndex start
    let name ← tokenNumber nameIndex
    if ← atPunct ["(", "<"] then
      method g first attributes
        { name := name.identifierName
          nameExtent := name.extent
          modifiers := modifiers
          returnType := some (type.text, type.extent)
          isConstructor := false
          isLocal := false
          hasBody := false }
    else if ← atPunct ["\x7b", "=>"] then
      property g first attributes (.propertyDecl name.identifierName type.text modifiers false)
    else field g first attributes (.fieldDecl type.text modifiers false) nameIndex

/--
A constructor, at its name.
-/
def constructorDeclaration (g : Grammar) (first : Nat) (attributes : List Node)
    (modifiers : List String) : Parser Node := do
  let name ← advance
  method g first attributes
    { name := name.identifierName
      nameExtent := name.extent
      modifiers := modifiers
      returnType := none
      isConstructor := true
      isLocal := false
      hasBody := false }

/--
A member behind its attributes and modifiers. Outside of types, only types are members.
-/
def declaration (g : Grammar) (owner : Option String) (first : Nat) (attributes : List Node)
    (modifiers : List String) : Parser Node := do
  let token ← current
  let next ← peek 1
  if token.isKeyword ["class", "struct", "interface", "enum"] ||
      (token.isWord ["record"] && (next.isIdentifier || next.isKeyword ["class", "struct"])) then
    typeDeclaration g first attributes modifiers
  else if owner.isNone || token.isKeyword ["delegate", "implicit", "explicit"] then mismatch
  else if token.isKeyword ["event"] then event g first attributes modifiers
  else if token.isIdentifier && owner == some token.text && next.isPunct ["("] then
    constructorDeclaration g first attributes modifiers
  else typedMember g first attributes modifiers

/--
A member of a type, or of a namespace if there is no type. A semicolon alone is none.
-/
def member (g : Grammar) (owner : Option String) : Parser (Option Node) := do
  let first ← here
  let token ← current
  if token.isPunct [";"] then
    let _ ← advance
    return none
  else if owner.isNone && token.isKeyword ["using"] then return some (← usingDirective first)
  else if owner.isNone && token.isWord ["global"] && (← peek 1).isKeyword ["using"] then
    let _ ← advance
    return some (← usingDirective first)
  else if owner.isNone && token.isKeyword ["namespace"] then
    return some (← namespaceDeclaration g first)
  else
    let attributes ← attributeLists g
    let modifiers ← modifiers
    return some (← declaration g owner first attributes modifiers)

/--
The members of a type, or of a namespace if there is no type. A member that is not understood is
passed over. Attributes of the whole file, which have a target in front, stand among the members of
namespaces and must be understood.
-/
def members (g : Grammar) (owner : Option String) : Parser (List Node) := do
  let groups ← manyWhile (isBefore "\x7d") do
    if owner.isNone && (← atPunct ["["]) && (← peek 2).isPunct [":"] then attributeLists g
    else
      let first ← here
      match ← attempt (member g owner) with
      | some found => return found.toList
      | none => return [← skipConstruct first "member"]
  return groups.flatten

end ThreadLint.Parser
