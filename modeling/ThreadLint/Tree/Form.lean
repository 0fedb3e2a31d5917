import ThreadLint.Span

/-!
This module contains the constructs of the source language: their kinds, and for each construct what
a syntax tree records of it besides its parts.
-/

namespace ThreadLint

/--
The kinds of nodes of a syntax tree.
-/
inductive NodeKind where
  | compilationUnit
  | usingDirective
  | namespaceDecl
  | classDecl
  | methodDecl
  | propertyDecl
  | fieldDecl
  | parameter
  | attributeUse
  | block
  | localDecl
  | variableDeclarator
  | ifStmt
  | returnStmt
  | exprStmt
  | loopStmt
  | tryStmt
  | usingStmt
  | otherStmt
  | callExpr
  | memberAccess
  | identifier
  | literal
  | assignment
  | binary
  | unary
  | await
  | objectCreation
  | lambda
  | conditional
  | paren
  | cast
  | elementAccess
  deriving DecidableEq, Repr, Inhabited

namespace NodeKind

/--
All kinds of nodes.
-/
def all : List NodeKind :=
  [compilationUnit, usingDirective, namespaceDecl, classDecl, methodDecl, propertyDecl, fieldDecl,
   parameter, attributeUse, block, localDecl, variableDeclarator, ifStmt, returnStmt, exprStmt,
   loopStmt, tryStmt, usingStmt, otherStmt, callExpr, memberAccess, identifier, literal, assignment,
   binary, unary, await, objectCreation, lambda, conditional, paren, cast, elementAccess]

/--
The word for a kind of node.
-/
def name : NodeKind → String
  | compilationUnit => "CompilationUnit"
  | usingDirective => "UsingDirective"
  | namespaceDecl => "NamespaceDecl"
  | classDecl => "ClassDecl"
  | methodDecl => "MethodDecl"
  | propertyDecl => "PropertyDecl"
  | fieldDecl => "FieldDecl"
  | parameter => "Parameter"
  | attributeUse => "Attribute"
  | block => "Block"
  | localDecl => "LocalDecl"
  | variableDeclarator => "VariableDeclarator"
  | ifStmt => "IfStmt"
  | returnStmt => "ReturnStmt"
  | exprStmt => "ExprStmt"
  | loopStmt => "LoopStmt"
  | tryStmt => "TryStmt"
  | usingStmt => "UsingStmt"
  | otherStmt => "OtherStmt"
  | callExpr => "CallExpr"
  | memberAccess => "MemberAccess"
  | identifier => "Identifier"
  | literal => "Literal"
  | assignment => "Assignment"
  | binary => "Binary"
  | unary => "Unary"
  | await => "Await"
  | objectCreation => "ObjectCreation"
  | lambda => "Lambda"
  | conditional => "Conditional"
  | paren => "Paren"
  | cast => "Cast"
  | elementAccess => "ElementAccess"

/--
The kinds of nodes whose code runs when they are called.
-/
def isFunction : NodeKind → Bool
  | methodDecl | lambda | propertyDecl => true
  | _ => false

end NodeKind

/--
The head of a type declaration. Every base has the extent in which it is written.
-/
structure TypeHead where
  name : String
  nameExtent : Extent
  keyword : String
  modifiers : List String
  bases : List (String × Extent)
  deriving DecidableEq, Repr, Inhabited

/--
The head of a method, constructor or local function. A constructor has no return type.
-/
structure MethodHead where
  name : String
  nameExtent : Extent
  modifiers : List String
  returnType : Option (String × Extent)
  isConstructor : Bool
  isLocal : Bool
  hasBody : Bool
  deriving DecidableEq, Repr, Inhabited

/--
What a declaration of locals is: a statement, a resource that is freed at the end of the block, or
the variable of a loop.
-/
inductive LocalRole where
  | statement
  | resource
  | loopVariable
  deriving DecidableEq, Repr, Inhabited

/--
What an identifier stands for: a name with its type arguments, the parts that a pattern takes a
value into, a type that a pattern asks for, or a variable that is declared by its mention.
-/
inductive IdentifierRole where
  | name (typeArguments : Option (List String))
  | parts
  | typeTest
  | declaration (typeName : String)
  deriving DecidableEq, Repr, Inhabited

/--
The kinds of literals.
-/
inductive LiteralKind where
  | number
  | string
  | char
  | bool
  | null
  | default
  | typeOf
  | sizeOf
  deriving DecidableEq, Repr, Inhabited

/--
The word for a kind of literal.
-/
def LiteralKind.name : LiteralKind → String
  | number => "number"
  | string => "string"
  | char => "char"
  | bool => "bool"
  | null => "null"
  | default => "default"
  | typeOf => "typeof"
  | sizeOf => "sizeof"

/--
What parentheses, brackets or braces around expressions stand for: one expression, a tuple of
several, or the contents of a collection.
-/
inductive ParenRole where
  | single
  | tuple
  | contents
  deriving DecidableEq, Repr, Inhabited

/--
What a node records of its construct besides its parts.
-/
inductive Form where
  | compilationUnit
  | usingDirective (name : String) (alias? : Option String) (isStatic : Bool)
  | namespaceDecl (name : String) (fileScoped : Bool)
  | classDecl (head : TypeHead)
  | methodDecl (head : MethodHead)
  | propertyDecl (name typeName : String) (modifiers : List String) (isEvent : Bool)
  | fieldDecl (typeName : String) (modifiers : List String) (isEvent : Bool)
  | parameter (name typeName : String)
  | attributeUse (name : String) (nameStop : Nat) (closeParen : Option Nat)
  | block
  | localDecl (typeName : String) (modifiers : List String) (role : LocalRole)
  | variableDeclarator (name : String) (nameExtent : Extent)
  | ifStmt
  | returnStmt
  | exprStmt
  | loopStmt (keyword : String)
  | tryStmt
  | usingStmt
  | otherStmt (keyword : String)
  | callExpr
  | memberAccess (name : String) (nameExtent : Extent) (isConditional : Bool)
      (typeArguments : Option (List String))
  | identifier (name : String) (role : IdentifierRole)
  | literal (kind : LiteralKind) (value : String)
  | assignment (op : String)
  | binary (op : String)
  | typeTest (op : String) (negated : Bool) (designation : Option String)
  | unary (op : String) (inFront : Bool)
  | await
  | objectCreation (typeName : Option String) (argumentCount : Nat)
  | lambda (parameters : List String) (isAsync : Bool)
  | conditional
  | paren (role : ParenRole)
  | cast (typeName : String)
  | elementAccess (isConditional : Bool)
  deriving DecidableEq, Repr, Inhabited

namespace Form

/--
The kind of node that a form belongs to.
-/
def kind : Form → NodeKind
  | compilationUnit => .compilationUnit
  | usingDirective .. => .usingDirective
  | namespaceDecl .. => .namespaceDecl
  | classDecl _ => .classDecl
  | methodDecl _ => .methodDecl
  | propertyDecl .. => .propertyDecl
  | fieldDecl .. => .fieldDecl
  | parameter .. => .parameter
  | attributeUse .. => .attributeUse
  | block => .block
  | localDecl .. => .localDecl
  | variableDeclarator .. => .variableDeclarator
  | ifStmt => .ifStmt
  | returnStmt => .returnStmt
  | exprStmt => .exprStmt
  | loopStmt _ => .loopStmt
  | tryStmt => .tryStmt
  | usingStmt => .usingStmt
  | otherStmt _ => .otherStmt
  | callExpr => .callExpr
  | memberAccess .. => .memberAccess
  | identifier .. => .identifier
  | literal .. => .literal
  | assignment _ => .assignment
  | binary _ => .binary
  | typeTest .. => .binary
  | unary .. => .unary
  | await => .await
  | objectCreation .. => .objectCreation
  | lambda .. => .lambda
  | conditional => .conditional
  | paren _ => .paren
  | cast _ => .cast
  | elementAccess _ => .elementAccess

/--
The name that a construct declares or mentions.
-/
def name? : Form → Option String
  | usingDirective name .. | namespaceDecl name _ | propertyDecl name .. | parameter name _
  | attributeUse name .. | variableDeclarator name _ | memberAccess name .. | identifier name _ =>
    some name
  | classDecl head => some head.name
  | methodDecl head => some head.name
  | _ => none

/--
Where the name of a construct is written, for those constructs that record it.
-/
def nameExtent? : Form → Option Extent
  | classDecl head => some head.nameExtent
  | methodDecl head => some head.nameExtent
  | variableDeclarator _ extent => some extent
  | memberAccess _ extent .. => some extent
  | _ => none

/--
Where the types that a declaration mentions are written, for those that it records.
-/
def typeExtents : Form → List Extent
  | classDecl head => head.bases.map Prod.snd
  | methodDecl head => head.returnType.toList.map Prod.snd
  | _ => []

/--
The modifiers of a declaration.
-/
def modifiers : Form → List String
  | classDecl head => head.modifiers
  | methodDecl head => head.modifiers
  | propertyDecl _ _ modifiers _ | fieldDecl _ modifiers _ | localDecl _ modifiers _ => modifiers
  | _ => []

/--
The operator of an expression that has one.
-/
def operator? : Form → Option String
  | assignment op | binary op | typeTest op .. | unary op _ => some op
  | _ => none

end Form

end ThreadLint
