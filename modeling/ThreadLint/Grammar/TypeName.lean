import ThreadLint.Grammar.Parser

/-!
This module contains the mention of types: names with type arguments, tuples, arrays and nullable
types.
-/

namespace ThreadLint

/--
The mention of a type: its spelling without white space, and where it is written.
-/
structure TypeUse where
  text : String
  extent : Extent
  deriving DecidableEq, Repr, Inhabited

namespace Parser

/--
The types that are written by a keyword.
-/
def predefinedTypes : List String :=
  ["bool", "byte", "char", "decimal", "double", "float", "int", "long", "object", "sbyte", "short",
   "string", "uint", "ulong", "ushort", "void"]

/--
Whether a token is the keyword of a type.
-/
def isPredefinedType (token : Token) : Bool :=
  token.isKeyword predefinedTypes

/--
The marks that may stand behind the type arguments of a name in an expression. In front of anything
else the angle brackets are operators.
-/
def typeArgumentFollowers : List String :=
  ["(", ")", "]", "\x7d", ":", ";", ",", ".", "?.", "?", "==", "!=", "|", "^", "&&", "||", "&", "["]

/--
The types between angle brackets. A place between two commas may be empty.
-/
def typeArgumentList (type : Parser TypeUse) : Parser (List String) := do
  let _ ← advance
  let arguments ← loop (fun found : List String => do
    let found ←
      if ← atPunct [",", ">"] then pure found
      else do
        let argument ← type
        pure (argument.text :: found)
    if ← accept "," then return .more found else return .done found.reverse) []
  let _ ← require [">"]
  return arguments

/--
The type arguments of the segment of a name that was just taken, if there are any.
-/
def skipTypeArguments (type : Parser TypeUse) : Parser Unit := do
  if ← atPunct ["<"] then
    let _ ← typeArgumentList type

/--
A type, given how the types inside it are read. Question marks and array brackets belong to it only
where that is asked for.
-/
def typeWith (inner : Parser TypeUse) (nullable arrays : Bool) : Parser TypeUse := do
  let first ← here
  let token ← current
  if token.isPunct ["("] then
    match ← closing? first with
    | some closer => seek (closer + 1)
    | none => mismatch
  else if token.isIdentifier || isPredefinedType token then
    let _ ← advance
    skipTypeArguments inner
    loop (fun _ : Unit => do
      if (← atPunct [".", "::"]) && (← peek 1).isIdentifier then
        let _ ← advance
        let _ ← advance
        skipTypeArguments inner
        return .more ()
      else return .done ()) ()
  else mismatch
  loop (fun _ : Unit => do
    if nullable && (← atPunct ["?"]) then
      let _ ← advance
      return .more ()
    else if arrays && (← atPunct ["["]) && (← peek 1).isPunct ["]", ","] then
      skipGroup
      return .more ()
    else return .done ()) ()
  let text ← spelling first (← here)
  return ⟨text, ⟨token.start, ← lastStop⟩⟩

/--
A type with so many levels of types inside it at most.
-/
def typeAtDepth : Nat → Bool → Bool → Parser TypeUse
  | 0, _, _ => exhausted
  | depth + 1, nullable, arrays => typeWith (typeAtDepth depth true true) nullable arrays

/--
A type, with or without question marks and array brackets behind it. Every level of types inside it
takes an angle bracket, so there are no more levels than tokens are left.
-/
def typeUse (nullable arrays : Bool) : Parser TypeUse := fun tokens cursor =>
  typeAtDepth (tokens.size - cursor + 1) nullable arrays tokens cursor

/--
A type in its longest form.
-/
def anyType : Parser TypeUse :=
  typeUse true true

/--
The type arguments of a name in an expression, if angle brackets stand at the cursor that cannot be
operators.
-/
def typeArguments? : Parser (Option (List String)) := do
  if ← atPunct ["<"] then
    attempt do
      let arguments ← typeArgumentList anyType
      let next ← current
      if next.isEnd || next.isPunct typeArgumentFollowers then return arguments else mismatch
  else return none

end Parser

end ThreadLint
