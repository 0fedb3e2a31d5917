import ThreadLint.Fault
import ThreadLint.Text.Letter

/-!
This module contains the templates of messages: text with fields in braces, which are replaced by
the values of a finding. A brace that is text is written twice.
-/

namespace ThreadLint

/--
A field of a template: the name of the value that it stands for, the form in which the value is
taken, and the layout in which it is written. The layout may have fields of its own.
-/
structure TemplateField where
  name : String
  conversion : Option Char
  layout : String
  deriving DecidableEq, Repr, Inhabited

/--
A piece of a template.
-/
inductive TemplatePiece where
  | literal (text : String)
  | field (field : TemplateField)
  deriving DecidableEq, Repr, Inhabited

/--
A template, read into its pieces.
-/
abbrev Template := List TemplatePiece

namespace Template

/--
Whether a character is a brace.
-/
def isBrace (c : Char) : Bool :=
  c == '\x7b' || c == '\x7d'

/--
The number of characters of the name of a field, which ends in front of a closing brace, a colon or
an exclamation mark. These have no meaning inside brackets.
-/
def nameLength (isBracketed : Bool) : List Char → Except TemplateProblem Nat
  | [] => .error .missingClosing
  | c :: rest =>
    if isBracketed then do
      return (← nameLength (c != ']') rest) + 1
    else if c == '\x7b' then .error .nestedOpening
    else if c == '\x7d' || c == ':' || c == '!' then .ok 0
    else do
      return (← nameLength (c == '[') rest) + 1

/--
The number of characters of the layout of a field, which ends in front of the closing brace. The
depth is the number of fields inside the layout that are open.
-/
def layoutLength (depth : Nat) : List Char → Except TemplateProblem Nat
  | [] => .error .unmatchedOpening
  | c :: rest =>
    if c == '\x7b' then do
      return (← layoutLength (depth + 1) rest) + 1
    else if c == '\x7d' then
      match depth with
      | 0 => .ok 0
      | depth + 1 => do
        return (← layoutLength depth rest) + 1
    else do
      return (← layoutLength depth rest) + 1

/--
The field behind an opening brace, and its number of characters with the closing brace.
-/
def fieldOf (cs : List Char) : Except TemplateProblem (TemplateField × Nat) := do
  let length ← nameLength false cs
  let name := String.ofList (cs.take length)
  match cs.drop length with
  | '!' :: [] => throw .endInConversion
  | '!' :: conversion :: '\x7d' :: _ => return (⟨name, some conversion, ""⟩, length + 3)
  | '!' :: conversion :: ':' :: rest => withLayout name (some conversion) (length + 3) rest
  | '!' :: _ :: [] => throw .unmatchedOpening
  | '!' :: _ => throw .textAfterConversion
  | ':' :: rest => withLayout name none (length + 1) rest
  | _ => return (⟨name, none, ""⟩, length + 1)
where
  withLayout (name : String) (conversion : Option Char) (front : Nat) (rest : List Char) :
      Except TemplateProblem (TemplateField × Nat) := do
    let length ← layoutLength 0 rest
    return (⟨name, conversion, String.ofList (rest.take length)⟩, front + length + 1)

/--
The template that is written as some text.
-/
def ofChars (cs : List Char) : Except TemplateProblem Template :=
  let literal := cs.takeWhile fun c => !isBrace c
  let front (ending : List Char) : TemplatePiece := .literal (String.ofList (literal ++ ending))
  match h : cs.drop literal.length with
  | [] => .ok (if literal.isEmpty then [] else [front []])
  | [brace] => .error (if brace == '\x7b' then .loneOpening else .loneClosing)
  | brace :: next :: rest => do
    have _length := congrArg List.length h
    if next == brace then return front [brace] :: (← ofChars rest)
    else if brace == '\x7d' then throw .loneClosing
    else
      let (field, length) ← fieldOf (next :: rest)
      return front [] :: .field field :: (← ofChars ((next :: rest).drop length))
termination_by cs.length
decreasing_by all_goals simp only [List.length_drop, List.length_cons] at *; omega

/--
The template that is written as some text.
-/
def ofString (text : String) : Except TemplateProblem Template :=
  ofChars text.toList

end Template

end ThreadLint
