import ThreadLint.Template.Layout
import ThreadLint.Template.Member
import ThreadLint.Text.Quoted

/-!
This module contains how the fields of a template are replaced by values.
-/

namespace ThreadLint

/--
Why a template cannot be filled.
-/
inductive FillProblem where
  | missing (field : MissingField)
  | malformed (problem : TemplateProblem)
  | noMember
  | notAnIndex
  | noLayout
  deriving DecidableEq, Repr, Inhabited

/--
A step into a value: to a member, or to what has an index.
-/
inductive FieldStep where
  | member (name : String)
  | item (name : String)
  deriving DecidableEq, Repr, Inhabited

namespace FieldStep

/--
Whether a character begins a step.
-/
def isMark (c : Char) : Bool :=
  c == '.' || c == '['

/--
The step at the beginning of a text, and its number of characters besides the first.
-/
def ofChars (mark : Char) (rest : List Char) : Except TemplateProblem (FieldStep × Nat) := do
  if mark == '.' then
    let name := rest.takeWhile fun c => !isMark c
    if name.isEmpty then throw .emptyStep
    return (.member (String.ofList name), name.length)
  else if mark == '[' then
    let name := rest.takeWhile (· != ']')
    if rest.length ≤ name.length then throw .missingBracket
    if name.isEmpty then throw .emptyStep
    return (.item (String.ofList name), name.length + 1)
  else throw .textAfterBracket

end FieldStep

namespace Template

/--
The number that a text of decimal digits stands for.
-/
def index? (cs : List Char) : Except TemplateProblem (Option Nat) := do
  let (value, rest) ← Layout.number? cs
  return if rest.isEmpty then value else none

/--
What stands in a value under an index. Only texts and series of sorts have indices.
-/
def itemOf (value : FieldValue) (index : Nat) : Except FillProblem FieldValue :=
  match value with
  | .text cs => (cs[index]?).elim (.error (.missing .beyondText)) fun c => .ok (.text [c])
  | .series sorts => (sorts[index]?).elim (.error (.missing .beyondSeries)) fun s => .ok (.sort s)
  | _ => .error .notAnIndex

/--
Takes one step into a value.
-/
def follow (value : FieldValue) (step : FieldStep) : Except FillProblem FieldValue := do
  match step with
  | .member name =>
    match value.member? name with
    | some member => return member
    | none => throw .noMember
  | .item name =>
    match ← (index? name.toList).mapError .malformed with
    | none => throw .notAnIndex
    | some index => itemOf value index

/--
What is found in a value by the steps that are written in a text. Each step is taken before the next
one is read.
-/
def walk (value : FieldValue) (cs : List Char) : Except FillProblem FieldValue :=
  match cs with
  | [] => .ok value
  | mark :: rest => do
    let (step, length) ← (FieldStep.ofChars mark rest).mapError .malformed
    walk (← follow value step) (rest.drop length)
termination_by cs.length
decreasing_by simp only [List.length_drop, List.length_cons]; omega

/--
The value that the name of a field stands for, given the values by their names. There are no values
by number.
-/
def valueOf (values : List (String × String)) (name : String) : Except FillProblem FieldValue := do
  let first := name.toList.takeWhile fun c => !FieldStep.isMark c
  match ← (index? first).mapError .malformed with
  | some index => throw (.missing (.numbered index))
  | none =>
    if first.isEmpty then throw (.missing (.numbered 0))
    match values.lookup (String.ofList first) with
    | none => throw (.missing (.named (String.ofList first)))
    | some value => walk (.ofString value) (name.toList.drop first.length)

/--
A text in its quoted form, with everything outside ASCII escaped too.
-/
def quotedAscii (text : String) : String :=
  String.join ((Text.quoted text).toList.map fun c =>
    if c.toNat < 128 then c.toString
    else if c.toNat ≤ 0xff then "\\x" ++ Text.hexadecimal 2 c.toNat
    else if c.toNat ≤ 0xffff then "\\u" ++ Text.hexadecimal 4 c.toNat
    else "\\U" ++ Text.hexadecimal 8 c.toNat)

/--
A value in the form that a conversion asks for. Only texts are quoted.
-/
def convert (conversion : Option Char) (value : FieldValue) : Except FillProblem FieldValue :=
  match conversion, value with
  | none, value => .ok value
  | some 's', value => .ok (.ofString value.shown)
  | some 'r', .text cs => .ok (.ofString (Text.quoted (String.ofList cs)))
  | some 'a', .text cs => .ok (.ofString (quotedAscii (String.ofList cs)))
  | some 'r', value | some 'a', value => .ok (.ofString value.shown)
  | some c, _ => .error (.malformed (.unknownConversion c))

/--
A value in a written layout. What is no text has no layout but the empty one.
-/
def laidOut (layout : String) (value : FieldValue) : Except FillProblem String := do
  match value with
  | .text cs =>
    let layout ← (Layout.ofString layout).mapError .malformed
    return String.ofList (← (layout.apply cs).mapError .malformed)
  | value => if layout.isEmpty then return value.shown else throw .noLayout

/--
The text of a piece of a template, given what becomes of a layout that has fields of its own.
-/
def fillPiece (values : List (String × String)) (fillLayout : String → Except FillProblem String)
    (piece : TemplatePiece) : Except FillProblem String := do
  match piece with
  | .literal text => return text
  | .field field =>
    let value ← valueOf values field.name
    let converted ← convert field.conversion value
    let layout ←
      if field.layout.toList.contains '\x7b' then fillLayout field.layout else pure field.layout
    laidOut layout converted

/--
A template with its fields replaced by values, given what becomes of a layout that has fields of its
own.
-/
def fillWith (values : List (String × String)) (fillLayout : String → Except FillProblem String)
    (template : Template) : Except FillProblem String := do
  let texts ← template.mapM (fillPiece values fillLayout)
  return String.join texts

/--
A layout with its fields replaced by values. The layouts of fields are templates in turn, up to so
many levels.
-/
def fillLayout (values : List (String × String)) : Nat → String → Except FillProblem String
  | 0, _ => .error (.malformed .nestedTooDeep)
  | levels + 1, layout => do
    let inner ← (ofString layout).mapError .malformed
    fillWith values (fillLayout values levels) inner

/--
A template with its fields replaced by values. A layout may have fields, whose layouts have none.
-/
def fill (template : Template) (values : List (String × String)) : Except FillProblem String :=
  fillWith values (fillLayout values 1) template

end Template

end ThreadLint
