import ThreadLint.Text.Segment
import ThreadLint.Tree.Node

/-!
This module contains the expressions that stand for a fixed colour or brush.
-/

namespace ThreadLint.Node

/--
The types whose members are named colours and brushes.
-/
def visualHolders : List String :=
  ["Brushes", "Colors", "Color", "Pens"]

/--
The types of brushes, images and pens.
-/
def visualTypes : List String :=
  ["SolidColorBrush", "LinearGradientBrush", "RadialGradientBrush", "ImageBrush", "BitmapImage",
   "Pen"]

/--
The methods that make a colour of numbers or text.
-/
def visualFactories : List String :=
  ["FromRgb", "FromArgb", "FromScRgb", "FromHtml", "FromName", "ConvertFromString"]

/--
Whether a character is a digit in base 16.
-/
def isHexDigit (c : Char) : Bool :=
  c.isDigit || ('a' ≤ c && c ≤ 'f') || ('A' ≤ c && c ≤ 'F')

/--
Whether a string literal is a colour: a number sign and three, four, six or eight digits in base 16.
-/
def isHexColour (literal : String) : Bool :=
  let plain := match literal.toList with
    | '@' :: rest => rest
    | cs => cs
  match plain with
  | '"' :: '#' :: rest =>
    let digits := rest.takeWhile isHexDigit
    [3, 4, 6, 8].contains digits.length && rest.drop digits.length == ['"']
  | _ => false

/--
Whether an expression without anything wrapped around it is a fixed colour or brush.
-/
def isPlainVisual (node : Node) : Bool :=
  match node.form with
  | .memberAccess .. =>
    match node.children.head?.bind dottedName? with
    | some holder => visualHolders.contains (Text.lastSegment holder)
    | none => false
  | .objectCreation typeName _ =>
    visualTypes.contains (Text.beforeFirst '<' (Text.lastSegment (typeName.getD "")))
  | .callExpr =>
    let target := (node.children.head?.bind dottedName?).getD ""
    target.toList.contains '.' && visualFactories.contains (Text.lastSegment target)
  | .literal .string value => isHexColour value
  | _ => false

/--
Whether an expression is a fixed colour or brush: a named one, one that is made of numbers or text,
or the text of one.
-/
def isVisual (node : Node) : Bool :=
  node.unwrap?.any isPlainVisual

end ThreadLint.Node
