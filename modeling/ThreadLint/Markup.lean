import ThreadLint.Markup.EmojiTable
import ThreadLint.Text.Blank
import ThreadLint.Text.Case
import ThreadLint.Text.Segment
import ThreadLint.Text.Wrap

/-!
This module contains the markup in which text for terminals is written: tags in square brackets
begin and end styles, and short names between colons stand for pictographs. `Markup.escape` takes a
text into markup, and `Markup.plain` gives what is shown of markup.
-/

namespace ThreadLint.Markup

/-! ### Pictographs -/

/--
The character with a code point in base 16.
-/
def charOf (digits : String) : Char :=
  let value (d : Char) : Nat := if d.isDigit then d.toNat - 48 else d.toNat - 87
  Char.ofNat (digits.toList.foldl (fun code d => 16 * code + value d) 0)

/--
The short names of pictographs with what they stand for.
-/
def emojis : List (String × String) :=
  (Text.words emojiTable).map fun entry =>
    let codes := Text.pieces '-' (Text.afterFirst ':' entry)
    (Text.beforeFirst ':' entry, String.ofList (codes.map charOf))

/--
The ends of a short name that ask for a plain or a coloured form of the pictograph, with the
character that is put behind it for that.
-/
def emojiForms : List (String × Char) :=
  [("-emoji", '\ufe0f'), ("-text", '\ufe0e')]

/--
What a short name stands for. Letter case does not matter.
-/
def emoji? (name : String) : Option String :=
  match emojiForms.find? fun form => Text.endsWith name form.1 with
  | some (ending, mark) =>
    let plain := String.ofList (name.toList.take (name.length - ending.length))
    (emojis.lookup (Text.lower plain)).map fun shown => shown ++ mark.toString
  | none => emojis.lookup (Text.lower name)

/--
A text with pictographs for their short names between colons. A name has no white space, and a pair
of colons around anything else stays as it is.
-/
def withEmoji (cs : List Char) : List Char :=
  match cs with
  | [] => []
  | ':' :: rest =>
    let name := rest.takeWhile fun c => c != ':' && !Text.isBlank c
    if (rest.drop name.length).head? == some ':' then
      let shown := (emoji? (String.ofList name)).map String.toList
      shown.getD (':' :: name ++ [':']) ++ withEmoji (rest.drop (name.length + 1))
    else ':' :: withEmoji rest
  | c :: rest => c :: withEmoji rest
termination_by cs.length
decreasing_by all_goals simp only [List.length_drop, List.length_cons]; omega

/-! ### Tags -/

/--
Whether a character can begin a tag behind its bracket.
-/
def beginsTag (c : Char) : Bool :=
  c.isLower || c == '#' || c == '/' || c == '@'

/--
The number of characters of the tag behind an opening bracket, if a tag stands there. It ends at a
closing bracket, and there are no brackets in it.
-/
def tagSize? : List Char → Option Nat
  | [] => none
  | c :: rest =>
    let inner := rest.takeWhile fun c => c != '[' && c != ']'
    if beginsTag c && (rest.drop inner.length).head? == some ']' then some (inner.length + 1)
    else none

/--
A text with every bracket that would begin a tag escaped by a backslash, and the backslashes in
front of it doubled. The number says how many backslashes stand in front of the text.
-/
def escapeBehind (slashes : Nat) : List Char → List Char
  | [] => []
  | c :: rest =>
    if c == '\\' then c :: escapeBehind (slashes + 1) rest
    else if c == '[' && (tagSize? rest).isSome then
      List.replicate (slashes + 1) '\\' ++ c :: escapeBehind 0 rest
    else c :: escapeBehind 0 rest

/--
A text taken into markup. A single backslash at its end is doubled, so that it does not escape a tag
that follows.
-/
def escape (text : String) : String :=
  let escaped := escapeBehind 0 text.toList
  match escaped.reverse with
  | '\\' :: '\\' :: _ => String.ofList escaped
  | '\\' :: _ => String.ofList (escaped ++ ['\\'])
  | _ => String.ofList escaped

/--
Markup that shows what other markup does, in a style.
-/
def styled (style inner : String) : String :=
  "[" ++ style ++ "]" ++ inner ++ "[/" ++ style ++ "]"

/--
A piece of markup: text, or a tag without its brackets.
-/
inductive Piece where
  | text (text : List Char)
  | tag (tag : List Char)
  deriving DecidableEq, Repr, Inhabited

/--
The pieces of markup behind some text in front, which is reversed. Of the backslashes in front of a
tag every second one is text, and one that is left over makes the tag text.
-/
def pieces (front cs : List Char) : List Piece :=
  match cs with
  | [] => [.text front.reverse]
  | c :: rest =>
    match (if c == '[' then tagSize? rest else none) with
    | some size =>
      let slashes := (front.takeWhile (· == '\\')).length
      let tag := rest.take size
      let last : Piece := if slashes % 2 = 0 then .tag tag else .text ('[' :: tag ++ [']'])
      .text (front.drop slashes).reverse :: .text (List.replicate (slashes / 2) '\\') :: last ::
        pieces [] (rest.drop (size + 1))
    | none => pieces (c :: front) rest
termination_by cs.length
decreasing_by all_goals simp only [List.length_drop, List.length_cons]; omega

/--
A text without the backslashes in front of opening brackets.
-/
def unescaped : List Char → List Char
  | '\\' :: '[' :: rest => '[' :: unescaped rest
  | c :: rest => c :: unescaped rest
  | [] => []

/--
What a piece of markup shows.
-/
def Piece.shown : Piece → List Char
  | text cs => withEmoji (unescaped cs)
  | tag _ => []

/--
What markup shows.
-/
def plain (markup : String) : String :=
  let shown := (pieces [] markup.toList).flatMap Piece.shown
  String.ofList (shown.filter fun c => !Text.isCursorControl c)

/--
The short names of styles.
-/
def styleNames : List (String × String) :=
  [("b", "bold"), ("d", "dim"), ("i", "italic"), ("u", "underline"), ("uu", "underline2"),
   ("r", "reverse"), ("c", "conceal"), ("s", "strike"), ("o", "overline")]

/--
The style that a name means. White space around it and letter case do not matter.
-/
def style (name : String) : String :=
  let word := Text.trim (Text.lower name)
  (styleNames.lookup word).getD word

/--
The styles that are begun behind a piece of markup, given those in front of it, the last one first.
There is no answer if the piece ends a style that is not begun. A tag that names no style ends the
last one.
-/
def stylesBehind (begun : List String) : Piece → Option (List String)
  | .text _ => some begun
  | .tag tag =>
    match tag.takeWhile (· != '=') with
    | '/' :: name =>
      if name.all Text.isBlank then
        match begun with
        | [] => none
        | _ :: rest => some rest
      else
        let ended := style (String.ofList name)
        if begun.contains ended then some (begun.erase ended) else none
    | name => some (style (String.ofList name) :: begun)

/--
Whether every tag in markup that ends a style ends one that was begun.
-/
def isBalanced (markup : String) : Bool :=
  ((pieces [] markup.toList).foldlM stylesBehind []).isSome

end ThreadLint.Markup
