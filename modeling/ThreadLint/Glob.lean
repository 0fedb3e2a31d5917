/-!
This module contains the patterns that settings use for names of files: `*` stands for any text,
also across slashes, `?` for one character, and brackets for one of a class of characters.
-/

namespace ThreadLint

/--
Characters of a class: a single one, or all from one to another.
-/
inductive GlobRange where
  | single (c : Char)
  | range (first last : Char)
  deriving DecidableEq, Repr, Inhabited

/--
Whether a character is one of the meant.
-/
def GlobRange.has : GlobRange → Char → Bool
  | single c, d => c == d
  | range first last, d => decide (first ≤ d) && decide (d ≤ last)

/--
A part of a pattern.
-/
inductive GlobPart where
  | char (c : Char)
  | anyChar
  | anyText
  | oneOf (isNegated : Bool) (ranges : List GlobRange)
  deriving DecidableEq, Repr, Inhabited

/--
Whether a part of a pattern can stand for a single character.
-/
def GlobPart.has (part : GlobPart) (d : Char) : Bool :=
  match part with
  | char c => c == d
  | anyChar | anyText => true
  | oneOf isNegated ranges => ranges.any (·.has d) != isNegated

/--
A pattern.
-/
abbrev Glob := List GlobPart

namespace Glob

/--
The characters that the text between brackets means. A hyphen between two characters makes a range,
which is left out if it runs backwards.
-/
def rangesOf : List Char → List GlobRange
  | first :: '-' :: last :: rest =>
    if last < first then rangesOf rest else .range first last :: rangesOf rest
  | c :: rest => .single c :: rangesOf rest
  | [] => []

/--
The class that the text between brackets means. An exclamation mark in front, also behind ranges
that run backwards, negates it.
-/
def classOf : List Char → GlobPart
  | '!' :: rest => .oneOf true (rangesOf rest)
  | first :: '-' :: last :: rest =>
    if last < first then classOf rest else .oneOf false (.range first last :: rangesOf rest)
  | cs => .oneOf false (rangesOf cs)

/--
The number of characters between an opening bracket and the closing one. A closing bracket in front,
also behind an exclamation mark, is a member of the class.
-/
def classSize? (cs : List Char) : Option Nat :=
  let front := match cs with
    | '!' :: ']' :: _ => 2
    | '!' :: _ | ']' :: _ => 1
    | _ => 0
  let size := front + ((cs.drop front).takeWhile (· != ']')).length
  if size < cs.length then some size else none

/--
The pattern that is written as some text. A bracket that nothing closes stands for itself. The
number says how many characters a class has already taken.
-/
def ofChars : Nat → List Char → Glob
  | _, [] => []
  | taken + 1, _ :: rest => ofChars taken rest
  | 0, c :: rest =>
    match c with
    | '*' => .anyText :: ofChars 0 rest
    | '?' => .anyChar :: ofChars 0 rest
    | '[' =>
      match classSize? rest with
      | some size => classOf (rest.take size) :: ofChars (size + 1) rest
      | none => .char '[' :: ofChars 0 rest
    | c => .char c :: ofChars 0 rest

/--
The pattern that is written as some text.
-/
def ofString (text : String) : Glob :=
  ofChars 0 text.toList

/--
All ends of a text, the longest first.
-/
def endsOf : List Char → List (List Char)
  | [] => [[]]
  | c :: rest => (c :: rest) :: endsOf rest

/--
The ends of a text that can be left behind one more part of a pattern, given those in front of it.
The longest comes first. Any text leaves the ends of the longest one, as those of the others are
among them.
-/
def leftBehind (ends : List (List Char)) (part : GlobPart) : List (List Char) :=
  match part with
  | .anyText => ends.head?.elim [] endsOf
  | part => ends.filterMap fun
    | c :: rest => if part.has c then some rest else none
    | [] => none

/--
Whether a pattern stands for the whole of a text.
-/
def fits (parts : Glob) (cs : List Char) : Bool :=
  (parts.foldl leftBehind [cs]).any List.isEmpty

/--
Whether a written pattern stands for the whole of a text.
-/
def isMatch (pattern text : String) : Bool :=
  fits (ofString pattern) text.toList

end Glob

end ThreadLint
