import ThreadLint.Source
import ThreadLint.Token

/-!
This module contains the nesting of brackets: the check that every closing bracket closes the last
one that is still open, and the search for the bracket that closes a given one.
-/

namespace ThreadLint.Token

/--
The opening brackets that nothing closes, in the order of the text. A closing bracket with nothing
to close, or with another kind of bracket to close, is a fault.
-/
def unclosed (source : Source) (tokens : List Token) : Except SyntaxFault (List Token) :=
  go [] tokens
where
  /-- The brackets still open come first, the last one at the head. -/
  go (opened : List Token) : List Token → Except SyntaxFault (List Token)
    | [] => .ok opened.reverse
    | token :: rest =>
      if token.isOpener then go (token :: opened) rest
      else if token.isCloser then
        match opened with
        | [] => .error ⟨.strayCloser token.text, token.start, source.position token.start, none⟩
        | opener :: outer =>
          if opener.closer? = some token.text then go outer rest
          else
            .error
              ⟨.mismatchedCloser opener.text (source.position opener.start) token.text,
                token.start, source.position token.start, none⟩
      else go opened rest

/--
The index of the token that brings the depth of brackets back to nothing, from an index on. The
depth may not be nothing before the first of these tokens unless that opens a bracket.
-/
def closing? (tokens : Array Token) (depth index : Nat) : Option Nat :=
  if h : index < tokens.size then
    if tokens[index].isOpener then closing? tokens (depth + 1) (index + 1)
    else if tokens[index].isCloser then
      if depth ≤ 1 then some index else closing? tokens (depth - 1) (index + 1)
    else closing? tokens depth (index + 1)
  else none
termination_by tokens.size - index

/--
The index of the bracket that closes the opening bracket at an index, if there is one.
-/
def matching? (tokens : Array Token) (index : Nat) : Option Nat := do
  let opener ← tokens[index]?
  let found ← closing? tokens 0 index
  let closer ← tokens[found]?
  guard (opener.closer? = some closer.text)
  return found

end ThreadLint.Token
