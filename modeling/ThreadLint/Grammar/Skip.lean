import ThreadLint.Grammar.Parser

/-!
This module contains what is passed over without being read: constructs that are not understood,
type parameters and constraints.
-/

namespace ThreadLint.Parser

/--
Passes over a construct that is not understood and keeps it as a statement of its own. The construct
begins at an index and ends behind its semicolon or its first braces, or in front of the bracket
that closes what it stands in. It has one token at least.
-/
def skipConstruct (first : Nat) (keyword : String) : Parser Node := do
  seek first
  loop (fun _ : Unit => do
    let token ← current
    if token.isEnd || token.isCloser then return .done ()
    else if token.isPunct [";"] then
      let _ ← advance
      return .done ()
    else if token.isOpener then
      skipGroup
      if token.isPunct ["\x7b"] then
        let _ ← accept ";"
        return .done ()
      else return .more ()
    else
      let _ ← advance
      return .more ()) ()
  if (← here) == first then
    let _ ← advance
  node (.otherStmt keyword) first []

/--
Passes over one token of a list in angle brackets, given how many of them are open.
-/
def skipInAngles (depth : Nat) : Parser (Progress Nat Unit) := do
  if ← atEnd then return .done ()
  else
    let token ← advance
    if token.isPunct ["<"] then return .more (depth + 1)
    else if token.isPunct [">"] then
      if depth = 1 then return .done () else return .more (depth - 1)
    else return .more depth

/--
Passes over type parameters, if they stand at the cursor: up to the angle bracket that closes the
first one.
-/
def skipTypeParameters : Parser Unit := do
  if ← atPunct ["<"] then loop skipInAngles 0

/--
Passes over the constraints on type parameters, if they stand at the cursor.
-/
def skipConstraints : Parser Unit :=
  loop (fun _ : Unit => do
    if ← atWord ["where"] then
      let _ ← advance
      skipWhile (fun token => !token.isPunct ["\x7b", ";", "=>"] && !token.isWord ["where"])
        (fun token => token.isPunct ["("])
      return .more ()
    else return .done ()) ()

/--
Passes over the label of a case, up to its colon or to the end of the block it stands in.
-/
def skipCaseLabel : Parser Unit := do
  let _ ← advance
  skipWhile (fun token => !token.isPunct [":", "\x7d"]) Token.isOpener
  let _ ← accept ":"

end ThreadLint.Parser
