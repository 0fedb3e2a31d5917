import ThreadLint.Text.Blank
import ThreadLint.Token.Nesting
import ThreadLint.Tree.Node

/-!
This module contains parsers over the tokens of a text: functions from a cursor, which is the index
of the next token, to a result and a new cursor. A parser that does not fit the tokens gives up with
`Stop.mismatch`; as no other trace of its work remains, whoever tries it goes on from where it
began. The other stops stand for steps that no parser may take, and nobody goes on behind them.
-/

namespace ThreadLint

/--
Why a parser has no result.
-/
inductive Stop where
  /-- The tokens do not fit. -/
  | mismatch
  /-- The bound on the steps is used up. -/
  | exhausted
  /-- There is no token at the index that is asked for. -/
  | beyond
  /-- The token whose partner is asked for is no opening bracket. -/
  | unopened
  /-- An extent of a node ends in front of its start. -/
  | reversed
  deriving DecidableEq, Repr, Inhabited

/--
A parser: given the tokens and a cursor, a result and the cursor behind what it stands for.
-/
def Parser (α : Type) : Type :=
  Array Token → Nat → Except Stop (α × Nat)

namespace Parser

instance : Monad Parser where
  pure a := fun _ cursor => .ok (a, cursor)
  bind parser next := fun tokens cursor =>
    match parser tokens cursor with
    | .ok (a, cursor) => next a tokens cursor
    | .error stop => .error stop

/--
Stops without a result.
-/
def stopWith {α : Type} (stop : Stop) : Parser α := fun _ _ =>
  .error stop

/--
Gives up, as the tokens do not fit.
-/
def mismatch {α : Type} : Parser α :=
  stopWith .mismatch

/--
Gives up, as the bound on the steps is used up.
-/
def exhausted {α : Type} : Parser α :=
  stopWith .exhausted

/--
The result of a parser, or nothing with the cursor where it was if the tokens do not fit.
-/
def attempt {α : Type} (parser : Parser α) : Parser (Option α) := fun tokens cursor =>
  match parser tokens cursor with
  | .ok (a, next) => .ok (some a, next)
  | .error .mismatch => .ok (none, cursor)
  | .error stop => .error stop

/--
The result of a parser, with the cursor where it was.
-/
def lookahead {α : Type} (parser : Parser α) : Parser α := fun tokens cursor =>
  match parser tokens cursor with
  | .ok (a, _) => .ok (a, cursor)
  | .error stop => .error stop

/--
The token at an index. Behind the last token stands that one again.
-/
def tokenAt (tokens : Array Token) (index : Nat) : Token :=
  tokens.getD index (tokens.back?.getD default)

/--
The cursor.
-/
def here : Parser Nat := fun _ cursor =>
  .ok (cursor, cursor)

/--
Moves the cursor.
-/
def seek (target : Nat) : Parser Unit := fun _ _ =>
  .ok ((), target)

/--
The token that stands some tokens behind the cursor.
-/
def peek (distance : Nat) : Parser Token := fun tokens cursor =>
  .ok (tokenAt tokens (cursor + distance), cursor)

/--
The token at an index, which is none behind the last token.
-/
def tokenNumber (index : Nat) : Parser Token := fun tokens cursor =>
  if index < tokens.size then .ok (tokenAt tokens index, cursor) else .error .beyond

/--
The token at the cursor.
-/
def current : Parser Token := do
  tokenNumber (← here)

/--
Takes the token at the cursor. The end of the text is never taken.
-/
def advance : Parser Token := do
  let token ← current
  if token.isEnd then return token
  else
    seek ((← here) + 1)
    return token

/--
Whether the text ends at the cursor.
-/
def atEnd : Parser Bool := do
  return (← current).isEnd

/--
Whether one of the given punctuation marks stands at the cursor.
-/
def atPunct (texts : List String) : Parser Bool := do
  return (← current).isPunct texts

/--
Whether one of the given keywords stands at the cursor.
-/
def atKeyword (texts : List String) : Parser Bool := do
  return (← current).isKeyword texts

/--
Whether an identifier or keyword with one of the given spellings stands at the cursor.
-/
def atWord (texts : List String) : Parser Bool := do
  return (← current).isWord texts

/--
Takes a punctuation mark if it stands at the cursor, and says whether it did.
-/
def accept (text : String) : Parser Bool := do
  if ← atPunct [text] then
    let _ ← advance
    return true
  else return false

/--
Takes a punctuation mark. A closing bracket or semicolon that is missing at the end of the text is
taken for granted, and then nothing is the result.
-/
def expect (text : String) : Parser (Option Token) := do
  let token ← current
  if token.isPunct [text] then
    return some (← advance)
  else if token.isEnd && ((Token.brackets.map Prod.snd).contains text || text == ";") then
    return none
  else mismatch

/--
Takes a token that must be one of the given punctuation marks.
-/
def require (texts : List String) : Parser Token := do
  if ← atPunct texts then advance else mismatch

/--
Takes a token that must be one of the given keywords.
-/
def requireKeyword (texts : List String) : Parser Token := do
  if ← atKeyword texts then advance else mismatch

/--
Takes an identifier.
-/
def identifier : Parser Token := do
  if (← current).isIdentifier then advance else mismatch

/--
The number of the tokens.
-/
def tokenCount : Parser Nat := fun tokens cursor =>
  .ok (tokens.size, cursor)

/--
What the search for the bracket that closes another one finds.
-/
def search (index : Nat) : Parser (Option Nat) := fun tokens cursor =>
  .ok (Token.matching? tokens index, cursor)

/--
The index of the bracket that closes the opening bracket at an index.
-/
def closing? (index : Nat) : Parser (Option Nat) := do
  if (← tokenNumber index).isOpener then search index else stopWith .unopened

/--
Takes a bracket with all that stands between it and the bracket that closes it. What nothing closes
goes on to the end of the text.
-/
def skipGroup : Parser Unit := do
  match ← closing? (← here) with
  | some closer => seek (closer + 1)
  | none => seek ((← tokenCount) - 1)

/--
The offset behind the last token that was taken.
-/
def lastStop : Parser Nat := do
  let cursor ← here
  if cursor = 0 then return 0 else return (← tokenNumber (cursor - 1)).stop

/--
The node for the tokens from an index up to the cursor.
-/
def node (form : Form) (first : Nat) (children : List Node) : Parser Node := do
  let token ← tokenNumber first
  let cursor ← here
  let last ← lastStop
  let stop := if first < cursor then max last token.start else token.start
  if (⟨token.start, stop⟩ :: form.nameExtent?.toList ++ form.typeExtents).all Extent.isOrdered then
    return ⟨form, ⟨token.start, stop⟩, token.trivia, none, children⟩
  else stopWith .reversed

/--
The text between two tokens without its white space: what the tokens from the first index up to the
second, less the trivia in front of them, are spelled like.
-/
def spelling (first last : Nat) : Parser String := fun tokens cursor =>
  let written := match (tokens.extract first last).toList with
    | [] => ""
    | token :: rest => token.text ++ String.join (rest.map fun t => t.trivia ++ t.text)
  .ok (Text.dropBlanks written, cursor)

/--
What a step of a loop leads to: one more step, or the end.
-/
inductive Progress (σ β : Type) where
  | more (state : σ)
  | done (result : β)

/--
Repeats a step until it says that it is done, so many times at most.
-/
def loopAtMost {σ β : Type} (step : σ → Parser (Progress σ β)) : Nat → σ → Parser β
  | 0, _ => exhausted
  | bound + 1, state => do
    match ← step state with
    | .more state => loopAtMost step bound state
    | .done result => return result

/--
Repeats a step until it says that it is done. Every step but the last takes a token, so there are no
more steps than tokens are left.
-/
def loop {σ β : Type} (step : σ → Parser (Progress σ β)) (state : σ) : Parser β :=
  fun tokens cursor => loopAtMost step (tokens.size - cursor + 1) state tokens cursor

/--
Repeats a parser as long as the next token allows it.
-/
def manyWhile {α : Type} (goesOn : Token → Bool) (item : Parser α) : Parser (List α) :=
  loop (fun found : List α => do
    if goesOn (← current) then
      return .more ((← item) :: found)
    else return .done found.reverse) []

/--
Repeats a parser as long as the next token allows it and a comma stands between the items. A comma
behind the last item is allowed.
-/
def commaList {α : Type} (goesOn : Token → Bool) (item : Parser α) : Parser (List α) :=
  loop (fun found : List α => do
    if goesOn (← current) then
      let found := (← item) :: found
      if ← accept "," then return .more found else return .done found.reverse
    else return .done found.reverse) []

/--
Takes tokens as long as they pass a test, and passes over whole groups where they open.
-/
def skipWhile (passes : Token → Bool) (opensGroup : Token → Bool) : Parser Unit :=
  loop (fun _ : Unit => do
    let token ← current
    if token.isEnd || !passes token then return .done ()
    else if opensGroup token then
      skipGroup
      return .more ()
    else
      let _ ← advance
      return .more ()) ()

end Parser

end ThreadLint
