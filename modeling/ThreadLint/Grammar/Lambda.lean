import ThreadLint.Grammar.Parameter

/-!
This module contains lambdas and anonymous delegates.
-/

namespace ThreadLint.Parser

/--
Whether an arrow stands behind the bracket that closes the bracket at an index.
-/
def arrowFollowsGroup (opener : Nat) : Parser Bool := do
  match ← closing? opener with
  | some closer => return (← tokenNumber (closer + 1)).isPunct ["=>"]
  | none => return false

/--
Whether a lambda or an anonymous delegate begins at the cursor.
-/
def atLambda : Parser Bool := do
  let token ← current
  let next ← peek 1
  let cursor ← here
  if token.isKeyword ["delegate"] then return true
  else if token.isWord ["async"] then
    if next.isKeyword ["delegate"] then return true
    else if next.isIdentifier && (← peek 2).isPunct ["=>"] then return true
    else if next.isPunct ["("] then arrowFollowsGroup (cursor + 1)
    else return false
  else if token.isIdentifier && next.isPunct ["=>"] then return true
  else if token.isPunct ["("] then arrowFollowsGroup cursor
  else return false

/--
The names of the parameters of a lambda between parentheses: the last identifier in front of each
comma, with groups inside passed over.
-/
def lambdaParameters : Parser (List String) := do
  let _ ← advance
  let names ← loop (fun found : List String × Option String => do
    let (names, last) := found
    let token ← current
    if !isBefore ")" token then return .done (last.toList ++ names).reverse
    else if token.isOpener then
      skipGroup
      return .more (names, last)
    else
      let _ ← advance
      if token.isPunct [","] then return .more (last.toList ++ names, none)
      else if token.isIdentifier then return .more (names, some token.identifierName)
      else return .more (names, last)) ([], none)
  let _ ← expect ")"
  return names

/--
A lambda or an anonymous delegate.
-/
def lambda (g : Grammar) : Parser Node := do
  let first ← here
  let isAsync ← atWord ["async"]
  if isAsync then
    let _ ← advance
  if ← atKeyword ["delegate"] then
    let _ ← advance
    let parameters ← do
      if ← atPunct ["("] then parameterList g ")" else pure []
    let body ← block g
    node (.lambda (parameters.filterMap (·.form.name?)) isAsync) first [body]
  else
    let parameters ← do
      if (← current).isIdentifier then pure [(← advance).identifierName] else lambdaParameters
    let _ ← require ["=>"]
    let body ← do
      if ← atPunct ["\x7b"] then block g else g.expression
    node (.lambda parameters isAsync) first [body]

end ThreadLint.Parser
