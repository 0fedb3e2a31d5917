import ThreadLint.Fault
import ThreadLint.Text.Blank
import ThreadLint.Text.Case

/-!
This module contains the words of the vocabularies, as settings spell them: in any letter case and
with white space around them.
-/

namespace ThreadLint

/--
A word together with what it means.
-/
structure Spelled (α : Type) where
  written : String
  meaning : α
  deriving Repr, Inhabited

namespace Text

/--
The form in which words of settings are compared.
-/
def folded (word : String) : String :=
  lower (trim word)

end Text

/--
The severity that a word means.
-/
def Severity.ofWord (word : String) : Except BadValue Severity :=
  match all.find? fun severity => severity.name == Text.folded word with
  | some severity => .ok severity
  | none => .error (.severity word)

/--
The category that a word means.
-/
def Category.ofWord (word : String) : Except BadValue Category :=
  match all.find? fun category => Text.lower category.name == Text.folded word with
  | some category => .ok category
  | none => .error (.category word)

/--
The tag that a word means, in either of its spellings.
-/
def SymbolTag.ofWord (word : String) : Except BadValue SymbolTag :=
  let wanted := Text.folded word
  let isWanted (tag : SymbolTag) : Bool :=
    Text.lower tag.name == wanted || Text.lower tag.screamingName == wanted
  match all.find? isWanted with
  | some tag => .ok tag
  | none => .error (.tag word)

/--
The code with a written form.
-/
def FaultCode.ofWord (word : String) : Except BadValue FaultCode :=
  match all.find? fun code => code.name == word with
  | some code => .ok code
  | none => .error (.code word)

end ThreadLint
