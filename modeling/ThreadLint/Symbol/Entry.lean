import ThreadLint.Symbol.Tag
import ThreadLint.Text.Blank
import ThreadLint.Text.Segment

/-!
This module contains the entries of the symbol table and the normal form of written names, under which
symbols are looked up.
-/

namespace ThreadLint.Symbol

/-! ### Names -/

/--
The text with every pair of colons replaced by a dot.
-/
def dotted : List Char → List Char
  | ':' :: ':' :: rest => '.' :: dotted rest
  | c :: rest => c :: dotted rest
  | [] => []

/--
Whether a character is an angle bracket.
-/
def isAngle (c : Char) : Bool :=
  c == '<' || c == '>'

/--
The text without its innermost pairs of angle brackets and what they hold.
-/
def dropInnermost (cs : List Char) : List Char :=
  match cs with
  | [] => []
  | c :: rest =>
    if c == '<' then
      let inside := rest.takeWhile fun c => !isAngle c
      if rest[inside.length]? == some '>' then dropInnermost (rest.drop (inside.length + 1))
      else c :: dropInnermost rest
    else c :: dropInnermost rest
termination_by cs.length
decreasing_by all_goals simp only [List.length_cons, List.length_drop]; omega

/--
The text without any pair of angle brackets.
-/
def dropAngles (cs : List Char) : List Char :=
  if (dropInnermost cs).length < cs.length then dropAngles (dropInnermost cs) else cs
termination_by cs.length

/--
The text without the global namespace in front.
-/
def dropGlobal (cs : List Char) : List Char :=
  if "global::".toList.isPrefixOf cs then cs.drop "global::".toList.length else cs

/--
The normal form of a written name: without white space, global namespace, type arguments and
question marks at its end, and with dots between its segments.
-/
def normalize (name : String) : String :=
  Text.trimEnd '?'
    (String.ofList (dropAngles (dotted (dropGlobal (Text.dropBlanks name).toList))))

/--
The types whose values are awaited.
-/
def awaitableTypes : List String :=
  ["Task", "ValueTask", "JoinableTask"]

/--
Whether values of a written type are awaited.
-/
def isAwaitable (typeName : String) : Bool :=
  awaitableTypes.contains (Text.lastSegment (normalize typeName))

end ThreadLint.Symbol

namespace ThreadLint

/-! ### Entries -/

/--
The part that a symbol plays by itself, apart from its tags.
-/
inductive SymbolRole where
  | packageRegistration
  | importingConstructor
  deriving DecidableEq, Repr, Inhabited

/--
The word for a role.
-/
def SymbolRole.name : SymbolRole → String
  | packageRegistration => "package-registration"
  | importingConstructor => "importing-constructor"

/--
A known symbol. One that matches as a suffix stands for every dotted name that ends in its name.
-/
structure SymbolEntry where
  name : String
  kind : SymbolKind
  tags : List SymbolTag := []
  capabilities : List Capability := []
  isSuffix : Bool := false
  strategy : Option AwaitStrategy := none
  replacement : Option String := none
  role : Option SymbolRole := none
  deriving DecidableEq, Repr, Inhabited

namespace SymbolEntry

/--
The last segment of the name of a symbol.
-/
def shortName (entry : SymbolEntry) : String :=
  Text.lastSegment entry.name

/--
Whether a name is that of a symbol or ends in it behind a dot.
-/
def matchesSuffix (entry : SymbolEntry) (name : String) : Bool :=
  name == entry.name || Text.endsWith name ("." ++ entry.name)

/--
Whether a symbol is of a kind, where no kind stands for all of them.
-/
def isOfKind (entry : SymbolEntry) (kind : Option SymbolKind) : Bool :=
  match kind with
  | none => true
  | some kind => entry.kind == kind

/--
The entry for a name given in the settings. An asterisk in front makes it match as a suffix.
-/
def ofSetting (name : String) (tags : List SymbolTag) : SymbolEntry :=
  match name.toList with
  | '*' :: '.' :: rest =>
    { name := Symbol.normalize (String.ofList rest)
      kind := .method
      tags := tags
      isSuffix := true }
  | _ => { name := Symbol.normalize name, kind := .method, tags := tags }

end SymbolEntry

end ThreadLint
