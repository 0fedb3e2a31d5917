import ThreadLint.Severity
import ThreadLint.Decimal.Numeral
import ThreadLint.Json
import ThreadLint.Symbol.Tag
import ThreadLint.Text.Utf8

/-!
This module contains everything that can go wrong: for each failure its cause, and one function that
words it. `Fault.code`, `Fault.message` and `Fault.details` say how a fault is reported.
-/

namespace ThreadLint

/--
A place in a text: line and column, both counted from one.
-/
structure Position where
  line : Nat
  column : Nat
  deriving DecidableEq, Repr, Inhabited

/--
A place as it stands in messages.
-/
def Position.text (position : Position) : String :=
  toString position.line ++ ":" ++ toString position.column

/--
The stable codes of faults. The hundreds say whose fault it is: the input's, the settings', a
fix's, the file system's or the rules' own.
-/
inductive FaultCode where
  | malformedInput
  | recoveredInput
  | badSetting
  | duplicateRule
  | malformedRule
  | unknownRule
  | unparsableFix
  | unreadableFile
  | unwritableFile
  | spanOutside
  | badEdit
  | inconsistentRule
  deriving DecidableEq, Repr, Inhabited

namespace FaultCode

/--
All codes.
-/
def all : List FaultCode :=
  [malformedInput, recoveredInput, badSetting, duplicateRule, malformedRule, unknownRule,
   unparsableFix, unreadableFile, unwritableFile, spanOutside, badEdit, inconsistentRule]

/--
The written form of a code.
-/
def name : FaultCode → String
  | malformedInput => "HG100"
  | recoveredInput => "HG101"
  | badSetting => "HG200"
  | duplicateRule => "HG201"
  | malformedRule => "HG202"
  | unknownRule => "HG203"
  | unparsableFix => "HG300"
  | unreadableFile => "HG400"
  | unwritableFile => "HG401"
  | spanOutside => "HG900"
  | badEdit => "HG901"
  | inconsistentRule => "HG902"

/--
Whether a fault with this code concerns one file and leaves the rest of the run alone.
-/
def isRecoverable : FaultCode → Bool
  | malformedInput | recoveredInput | unparsableFix | unreadableFile | unwritableFile => true
  | badSetting | duplicateRule | malformedRule | unknownRule | spanOutside | badEdit
  | inconsistentRule => false

end FaultCode

/--
Why a text has no syntax tree.
-/
inductive SyntaxReason where
  | unterminatedComment
  | unterminatedString
  | unterminatedRawString
  | unterminatedCharacter
  | unexpectedCharacter (c : Char)
  | strayCloser (closer : String)
  | mismatchedCloser (opener : String) (openedAt : Position) (closer : String)
  deriving DecidableEq, Repr, Inhabited

/--
The wording of a syntax fault.
-/
def SyntaxReason.message : SyntaxReason → String
  | unterminatedComment => "unterminated block comment"
  | unterminatedString => "unterminated string literal"
  | unterminatedRawString => "unterminated raw string literal"
  | unterminatedCharacter => "unterminated character literal"
  | unexpectedCharacter c => "unexpected character " ++ Text.quoted c.toString
  | strayCloser closer => "unexpected " ++ Text.quoted closer ++ " with no matching opener"
  | mismatchedCloser opener openedAt closer =>
    "mismatched delimiter: " ++ Text.quoted opener ++ " opened at " ++ openedAt.text ++
      " closed by " ++ Text.quoted closer

/--
A text without a syntax tree: why, and where that shows.
-/
structure SyntaxFault where
  reason : SyntaxReason
  offset : Nat
  position : Position
  path : Option String := none
  deriving DecidableEq, Repr, Inhabited

/--
The reason and place of a syntax fault on one line.
-/
def SyntaxFault.summary (fault : SyntaxFault) : String :=
  fault.reason.message ++ " at " ++ fault.position.text

/--
What is wrong with a message template, or with the layout that one of its fields asks for.
-/
inductive TemplateProblem where
  | loneOpening
  | loneClosing
  | missingClosing
  | nestedOpening
  | unmatchedOpening
  | endInConversion
  | textAfterConversion
  | nestedTooDeep
  | missingBracket
  | textAfterBracket
  | emptyStep
  | unknownConversion (c : Char)
  | tooManyDigits
  | missingPrecision
  | invalidLayout (layout : String)
  | twoSeparators
  | separator (mark type : Char)
  | unknownType (c : Char)
  | sign
  | space
  | negativeZero
  | alternateForm
  | numericAlignment
  deriving DecidableEq, Repr, Inhabited

/--
The wording of a problem with a message template.
-/
def TemplateProblem.message : TemplateProblem → String
  | loneOpening => "Single '\x7b' encountered in format string"
  | loneClosing => "Single '\x7d' encountered in format string"
  | missingClosing => "expected '\x7d' before end of string"
  | nestedOpening => "unexpected '\x7b' in field name"
  | unmatchedOpening => "unmatched '\x7b' in format spec"
  | endInConversion => "end of string while looking for conversion specifier"
  | textAfterConversion => "expected ':' after conversion specifier"
  | nestedTooDeep => "Max string recursion exceeded"
  | missingBracket => "Missing ']' in format string"
  | textAfterBracket => "Only '.' or '[' may follow ']' in format field specifier"
  | emptyStep => "Empty attribute in format string"
  | unknownConversion c => "Unknown conversion specifier " ++ mark 126 c
  | tooManyDigits => "Too many decimal digits in format string"
  | missingPrecision => "Format specifier missing precision"
  | invalidLayout layout => "Invalid format specifier '" ++ layout ++ "' for object of type 'str'"
  | twoSeparators => "Cannot specify both ',' and '_'."
  | separator between type =>
    "Cannot specify '" ++ between.toString ++ "' with '" ++ mark 127 type ++ "'."
  | unknownType c => "Unknown format code '" ++ mark 127 c ++ "' for object of type 'str'"
  | sign => "Sign not allowed in string format specifier"
  | space => "Space not allowed in string format specifier"
  | negativeZero => "Negative zero coercion (z) not allowed in string format specifier"
  | alternateForm => "Alternate form (#) not allowed in string format specifier"
  | numericAlignment => "'=' alignment not allowed in string format specifier"
where
  /-- A character as itself, if its code is above that of the blank and not above a last one. -/
  mark (last : Nat) (c : Char) : String :=
    if 32 < c.toNat ∧ c.toNat ≤ last then c.toString else "\\x" ++ Text.hexadecimal 1 c.toNat

/--
A word outside the vocabulary in which it was looked up, or a number outside the range in which
numbers can be read, written or converted.
-/
inductive BadValue where
  | severity (word : String)
  | category (word : String)
  | tag (word : String)
  | code (word : String)
  | verbosity (word : String)
  | reportMode (word : String)
  | switch (word : String)
  | integer (word : String) (problem : Decimal.IntegerProblem)
  | decimal (word : String)
  | tooLong
  | notANumber
  | nullCharacter
  | pair (index length : Nat)
  | template (problem : TemplateProblem)
  deriving DecidableEq, Repr, Inhabited

/--
The wording of a bad value.
-/
def BadValue.message : BadValue → String
  | severity word =>
    "unknown severity " ++ Text.quoted word ++ choice (Severity.all.map Severity.name)
  | category word =>
    "unknown category " ++ Text.quoted word ++ choice (Category.all.map Category.name)
  | tag word =>
    "unknown symbol tag " ++ Text.quoted word ++ choice (SymbolTag.all.map SymbolTag.name)
  | code word => Text.quoted word ++ " is not a valid ErrorCode"
  | verbosity word => "Unknown verbosity '" ++ word ++ "'; expected one of quiet, normal, verbose"
  | reportMode word =>
    "Unknown formatter: " ++ Text.quoted word ++ ". Choose from: github, human, json, structured"
  | switch word => "expected true/false, got '" ++ word ++ "'"
  | integer word .malformed =>
    "invalid literal for int() with base 10: " ++
      String.ofList ((Text.quoted word).toList.take 200)
  | integer _ (.tooLong digits) => tooManyDigits (": value has " ++ toString digits ++ " digits")
  | decimal word => "could not convert string to float: " ++ Text.quoted word
  | tooLong => tooManyDigits ""
  | notANumber => "cannot convert float NaN to integer"
  | nullCharacter => "embedded null byte"
  | pair index length =>
    "dictionary update sequence element #" ++ toString index ++ " has length " ++ toString length ++
      "; 2 is required"
  | template problem => problem.message
where
  choice (words : List String) : String :=
    " (choose from " ++ ", ".intercalate words ++ ")"
  tooManyDigits (count : String) : String :=
    "Exceeds the limit (" ++ toString Decimal.digitLimit ++
      " digits) for integer string conversion" ++ count ++
      "; use sys.set_int_max_str_digits() to increase the limit"

/--
What is wrong with a setting.
-/
inductive SettingProblem where
  | notAList
  | notATable
  | emptySymbol
  | bad (value : BadValue)
  | unknownMode
  | unknownOutputFormat
  | unknownVerbosity
  | tooFewWorkers
  | extensionWithoutDot
  | notPositive
  | missingFile
  | unknownKey
  | malformedFile
  | isDirectory (path : String)
  deriving DecidableEq, Repr, Inhabited

/--
The wording of a problem with a setting.
-/
def SettingProblem.message : SettingProblem → String
  | notAList => "expected a list of strings"
  | notATable => "expected a table of name = [tags]"
  | emptySymbol => "each symbol needs a name and at least one tag"
  | bad value => value.message
  | unknownMode => "expected one of report, fix"
  | unknownOutputFormat => "expected one of human, json, github"
  | unknownVerbosity => "expected one of quiet, normal, verbose"
  | tooFewWorkers => "must be at least 1"
  | extensionWithoutDot => "extensions start with '.'"
  | notPositive => "must be positive"
  | missingFile => "file not found"
  | unknownKey => "unknown configuration key"
  | malformedFile => "malformed TOML"
  | isDirectory path => "[Errno 21] Is a directory: " ++ Text.quoted path

/--
What is wrong with a definition of rules or a selection of them.
-/
inductive RuleProblem where
  | badId (id : String)
  | noCategory (id : String)
  | noSeverity (id : String)
  | noNodeKinds (id : String)
  | noMatcher (id : String)
  | noFixTemplate (id : String)
  | emptyMessage (id : String)
  | malformedMessage (id : String) (problem : TemplateProblem)
  | duplicates (first : String) (others : List String)
  | unknown (first : String) (others : List String)
  deriving DecidableEq, Repr, Inhabited

namespace RuleProblem

/--
The rule that a problem is about, or the first of them.
-/
def id : RuleProblem → String
  | badId id | noCategory id | noSeverity id | noNodeKinds id | noMatcher id | noFixTemplate id
  | emptyMessage id | malformedMessage id _ | duplicates id _ | unknown id _ => id

/--
The code of a problem with rules.
-/
def code : RuleProblem → FaultCode
  | duplicates .. => .duplicateRule
  | unknown .. => .unknownRule
  | badId _ | noCategory _ | noSeverity _ | noNodeKinds _ | noMatcher _ | noFixTemplate _
  | emptyMessage _ | malformedMessage .. => .malformedRule

/--
The wording of a problem with rules.
-/
def message : RuleProblem → String
  | badId id => "invalid rule id " ++ Text.quoted id
  | noCategory id => "rule " ++ id ++ " has no valid category"
  | noSeverity id => "rule " ++ id ++ " has no valid severity"
  | noNodeKinds id => "rule " ++ id ++ " declares no node kinds"
  | noMatcher id => "rule " ++ id ++ " matcher is not callable"
  | noFixTemplate id => "rule " ++ id ++ " fix template is not callable"
  | emptyMessage id => "rule " ++ id ++ " has an empty message template"
  | malformedMessage id problem =>
    "rule " ++ id ++ " message template is malformed: " ++ problem.message
  | duplicates first others => "duplicate rule id(s): " ++ ", ".intercalate (first :: others)
  | unknown first others => "unknown rule id(s): " ++ ", ".intercalate (first :: others)

end RuleProblem

/--
A field of a message template for which a rule gave no value.
-/
inductive MissingField where
  | named (name : String)
  | numbered (index : Nat)
  | beyondText
  | beyondSeries
  deriving DecidableEq, Repr, Inhabited

/--
A field without a value, as it stands in messages.
-/
def MissingField.text : MissingField → String
  | named name => Text.quoted name
  | numbered index =>
    "Replacement index " ++ toString index ++ " out of range for positional args tuple"
  | beyondText => "string index out of range"
  | beyondSeries => "tuple index out of range"

/--
A promise about findings that a rule broke.
-/
inductive BrokenPromise where
  | badSpan (start stop : Int)
  | noEdits
  | overlappingEdits (description : String)
  | missingField (rule : String) (field : MissingField)
  | spanOutside (rule : String) (start stop length : Nat)
  | editOutsideSource (rule : String) (start stop : Int) (length : Nat)
  | editOutsideText (rule : String) (start stop : Int)
  deriving DecidableEq, Repr, Inhabited

namespace BrokenPromise

/--
The code of a broken promise.
-/
def code : BrokenPromise → FaultCode
  | badSpan .. | missingField .. => .inconsistentRule
  | noEdits | overlappingEdits _ | editOutsideSource .. | editOutsideText .. => .badEdit
  | spanOutside .. => .spanOutside

/--
A range of offsets as it stands in messages.
-/
def range (start stop : Int) : String :=
  "[" ++ toString start ++ ", " ++ toString stop ++ ")"

/--
The wording of a broken promise.
-/
def message : BrokenPromise → String
  | badSpan start stop => "invalid span " ++ range start stop
  | noEdits => "fix proposal has no edits"
  | overlappingEdits description => "overlapping edits in fix proposal " ++ Text.quoted description
  | missingField rule field =>
    "rule " ++ rule ++ " produced no value for message field " ++ field.text
  | spanOutside rule start stop length =>
    rule ++ " reported span " ++ range start stop ++ " outside a text of length " ++ toString length
  | editOutsideSource rule start stop length =>
    rule ++ " proposed edit " ++ range start stop ++ " outside a text of length " ++ toString length
  | editOutsideText rule start stop =>
    rule ++ " fix edits " ++ range start stop ++ " outside the text"

end BrokenPromise

/--
Why a file cannot be read or written. A path with a null character is not even looked for.
-/
inductive FileObstacle where
  | nullCharacter
  | notFound
  | tooLarge (size limit : Int)
  | encoding (problem : Text.DecodingProblem)
  | isDirectory (path : String)
  | notADirectory (path : String)
  | noSuchFile (path : String)
  | nameTooLong (path : String)
  deriving DecidableEq, Repr, Inhabited

/--
The wording of an obstacle.
-/
def FileObstacle.message : FileObstacle → String
  | nullCharacter => BadValue.nullCharacter.message
  | notFound => "file not found"
  | tooLarge size limit =>
    "file is " ++ toString size ++ " bytes, above the " ++ toString limit ++ " byte limit"
  | encoding problem => "Encoding error: " ++ problem.message
  | isDirectory path => "OS error: [Errno 21] Is a directory: " ++ Text.quoted path
  | notADirectory path => "OS error: [Errno 20] Not a directory: " ++ Text.quoted path
  | noSuchFile path => "OS error: [Errno 2] No such file or directory: " ++ Text.quoted path
  | nameTooLong path => "OS error: [Errno 36] File name too long: " ++ Text.quoted path

/--
A file that cannot be read or written.
-/
structure AccessFault where
  path : String
  obstacle : FileObstacle
  writing : Bool := false
  deriving DecidableEq, Repr, Inhabited

/--
The wording of an access fault, without its reason.
-/
def AccessFault.message (fault : AccessFault) : String :=
  "Cannot " ++ (if fault.writing then "write" else "access") ++ " file: " ++ fault.path

/--
A detail of a fault: a text, a number as it is written, or whether something is so.
-/
inductive Detail where
  | text (text : String)
  | number (written : String)
  | switch (isOn : Bool)
  deriving DecidableEq, Repr, Inhabited

namespace Detail

/--
A detail as messages show it.
-/
def shown : Detail → String
  | text words => words
  | number written => written
  | switch isOn => if isOn then "True" else "False"

/--
A detail as a JSON value.
-/
def json : Detail → Json
  | text words => .text words
  | number "inf" => .number "Infinity"
  | number "-inf" => .number "-Infinity"
  | number "nan" => .number "NaN"
  | number written => .number written
  | switch isOn => .bool isOn

end Detail

/--
Everything that can go wrong.
-/
inductive Fault where
  /-- The text has no syntax tree. -/
  | syntaxError (fault : SyntaxFault)
  /-- A file cannot be read or written. -/
  | access (fault : AccessFault)
  /-- A setting has a value that it may not have. -/
  | setting (key : Detail) (value : String) (problem : SettingProblem)
  /-- The rules cannot be loaded. -/
  | rules (problem : RuleProblem)
  /-- The text with all its fixes would have no syntax tree. -/
  | fixConflict (fault : SyntaxFault) (path : String)
  /-- A rule broke a promise about its findings. -/
  | promise (broken : BrokenPromise) (path : Option String)
  /-- A word or number is outside its vocabulary or range. -/
  | badValue (problem : BadValue)
  /-- An infinite number has no whole part. -/
  | infinite
  /-- The bytes of a settings file are no text. -/
  | undecodable (problem : Text.DecodingProblem)
  /-- A path is looked for that is longer than paths can be. -/
  | longPath
  /-- A value is of a sort that cannot be used where it stands. -/
  | wrongType
  /-- A rule looked into an expression that has nothing inside. -/
  | emptyOperand
  /-- A message template asks a value for a member that it does not have. -/
  | noMember
  /-- The target in front of an attribute is not followed by an attribute. -/
  | attributeTarget
  deriving DecidableEq, Repr, Inhabited

namespace Fault

/--
The code of a fault that has one.
-/
def code : Fault → Option FaultCode
  | syntaxError _ => some .malformedInput
  | access fault => some (if fault.writing then .unwritableFile else .unreadableFile)
  | setting .. => some .badSetting
  | rules problem => some problem.code
  | fixConflict .. => some .unparsableFix
  | promise broken _ => some broken.code
  | badValue _ | infinite | undecodable _ | longPath | wrongType | emptyOperand | noMember
  | attributeTarget => none

/--
The reason in a fix conflict: what is wrong with the fixed text.
-/
def conflictReason (fault : SyntaxFault) : String :=
  "fixed text no longer parses (" ++ fault.summary ++ ")"

/--
The wording of a fault, without its details.
-/
def message : Fault → String
  | syntaxError fault =>
    let place := match fault.path with
      | some path =>
        if path.isEmpty then fault.position.text else path ++ ":" ++ fault.position.text
      | none => fault.position.text
    "Parse error at " ++ place ++ ": " ++ fault.reason.message
  | access fault => fault.message
  | setting key value _ => "Invalid configuration for " ++ key.shown ++ ": " ++ value
  | rules problem => "Cannot load rule set: " ++ problem.message
  | fixConflict fault _ => "Fixes rolled back: " ++ conflictReason fault
  | promise broken _ => "Internal invariant violated: " ++ broken.message
  | badValue problem => problem.message
  | infinite => "cannot convert float infinity to integer"
  | undecodable problem => problem.message
  | longPath => "a path is too long"
  | wrongType => "a value is of a sort that cannot be used here"
  | emptyOperand => "an expression has nothing inside"
  | noMember => "a value has no such member"
  | attributeTarget => "an attribute target is not followed by an attribute"

/--
The details of a fault: pairs of a name and a value, in the order in which they are shown.
-/
def details : Fault → List (String × Detail)
  | syntaxError fault =>
    [("line", .text (toString fault.position.line)),
     ("column", .text (toString fault.position.column))]
  | access fault => [("filepath", .text fault.path), reason fault.obstacle.message]
  | setting key value problem => [("key", key), ("value", .text value), reason problem.message]
  | rules problem => [reason problem.message, ("rule_id", .text problem.id)]
  | fixConflict fault path => reason (conflictReason fault) :: pathDetail (some path)
  | promise broken path => reason broken.message :: pathDetail path
  | badValue _ | infinite | undecodable _ | longPath | wrongType | emptyOperand | noMember
  | attributeTarget => []
where
  reason (text : String) : String × Detail :=
    ("reason", .text text)
  pathDetail : Option String → List (String × Detail)
    | some path => if path.isEmpty then [] else [("path", .text path)]
    | none => []

/--
A fault on one line: its wording, and its details in brackets.
-/
def text (fault : Fault) : String :=
  match fault.details with
  | [] => fault.message
  | details =>
    fault.message ++ " (" ++ ", ".intercalate (details.map fun (k, v) => k ++ "=" ++ v.shown) ++
      ")"

/--
The fault that an access fault is. A null character in a path is a bad value wherever the path
leads.
-/
def ofAccess (fault : AccessFault) : Fault :=
  if fault.obstacle = .nullCharacter then .badValue .nullCharacter else .access fault

/--
Whether a fault concerns one file and leaves the rest of the run alone.
-/
def isRecoverable (fault : Fault) : Bool :=
  fault.code.any FaultCode.isRecoverable

end Fault

end ThreadLint
