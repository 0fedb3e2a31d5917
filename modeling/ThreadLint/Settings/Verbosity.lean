import ThreadLint.Fault
import ThreadLint.Text.Segment

/-!
This module contains how much a run tells about itself beside its findings.
-/

namespace ThreadLint

/--
How much a run tells about itself.
-/
inductive Verbosity where
  | quiet
  | normal
  | verbose
  deriving DecidableEq, Repr, Inhabited

namespace Verbosity

/--
All settings, from the least to the most talkative one.
-/
def all : List Verbosity :=
  [quiet, normal, verbose]

/--
The word for a setting.
-/
def name : Verbosity → String
  | quiet => "quiet"
  | normal => "normal"
  | verbose => "verbose"

/--
The lowest level of the records that are logged.
-/
def level : Verbosity → Nat
  | quiet => 40
  | normal => 30
  | verbose => 10

/--
The setting with exactly that word.
-/
def ofWord? (word : String) : Option Verbosity :=
  all.find? fun verbosity => verbosity.name == word

/--
The lowest level of the records that are logged under a setting that is given as a word.
-/
def levelOf (word : String) : Except BadValue Nat :=
  match ofWord? word with
  | some verbosity => .ok verbosity.level
  | none => .error (.verbosity word)

/--
The setting that two switches ask for. The one for less wins.
-/
def ofFlags (isVerbose isQuiet : Bool) : Verbosity :=
  if isQuiet then quiet else if isVerbose then verbose else normal

/--
The name of the logger of the whole program.
-/
def rootLogger : String :=
  "hostguard"

/--
The name of the logger of a part of the program. All of them stand below the one of the program.
-/
def loggerName (part : Option String) : String :=
  match part with
  | none => rootLogger
  | some part => if Text.startsWith part rootLogger then part else rootLogger ++ "." ++ part

end Verbosity

end ThreadLint
