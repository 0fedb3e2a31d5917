import ThreadLint.Text.Case

/-!
This module contains how findings are told apart: by how severe they are and by the category of their
rules.
-/

namespace ThreadLint

/-! ### Categories -/

/--
The area that a rule belongs to. Categories are switched on and off as a whole.
-/
inductive Category where
  | performance
  | reliability
  | threading
  | design
  | theming
  deriving DecidableEq, Repr, Inhabited

namespace Category

/--
All categories.
-/
def all : List Category :=
  [performance, reliability, threading, design, theming]

/--
The word for a category in settings and records.
-/
def name : Category → String
  | performance => "Performance"
  | reliability => "Reliability"
  | threading => "Threading"
  | design => "Design"
  | theming => "Theming"

end Category

/-! ### Severities -/

/--
How bad a finding is.
-/
inductive Severity where
  | error
  | warning
  | info
  deriving DecidableEq, Repr, Inhabited

namespace Severity

/--
All severities, the worst first.
-/
def all : List Severity :=
  [error, warning, info]

/--
The word for a severity in settings and records.
-/
def name : Severity → String
  | error => "error"
  | warning => "warning"
  | info => "info"

/--
The word for a severity in listings.
-/
def label (severity : Severity) : String :=
  Text.capitalize severity.name

/--
The place of a severity in the order from mild to bad.
-/
def rank : Severity → Nat
  | error => 2
  | warning => 1
  | info => 0

/--
Whether a severity is as bad as a threshold or worse.
-/
def atLeast (severity threshold : Severity) : Bool :=
  decide (threshold.rank ≤ severity.rank)

end Severity

end ThreadLint
