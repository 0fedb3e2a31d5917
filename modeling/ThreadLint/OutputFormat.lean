/-!
This module contains the forms in which a run reports its findings.
-/

namespace ThreadLint

/--
The form in which a run reports its findings: for people, as records, or as annotations of a change
under review.
-/
inductive OutputFormat where
  | human
  | json
  | github
  deriving DecidableEq, Repr, Inhabited

namespace OutputFormat

/--
All forms.
-/
def all : List OutputFormat :=
  [human, json, github]

/--
The word for a form of reports.
-/
def name : OutputFormat → String
  | human => "human"
  | json => "json"
  | github => "github"

end OutputFormat

end ThreadLint
