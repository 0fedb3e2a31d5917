import ThreadLint.Main
import ThreadLint.Proofs.AwaitContext
import ThreadLint.Proofs.Binding.Agreement
import ThreadLint.Proofs.Bounds
import ThreadLint.Proofs.Diff
import ThreadLint.Proofs.Disk
import ThreadLint.Proofs.Disk.Collect
import ThreadLint.Proofs.DryRun
import ThreadLint.Proofs.Ending
import ThreadLint.Proofs.Grammar.Precedence
import ThreadLint.Proofs.Grammar.Progress
import ThreadLint.Proofs.Grammar.Trial
import ThreadLint.Proofs.Kept
import ThreadLint.Proofs.Layout
import ThreadLint.Proofs.LineEnd
import ThreadLint.Proofs.Presence
import ThreadLint.Proofs.Rebased
import ThreadLint.Proofs.Report.Annotation
import ThreadLint.Proofs.Restriction
import ThreadLint.Proofs.Rule.Name
import ThreadLint.Proofs.Settings.Precedence
import ThreadLint.Proofs.Settled
import ThreadLint.Proofs.Status
import ThreadLint.Proofs.Substitution
import ThreadLint.Proofs.Suppression
import ThreadLint.Proofs.Symbol.Lookup
import ThreadLint.Proofs.Token.ByteOrder
import ThreadLint.Proofs.Token.Literal
import ThreadLint.Proofs.Token.WellNested
import ThreadLint.Proofs.Totality
import ThreadLint.Proofs.Tree.Block
import ThreadLint.Proofs.Unknown
