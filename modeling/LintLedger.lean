import LintLedger.Main
import LintLedger.Proofs.Intake
import LintLedger.Proofs.Text.Blank
import LintLedger.Proofs.Text.Digits
import LintLedger.Proofs.Text.Order
import LintLedger.Proofs.Text.Split
import LintLedger.Proofs.Location.Host
import LintLedger.Proofs.Location.Percent
import LintLedger.Proofs.Report.Grammar
import LintLedger.Proofs.Location.Spelling
import LintLedger.Proofs.Session.Analysis
import LintLedger.Proofs.Session.Exchange
import LintLedger.Proofs.Session.View
import LintLedger.Proofs.Session.Close
import LintLedger.Proofs.Report.Lines
import LintLedger.Proofs.Intake.Parts
import LintLedger.Proofs.Report.Writing
import LintLedger.Proofs.Ledger.History
import LintLedger.Proofs.Session.History
import LintLedger.Proofs.Session.Foreign
import LintLedger.Proofs.Session.Publications
import LintLedger.Proofs.Session.Separation
import LintLedger.Proofs.Session.Versions
import LintLedger.Proofs.Files
import LintLedger.Proofs.Session.Reload
import LintLedger.Proofs.Session.Restart
import LintLedger.Proofs.Text.Utf8
import LintLedger.Proofs.CommandLine.Check
import LintLedger.Proofs.CommandLine.Stale
import LintLedger.Proofs.CommandLine.Order
import LintLedger.Proofs.CommandLine.Agreement
import LintLedger.Proofs.Session.OwnDocument
import LintLedger.Proofs.Intake.Successive
import LintLedger.Proofs.CommandLine.Status
import LintLedger.Proofs.CommandLine.Listing
import LintLedger.Proofs.CommandLine.NewSettings
import LintLedger.Proofs.Json.Decode
import LintLedger.Proofs.Settings.Schema
import LintLedger.Proofs.Json.Abridged
import LintLedger.Proofs.Settings.Written
import LintLedger.Proofs.Ledger.LastWriter
import LintLedger.Proofs.Ledger.Edits
import LintLedger.Proofs.Session.Reopening
import LintLedger.Proofs.Session.Wording
import LintLedger.Proofs.Json.Spread
import LintLedger.Proofs.Ledger.Written
import LintLedger.Proofs.Intake.Noise
import LintLedger.Proofs.Intake.Returns
import LintLedger.Proofs.Intake.Accounts
import LintLedger.Proofs.Pattern.Matcher
import LintLedger.Proofs.Pattern.Ordered
import LintLedger.Proofs.Pattern.Literal
import LintLedger.Proofs.Settings.Classifier
import LintLedger.Proofs.Settings.Keyword
