import ReleaseSupport.Catalog.Table
import ReleaseSupport.Main
import ReleaseSupport.Proofs.Calendar.Age
import ReleaseSupport.Proofs.Calendar.AgeOrder
import ReleaseSupport.Proofs.Calendar.Grammar
import ReleaseSupport.Proofs.Calendar.Growth
import ReleaseSupport.Proofs.Calendar.Seniority
import ReleaseSupport.Proofs.Calendar.Stamp
import ReleaseSupport.Proofs.Calendar.WholeDays
import ReleaseSupport.Proofs.Calendar.Words
import ReleaseSupport.Proofs.Catalog.Contents
import ReleaseSupport.Proofs.Catalog.Fields
import ReleaseSupport.Proofs.Catalog.History
import ReleaseSupport.Proofs.Catalog.Publication
import ReleaseSupport.Proofs.Catalog.Rows
import ReleaseSupport.Proofs.Catalog.Table
import ReleaseSupport.Proofs.Catalog.Truncation
import ReleaseSupport.Proofs.Catalog.VersionedLines
import ReleaseSupport.Proofs.CommandLine.Options
import ReleaseSupport.Proofs.CommandLine.Spelling
import ReleaseSupport.Proofs.Image.Span
import ReleaseSupport.Proofs.Json.Grammar
import ReleaseSupport.Proofs.Json.Printed
import ReleaseSupport.Proofs.Json.Reader
import ReleaseSupport.Proofs.Pairing
import ReleaseSupport.Proofs.Policy.ByLine
import ReleaseSupport.Proofs.Policy.Expiry
import ReleaseSupport.Proofs.Policy.Listed
import ReleaseSupport.Proofs.Policy.Publication
import ReleaseSupport.Proofs.Policy.Truncation
import ReleaseSupport.Proofs.Policy.Verdicts
import ReleaseSupport.Proofs.Program.Presentation
import ReleaseSupport.Proofs.Program.Range
import ReleaseSupport.Proofs.Refusal
import ReleaseSupport.Proofs.Report.All
import ReleaseSupport.Proofs.Report.Document
import ReleaseSupport.Proofs.Report.Legible
import ReleaseSupport.Proofs.Report.Outcome
import ReleaseSupport.Proofs.Report.Repository
import ReleaseSupport.Proofs.Report.Room
import ReleaseSupport.Proofs.Report.Shows
import ReleaseSupport.Proofs.Report.Stripped
import ReleaseSupport.Proofs.Text.Numeral
import ReleaseSupport.Proofs.Text.Pieces
import ReleaseSupport.Proofs.Text.Separated
import ReleaseSupport.Proofs.Version.Tag
