import ParcelStatus.Main
import ParcelStatus.Proofs.Outcome
import ParcelStatus.Proofs.Text.Lines
import ParcelStatus.Proofs.Dhl.Pass
import ParcelStatus.Proofs.Tracking.Outcome
import ParcelStatus.Proofs.Dhl.Concatenation
import ParcelStatus.Proofs.Text.Phrase
import ParcelStatus.Proofs.Tracking.Chronology
import ParcelStatus.Proofs.Tracking.DateOrder
import ParcelStatus.Proofs.Tracking.Dates
import ParcelStatus.Proofs.Dhl.Checkpoints
import ParcelStatus.Proofs.Tracking.Faults
import ParcelStatus.Proofs.Tracking.Latest
import ParcelStatus.Proofs.Fedex.Choice
import ParcelStatus.Proofs.Tracking.FeedOrder
import ParcelStatus.Proofs.Json.Texts
import ParcelStatus.Proofs.Fedex.Statement
import ParcelStatus.Proofs.Fedex.Precedence
import ParcelStatus.Proofs.Json.Alike
import ParcelStatus.Proofs.Text.Spelling
import ParcelStatus.Proofs.Tracking.Verdict
import ParcelStatus.Proofs.Fedex.Spelling
import ParcelStatus.Proofs.Fedex.SpellingLimits
import ParcelStatus.Proofs.Text.Margins
import ParcelStatus.Proofs.Upload.Margins
import ParcelStatus.Proofs.Calendar.Days
import ParcelStatus.Proofs.Text.Digits
import ParcelStatus.Proofs.Upload.CommitDate
import ParcelStatus.Proofs.Upload.Shipments
import ParcelStatus.Proofs.Tracking.Ties
import ParcelStatus.Proofs.Calendar.Numbering
import ParcelStatus.Proofs.Calendar.Stamp
import ParcelStatus.Proofs.Calendar.Recognition
import ParcelStatus.Proofs.Calendar.Readback
import ParcelStatus.Proofs.Tracking.Storage
import ParcelStatus.Proofs.Dhl.Ingestion
import ParcelStatus.Proofs.Text.Columns
import ParcelStatus.Proofs.Dhl.Rows
import ParcelStatus.Proofs.Dhl.Table
import ParcelStatus.Proofs.Dhl.Remarks
import ParcelStatus.Proofs.Fedex.Decision
import ParcelStatus.Proofs.Tracking.Consistency
import ParcelStatus.Proofs.Json.Strays
import ParcelStatus.Proofs.Tracking.Strays
import ParcelStatus.Proofs.Log.Targets
import ParcelStatus.Proofs.Command.Detection
import ParcelStatus.Proofs.Fedex.Eventless
import ParcelStatus.Proofs.Log.Thresholds
import ParcelStatus.Proofs.Settings.Precedence
import ParcelStatus.Proofs.Upload.BookCells
import ParcelStatus.Proofs.Upload.WrittenBook
import ParcelStatus.Proofs.Tracking.Filters
import ParcelStatus.Proofs.Fedex.Shapes
import ParcelStatus.Proofs.Dhl.Codeless
import ParcelStatus.Proofs.Text.Words
import ParcelStatus.Proofs.Number.Numeral
import ParcelStatus.Proofs.Dhl.Consignment
import ParcelStatus.Proofs.Dhl.Addresses
import ParcelStatus.Proofs.Dhl.Written
import ParcelStatus.Proofs.Dhl.Words
import ParcelStatus.Proofs.Tracking.Directions
import ParcelStatus.Proofs.Upload.Headers
import ParcelStatus.Proofs.Upload.DateText
import ParcelStatus.Proofs.Fedex.CodePair
import ParcelStatus.Proofs.Disk.Names
import ParcelStatus.Proofs.Upload.OutputPaths
import ParcelStatus.Proofs.Upload.CommitTime
import ParcelStatus.Proofs.Text.Pieces
import ParcelStatus.Proofs.Dhl.Places
import ParcelStatus.Proofs.Dhl.NormalForm
