import MeterTelegram.Main
import MeterTelegram.SelfCheck
import MeterTelegram.Proofs.Buffer
import MeterTelegram.Proofs.Counter
import MeterTelegram.Proofs.PackedDate
import MeterTelegram.Proofs.Journal
import MeterTelegram.Proofs.Layout.Consistency
import MeterTelegram.Proofs.Layout.Verdict
import MeterTelegram.Proofs.Layout.RoundTrip
import MeterTelegram.Proofs.Layout.Outcome
import MeterTelegram.Proofs.Layout.Locality
import MeterTelegram.Proofs.Session
import MeterTelegram.Proofs.Registry
import MeterTelegram.Proofs.Catalogue
import MeterTelegram.Proofs.Frame
import MeterTelegram.Proofs.Layout.Access
import MeterTelegram.Proofs.Run.Telegram
import MeterTelegram.Proofs.Hex
import MeterTelegram.Proofs.Intake
import MeterTelegram.Proofs.Registry.Index
import MeterTelegram.Proofs.Registry.Dispatch
import MeterTelegram.Proofs.Layout.Extent
import MeterTelegram.Proofs.DeclaredSize
import MeterTelegram.Proofs.Catalogue.Registration
import MeterTelegram.Proofs.Catalogue.SingleDecoder
import MeterTelegram.Proofs.ConfigFile.Reading
import MeterTelegram.Proofs.ConfigFile.Lines
import MeterTelegram.Proofs.ConfigFile.LineByLine
import MeterTelegram.Proofs.ConfigFile.Overreach
import MeterTelegram.Proofs.Session.Delivery
import MeterTelegram.Proofs.CommandLine
import MeterTelegram.Proofs.Run.Output
import MeterTelegram.Proofs.CommandLine.Division
import MeterTelegram.Proofs.CommandLine.Override
import MeterTelegram.Proofs.CommandLine.Invariant
import MeterTelegram.Proofs.Run.Composition
import MeterTelegram.Proofs.Json
import MeterTelegram.Proofs.Binary64
import MeterTelegram.Proofs.Numeral
import MeterTelegram.Proofs.Catalogue.Decoded
import MeterTelegram.Proofs.Calendar
import MeterTelegram.Proofs.Json.Visible
import MeterTelegram.Proofs.Report.Line
import MeterTelegram.Proofs.CommandLine.LogOptions
import MeterTelegram.Proofs.Run.LogIndependence
import MeterTelegram.Proofs.Calendar.Gregorian
import MeterTelegram.Proofs.Calendar.Days
import MeterTelegram.Proofs.PackedDate.BrokenDown
import MeterTelegram.Proofs.PackedDate.YearInference
import MeterTelegram.Proofs.Layout.Check
import MeterTelegram.Proofs.Layout.Rules
import MeterTelegram.Proofs.Hex.Language
import MeterTelegram.Proofs.Frame.Receipt
import MeterTelegram.Proofs.TextLines
import MeterTelegram.Proofs.TelegramFile.Pushing
import MeterTelegram.Proofs.TelegramFile
import MeterTelegram.Proofs.Binary64.Nearest
import MeterTelegram.Proofs.Numeral.Rounding
import MeterTelegram.Proofs.Numeral.Reading
import MeterTelegram.Proofs.Numeral.Length
import MeterTelegram.Proofs.Numeral.Shortest
import MeterTelegram.Proofs.Binary64.RelativeError
import MeterTelegram.Proofs.Numeral.FifteenDigits
import MeterTelegram.Proofs.Counter.Reading
import MeterTelegram.Proofs.ConfigFile.WrittenPairs
import MeterTelegram.Proofs.ConfigFile.LineEndings
import MeterTelegram.Proofs.ConfigFile.Rendering
import MeterTelegram.Proofs.Report.Selection
import MeterTelegram.Proofs.Settings.Signal
import MeterTelegram.Proofs.CommandLine.Signal
import MeterTelegram.Proofs.CommandLine.Reordering
import MeterTelegram.Proofs.CommandLine.Selection
import MeterTelegram.Proofs.Settings.Values
import MeterTelegram.Proofs.ConfigFile.Precedence
import MeterTelegram.Proofs.Counter.Words
import MeterTelegram.Proofs.Text.Reach
import MeterTelegram.Proofs.Text.Rounds
import MeterTelegram.Proofs.Signature.Text
import MeterTelegram.Proofs.Text.Trim
import MeterTelegram.Proofs.Hex.Separators
import MeterTelegram.Proofs.Intake.Lines
import MeterTelegram.Proofs.Intake.Agreement
