import GridRobot.Main
import GridRobot.Proofs.Numeral.Literal
import GridRobot.Proofs.Command.Boundary
import GridRobot.Proofs.Command.Grammar
import GridRobot.Proofs.Command.Verdict
import GridRobot.Proofs.Command.Resubmission
import GridRobot.Proofs.Command.Succession
import GridRobot.Proofs.Command.Shapes
import GridRobot.Proofs.Command.Inversion
import GridRobot.Proofs.Command.Spacing
import GridRobot.Proofs.Command.Tokens
import GridRobot.Proofs.Command.Capitals
import GridRobot.Proofs.Run.Ledger
import GridRobot.Proofs.Run.Cascade
import GridRobot.Proofs.Run.Turn
import GridRobot.Proofs.Run.Shape
import GridRobot.Proofs.Run.Script
import GridRobot.Proofs.Run.Moves
import GridRobot.Proofs.Run.Room
import GridRobot.Proofs.Run.Bound
import GridRobot.Proofs.Run.Displacement
import GridRobot.Proofs.Run.Executions
import GridRobot.Proofs.Run.Lines
import GridRobot.Proofs.Run.Safety
import GridRobot.Proofs.Run.Session
import GridRobot.Proofs.Run.Continuation
import GridRobot.Proofs.Run.Rerun
import GridRobot.Proofs.Run.Translation
import GridRobot.Proofs.Run.Composition
import GridRobot.Proofs.Log.Report
import GridRobot.Proofs.Log.Characters
import GridRobot.Proofs.Text.Lines
import GridRobot.Proofs.Encoding.Utf8
import GridRobot.Proofs.Encoding.Widths
import GridRobot.Proofs.Encoding.Pieces
import GridRobot.Proofs.Encoding.Faults
import GridRobot.Proofs.Encoding.RoundTrip
import GridRobot.Proofs.Files.Reading
import GridRobot.Proofs.Files.Sentinel
import GridRobot.Proofs.Files.Writing
import GridRobot.Proofs.Files.Unforeseen
import GridRobot.Proofs.Files.Processing
import GridRobot.Proofs.Value.Showing
import GridRobot.Proofs.Settings.Accepted
import GridRobot.Proofs.Settings.Making
import GridRobot.Proofs.Settings.Mapping
import GridRobot.Proofs.Settings.Files
import GridRobot.Proofs.Settings.Values
import GridRobot.Proofs.CommandLine.Plan
import GridRobot.Proofs.CommandLine.Agreement
