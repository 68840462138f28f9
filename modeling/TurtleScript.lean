import TurtleScript.Files.Tree
import TurtleScript.Main
import TurtleScript.Program.Run
import TurtleScript.Proofs.Session.Atomicity
import TurtleScript.Proofs.Session.Concatenation
import TurtleScript.Proofs.Session.DrawingHistory
import TurtleScript.Proofs.Session.Independence
import TurtleScript.Session.Interpreter
import TurtleScript.Proofs.Session.Replay
import TurtleScript.Proofs.Command.Verdict
import TurtleScript.Proofs.Binary64.Ladder
import TurtleScript.Proofs.Binary64.Nearest
import TurtleScript.Proofs.Decimal.Shortest
import TurtleScript.Proofs.Decimal.RoundTrip
import TurtleScript.Proofs.Command.RoundTrip
import TurtleScript.Proofs.Session.Stopping
import TurtleScript.Proofs.Session.Unread
import TurtleScript.Proofs.Program.Unread
import TurtleScript.Proofs.Command.Requests
import TurtleScript.Proofs.Session.Execution
import TurtleScript.Proofs.Session.Observers
import TurtleScript.Proofs.Drawing.Canvas
import TurtleScript.Proofs.Drawing.Visibility
import TurtleScript.Proofs.Program.FileOrInput
import TurtleScript.Proofs.Session.Failures
import TurtleScript.Proofs.Registry.Ledger
import TurtleScript.Proofs.Program.ExitCode
import TurtleScript.Proofs.Program.DrawLog
import TurtleScript.Proofs.Drawing.Decoding
import TurtleScript.Proofs.Drawing.TightestBox
import TurtleScript.Proofs.Text.LossyDecoding
import TurtleScript.Proofs.Session.FileReading
import TurtleScript.Proofs.Session.Renaming
import TurtleScript.Proofs.Session.Trajectory
import TurtleScript.Proofs.Binary64.Exact
import TurtleScript.Proofs.Decimal.Exact
import TurtleScript.Proofs.Command.Numbers
import TurtleScript.Proofs.Drawing.Growth
import TurtleScript.Proofs.Decimal.LogText
import TurtleScript.Proofs.Text.Unquoting
import TurtleScript.Proofs.Log.Reading
import TurtleScript.Proofs.Session.Journal
import TurtleScript.Proofs.Command.Wording
import TurtleScript.Proofs.Session.Complaints
import TurtleScript.Proofs.Session.Opposites
import TurtleScript.Proofs.Decimal.Grid
import TurtleScript.Proofs.Decimal.Fewest
import TurtleScript.Proofs.Decimal.Significant
import TurtleScript.Proofs.Decimal.Positional
import TurtleScript.Proofs.Drawing.Coordinates
