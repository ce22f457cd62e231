import Ls8.Main
import Ls8.Proofs.Assembly.Disassembly
import Ls8.Proofs.Machine.CallReturn
import Ls8.Proofs.Machine.StraightLine
import Ls8.Proofs.Machine.Failure
import Ls8.Proofs.Machine.Trace
import Ls8.Proofs.Machine.Allowance
import Ls8.Proofs.Machine.FullSink
import Ls8.Proofs.Debugger.Fidelity
import Ls8.Proofs.Stream
import Ls8.Proofs.Listing.Walk
import Ls8.Proofs.Debugger.Prediction
import Ls8.Proofs.Text.Utf8
import Ls8.Proofs.Command.Files
import Ls8.Proofs.Image.Loading
import Ls8.Proofs.Image.Saving
import Ls8.Proofs.Snapshot.Restoring
import Ls8.Proofs.Session.History
import Ls8.Proofs.Machine.Locality
import Ls8.Proofs.Command.Execution
import Ls8.Proofs.Command.Arguments
import Ls8.Proofs.Command.Run
import Ls8.Proofs.Machine.Effects
import Ls8.Proofs.Machine.Attempts
import Ls8.Proofs.Machine.RegisterUse
import Ls8.Proofs.Debugger.Calls
import Ls8.Proofs.Machine.LifeCycle
import Ls8.Proofs.Debugger.Breakpoints
import Ls8.Proofs.Image.Literal
import Ls8.Proofs.Image.Sources
import Ls8.Proofs.Listing.Tiling
import Ls8.Proofs.Listing.Agreement
import Ls8.Proofs.Assembly.Edits
import Ls8.Proofs.Assembly.Emission
import Ls8.Proofs.Text.Spelling
import Ls8.Proofs.Assembly.Numeral
import Ls8.Proofs.Assembly.Operand
import Ls8.Proofs.Assembly.RegisterOperands
import Ls8.Proofs.Machine.Stack
import Ls8.Proofs.Debugger.Printing
import Ls8.Proofs.Command.Assembling
import Ls8.Proofs.Command.Paths
import Ls8.Proofs.Command.Overwriting
