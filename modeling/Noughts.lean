import Noughts.Board.Line
import Noughts.Command
import Noughts.Game.Play
import Noughts.Json.Decode
import Noughts.Json.Encode
import Noughts.Json.Reader
import Noughts.Main
import Noughts.Proofs.Board.Lined
import Noughts.Proofs.Game.Consistency
import Noughts.Session.Script
import Noughts.Terminal
import Noughts.Proofs.Game.Legal
import Noughts.Proofs.Game.Replay
import Noughts.Proofs.Game.Calls
import Noughts.Proofs.Game.Standing
import Noughts.Proofs.Session.Reference
import Noughts.Proofs.Game.Rearrangement
import Noughts.Proofs.Session.Steps
import Noughts.Proofs.Session.Protocol
import Noughts.Proofs.Session.Simulation
import Noughts.Proofs.Terminal.Lines
import Noughts.Proofs.Terminal.Transcript
import Noughts.Proofs.Json.RoundTrip
import Noughts.Proofs.Session.Resumption
import Noughts.Proofs.Terminal.Palettes
import Noughts.Proofs.Terminal.Console
import Noughts.Proofs.Terminal.Display
import Noughts.Proofs.Terminal.Prompts
import Noughts.Proofs.Terminal.Interruption
import Noughts.Proofs.Json.Format
import Noughts.Proofs.Json.History
import Noughts.Proofs.Command.Response
import Noughts.Proofs.Game.Record
import Noughts.Proofs.Game.Detection
import Noughts.Proofs.Session.Offers
import Noughts.Proofs.Square.Grammar
import Noughts.Proofs.Terminal.Reading
import Noughts.Proofs.Board.Writes
import Noughts.Proofs.Game.Symmetry
import Noughts.Proofs.Session.Completion
import Noughts.Proofs.Terminal.Spacing
import Noughts.Proofs.Terminal.Refusals
import Noughts.Proofs.Terminal.Grid
import Noughts.Proofs.Terminal.Legible
import Noughts.Proofs.Terminal.Choices
