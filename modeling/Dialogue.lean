import Dialogue.Main
import Dialogue.Run.Carrying
import Dialogue.Text.Grapheme
import Dialogue.Console.Emoji
import Dialogue.Console.Lexeme
import Dialogue.Console.Literal
import Dialogue.Text.Encoding
import Dialogue.Host.Direction
import Dialogue.Text.Composition
import Dialogue.Text.NormalForm
import Dialogue.Text.Punycode
import Dialogue.Host.Label
import Dialogue.Host.Name
import Dialogue.Host.Numeric
import Dialogue.Untyped
import Dialogue.Proofs.Flow.Resolution
import Dialogue.Proofs.Session.Attribution
import Dialogue.Proofs.Session.Audit
import Dialogue.Proofs.Session.Coherence
import Dialogue.Proofs.Session.Isolation
import Dialogue.Proofs.Session.Reentrancy
import Dialogue.Proofs.Session.Rehearsal
import Dialogue.Proofs.Session.Trail
import Dialogue.Proofs.Session.Discard
import Dialogue.Proofs.Flow.Tagging
import Dialogue.Proofs.Flow.Course
import Dialogue.Proofs.Run.Termination
import Dialogue.Proofs.Run.Lifecycle
import Dialogue.Proofs.Session.Lifecycle
import Dialogue.Proofs.Run.Breakdown
import Dialogue.Proofs.Session.Breakdown
import Dialogue.Proofs.Flow.Checked
import Dialogue.Proofs.Session.Validated
import Dialogue.Proofs.Run.Replay
import Dialogue.Proofs.Session.Replay
import Dialogue.Proofs.Session.Policy
import Dialogue.Proofs.Store.History
import Dialogue.Proofs.Session.Simulation
import Dialogue.Proofs.Console.Session
import Dialogue.Proofs.Console.Legible
import Dialogue.Proofs.Console.Loss
import Dialogue.Proofs.Flow.Shape
import Dialogue.Proofs.Run.RealEffect
import Dialogue.Proofs.Session.Completion
import Dialogue.Proofs.Text.Refilling
import Dialogue.Proofs.Run.PropertyCode
import Dialogue.Proofs.Run.RequestBody
import Dialogue.Proofs.Text.LowerCase
import Dialogue.Proofs.Flow.Routing
import Dialogue.Proofs.Answer.Amount
import Dialogue.Proofs.Answer.Currency
import Dialogue.Proofs.Answer.Email
import Dialogue.Proofs.Run.WaysOut
import Dialogue.Proofs.Run.Stretch
import Dialogue.Proofs.Session.Confirmation
import Dialogue.Proofs.Run.Metric
import Dialogue.Proofs.Run.Past
import Dialogue.Proofs.Session.Metric
import Dialogue.Proofs.Session.Past
import Dialogue.Proofs.Session.Reasking
import Dialogue.Proofs.Session.Transcript
