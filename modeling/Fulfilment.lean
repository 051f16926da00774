import Fulfilment.Api.Respond
import Fulfilment.Command.RunService
import Fulfilment.Database.Url
import Fulfilment.Main
import Fulfilment.Proofs.Broker.Provisioning
import Fulfilment.Proofs.Calendar.DayNumber
import Fulfilment.Proofs.Calendar.Text
import Fulfilment.Proofs.Concurrency.Safety
import Fulfilment.Proofs.Consumer.Discipline
import Fulfilment.Proofs.Contention.Alone
import Fulfilment.Proofs.DeadLetter.Copies
import Fulfilment.Proofs.DeadLetter.Origin
import Fulfilment.Proofs.Dispatch.Disposition
import Fulfilment.Proofs.Event.Accepted
import Fulfilment.Proofs.Event.Escape
import Fulfilment.Proofs.Event.Header
import Fulfilment.Proofs.Event.Respelling
import Fulfilment.Proofs.Number.Digit
import Fulfilment.Proofs.Operation.NoLoss
import Fulfilment.Proofs.Pool.Conduct
import Fulfilment.Proofs.Publish.Producer
import Fulfilment.Proofs.Schema.Written
import Fulfilment.Proofs.Sequence.Sessions
import Fulfilment.Proofs.Text.Utf8
import Fulfilment.Proofs.Uuid
import Fulfilment.Proofs.Workflow.Agreement
import Fulfilment.Proofs.Workflow.ExactlyOnce
import Fulfilment.Proofs.Workflow.Rearrangement
import Fulfilment.Proofs.Workflow.Sequences
