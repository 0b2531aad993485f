import ShortMessage.Body.Document
import ShortMessage.Session
import ShortMessage.Proofs.Envelope.Reload
import ShortMessage.Proofs.Envelope.Segment
import ShortMessage.Proofs.Config.Acceptance
import ShortMessage.Proofs.Body.Concatenation
import ShortMessage.Proofs.Session
import ShortMessage.Proofs.Address.Document
import ShortMessage.Proofs.Config.Embedded
import ShortMessage.Proofs.Classification.Switches
import ShortMessage.Proofs.Classification.DeadRules
import ShortMessage.Proofs.Envelope.LineEnds
import ShortMessage.Proofs.Address.Insertion
import ShortMessage.Proofs.Event
