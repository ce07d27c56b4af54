import Mandate.Main
import Mandate.Policy.Prepared
import Mandate.Proofs.Digest
import Mandate.Proofs.Engine.Accounts
import Mandate.Proofs.Engine.Admission
import Mandate.Proofs.Engine.AnonymousCallers
import Mandate.Proofs.Engine.Counters
import Mandate.Proofs.Engine.Isolation
import Mandate.Proofs.Engine.Prediction
import Mandate.Proofs.Engine.ReservedMembers
import Mandate.Proofs.Engine.Rollouts
import Mandate.Proofs.Engine.Shutdown
import Mandate.Proofs.Engine.Signing
import Mandate.Proofs.Engine.Workers
import Mandate.Proofs.Ledger.Continuation
import Mandate.Proofs.Ledger.FailedAppends
import Mandate.Proofs.Ledger.Organisations
import Mandate.Proofs.Lifecycle.RacingActivations
import Mandate.Proofs.Policy.ActiveAssignments
import Mandate.Proofs.Policy.Numbering
import Mandate.Proofs.Policy.Signatures
import Mandate.Proofs.Records
import Mandate.Proofs.Relation.CachedChecks
import Mandate.Proofs.Relation.Hierarchy
import Mandate.Proofs.Relation.InsertionOrder
import Mandate.Proofs.Relation.Interleaving
import Mandate.Proofs.Relation.Queue
import Mandate.Proofs.Risk.SlidingWindow
import Mandate.Proofs.Rules.Conditions
import Mandate.Proofs.Rules.FieldPaths
import Mandate.Proofs.Rules.Precedence
import Mandate.Proofs.Token.RoundTrip
