import EnjoyThings.Spec.AcceptedCharges
import EnjoyThings.Spec.AuditSweep
import EnjoyThings.Spec.CertRotation
import EnjoyThings.Spec.ChatReplies
import EnjoyThings.Spec.ConsumerOffsets
import EnjoyThings.Spec.DrillRuns
import EnjoyThings.Spec.FraudScorable
import EnjoyThings.Spec.HeartbeatJoin
import EnjoyThings.Spec.LedgerPaging
import EnjoyThings.Spec.OutboxOrder
import EnjoyThings.Spec.RateBudget
import EnjoyThings.Spec.RedriveOffsets
import EnjoyThings.Spec.ReservationLifecycle
import EnjoyThings.Spec.Resubmission
import EnjoyThings.Spec.ReviewDeadline
import EnjoyThings.Spec.ReviewDecisions
import EnjoyThings.Spec.SagaDebits
import EnjoyThings.Spec.SagaFirstResult
import EnjoyThings.Spec.SagaNotified
import EnjoyThings.Spec.SagaOwnership
import EnjoyThings.Spec.SagaRejected
import EnjoyThings.Spec.SagaResume
import EnjoyThings.Spec.SagaStarts
import EnjoyThings.Spec.ScoringWedge
import EnjoyThings.Spec.TransportPayloads
import EnjoyThings.Spec.VerdictLeaks
