import QTom.Lib.Runs
import QTom.Lib.Text

/- The errors of `loom_model.rs` and the checks its constructors share. Each
   check is the guard `P` or an error that names the field it read. -/
namespace QTom.Loom
open QTom.Lib

inductive LoomModelError where
  | emptyField (field : String)
  | emptyCollection (field : String)
  | missingTaskArtifact (taskId : Nat)
  | missingRouteCandidate (taskId : Nat)
  | duplicatePacketId (packetId : Nat)
  | duplicateEvaluationId (evaluationId : Nat)
  | duplicateTopologyProposalId (topologyProposalId : Nat)
  | duplicateTopologySnapshotId (topologySnapshotId : Nat)
  | duplicateRollbackId (rollbackId : Nat)
  | noActiveTopologySnapshot
  | unknownTopologyProposalId (field : String) (topologyProposalId : Nat)
  | unknownTopologySnapshotId (field : String) (topologySnapshotId : Nat)
  | invalidRollbackRouteDecisionRef (rollbackId : Nat) (routeDecisionRef : String)
  | invalidStateTransition (source target : String)
  | invalidNumericField (field reason : String)
  | io (path source : String)
  | json (line : Option Nat) (source : String)
  deriving DecidableEq, Repr

def ensureNotEmpty (field value : String) : Except LoomModelError Unit :=
  if isBlank value then .error (.emptyField field) else .ok ()

def ensureNotEmptyCollection {α : Type} (field : String) (values : List α) :
    Except LoomModelError Unit :=
  if values.isEmpty then .error (.emptyCollection field) else .ok ()

def ensureIncreasingTimestamp (current next : Nat) : Except LoomModelError Unit :=
  if next ≤ current then
    .error (.invalidNumericField "updated_at_ms" "must be greater than the current update time")
  else .ok ()

theorem ensureNotEmpty_ok_iff {field value : String} :
    ensureNotEmpty field value = .ok () ↔ isBlank value = false := by
  unfold ensureNotEmpty
  cases isBlank value <;> simp

theorem ensureNotEmptyCollection_ok_iff {α : Type} {field : String} {values : List α} :
    ensureNotEmptyCollection field values = .ok () ↔ values ≠ [] := by
  unfold ensureNotEmptyCollection
  split <;> simp_all

theorem ensureIncreasingTimestamp_ok_iff {current next : Nat} :
    ensureIncreasingTimestamp current next = .ok () ↔ current < next := by
  unfold ensureIncreasingTimestamp
  split <;> simp <;> omega

end QTom.Loom
