import QTom.Loom.ModelError

/- Topology proposals (`loom_model.rs`): a draft, the three evidence steps and the
   commit that mints a snapshot. Every method takes the proposal by value, so a
   refused call leaves the caller's proposal as it was. Ids and times are u64 in
   the source and are only stored and compared. -/
namespace QTom.Topology
open QTom.Lib QTom.Loom

inductive TopologyProposalKind where
  | axis
  | routePolicy
  | agentProfile
  | memoryIndexVersion
  | benchmarkRubric
  deriving DecidableEq, Repr

inductive TopologyProposalStatus where
  | drafted
  | tested
  | shadowed
  | canaried
  | approved
  | committed
  | rejected
  | superseded
  deriving DecidableEq, Repr

inductive TopologySnapshotStatus where
  | active
  | superseded
  | rolledBack
  deriving DecidableEq, Repr

namespace TopologyProposalStatus

def label : TopologyProposalStatus → String
  | .drafted => "Drafted"
  | .tested => "Tested"
  | .shadowed => "Shadowed"
  | .canaried => "Canaried"
  | .approved => "Approved"
  | .committed => "Committed"
  | .rejected => "Rejected"
  | .superseded => "Superseded"

/-- The one step forward from a status, on the path the four methods walk. -/
def next : TopologyProposalStatus → Option TopologyProposalStatus
  | .drafted => some .tested
  | .tested => some .shadowed
  | .shadowed => some .approved
  | .approved => some .committed
  | _ => none

end TopologyProposalStatus

def ensureStatus (actual expected next : TopologyProposalStatus) : Except LoomModelError Unit :=
  if actual ≠ expected then .error (.invalidStateTransition actual.label next.label) else .ok ()

theorem ensureStatus_ok_iff {actual expected next : TopologyProposalStatus} :
    ensureStatus actual expected next = .ok () ↔ actual = expected := by
  unfold ensureStatus
  split <;> simp_all

structure TopologyProposal where
  topologyProposalId : Nat
  proposalKind : TopologyProposalKind
  proposerRef : String
  changeSetRef : String
  evidenceRefs : List String
  benchmarkReportRefs : List String
  shadowReportRefs : List String
  canaryReportRefs : List String
  approvalRefs : List String
  status : TopologyProposalStatus
  createdAtMs : Nat
  updatedAtMs : Nat
  deriving DecidableEq, Repr

structure TopologySnapshot where
  topologySnapshotId : Nat
  parentSnapshotId : Option Nat
  sourceProposalId : Nat
  agentRegistryVersion : String
  gradientSpaceVersions : List String
  memoryIndexVersions : List String
  routePolicyVersions : List String
  hardConstraintPolicyVersion : String
  status : TopologySnapshotStatus
  createdAtMs : Nat
  deriving DecidableEq, Repr

namespace TopologyProposal

def draft (topologyProposalId : Nat) (proposalKind : TopologyProposalKind)
    (proposerRef changeSetRef : String) (evidenceRefs : List String) (createdAtMs : Nat) :
    Except LoomModelError TopologyProposal := do
  ensureNotEmpty "proposer_ref" proposerRef
  ensureNotEmpty "change_set_ref" changeSetRef
  ensureNotEmptyCollection "evidence_refs" evidenceRefs
  return {
    topologyProposalId, proposalKind, proposerRef, changeSetRef, evidenceRefs
    benchmarkReportRefs := []
    shadowReportRefs := []
    canaryReportRefs := []
    approvalRefs := []
    status := .drafted
    createdAtMs
    updatedAtMs := createdAtMs }

/-- The one transition that does not call `ensureStatus`. -/
def markTested (p : TopologyProposal) (benchmarkReportRefs : List String) (updatedAtMs : Nat) :
    Except LoomModelError TopologyProposal := do
  ensureNotEmptyCollection "benchmark_report_refs" benchmarkReportRefs
  ensureIncreasingTimestamp p.updatedAtMs updatedAtMs
  return { p with benchmarkReportRefs, status := .tested, updatedAtMs }

def markShadowed (p : TopologyProposal) (shadowReportRefs : List String) (updatedAtMs : Nat) :
    Except LoomModelError TopologyProposal := do
  ensureStatus p.status .tested .shadowed
  ensureNotEmptyCollection "shadow_report_refs" shadowReportRefs
  ensureIncreasingTimestamp p.updatedAtMs updatedAtMs
  return { p with shadowReportRefs, status := .shadowed, updatedAtMs }

def markApproved (p : TopologyProposal) (approvalRefs : List String) (updatedAtMs : Nat) :
    Except LoomModelError TopologyProposal := do
  ensureStatus p.status .shadowed .approved
  ensureNotEmptyCollection "approval_refs" approvalRefs
  ensureIncreasingTimestamp p.updatedAtMs updatedAtMs
  return { p with approvalRefs, status := .approved, updatedAtMs }

def commit (p : TopologyProposal) (topologySnapshotId : Nat) (parentSnapshotId : Option Nat)
    (agentRegistryVersion : String)
    (gradientSpaceVersions memoryIndexVersions routePolicyVersions : List String)
    (hardConstraintPolicyVersion : String) (updatedAtMs : Nat) :
    Except LoomModelError (TopologyProposal × TopologySnapshot) := do
  ensureStatus p.status .approved .committed
  ensureNotEmpty "agent_registry_version" agentRegistryVersion
  ensureNotEmptyCollection "gradient_space_versions" gradientSpaceVersions
  ensureNotEmptyCollection "memory_index_versions" memoryIndexVersions
  ensureNotEmptyCollection "route_policy_versions" routePolicyVersions
  ensureNotEmpty "hard_constraint_policy_version" hardConstraintPolicyVersion
  ensureIncreasingTimestamp p.updatedAtMs updatedAtMs
  return (
    { p with status := .committed, updatedAtMs },
    { topologySnapshotId, parentSnapshotId
      sourceProposalId := p.topologyProposalId
      agentRegistryVersion, gradientSpaceVersions, memoryIndexVersions, routePolicyVersions
      hardConstraintPolicyVersion
      status := .active
      createdAtMs := updatedAtMs })

/-! What each method does when it succeeds. -/

theorem draft_ok_iff {id : Nat} {kind : TopologyProposalKind} {proposer change : String}
    {evidence : List String} {at' : Nat} {p : TopologyProposal} :
    draft id kind proposer change evidence at' = .ok p ↔
      (isBlank proposer = false ∧ isBlank change = false ∧ evidence ≠ []) ∧
        p = ⟨id, kind, proposer, change, evidence, [], [], [], [], .drafted, at', at'⟩ := by
  unfold draft
  rw [then_ok_iff, then_ok_iff, then_ok_iff, ensureNotEmpty_ok_iff, ensureNotEmpty_ok_iff,
    ensureNotEmptyCollection_ok_iff]
  simp only [pure, Except.pure, Except.ok.injEq, and_assoc, eq_comm (a := p)]

theorem markTested_ok_iff {p q : TopologyProposal} {refs : List String} {at' : Nat} :
    p.markTested refs at' = .ok q ↔ (refs ≠ [] ∧ p.updatedAtMs < at') ∧
      q = { p with benchmarkReportRefs := refs, status := .tested, updatedAtMs := at' } := by
  unfold markTested
  rw [then_ok_iff, then_ok_iff, ensureNotEmptyCollection_ok_iff, ensureIncreasingTimestamp_ok_iff]
  simp only [pure, Except.pure, Except.ok.injEq, and_assoc, eq_comm (a := q)]

theorem markShadowed_ok_iff {p q : TopologyProposal} {refs : List String} {at' : Nat} :
    p.markShadowed refs at' = .ok q ↔
      (p.status = .tested ∧ refs ≠ [] ∧ p.updatedAtMs < at') ∧
        q = { p with shadowReportRefs := refs, status := .shadowed, updatedAtMs := at' } := by
  unfold markShadowed
  rw [then_ok_iff, then_ok_iff, then_ok_iff, ensureStatus_ok_iff, ensureNotEmptyCollection_ok_iff,
    ensureIncreasingTimestamp_ok_iff]
  simp only [pure, Except.pure, Except.ok.injEq, and_assoc, eq_comm (a := q)]

theorem markApproved_ok_iff {p q : TopologyProposal} {refs : List String} {at' : Nat} :
    p.markApproved refs at' = .ok q ↔
      (p.status = .shadowed ∧ refs ≠ [] ∧ p.updatedAtMs < at') ∧
        q = { p with approvalRefs := refs, status := .approved, updatedAtMs := at' } := by
  unfold markApproved
  rw [then_ok_iff, then_ok_iff, then_ok_iff, ensureStatus_ok_iff, ensureNotEmptyCollection_ok_iff,
    ensureIncreasingTimestamp_ok_iff]
  simp only [pure, Except.pure, Except.ok.injEq, and_assoc, eq_comm (a := q)]

/-- What `commit` demands of its arguments, beside the status. -/
structure Versions (agentRegistryVersion : String)
    (gradientSpaceVersions memoryIndexVersions routePolicyVersions : List String)
    (hardConstraintPolicyVersion : String) : Prop where
  registry : isBlank agentRegistryVersion = false
  gradient : gradientSpaceVersions ≠ []
  memory : memoryIndexVersions ≠ []
  policies : routePolicyVersions ≠ []
  hard : isBlank hardConstraintPolicyVersion = false

theorem commit_ok_iff {p q : TopologyProposal} {snapshot : TopologySnapshot} {id : Nat}
    {parent : Option Nat} {registry hard : String} {gradient memory policies : List String}
    {at' : Nat} :
    p.commit id parent registry gradient memory policies hard at' = .ok (q, snapshot) ↔
      (p.status = .approved ∧ Versions registry gradient memory policies hard ∧
        p.updatedAtMs < at') ∧
      q = { p with status := .committed, updatedAtMs := at' } ∧
      snapshot = ⟨id, parent, p.topologyProposalId, registry, gradient, memory, policies, hard,
        .active, at'⟩ := by
  unfold commit
  rw [then_ok_iff, then_ok_iff, then_ok_iff, then_ok_iff, then_ok_iff, then_ok_iff, then_ok_iff,
    ensureStatus_ok_iff, ensureNotEmpty_ok_iff, ensureNotEmptyCollection_ok_iff,
    ensureNotEmptyCollection_ok_iff, ensureNotEmptyCollection_ok_iff, ensureNotEmpty_ok_iff,
    ensureIncreasingTimestamp_ok_iff]
  simp only [pure, Except.pure, Except.ok.injEq, Prod.mk.injEq, eq_comm (a := q),
    eq_comm (a := snapshot)]
  refine ⟨?_, ?_⟩
  · intro ⟨hs, hr, hg, hm, hp, hh, ht, hout⟩
    exact ⟨⟨hs, ⟨hr, hg, hm, hp, hh⟩, ht⟩, hout⟩
  · intro ⟨⟨hs, hv, ht⟩, hout⟩
    exact ⟨hs, hv.registry, hv.gradient, hv.memory, hv.policies, hv.hard, ht, hout⟩

end TopologyProposal

end QTom.Topology
