import QTom.Lib.TopK
import QTom.Topology.Ledgers

/- The topology governance store (`TopologyGovernanceStore`): three ledgers together,
   validated as one, the snapshot that is routed by, and rollbacks.

   `Governed` is what validation checks. It reads a snapshot's id and source
   proposal and never its status, so a rollback, which rewrites statuses only, keeps
   it: `applyRollback` is the update `rolledBack` behind the guard `Governed`
   (`applyRollback_guarded`), and `RolledBackTo` says what that update does. -/
namespace QTom.Topology
open QTom.Lib QTom.Loom

/-! Validation. -/

def checkSourceProposal (proposalIds : List Nat) (snapshot : TopologySnapshot) :
    Except LoomModelError Unit :=
  if snapshot.sourceProposalId ∉ proposalIds then
    .error (.unknownTopologyProposalId "snapshot.source_proposal_id" snapshot.sourceProposalId)
  else .ok ()

def checkRouteDecisionRef (rollbackId : Nat) (routeDecisionRef : String) :
    Except LoomModelError Unit :=
  if startsWith routeDecisionRef "inline://route-decision/" then .ok ()
  else .error (.invalidRollbackRouteDecisionRef rollbackId routeDecisionRef)

def checkRollbackRecord (snapshotIds : List Nat) (record : RollbackRecord) :
    Except LoomModelError Unit :=
  if record.fromTopologySnapshotId ∉ snapshotIds then
    .error (.unknownTopologySnapshotId "rollback.from_topology_snapshot_id"
      record.fromTopologySnapshotId)
  else if record.toTopologySnapshotId ∉ snapshotIds then
    .error (.unknownTopologySnapshotId "rollback.to_topology_snapshot_id"
      record.toTopologySnapshotId)
  else forM record.affectedRouteDecisionRefs (checkRouteDecisionRef record.rollbackId)

def validateTopologyGovernanceRecords (proposals : List TopologyProposal)
    (snapshots : List TopologySnapshot) (rollbackRecords : List RollbackRecord) :
    Except LoomModelError Unit := do
  validateUniqueTopologyProposalIds proposals
  validateUniqueTopologySnapshotIds snapshots
  validateUniqueRollbackIds rollbackRecords
  let proposalIds := proposals.map TopologyProposal.topologyProposalId
  let snapshotIds := snapshots.map TopologySnapshot.topologySnapshotId
  forM snapshots (checkSourceProposal proposalIds)
  forM rollbackRecords (checkRollbackRecord snapshotIds)

/-- The record names snapshots of the store and route decisions. -/
structure KnownReferences (snapshots : List TopologySnapshot) (record : RollbackRecord) : Prop where
  source : record.fromTopologySnapshotId ∈ snapshots.map TopologySnapshot.topologySnapshotId
  target : record.toTopologySnapshotId ∈ snapshots.map TopologySnapshot.topologySnapshotId
  decisions : ∀ routeDecisionRef ∈ record.affectedRouteDecisionRefs,
    startsWith routeDecisionRef "inline://route-decision/" = true

/-- What validation checks of the three ledgers. -/
structure Governed (proposals : List TopologyProposal) (snapshots : List TopologySnapshot)
    (rollbackRecords : List RollbackRecord) : Prop where
  proposalsDistinct : (proposals.map TopologyProposal.topologyProposalId).Nodup
  snapshotsDistinct : (snapshots.map TopologySnapshot.topologySnapshotId).Nodup
  rollbacksDistinct : (rollbackRecords.map RollbackRecord.rollbackId).Nodup
  sourced : ∀ snapshot ∈ snapshots,
    snapshot.sourceProposalId ∈ proposals.map TopologyProposal.topologyProposalId
  references : ∀ record ∈ rollbackRecords, KnownReferences snapshots record

theorem checkSourceProposal_ok_iff {proposalIds : List Nat} {snapshot : TopologySnapshot} :
    checkSourceProposal proposalIds snapshot = .ok () ↔
      snapshot.sourceProposalId ∈ proposalIds := by
  simp [checkSourceProposal]

theorem checkRouteDecisionRef_ok_iff {rollbackId : Nat} {routeDecisionRef : String} :
    checkRouteDecisionRef rollbackId routeDecisionRef = .ok () ↔
      startsWith routeDecisionRef "inline://route-decision/" = true := by
  simp [checkRouteDecisionRef]

theorem checkRollbackRecord_ok_iff {snapshots : List TopologySnapshot} {record : RollbackRecord} :
    checkRollbackRecord (snapshots.map TopologySnapshot.topologySnapshotId) record = .ok () ↔
      KnownReferences snapshots record := by
  simp only [checkRollbackRecord]
  split
  · next hsource => exact ⟨fun h => (nomatch h), fun h => absurd h.source hsource⟩
  · next hsource =>
    split
    · next htarget => exact ⟨fun h => (nomatch h), fun h => absurd h.target htarget⟩
    · next htarget =>
      rw [forM_ok_iff]
      refine ⟨?_, ?_⟩
      · intro h
        refine ⟨not_not.mp hsource, not_not.mp htarget, ?_⟩
        intro routeDecisionRef hmem
        exact checkRouteDecisionRef_ok_iff.mp (h routeDecisionRef hmem)
      · intro h routeDecisionRef hmem
        exact checkRouteDecisionRef_ok_iff.mpr (h.decisions routeDecisionRef hmem)

theorem validateTopologyGovernanceRecords_ok_iff {proposals : List TopologyProposal}
    {snapshots : List TopologySnapshot} {rollbackRecords : List RollbackRecord} :
    validateTopologyGovernanceRecords proposals snapshots rollbackRecords = .ok () ↔
      Governed proposals snapshots rollbackRecords := by
  simp only [validateTopologyGovernanceRecords, then_ok_iff, validateUniqueTopologyProposalIds,
    validateUniqueTopologySnapshotIds, validateUniqueRollbackIds, validateUnique_ok_iff,
    forM_ok_iff, checkSourceProposal_ok_iff, checkRollbackRecord_ok_iff]
  refine ⟨?_, ?_⟩
  · intro ⟨hproposals, hsnapshots, hrollbacks, hsourced, hreferences⟩
    exact ⟨hproposals, hsnapshots, hrollbacks, hsourced, hreferences⟩
  · intro h
    exact ⟨h.proposalsDistinct, h.snapshotsDistinct, h.rollbacksDistinct, h.sourced, h.references⟩

/-- Validation reads of a snapshot its id and its source. -/
theorem Governed.congr {proposals : List TopologyProposal} {snapshots snapshots' : List TopologySnapshot}
    {rollbackRecords : List RollbackRecord} (h : Governed proposals snapshots rollbackRecords)
    (hids : snapshots'.map TopologySnapshot.topologySnapshotId =
      snapshots.map TopologySnapshot.topologySnapshotId)
    (hsources : snapshots'.map TopologySnapshot.sourceProposalId =
      snapshots.map TopologySnapshot.sourceProposalId) :
    Governed proposals snapshots' rollbackRecords := by
  refine ⟨h.proposalsDistinct, ?_, h.rollbacksDistinct, ?_, ?_⟩
  · rw [hids]
    exact h.snapshotsDistinct
  · intro snapshot hmem
    have hsource := List.mem_map_of_mem (f := TopologySnapshot.sourceProposalId) hmem
    rw [hsources] at hsource
    obtain ⟨old, hold, heq⟩ := List.mem_map.mp hsource
    rw [← heq]
    exact h.sourced old hold
  · intro record hmem
    have hknown := h.references record hmem
    refine ⟨?_, ?_, hknown.decisions⟩
    · rw [hids]
      exact hknown.source
    · rw [hids]
      exact hknown.target

/-! The store. -/

structure TopologyGovernanceStore where
  proposals : List TopologyProposal
  snapshots : List TopologySnapshot
  rollbackRecords : List RollbackRecord
  deriving DecidableEq, Repr

/-- The order of `(created_at_ms, topology_snapshot_id)`. -/
def compareRecency : TopologySnapshot → TopologySnapshot → Ordering :=
  compareLex (compareOn TopologySnapshot.createdAtMs) (compareOn TopologySnapshot.topologySnapshotId)

def TopologySnapshot.isActive (snapshot : TopologySnapshot) : Bool := snapshot.status = .active

/-- One turn of the status loop. -/
def rollbackStatus (record : RollbackRecord) (snapshot : TopologySnapshot) : TopologySnapshot :=
  if snapshot.topologySnapshotId = record.toTopologySnapshotId then
    { snapshot with status := .active }
  else if snapshot.topologySnapshotId = record.fromTopologySnapshotId then
    { snapshot with status := .rolledBack }
  else if snapshot.isActive then { snapshot with status := .superseded }
  else snapshot

namespace TopologyGovernanceStore

def new (proposals : List TopologyProposal) (snapshots : List TopologySnapshot)
    (rollbackRecords : List RollbackRecord) : Except LoomModelError TopologyGovernanceStore := do
  validateTopologyGovernanceRecords proposals snapshots rollbackRecords
  return { proposals, snapshots, rollbackRecords }

def activeTopologySnapshot (store : TopologyGovernanceStore) :
    Except LoomModelError TopologySnapshot :=
  match maxBy compareRecency (store.snapshots.filter TopologySnapshot.isActive) with
  | some snapshot => .ok snapshot
  | none => .error .noActiveTopologySnapshot

def applyRollback (store : TopologyGovernanceStore) (rollbackRecord : RollbackRecord) :
    Except LoomModelError TopologyGovernanceStore := do
  let rollbackRecords := store.rollbackRecords ++ [rollbackRecord]
  validateTopologyGovernanceRecords store.proposals store.snapshots rollbackRecords
  let snapshots := store.snapshots.map (rollbackStatus rollbackRecord)
  validateTopologyGovernanceRecords store.proposals snapshots rollbackRecords
  return { store with snapshots, rollbackRecords }

/-- The store after a rollback. -/
def rolledBack (store : TopologyGovernanceStore) (rollbackRecord : RollbackRecord) :
    TopologyGovernanceStore :=
  { store with
    snapshots := store.snapshots.map (rollbackStatus rollbackRecord)
    rollbackRecords := store.rollbackRecords ++ [rollbackRecord] }

end TopologyGovernanceStore

/-! What a rollback does to one snapshot. -/

section
variable (record : RollbackRecord) (snapshot : TopologySnapshot)

@[simp] theorem rollbackStatus_id :
    (rollbackStatus record snapshot).topologySnapshotId = snapshot.topologySnapshotId := by
  simp only [rollbackStatus]
  split
  · rfl
  · split
    · rfl
    · split <;> rfl

@[simp] theorem rollbackStatus_source :
    (rollbackStatus record snapshot).sourceProposalId = snapshot.sourceProposalId := by
  simp only [rollbackStatus]
  split
  · rfl
  · split
    · rfl
    · split <;> rfl

/-- The rolled-back-to snapshot is active, and no other. -/
@[simp] theorem rollbackStatus_isActive : (rollbackStatus record snapshot).isActive =
    decide (snapshot.topologySnapshotId = record.toTopologySnapshotId) := by
  simp only [rollbackStatus]
  split
  · next hto => simp [TopologySnapshot.isActive, hto]
  · next hto =>
    split
    · simp [TopologySnapshot.isActive, hto]
    · split
      · simp [TopologySnapshot.isActive, hto]
      · next hactive => simp [hactive, hto]

/-- What one turn of the status loop may do to a snapshot. -/
structure StatusMoved (record : RollbackRecord) (old new : TopologySnapshot) : Prop where
  same : new = { old with status := new.status }
  target : old.topologySnapshotId = record.toTopologySnapshotId → new.status = .active
  failed : old.topologySnapshotId = record.fromTopologySnapshotId →
    record.fromTopologySnapshotId ≠ record.toTopologySnapshotId → new.status = .rolledBack
  superseded : old.topologySnapshotId ≠ record.toTopologySnapshotId →
    old.topologySnapshotId ≠ record.fromTopologySnapshotId → old.status = .active →
    new.status = .superseded
  kept : old.topologySnapshotId ≠ record.toTopologySnapshotId →
    old.topologySnapshotId ≠ record.fromTopologySnapshotId → old.status ≠ .active → new = old

theorem rollbackStatus_moved : StatusMoved record snapshot (rollbackStatus record snapshot) := by
  simp only [rollbackStatus]
  by_cases hto : snapshot.topologySnapshotId = record.toTopologySnapshotId
  · rw [if_pos hto]
    refine ⟨rfl, fun _ => rfl, ?_, fun h => absurd hto h, fun h => absurd hto h⟩
    intro hfrom hne
    exact absurd (hfrom.symm.trans hto) hne
  · rw [if_neg hto]
    by_cases hfrom : snapshot.topologySnapshotId = record.fromTopologySnapshotId
    · rw [if_pos hfrom]
      exact ⟨rfl, fun h => absurd h hto, fun _ _ => rfl, fun _ h => absurd hfrom h,
        fun _ h => absurd hfrom h⟩
    · rw [if_neg hfrom]
      by_cases hactive : snapshot.status = .active
      · rw [if_pos (by simp [TopologySnapshot.isActive, hactive])]
        exact ⟨rfl, fun h => absurd h hto, fun h => absurd h hfrom, fun _ _ _ => rfl,
          fun _ _ h => absurd hactive h⟩
      · rw [if_neg (by simp [TopologySnapshot.isActive, hactive])]
        exact ⟨rfl, fun h => absurd h hto, fun h => absurd h hfrom,
          fun _ _ h => absurd h hactive, fun _ _ _ => rfl⟩

end

namespace TopologyGovernanceStore

theorem new_ok_iff {proposals : List TopologyProposal} {snapshots : List TopologySnapshot}
    {rollbackRecords : List RollbackRecord} {store : TopologyGovernanceStore} :
    new proposals snapshots rollbackRecords = .ok store ↔
      Governed proposals snapshots rollbackRecords ∧
        store = ⟨proposals, snapshots, rollbackRecords⟩ := by
  simp only [new, then_ok_iff, validateTopologyGovernanceRecords_ok_iff, pure, Except.pure,
    Except.ok.injEq, eq_comm (a := store)]

/-- The rollback's record passes validation beside the store's. -/
def Admits (store : TopologyGovernanceStore) (rollbackRecord : RollbackRecord) : Prop :=
  Governed store.proposals store.snapshots (store.rollbackRecords ++ [rollbackRecord])

/-- The moved statuses pass validation again. -/
theorem Admits.governed {store : TopologyGovernanceStore} {rollbackRecord : RollbackRecord}
    (h : store.Admits rollbackRecord) : Governed (store.rolledBack rollbackRecord).proposals
      (store.rolledBack rollbackRecord).snapshots
      (store.rolledBack rollbackRecord).rollbackRecords := by
  apply Governed.congr h
  · simp [rolledBack, Function.comp_def]
  · simp [rolledBack, Function.comp_def]

/-- A rollback fails as its first validation fails, and never at its second. -/
theorem applyRollback_eq (store : TopologyGovernanceStore) (rollbackRecord : RollbackRecord) :
    store.applyRollback rollbackRecord = (do
      validateTopologyGovernanceRecords store.proposals store.snapshots
        (store.rollbackRecords ++ [rollbackRecord])
      return store.rolledBack rollbackRecord) := by
  simp only [applyRollback]
  cases hfirst : validateTopologyGovernanceRecords store.proposals store.snapshots
      (store.rollbackRecords ++ [rollbackRecord]) with
  | error err => rfl
  | ok u =>
    have hadmits : store.Admits rollbackRecord :=
      validateTopologyGovernanceRecords_ok_iff.mp hfirst
    have hsecond := validateTopologyGovernanceRecords_ok_iff.mpr hadmits.governed
    show (validateTopologyGovernanceRecords store.proposals
      (store.snapshots.map (rollbackStatus rollbackRecord))
      (store.rollbackRecords ++ [rollbackRecord]) >>= fun _ => _) = _
    rw [show validateTopologyGovernanceRecords store.proposals
      (store.snapshots.map (rollbackStatus rollbackRecord))
      (store.rollbackRecords ++ [rollbackRecord]) = .ok () from hsecond]
    rfl

/-- A rollback is the update `rolledBack` behind one validation. -/
theorem applyRollback_guarded : Guarded applyRollback Admits rolledBack := by
  intro store rollbackRecord next
  simp only [applyRollback_eq, then_ok_iff, validateTopologyGovernanceRecords_ok_iff, pure,
    Except.pure, Except.ok.injEq, eq_comm (a := next)]
  rfl

/-- What a rollback leaves. -/
structure RolledBackTo (store : TopologyGovernanceStore) (rollbackRecord : RollbackRecord)
    (next : TopologyGovernanceStore) : Prop where
  active : ∃ snapshot, next.snapshots.filter TopologySnapshot.isActive = [snapshot] ∧
    snapshot.topologySnapshotId = rollbackRecord.toTopologySnapshotId ∧
    next.activeTopologySnapshot = .ok snapshot
  statuses : List.Forall₂ (StatusMoved rollbackRecord) store.snapshots next.snapshots
  proposals : next.proposals = store.proposals
  records : next.rollbackRecords = store.rollbackRecords ++ [rollbackRecord]
  accepted : new next.proposals next.snapshots next.rollbackRecords = .ok next

/-- One snapshot is active after a rollback, the one it goes to. -/
theorem filter_isActive_rolledBack {store : TopologyGovernanceStore} {rollbackRecord : RollbackRecord}
    (h : store.Admits rollbackRecord) :
    ∃ snapshot ∈ store.snapshots, snapshot.topologySnapshotId = rollbackRecord.toTopologySnapshotId ∧
      (store.rolledBack rollbackRecord).snapshots.filter TopologySnapshot.isActive =
        [rollbackStatus rollbackRecord snapshot] := by
  have hknown := h.references rollbackRecord (by simp)
  obtain ⟨snapshot, hmem, hid⟩ := List.mem_map.mp hknown.target
  refine ⟨snapshot, hmem, hid, ?_⟩
  have hfilter := filter_key_eq h.snapshotsDistinct hmem
  rw [hid] at hfilter
  simp only [rolledBack, List.filter_map, Function.comp_def, rollbackStatus_isActive, hfilter,
    List.map_cons, List.map_nil]

theorem activeTopologySnapshot_of_filter {store : TopologyGovernanceStore}
    {snapshot : TopologySnapshot}
    (h : store.snapshots.filter TopologySnapshot.isActive = [snapshot]) :
    store.activeTopologySnapshot = .ok snapshot := by
  simp only [activeTopologySnapshot, h, maxBy, List.foldl_nil]

theorem rolledBackTo {store : TopologyGovernanceStore} {rollbackRecord : RollbackRecord}
    (h : store.Admits rollbackRecord) :
    RolledBackTo store rollbackRecord (store.rolledBack rollbackRecord) := by
  obtain ⟨snapshot, _, hid, hfilter⟩ := filter_isActive_rolledBack h
  refine ⟨⟨_, hfilter, ?_, activeTopologySnapshot_of_filter hfilter⟩, ?_, rfl, rfl, ?_⟩
  · rw [rollbackStatus_id]
    exact hid
  · apply List.forall₂_map_right_iff.mpr
    apply List.forall₂_same.mpr
    intro old _
    exact rollbackStatus_moved rollbackRecord old
  · exact new_ok_iff.mpr ⟨h.governed, rfl⟩

/-- Along a run of rollbacks the store stays one that `new` accepts. -/
theorem run_governed {store next : TopologyGovernanceStore} {rollbacks : List RollbackRecord}
    (h : Governed store.proposals store.snapshots store.rollbackRecords)
    (hrun : rollbacks.foldlM applyRollback store = .ok next) :
    Governed next.proposals next.snapshots next.rollbackRecords := by
  obtain ⟨rfl, halong⟩ := applyRollback_guarded.run_iff.mp hrun
  exact halong.invariant (I := fun s => Governed s.proposals s.snapshots s.rollbackRecords)
    (fun s r hadmits _ => hadmits.governed) h

/-- From any accepted store, after any run of rollbacks: the store is accepted, a
further rollback succeeds exactly when its record passes validation with the others,
and then it leaves what `RolledBackTo` says. -/
theorem applyRollback_correct {proposals : List TopologyProposal} {snapshots : List TopologySnapshot}
    {rollbackRecords : List RollbackRecord} {store : TopologyGovernanceStore}
    (h : new proposals snapshots rollbackRecords = .ok store) (rollbacks : List RollbackRecord)
    (reached : TopologyGovernanceStore) (hrun : rollbacks.foldlM applyRollback store = .ok reached) :
    new reached.proposals reached.snapshots reached.rollbackRecords = .ok reached ∧
    ∀ rollbackRecord,
      ((∃ next, reached.applyRollback rollbackRecord = .ok next) ↔
        validateTopologyGovernanceRecords reached.proposals reached.snapshots
          (reached.rollbackRecords ++ [rollbackRecord]) = .ok ()) ∧
      ∀ next, reached.applyRollback rollbackRecord = .ok next →
        RolledBackTo reached rollbackRecord next := by
  obtain ⟨hgoverned, rfl⟩ := new_ok_iff.mp h
  refine ⟨new_ok_iff.mpr ⟨run_governed hgoverned hrun, rfl⟩, ?_⟩
  intro rollbackRecord
  refine ⟨?_, ?_⟩
  · rw [validateTopologyGovernanceRecords_ok_iff]
    refine ⟨?_, ?_⟩
    · intro ⟨next, hnext⟩
      exact ((applyRollback_guarded reached rollbackRecord next).mp hnext).1
    · intro hadmits
      exact ⟨_, (applyRollback_guarded reached rollbackRecord _).mpr ⟨hadmits, rfl⟩⟩
  · intro next hnext
    obtain ⟨hadmits, rfl⟩ := (applyRollback_guarded reached rollbackRecord next).mp hnext
    exact rolledBackTo hadmits

/-- Two active snapshots beside a superseded one, as before a rollback. -/
def beforeRollback : TopologyGovernanceStore where
  proposals := [testProposal]
  snapshots := [{ testSnapshot 9000 with status := .superseded }, testSnapshot 9001, testSnapshot 9002]
  rollbackRecords := []

theorem applyRollback_correct_beforeRollback :
    RolledBackTo beforeRollback (testRollback 10000 9001 9000)
      (beforeRollback.rolledBack (testRollback 10000 9001 9000)) := by
  have hnew : new beforeRollback.proposals beforeRollback.snapshots beforeRollback.rollbackRecords =
      .ok beforeRollback := by decide
  have hok : beforeRollback.applyRollback (testRollback 10000 9001 9000) =
      .ok (beforeRollback.rolledBack (testRollback 10000 9001 9000)) := by decide
  have hcorrect := applyRollback_correct hnew [] beforeRollback rfl
  exact (hcorrect.2 (testRollback 10000 9001 9000)).2 _ hok

end TopologyGovernanceStore

end QTom.Topology
