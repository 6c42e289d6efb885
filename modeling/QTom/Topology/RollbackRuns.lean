import QTom.Topology.Governance

/- Runs of rollbacks (`TopologyGovernanceStore::apply_rollback`).

   A rollback moves statuses and nothing else, so along a run the proposals and each
   snapshot's id and source stay (`run_keys`), and after any rollback the active
   topology is the one its record goes to (`run_active`). Two rules of the governance
   policy are left to whoever writes the record. The order and the status of the two
   snapshots are not read: a rolled-back snapshot comes back when a record names it
   (`rolled_back_until_named`, `forward_to_rolled_back`). The source proposal's
   status is not read: what is routed by is committed exactly when the first active
   snapshot and every target are (`routes_committed_iff`, `drafted_routed`). -/
namespace QTom.Topology.TopologyGovernanceStore
open QTom.Lib QTom.Loom

instance : Std.TransCmp compareRecency :=
  inferInstanceAs (Std.TransCmp (compareLex _ _))

/-- The active topology is an active snapshot of the store. -/
theorem activeTopologySnapshot_ok {store : TopologyGovernanceStore} {snapshot : TopologySnapshot}
    (h : store.activeTopologySnapshot = .ok snapshot) :
    snapshot ∈ store.snapshots ∧ snapshot.status = .active := by
  simp only [activeTopologySnapshot] at h
  cases hmax : maxBy compareRecency (store.snapshots.filter TopologySnapshot.isActive) with
  | none =>
    rw [hmax] at h
    cases h
  | some found =>
    rw [hmax] at h
    cases h
    obtain ⟨hmem, hactive⟩ := List.mem_filter.mp (maxBy_spec hmax).1
    exact ⟨hmem, by simpa [TopologySnapshot.isActive] using hactive⟩

/-- Two snapshots of one id are one. -/
theorem eq_of_id {store : TopologyGovernanceStore}
    (h : Governed store.proposals store.snapshots store.rollbackRecords) {s t : TopologySnapshot}
    (hs : s ∈ store.snapshots) (ht : t ∈ store.snapshots)
    (hid : s.topologySnapshotId = t.topologySnapshotId) : s = t :=
  List.inj_on_of_nodup_map h.snapshotsDistinct hs ht hid

/-! What a run keeps. -/

/-- A snapshot's id and source. -/
def snapshotKey (snapshot : TopologySnapshot) : Nat × Nat :=
  (snapshot.topologySnapshotId, snapshot.sourceProposalId)

theorem run_keys {store reached : TopologyGovernanceStore} {rollbacks : List RollbackRecord}
    (hrun : rollbacks.foldlM applyRollback store = .ok reached) :
    reached.proposals = store.proposals ∧
      reached.snapshots.map snapshotKey = store.snapshots.map snapshotKey := by
  obtain ⟨rfl, halong⟩ := applyRollback_guarded.run_iff.mp hrun
  refine halong.invariant (I := fun s => s.proposals = store.proposals ∧
    s.snapshots.map snapshotKey = store.snapshots.map snapshotKey) ?_ ⟨rfl, rfl⟩
  intro s record _ ⟨hproposals, hkeys⟩
  refine ⟨hproposals, ?_⟩
  rw [← hkeys]
  simp [rolledBack, snapshotKey, Function.comp_def]

/-- A snapshot met in a run has its id and source from the start. -/
theorem run_mem {store reached : TopologyGovernanceStore} {rollbacks : List RollbackRecord}
    (hrun : rollbacks.foldlM applyRollback store = .ok reached) {t : TopologySnapshot}
    (ht : t ∈ reached.snapshots) : ∃ s ∈ store.snapshots,
      s.topologySnapshotId = t.topologySnapshotId ∧ s.sourceProposalId = t.sourceProposalId := by
  have hkey := List.mem_map_of_mem (f := snapshotKey) ht
  rw [(run_keys hrun).2] at hkey
  obtain ⟨s, hs, heq⟩ := List.mem_map.mp hkey
  exact ⟨s, hs, congrArg Prod.fst heq, congrArg Prod.snd heq⟩

/-- After a rollback the active topology is the one its record goes to. -/
theorem active_of_applyRollback {store next : TopologyGovernanceStore} {record : RollbackRecord}
    (h : store.applyRollback record = .ok next) : ∃ t, next.activeTopologySnapshot = .ok t ∧
      t.topologySnapshotId = record.toTopologySnapshotId := by
  obtain ⟨hadmits, rfl⟩ := (applyRollback_guarded store record next).mp h
  obtain ⟨t, _, hid, hactive⟩ := (rolledBackTo hadmits).active
  exact ⟨t, hactive, hid⟩

/-- After a run that ends in `record`. -/
theorem run_active {store final : TopologyGovernanceStore} {rollbacks : List RollbackRecord}
    {record : RollbackRecord} (hrun : (rollbacks ++ [record]).foldlM applyRollback store = .ok final) :
    ∃ t, final.activeTopologySnapshot = .ok t ∧
      t.topologySnapshotId = record.toTopologySnapshotId := by
  obtain ⟨mid, _, hlast⟩ := foldlM_append_ok.mp hrun
  obtain ⟨final', hfinal, hnil⟩ := foldlM_cons_ok.mp hlast
  cases hnil
  exact active_of_applyRollback hfinal

/-! Rolled-back snapshots. -/

/-- A rollback that does not go to a rolled-back snapshot leaves it as it is. -/
theorem rollbackStatus_rolledBack {record : RollbackRecord} {snapshot : TopologySnapshot}
    (hstatus : snapshot.status = .rolledBack)
    (hto : record.toTopologySnapshotId ≠ snapshot.topologySnapshotId) :
    rollbackStatus record snapshot = snapshot := by
  have hactive : snapshot.isActive = false := by simp [TopologySnapshot.isActive, hstatus]
  have hsame : { snapshot with status := .rolledBack } = snapshot := by rw [← hstatus]
  simp only [rollbackStatus, hto.symm, if_false, hactive, Bool.false_eq_true, hsame, ite_self]

theorem run_rolledBack {snapshot : TopologySnapshot} (hstatus : snapshot.status = .rolledBack)
    {later : List RollbackRecord}
    (hto : ∀ record ∈ later, record.toTopologySnapshotId ≠ snapshot.topologySnapshotId)
    {reached final : TopologyGovernanceStore} (hmem : snapshot ∈ reached.snapshots)
    (hrun : later.foldlM applyRollback reached = .ok final) : snapshot ∈ final.snapshots := by
  induction later generalizing reached with
  | nil =>
    cases hrun
    exact hmem
  | cons record later ih =>
    obtain ⟨next, hnext, hrest⟩ := foldlM_cons_ok.mp hrun
    obtain ⟨_, rfl⟩ := (applyRollback_guarded reached record next).mp hnext
    obtain ⟨hrecord, hlater⟩ := List.forall_mem_cons.mp hto
    refine ih hlater ?_ hrest
    apply List.mem_map.mpr
    exact ⟨snapshot, hmem, rollbackStatus_rolledBack hstatus hrecord⟩

/-- A rollback goes to the snapshot its record names. A rolled-back snapshot stays
rolled back as long as no record goes to it, and is the active topology again
exactly when the last record does. -/
theorem rolled_back_until_named {proposals : List TopologyProposal}
    {snapshots : List TopologySnapshot} {rollbackRecords : List RollbackRecord}
    {store reached : TopologyGovernanceStore} {rollbacks : List RollbackRecord}
    (h : new proposals snapshots rollbackRecords = .ok store)
    (hrun : rollbacks.foldlM applyRollback store = .ok reached) :
    (∀ record next, reached.applyRollback record = .ok next →
      record.fromTopologySnapshotId ∈
        reached.snapshots.map TopologySnapshot.topologySnapshotId ∧
      ∃ t, next.activeTopologySnapshot = .ok t ∧
        t.topologySnapshotId = record.toTopologySnapshotId) ∧
    (∀ (later : List RollbackRecord) (final : TopologyGovernanceStore)
        (snapshot : TopologySnapshot), later.foldlM applyRollback reached = .ok final →
      snapshot ∈ reached.snapshots → snapshot.status = .rolledBack →
      ((∀ record ∈ later, record.toTopologySnapshotId ≠ snapshot.topologySnapshotId) →
        snapshot ∈ final.snapshots) ∧
      ((∃ t, final.activeTopologySnapshot = .ok t ∧
          t.topologySnapshotId = snapshot.topologySnapshotId) ↔
        ∃ record, later.getLast? = some record ∧
          record.toTopologySnapshotId = snapshot.topologySnapshotId)) := by
  obtain ⟨hgoverned, rfl⟩ := new_ok_iff.mp h
  have hreached := run_governed hgoverned hrun
  refine ⟨?_, ?_⟩
  · intro record next hnext
    have hadmits := ((applyRollback_guarded reached record next).mp hnext).1
    exact ⟨(hadmits.references record (by simp)).source, active_of_applyRollback hnext⟩
  · intro later final snapshot hlater hmem hstatus
    refine ⟨fun hto => run_rolledBack hstatus hto hmem hlater, ?_⟩
    -- by the last record of the run, if there is one
    rcases List.eq_nil_or_concat' later with rfl | ⟨init, record, rfl⟩
    · cases hlater
      refine ⟨?_, fun ⟨record, hnone, _⟩ => (nomatch hnone)⟩
      intro ⟨t, hactive, hid⟩
      obtain ⟨ht, htstatus⟩ := activeTopologySnapshot_ok hactive
      have heq := eq_of_id hreached ht hmem hid
      rw [heq, hstatus] at htstatus
      cases htstatus
    · obtain ⟨t, hactive, hid⟩ := run_active hlater
      rw [List.getLast?_concat]
      refine ⟨?_, ?_⟩
      · intro ⟨t', hactive', hid'⟩
        cases hactive.symm.trans hactive'
        exact ⟨record, rfl, hid.symm.trans hid'⟩
      · intro ⟨record', hrecord, hid'⟩
        cases hrecord
        exact ⟨t, hactive, hid.trans hid'⟩

/-- Back from 9001, then forward to it again. -/
def twoSnapshots : TopologyGovernanceStore where
  proposals := [testProposal]
  snapshots := [testSnapshot 9000, testSnapshot 9001]
  rollbackRecords := []

def rolledBackOnce : TopologyGovernanceStore :=
  twoSnapshots.rolledBack (testRollback 10000 9001 9000)

/-- The snapshot 9001, rolled back. -/
def failedSnapshot : TopologySnapshot := { testSnapshot 9001 with status := .rolledBack }

theorem rolled_back_until_named_again :
    (∃ t, (rolledBackOnce.rolledBack (testRollback 10001 9000 9001)).activeTopologySnapshot =
        .ok t ∧ t.topologySnapshotId = failedSnapshot.topologySnapshotId) ↔
      ∃ record, [testRollback 10001 9000 9001].getLast? = some record ∧
        record.toTopologySnapshotId = failedSnapshot.topologySnapshotId := by
  have hnew : new twoSnapshots.proposals twoSnapshots.snapshots twoSnapshots.rollbackRecords =
      .ok twoSnapshots := by decide
  have hrun : [testRollback 10000 9001 9000].foldlM applyRollback twoSnapshots =
      .ok rolledBackOnce := by decide
  have hlater : [testRollback 10001 9000 9001].foldlM applyRollback rolledBackOnce =
      .ok (rolledBackOnce.rolledBack (testRollback 10001 9000 9001)) := by decide
  exact ((rolled_back_until_named hnew hrun).2 _ _ failedSnapshot hlater (by decide) rfl).2

/-- A rollback to a snapshot created after the one it comes from, and rolled back. -/
theorem forward_to_rolled_back :
    new twoSnapshots.proposals twoSnapshots.snapshots twoSnapshots.rollbackRecords =
      .ok twoSnapshots ∧
    [testRollback 10000 9001 9000].foldlM applyRollback twoSnapshots = .ok rolledBackOnce ∧
    failedSnapshot ∈ rolledBackOnce.snapshots ∧
    compareRecency (testSnapshot 9000) failedSnapshot = .lt ∧
    rolledBackOnce.applyRollback (testRollback 10001 9000 9001) =
      .ok (rolledBackOnce.rolledBack (testRollback 10001 9000 9001)) ∧
    (rolledBackOnce.rolledBack (testRollback 10001 9000 9001)).activeTopologySnapshot =
      .ok (testSnapshot 9001) := by
  decide

/-! The source of what is routed by. -/

/-- The snapshot's source proposal is in the store and committed. -/
def CommittedSource (store : TopologyGovernanceStore) (snapshot : TopologySnapshot) : Prop :=
  ∃ proposal ∈ store.proposals, proposal.topologyProposalId = snapshot.sourceProposalId ∧
    proposal.status = .committed

/-- The active topology, if there is one, comes from a committed proposal. -/
def RoutesCommitted (store : TopologyGovernanceStore) : Prop :=
  ∀ snapshot, store.activeTopologySnapshot = .ok snapshot → store.CommittedSource snapshot

/-- Where a run has led, the target of a record is committed exactly when it was at the start. -/
theorem routesCommitted_run_iff {store final : TopologyGovernanceStore}
    {rollbacks : List RollbackRecord} {record : RollbackRecord}
    (h : Governed store.proposals store.snapshots store.rollbackRecords)
    (hrun : (rollbacks ++ [record]).foldlM applyRollback store = .ok final) :
    final.RoutesCommitted ↔ ∀ snapshot ∈ store.snapshots,
      snapshot.topologySnapshotId = record.toTopologySnapshotId → store.CommittedSource snapshot := by
  obtain ⟨t, hactive, hid⟩ := run_active hrun
  obtain ⟨s, hs, hsid, hsource⟩ := run_mem hrun (activeTopologySnapshot_ok hactive).1
  have hproposals := (run_keys hrun).1
  -- the active topology comes from the store's one snapshot of the target's id
  have hcommitted : final.CommittedSource t ↔ store.CommittedSource s := by
    simp only [CommittedSource, hproposals, hsource]
  refine ⟨?_, ?_⟩
  · intro hroutes snapshot hmem hsnapshot
    have heq : snapshot = s := eq_of_id h hmem hs (by rw [hsnapshot, hsid, hid])
    rw [heq]
    exact hcommitted.mp (hroutes t hactive)
  · intro htargets t' hactive'
    cases hactive.symm.trans hactive'
    exact hcommitted.mpr (htargets s hs (hsid.trans hid))

/-- The active topology's source proposal is in the store, the only one of its id and
as it was loaded. It is committed in every store of a run exactly when it is in the
first and every record goes to a snapshot whose source is. -/
theorem routes_committed_iff {proposals : List TopologyProposal} {snapshots : List TopologySnapshot}
    {rollbackRecords : List RollbackRecord} {store reached : TopologyGovernanceStore}
    {rollbacks : List RollbackRecord} (h : new proposals snapshots rollbackRecords = .ok store)
    (hrun : rollbacks.foldlM applyRollback store = .ok reached) :
    (∀ snapshot, reached.activeTopologySnapshot = .ok snapshot →
      ∃ proposal ∈ reached.proposals, proposal.topologyProposalId = snapshot.sourceProposalId ∧
        proposal ∈ store.proposals ∧ ∀ other ∈ reached.proposals,
          other.topologyProposalId = snapshot.sourceProposalId → other = proposal) ∧
    ((∀ before after mid, rollbacks = before ++ after →
        before.foldlM applyRollback store = .ok mid → mid.RoutesCommitted) ↔
      store.RoutesCommitted ∧ ∀ record ∈ rollbacks, ∀ snapshot ∈ store.snapshots,
        snapshot.topologySnapshotId = record.toTopologySnapshotId →
          store.CommittedSource snapshot) := by
  obtain ⟨hgoverned, rfl⟩ := new_ok_iff.mp h
  have hreached := run_governed hgoverned hrun
  refine ⟨?_, ?_, ?_⟩
  · intro snapshot hactive
    have hsourced := hreached.sourced snapshot (activeTopologySnapshot_ok hactive).1
    obtain ⟨proposal, hmem, hid⟩ := List.mem_map.mp hsourced
    have hloaded := hmem
    rw [(run_keys hrun).1] at hloaded
    refine ⟨proposal, hmem, hid, hloaded, ?_⟩
    intro other hother hotherId
    exact List.inj_on_of_nodup_map hreached.proposalsDistinct hother hmem (hotherId.trans hid.symm)
  · intro hall
    refine ⟨hall [] rollbacks _ rfl rfl, ?_⟩
    intro record hrecord
    obtain ⟨before, after, rfl⟩ := List.append_of_mem hrecord
    have hsplit : before ++ record :: after = (before ++ [record]) ++ after := by simp
    rw [hsplit] at hrun
    obtain ⟨mid, hmid, _⟩ := foldlM_append_ok.mp hrun
    exact (routesCommitted_run_iff hgoverned hmid).mp (hall _ after mid hsplit hmid)
  · intro ⟨hstart, htargets⟩ before after mid hsplit hmid
    rcases List.eq_nil_or_concat' before with rfl | ⟨init, record, rfl⟩
    · cases hmid
      exact hstart
    · apply (routesCommitted_run_iff hgoverned hmid).mpr
      exact htargets record (by rw [hsplit]; simp)

/-- Two snapshots of a committed proposal. -/
def committedStore : TopologyGovernanceStore :=
  { twoSnapshots with proposals := [{ testProposal with status := .committed }] }

theorem routes_committed_iff_committed :
    (committedStore.rolledBack (testRollback 10000 9001 9000)).RoutesCommitted := by
  have hnew : new committedStore.proposals committedStore.snapshots committedStore.rollbackRecords =
      .ok committedStore := by decide
  have hrun : [testRollback 10000 9001 9000].foldlM applyRollback committedStore =
      .ok (committedStore.rolledBack (testRollback 10000 9001 9000)) := by decide
  have hcommitted : ∀ snapshot ∈ committedStore.snapshots,
      committedStore.CommittedSource snapshot := by
    intro snapshot hmem
    rcases List.mem_pair.mp hmem with rfl | rfl
    · exact ⟨{ testProposal with status := .committed }, by decide, rfl, rfl⟩
    · exact ⟨{ testProposal with status := .committed }, by decide, rfl, rfl⟩
  refine (routes_committed_iff hnew hrun).2.mpr ⟨?_, ?_⟩ [testRollback 10000 9001 9000] [] _ rfl hrun
  · intro snapshot hactive
    exact hcommitted snapshot (activeTopologySnapshot_ok hactive).1
  · intro record _ snapshot hmem _
    exact hcommitted snapshot hmem

/-- A store of drafted proposals is accepted and routed by. -/
theorem drafted_routed :
    new twoSnapshots.proposals twoSnapshots.snapshots twoSnapshots.rollbackRecords =
      .ok twoSnapshots ∧
    twoSnapshots.activeTopologySnapshot = .ok (testSnapshot 9001) ∧
    ¬ twoSnapshots.CommittedSource (testSnapshot 9001) := by
  refine ⟨by decide, by decide, ?_⟩
  intro ⟨proposal, hmem, _, hstatus⟩
  rw [List.mem_singleton.mp hmem] at hstatus
  cases hstatus

end QTom.Topology.TopologyGovernanceStore
