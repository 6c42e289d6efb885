import QTom.Topology.RollbackRuns

/- The governance store on disk (`read_topology_governance_store_jsonl`): three
   ledgers, read and validated together.

   Reading takes the ledgers as they stand. A rollback record appended to its ledger
   is read back as a record and moves no status, so the store read back is the old one
   with one record more (`append_then_read`) and routes by the old active snapshot; a
   rollback survives a reload when the ledgers of the store after it are written. -/
namespace QTom.Topology
open QTom.Lib QTom.Loom TopologyGovernanceStore

structure GovernanceCodecs where
  proposals : Codec TopologyProposal
  snapshots : Codec TopologySnapshot
  rollbackRecords : Codec RollbackRecord

structure GovernancePaths where
  proposals : String
  snapshots : String
  rollbackRecords : String

structure GovernanceFiles where
  proposals : File
  snapshots : File
  rollbackRecords : File

def readTopologyGovernanceStoreJsonl (codecs : GovernanceCodecs) (paths : GovernancePaths)
    (files : GovernanceFiles) : Except LoomModelError TopologyGovernanceStore := do
  TopologyGovernanceStore.new
    (← readTopologyProposalsJsonl codecs.proposals paths.proposals files.proposals)
    (← readTopologySnapshotsJsonl codecs.snapshots paths.snapshots files.snapshots)
    (← readRollbackRecordsJsonl codecs.rollbackRecords paths.rollbackRecords files.rollbackRecords)

/-- The three write calls for a store. -/
def writeLedgers (codecs : GovernanceCodecs) (files : GovernanceFiles)
    (store : TopologyGovernanceStore) : GovernanceFiles where
  proposals := (writeTopologyProposalsJsonl codecs.proposals files.proposals store.proposals).2
  snapshots := (writeTopologySnapshotsJsonl codecs.snapshots files.snapshots store.snapshots).2
  rollbackRecords :=
    (writeRollbackRecordsJsonl codecs.rollbackRecords files.rollbackRecords store.rollbackRecords).2

/-- Every record of the store is written as a line that parses back to it. -/
structure WritesStore (codecs : GovernanceCodecs) (store : TopologyGovernanceStore) : Prop where
  proposals : ∀ proposal ∈ store.proposals, codecs.proposals.Writes proposal
  snapshots : ∀ snapshot ∈ store.snapshots, codecs.snapshots.Writes snapshot
  rollbackRecords : ∀ record ∈ store.rollbackRecords, codecs.rollbackRecords.Writes record

section
variable {codecs : GovernanceCodecs} {paths : GovernancePaths} {files : GovernanceFiles}
  {store : TopologyGovernanceStore}

/-- Three ledgers that read back as the parts of a governed store read back as the store. -/
theorem readTopologyGovernanceStoreJsonl_ok
    (h : Governed store.proposals store.snapshots store.rollbackRecords)
    (hproposals : readTopologyProposalsJsonl codecs.proposals paths.proposals files.proposals =
      .ok store.proposals)
    (hsnapshots : readTopologySnapshotsJsonl codecs.snapshots paths.snapshots files.snapshots =
      .ok store.snapshots)
    (hrollbacks : readRollbackRecordsJsonl codecs.rollbackRecords paths.rollbackRecords
      files.rollbackRecords = .ok store.rollbackRecords) :
    readTopologyGovernanceStoreJsonl codecs paths files = .ok store := by
  rw [readTopologyGovernanceStoreJsonl, hproposals, hsnapshots, hrollbacks]
  exact new_ok_iff.mpr ⟨h, rfl⟩

theorem read_proposals (h : Governed store.proposals store.snapshots store.rollbackRecords)
    (hw : WritesStore codecs store) :
    readTopologyProposalsJsonl codecs.proposals paths.proposals
      (writeLedgers codecs files store).proposals = .ok store.proposals :=
  readLedger_written (validateUnique_ok_iff.mpr h.proposalsDistinct) hw.proposals files.proposals

theorem read_snapshots (h : Governed store.proposals store.snapshots store.rollbackRecords)
    (hw : WritesStore codecs store) :
    readTopologySnapshotsJsonl codecs.snapshots paths.snapshots
      (writeLedgers codecs files store).snapshots = .ok store.snapshots :=
  readLedger_written (validateUnique_ok_iff.mpr h.snapshotsDistinct) hw.snapshots files.snapshots

/-- The ledgers of a governed store, written, read back as it. -/
theorem read_writeLedgers (h : Governed store.proposals store.snapshots store.rollbackRecords)
    (hw : WritesStore codecs store) :
    readTopologyGovernanceStoreJsonl codecs paths (writeLedgers codecs files store) = .ok store := by
  apply readTopologyGovernanceStoreJsonl_ok h (read_proposals h hw) (read_snapshots h hw)
  exact readLedger_written (validateUnique_ok_iff.mpr h.rollbacksDistinct) hw.rollbackRecords
    files.rollbackRecords

/-- The files after a rollback record was appended to its ledger. -/
def appendRollback (codecs : GovernanceCodecs) (paths : GovernancePaths) (files : GovernanceFiles)
    (record : RollbackRecord) : GovernanceFiles :=
  { files with
    rollbackRecords := (appendRollbackRecordJsonl codecs.rollbackRecords paths.rollbackRecords
      files.rollbackRecords record).2 }

/-- A store's ledgers with a rollback record appended: the store with that record. -/
theorem append_then_read (paths : GovernancePaths) (files : GovernanceFiles)
    {record : RollbackRecord} (hadmits : store.Admits record)
    (h : Governed store.proposals store.snapshots store.rollbackRecords)
    (hw : WritesStore codecs store) (hrecord : codecs.rollbackRecords.Writes record) :
    (appendRollbackRecordJsonl codecs.rollbackRecords paths.rollbackRecords
      (writeLedgers codecs files store).rollbackRecords record).1 = .ok () ∧
    readTopologyGovernanceStoreJsonl codecs paths
      (appendRollback codecs paths (writeLedgers codecs files store) record) =
        .ok { store with rollbackRecords := store.rollbackRecords ++ [record] } := by
  obtain ⟨happend, hread⟩ := readLedger_appended paths.rollbackRecords
    (validateUnique_ok_iff.mpr h.rollbacksDistinct)
    (validateUnique_ok_iff.mpr hadmits.rollbacksDistinct) hw.rollbackRecords hrecord
    files.rollbackRecords
  refine ⟨happend, ?_⟩
  exact readTopologyGovernanceStoreJsonl_ok hadmits (read_proposals h hw) (read_snapshots h hw) hread

end

/-- The id of the active topology. -/
def activeId (store : TopologyGovernanceStore) : Except LoomModelError Nat :=
  store.activeTopologySnapshot.map TopologySnapshot.topologySnapshotId

/-- A store's ledgers with the record of a rollback appended read back as the store
with that record, routed by the snapshot that was active before: the id agrees with
the rolled-back store's exactly when the rollback goes to that snapshot. The ledgers
of the rolled-back store read back as it. -/
theorem reload_routes_by_stored {proposals : List TopologyProposal}
    {snapshots : List TopologySnapshot} {rollbackRecords : List RollbackRecord}
    {store next : TopologyGovernanceStore} {record : RollbackRecord}
    (h : TopologyGovernanceStore.new proposals snapshots rollbackRecords = .ok store)
    (hnext : store.applyRollback record = .ok next) {codecs : GovernanceCodecs}
    (hw : WritesStore codecs store) (hrecord : codecs.rollbackRecords.Writes record)
    (paths : GovernancePaths) (files : GovernanceFiles) :
    (appendRollbackRecordJsonl codecs.rollbackRecords paths.rollbackRecords
      (writeLedgers codecs files store).rollbackRecords record).1 = .ok () ∧
    (∃ reloaded, readTopologyGovernanceStoreJsonl codecs paths
        (appendRollback codecs paths (writeLedgers codecs files store) record) = .ok reloaded ∧
      reloaded = { store with rollbackRecords := store.rollbackRecords ++ [record] } ∧
      reloaded.activeTopologySnapshot = store.activeTopologySnapshot ∧
      (activeId reloaded = activeId next ↔
        activeId store = .ok record.toTopologySnapshotId)) ∧
    (WritesStore codecs next →
      readTopologyGovernanceStoreJsonl codecs paths (writeLedgers codecs files next) = .ok next) := by
  obtain ⟨hgoverned, rfl⟩ := new_ok_iff.mp h
  obtain ⟨hadmits, hrolled⟩ := (applyRollback_guarded _ record next).mp hnext
  obtain ⟨happend, hread⟩ := append_then_read paths files hadmits hgoverned hw hrecord
  refine ⟨happend, ⟨_, hread, rfl, rfl, ?_⟩, ?_⟩
  · obtain ⟨t, hactive, hid⟩ := active_of_applyRollback hnext
    have hto : activeId next = .ok record.toTopologySnapshotId := by
      rw [activeId, hactive, ← hid]
      rfl
    rw [hto]
    rfl
  · intro hwnext
    rw [hrolled] at hwnext ⊢
    exact read_writeLedgers hadmits.governed hwnext

/-! The two snapshots' ledgers. -/

def secondSnapshotLine : String :=
  "\x7b\"topology_snapshot_id\":9001,\"parent_snapshot_id\":9000," ++
    "\"source_proposal_id\":8000," ++
    "\"agent_registry_version\":\"agent-registry-v1\"," ++
    "\"gradient_space_versions\":[\"gradient-space-44-v1\"]," ++
    "\"memory_index_versions\":[\"memory-index-v1\"]," ++
    "\"route_policy_versions\":[\"route-policy-v1\"]," ++
    "\"hard_constraint_policy_version\":\"hard-constraints-v1\"," ++
    "\"status\":\"Active\",\"created_at_ms\":69001\x7d"

set_option maxRecDepth 4000 in
theorem secondSnapshotLine_object : ObjectLine secondSnapshotLine := by
  iterate 7 refine ObjectLine.append ?_ rfl rfl
  exact objectLine_of_chars rfl rfl rfl

/-- The two snapshots' lines differ in the last digit of the id. -/
theorem snapshotLine_ne_second : snapshotLine.toList ≠ secondSnapshotLine.toList := by
  have hfirst : snapshotLine.toList[27]? = some '0' := by
    iterate 7 refine getElem?_append_of_some ?_
    exact getElem?_of_chars rfl rfl
  have hsecond : secondSnapshotLine.toList[27]? = some '1' := by
    iterate 7 refine getElem?_append_of_some ?_
    exact getElem?_of_chars rfl rfl
  intro h
  rw [h, hsecond] at hfirst
  cases hfirst

def snapshotsCodec : Codec TopologySnapshot :=
  tableCodec [(testSnapshot 9000, snapshotLine), (testSnapshot 9001, secondSnapshotLine)]

theorem snapshotsCodec_writes {snapshot : TopologySnapshot}
    (h : snapshot ∈ [testSnapshot 9000, testSnapshot 9001]) : snapshotsCodec.Writes snapshot :=
  tableCodec_writes
    (objectLines_pair snapshotLine_object secondSnapshotLine_object snapshotLine_ne_second) h

theorem proposalCodec_writes : proposalCodec.Writes testProposal :=
  tableCodec_writes (objectLines_singleton proposalLine_object) (by simp)

theorem rollbackCodec_writes : rollbackCodec.Writes (testRollback 10000 9001 9000) :=
  tableCodec_writes (objectLines_singleton rollbackLine_object) (by simp)

def ledgerCodecs : GovernanceCodecs := ⟨proposalCodec, snapshotsCodec, rollbackCodec⟩

def ledgerPaths : GovernancePaths := ⟨"proposals.jsonl", "snapshots.jsonl", "rollbacks.jsonl"⟩

def noFiles : GovernanceFiles := ⟨none, none, none⟩

theorem ledgerCodecs_writes : WritesStore ledgerCodecs twoSnapshots := by
  refine ⟨?_, fun snapshot hmem => snapshotsCodec_writes hmem, ?_⟩
  · intro proposal hmem
    rw [List.mem_singleton.mp hmem]
    exact proposalCodec_writes
  · intro record hmem
    cases hmem

/-- The rollback from 9001 to 9000 is recorded, and 9001 still routes after a reload. -/
theorem rollback_lost_on_reload :
    twoSnapshots.applyRollback (testRollback 10000 9001 9000) = .ok rolledBackOnce ∧
    activeId rolledBackOnce = .ok 9000 ∧
    ∃ reloaded, readTopologyGovernanceStoreJsonl ledgerCodecs ledgerPaths
        (appendRollback ledgerCodecs ledgerPaths (writeLedgers ledgerCodecs noFiles twoSnapshots)
          (testRollback 10000 9001 9000)) = .ok reloaded ∧
      activeId reloaded = .ok 9001 := by
  have hok : twoSnapshots.applyRollback (testRollback 10000 9001 9000) = .ok rolledBackOnce := by
    decide
  obtain ⟨hadmits, _⟩ := (applyRollback_guarded _ _ _).mp hok
  have hgoverned : Governed twoSnapshots.proposals twoSnapshots.snapshots
      twoSnapshots.rollbackRecords := by
    apply validateTopologyGovernanceRecords_ok_iff.mp
    decide
  refine ⟨hok, by decide, _, (append_then_read ledgerPaths noFiles hadmits hgoverned
    ledgerCodecs_writes rollbackCodec_writes).2, ?_⟩
  decide

theorem reload_routes_by_stored_once :
    ∃ reloaded, readTopologyGovernanceStoreJsonl ledgerCodecs ledgerPaths
        (appendRollback ledgerCodecs ledgerPaths (writeLedgers ledgerCodecs noFiles twoSnapshots)
          (testRollback 10000 9001 9000)) = .ok reloaded ∧
      reloaded = { twoSnapshots with
        rollbackRecords := twoSnapshots.rollbackRecords ++ [testRollback 10000 9001 9000] } ∧
      reloaded.activeTopologySnapshot = twoSnapshots.activeTopologySnapshot ∧
      (activeId reloaded = activeId rolledBackOnce ↔ activeId twoSnapshots = .ok 9000) := by
  have hnew : TopologyGovernanceStore.new twoSnapshots.proposals twoSnapshots.snapshots
      twoSnapshots.rollbackRecords = .ok twoSnapshots := by decide
  have hok : twoSnapshots.applyRollback (testRollback 10000 9001 9000) = .ok rolledBackOnce := by
    decide
  exact (reload_routes_by_stored hnew hok ledgerCodecs_writes rollbackCodec_writes ledgerPaths
    noFiles).2.1

end QTom.Topology
