import QTom.Loom.EventLogJsonl
import QTom.Loom.Ledger
import QTom.Topology.Proposal

/- The three topology ledgers (`loom_model.rs`): proposals, snapshots and rollback
   records, each an instance of the ledger shape.

   Appending trusts that the file ends in a newline. The reader does not ask for
   one, so on a text whose last line is open the new record is glued to that line:
   it is read back only where the open line is white space JSON skips
   (`appends_read_back_iff`), and an open record is lost (`open_record_lost`). -/
namespace QTom.Topology
open QTom.Lib QTom.Loom

structure RollbackRecord where
  rollbackId : Nat
  fromTopologySnapshotId : Nat
  toTopologySnapshotId : Nat
  reason : String
  triggeredByRef : String
  affectedRouteDecisionRefs : List String
  createdAtMs : Nat
  deriving DecidableEq, Repr

/-- The constructor's last check. -/
def ensureDistinctSnapshots (fromTopologySnapshotId toTopologySnapshotId : Nat) :
    Except LoomModelError Unit :=
  if toTopologySnapshotId = fromTopologySnapshotId then
    .error (.invalidNumericField "to_topology_snapshot_id"
      "must differ from from_topology_snapshot_id")
  else .ok ()

def RollbackRecord.new (rollbackId fromTopologySnapshotId toTopologySnapshotId : Nat)
    (reason triggeredByRef : String) (affectedRouteDecisionRefs : List String)
    (createdAtMs : Nat) : Except LoomModelError RollbackRecord := do
  ensureNotEmpty "reason" reason
  ensureNotEmpty "triggered_by_ref" triggeredByRef
  ensureNotEmptyCollection "affected_route_decision_refs" affectedRouteDecisionRefs
  ensureDistinctSnapshots fromTopologySnapshotId toTopologySnapshotId
  return {
    rollbackId, fromTopologySnapshotId, toTopologySnapshotId, reason, triggeredByRef
    affectedRouteDecisionRefs, createdAtMs }

/-! Proposals. -/

def validateUniqueTopologyProposalIds (proposals : List TopologyProposal) :
    Except LoomModelError Unit :=
  validateUnique TopologyProposal.topologyProposalId .duplicateTopologyProposalId proposals

def writeTopologyProposalsJsonl (codec : Codec TopologyProposal) (file : File)
    (proposals : List TopologyProposal) : Except LoomModelError Unit × File :=
  writeLedger validateUniqueTopologyProposalIds codec file proposals

def readTopologyProposalsJsonl (codec : Codec TopologyProposal) (path : String) (file : File) :
    Except LoomModelError (List TopologyProposal) :=
  readLedger validateUniqueTopologyProposalIds codec path file

def appendTopologyProposalJsonl (codec : Codec TopologyProposal) (path : String) (file : File)
    (proposal : TopologyProposal) : Except LoomModelError Unit × File :=
  appendLedger validateUniqueTopologyProposalIds codec path file proposal

/-! Snapshots. -/

def validateUniqueTopologySnapshotIds (snapshots : List TopologySnapshot) :
    Except LoomModelError Unit :=
  validateUnique TopologySnapshot.topologySnapshotId .duplicateTopologySnapshotId snapshots

def writeTopologySnapshotsJsonl (codec : Codec TopologySnapshot) (file : File)
    (snapshots : List TopologySnapshot) : Except LoomModelError Unit × File :=
  writeLedger validateUniqueTopologySnapshotIds codec file snapshots

def readTopologySnapshotsJsonl (codec : Codec TopologySnapshot) (path : String) (file : File) :
    Except LoomModelError (List TopologySnapshot) :=
  readLedger validateUniqueTopologySnapshotIds codec path file

def appendTopologySnapshotJsonl (codec : Codec TopologySnapshot) (path : String) (file : File)
    (snapshot : TopologySnapshot) : Except LoomModelError Unit × File :=
  appendLedger validateUniqueTopologySnapshotIds codec path file snapshot

/-! Rollback records. -/

def validateUniqueRollbackIds (records : List RollbackRecord) : Except LoomModelError Unit :=
  validateUnique RollbackRecord.rollbackId .duplicateRollbackId records

def writeRollbackRecordsJsonl (codec : Codec RollbackRecord) (file : File)
    (records : List RollbackRecord) : Except LoomModelError Unit × File :=
  writeLedger validateUniqueRollbackIds codec file records

def readRollbackRecordsJsonl (codec : Codec RollbackRecord) (path : String) (file : File) :
    Except LoomModelError (List RollbackRecord) :=
  readLedger validateUniqueRollbackIds codec path file

def appendRollbackRecordJsonl (codec : Codec RollbackRecord) (path : String) (file : File)
    (record : RollbackRecord) : Except LoomModelError Unit × File :=
  appendLedger validateUniqueRollbackIds codec path file record

/-! Appending to any text the reader accepts. -/

/-- A successful append is read back, after the records stored before it, exactly
when the open last line is white space JSON skips. -/
theorem appends_read_back_iff (path : String) (text : List Char) :
    ReadsBackWhen InMemoryEventLog.events readEventLogJsonl appendEventLogJsonl path text
      (SkippedOpenLine text) ∧
    ReadsBackWhen (fun packets => packets) readDecommissionPacketsJsonl
      appendDecommissionPacketJsonl path text (SkippedOpenLine text) ∧
    ReadsBackWhen (fun proposals => proposals) readTopologyProposalsJsonl
      appendTopologyProposalJsonl path text (SkippedOpenLine text) ∧
    ReadsBackWhen (fun snapshots => snapshots) readTopologySnapshotsJsonl
      appendTopologySnapshotJsonl path text (SkippedOpenLine text) ∧
    ReadsBackWhen (fun records => records) readRollbackRecordsJsonl
      appendRollbackRecordJsonl path text (SkippedOpenLine text) := by
  refine ⟨?_, ?_, ?_, ?_, ?_⟩
  · intro codec log event h hs hread hok
    exact LineStore.append_reads_back_iff (eventLogStore_lawful codec path) h hs hread hok
  · exact appendLedger_readsBackWhen rfl path text
  · exact appendLedger_readsBackWhen rfl path text
  · exact appendLedger_readsBackWhen rfl path text
  · exact appendLedger_readsBackWhen rfl path text

/-- An event on an open line is lost to the next append. -/
theorem append_to_open_event {codec : Codec LoomEvent} {path : String} {a b : LoomEvent}
    (ha : codec.Writes a) (hb : codec.Writes b) (hs : codec.SkipsBlanks b)
    (haccepts : InMemoryEventLog.new.Accepts a) (hnext : (InMemoryEventLog.new.push a).Accepts b) :
    readEventLogJsonl codec path (some (codec.encode a)) = .ok (InMemoryEventLog.new.push a) ∧
    (appendEventLogJsonl codec path (some (codec.encode a)) b).1 = .ok () ∧
    ¬ ∃ log, readEventLogJsonl codec path
        (appendEventLogJsonl codec path (some (codec.encode a)) b).2 = .ok log ∧
      log.events = [a, b] := by
  have hread : readEventLogJsonl codec path (some (codec.encode a)) =
      .ok (InMemoryEventLog.new.push a) :=
    (readEventLogJsonl_ok_iff codec path).mpr
      ⟨records_encode ha, reachable_push Reaches.start haccepts⟩
  have hok := (InMemoryEventLog.appendOrFail_guarded (InMemoryEventLog.new.push a) b _).mpr
    ⟨hnext, rfl⟩
  exact ⟨hread, LineStore.append_to_open_record (eventLogStore_lawful codec path) ha hb hs hread hok⟩

/-! One record of each kind, and its line. -/

def secondLine : String :=
  "\x7b\"event_id\":2,\"event_type\":\"TaskCreated\",\"root_task_id\":1," ++
    "\"task_id\":10,\"parent_task_id\":null,\"prompt_id\":7,\"agent_id\":42," ++
    "\"agent_role\":null,\"topology_snapshot_id\":3," ++
    "\"payload_schema\":\"test.payload.v1\",\"payload_ref\":\"inline://event\"," ++
    "\"occurred_at_ms\":1002,\"causation_id\":null,\"correlation_id\":99\x7d"

def testPacket : AgentDecommissionPacket :=
  ⟨1200, 10011, 1, 11, 7, 42, "completed", [911], "inline://decommission"⟩

def packetLine : String :=
  "\x7b\"packet_id\":1200,\"agent_id\":10011,\"root_task_id\":1,\"task_id\":11," ++
    "\"prompt_id\":7,\"plan_id\":42,\"final_status\":\"completed\"," ++
    "\"deliverable_refs\":[911],\"self_summary_ref\":\"inline://decommission\"\x7d"

def testProposal : TopologyProposal where
  topologyProposalId := 8000
  proposalKind := .memoryIndexVersion
  proposerRef := "curator://agent/800"
  changeSetRef := "inline://topology/change-set"
  evidenceRefs := ["inline://candidate-reduction/report"]
  benchmarkReportRefs := []
  shadowReportRefs := []
  canaryReportRefs := []
  approvalRefs := []
  status := .drafted
  createdAtMs := 58000
  updatedAtMs := 58000

def proposalLine : String :=
  "\x7b\"topology_proposal_id\":8000,\"proposal_kind\":\"MemoryIndexVersion\"," ++
    "\"proposer_ref\":\"curator://agent/800\"," ++
    "\"change_set_ref\":\"inline://topology/change-set\"," ++
    "\"evidence_refs\":[\"inline://candidate-reduction/report\"]," ++
    "\"benchmark_report_refs\":[],\"shadow_report_refs\":[]," ++
    "\"canary_report_refs\":[],\"approval_refs\":[],\"status\":\"Drafted\"," ++
    "\"created_at_ms\":58000,\"updated_at_ms\":58000\x7d"

/-- A snapshot of the proposal 8000, active. -/
def testSnapshot (topologySnapshotId : Nat) : TopologySnapshot where
  topologySnapshotId := topologySnapshotId
  parentSnapshotId := some (topologySnapshotId - 1)
  sourceProposalId := 8000
  agentRegistryVersion := "agent-registry-v1"
  gradientSpaceVersions := ["gradient-space-44-v1"]
  memoryIndexVersions := ["memory-index-v1"]
  routePolicyVersions := ["route-policy-v1"]
  hardConstraintPolicyVersion := "hard-constraints-v1"
  status := .active
  createdAtMs := 60000 + topologySnapshotId

def snapshotLine : String :=
  "\x7b\"topology_snapshot_id\":9000,\"parent_snapshot_id\":8999," ++
    "\"source_proposal_id\":8000," ++
    "\"agent_registry_version\":\"agent-registry-v1\"," ++
    "\"gradient_space_versions\":[\"gradient-space-44-v1\"]," ++
    "\"memory_index_versions\":[\"memory-index-v1\"]," ++
    "\"route_policy_versions\":[\"route-policy-v1\"]," ++
    "\"hard_constraint_policy_version\":\"hard-constraints-v1\"," ++
    "\"status\":\"Active\",\"created_at_ms\":69000\x7d"

def testRollback (rollbackId fromTopologySnapshotId toTopologySnapshotId : Nat) :
    RollbackRecord :=
  ⟨rollbackId, fromTopologySnapshotId, toTopologySnapshotId, "recall regressed",
    "monitor://rollback", ["inline://route-decision/1"], 70000 + rollbackId⟩

def rollbackLine : String :=
  "\x7b\"rollback_id\":10000,\"from_topology_snapshot_id\":9001," ++
    "\"to_topology_snapshot_id\":9000,\"reason\":\"recall regressed\"," ++
    "\"triggered_by_ref\":\"monitor://rollback\"," ++
    "\"affected_route_decision_refs\":[\"inline://route-decision/1\"]," ++
    "\"created_at_ms\":80000\x7d"

section
set_option maxRecDepth 4000

theorem secondLine_object : ObjectLine secondLine := by
  iterate 4 refine ObjectLine.append ?_ rfl rfl
  exact objectLine_of_chars rfl rfl rfl

theorem packetLine_object : ObjectLine packetLine := by
  iterate 2 refine ObjectLine.append ?_ rfl rfl
  exact objectLine_of_chars rfl rfl rfl

theorem proposalLine_object : ObjectLine proposalLine := by
  iterate 6 refine ObjectLine.append ?_ rfl rfl
  exact objectLine_of_chars rfl rfl rfl

theorem snapshotLine_object : ObjectLine snapshotLine := by
  iterate 7 refine ObjectLine.append ?_ rfl rfl
  exact objectLine_of_chars rfl rfl rfl

theorem rollbackLine_object : ObjectLine rollbackLine := by
  iterate 4 refine ObjectLine.append ?_ rfl rfl
  exact objectLine_of_chars rfl rfl rfl

/-- The two events' lines differ in the digit of the id. -/
theorem createdLine_ne_secondLine : createdLine.toList ≠ secondLine.toList := by
  have hcreated : createdLine.toList[12]? = some '1' := by
    iterate 4 refine getElem?_append_of_some ?_
    exact getElem?_of_chars rfl rfl
  have hsecond : secondLine.toList[12]? = some '2' := by
    iterate 4 refine getElem?_append_of_some ?_
    exact getElem?_of_chars rfl rfl
  intro h
  rw [h, hsecond] at hcreated
  cases hcreated

end

def packetCodec : Codec AgentDecommissionPacket := tableCodec [(testPacket, packetLine)]
def proposalCodec : Codec TopologyProposal := tableCodec [(testProposal, proposalLine)]
def rollbackCodec : Codec RollbackRecord := tableCodec [(testRollback 10000 9001 9000, rollbackLine)]

/-- A codec of two events. -/
def eventsCodec : Codec LoomEvent :=
  tableCodec [(testEvent .taskCreated 1 10, createdLine), (testEvent .taskCreated 2 10, secondLine)]

theorem eventsLines : ObjectLines
    [(testEvent .taskCreated 1 10, createdLine), (testEvent .taskCreated 2 10, secondLine)] :=
  objectLines_pair createdLine_object secondLine_object createdLine_ne_secondLine

/-- An event appended to a text whose one line, an event, is open: the append
succeeds and the reader does not return the two events. -/
theorem open_record_lost :
    readEventLogJsonl eventsCodec "events.jsonl" (some createdLine.toList) =
      .ok (InMemoryEventLog.new.push (testEvent .taskCreated 1 10)) ∧
    (appendEventLogJsonl eventsCodec "events.jsonl" (some createdLine.toList)
      (testEvent .taskCreated 2 10)).1 = .ok () ∧
    ¬ ∃ log, readEventLogJsonl eventsCodec "events.jsonl"
        (appendEventLogJsonl eventsCodec "events.jsonl" (some createdLine.toList)
          (testEvent .taskCreated 2 10)).2 = .ok log ∧
      log.events = [testEvent .taskCreated 1 10, testEvent .taskCreated 2 10] := by
  have hw₁ : eventsCodec.Writes (testEvent .taskCreated 1 10) :=
    tableCodec_writes eventsLines (by simp)
  have hw₂ : eventsCodec.Writes (testEvent .taskCreated 2 10) :=
    tableCodec_writes eventsLines (by simp)
  have hs₂ : eventsCodec.SkipsBlanks (testEvent .taskCreated 2 10) :=
    tableCodec_skipsBlanks eventsLines (by simp)
  have hline : eventsCodec.encode (testEvent .taskCreated 1 10) = createdLine.toList :=
    tableCodec_encode_head _ _
  obtain ⟨hfirst, _⟩ := (InMemoryEventLog.appendOrFail_guarded .new (testEvent .taskCreated 1 10)
    (InMemoryEventLog.new.push (testEvent .taskCreated 1 10))).mp (by decide)
  obtain ⟨hsecond, _⟩ := (InMemoryEventLog.appendOrFail_guarded
    (InMemoryEventLog.new.push (testEvent .taskCreated 1 10)) (testEvent .taskCreated 2 10)
    ((InMemoryEventLog.new.push (testEvent .taskCreated 1 10)).push
      (testEvent .taskCreated 2 10))).mp (by decide)
  rw [← hline]
  exact append_to_open_event hw₁ hw₂ hs₂ hfirst hsecond

/-- A text of blanks without a newline: every kind of record appended to it is read back. -/
theorem appends_read_back_iff_blank :
    ((∃ log, readEventLogJsonl eventsCodec "events.jsonl"
        (appendEventLogJsonl eventsCodec "events.jsonl" (some [' ', '\t'])
          (testEvent .taskCreated 1 10)).2 = .ok log ∧
      log.events = [] ++ [testEvent .taskCreated 1 10]) ↔ SkippedOpenLine [' ', '\t']) ∧
    ((∃ packets, readDecommissionPacketsJsonl packetCodec "packets.jsonl"
        (appendDecommissionPacketJsonl packetCodec "packets.jsonl" (some [' ', '\t'])
          testPacket).2 = .ok packets ∧
      packets = [] ++ [testPacket]) ↔ SkippedOpenLine [' ', '\t']) ∧
    ((∃ proposals, readTopologyProposalsJsonl proposalCodec "proposals.jsonl"
        (appendTopologyProposalJsonl proposalCodec "proposals.jsonl" (some [' ', '\t'])
          testProposal).2 = .ok proposals ∧
      proposals = [] ++ [testProposal]) ↔ SkippedOpenLine [' ', '\t']) ∧
    ((∃ snapshots, readTopologySnapshotsJsonl (tableCodec [(testSnapshot 9000, snapshotLine)])
        "snapshots.jsonl"
        (appendTopologySnapshotJsonl (tableCodec [(testSnapshot 9000, snapshotLine)])
          "snapshots.jsonl" (some [' ', '\t']) (testSnapshot 9000)).2 = .ok snapshots ∧
      snapshots = [] ++ [testSnapshot 9000]) ↔ SkippedOpenLine [' ', '\t']) ∧
    ((∃ rollbacks, readRollbackRecordsJsonl rollbackCodec "rollbacks.jsonl"
        (appendRollbackRecordJsonl rollbackCodec "rollbacks.jsonl" (some [' ', '\t'])
          (testRollback 10000 9001 9000)).2 = .ok rollbacks ∧
      rollbacks = [] ++ [testRollback 10000 9001 9000]) ↔ SkippedOpenLine [' ', '\t']) := by
  have hpacket : ObjectLines [(testPacket, packetLine)] :=
    objectLines_singleton packetLine_object
  have hproposal : ObjectLines [(testProposal, proposalLine)] :=
    objectLines_singleton proposalLine_object
  have hsnapshot : ObjectLines [(testSnapshot 9000, snapshotLine)] :=
    objectLines_singleton snapshotLine_object
  have hrollback : ObjectLines [(testRollback 10000 9001 9000, rollbackLine)] :=
    objectLines_singleton rollbackLine_object
  refine ⟨?_, ?_, ?_, ?_, ?_⟩
  · exact (appends_read_back_iff "events.jsonl" [' ', '\t']).1 eventsCodec .new
      (testEvent .taskCreated 1 10) (tableCodec_writes eventsLines (by simp))
      (tableCodec_skipsBlanks eventsLines (by simp)) rfl rfl
  · exact (appends_read_back_iff "packets.jsonl" [' ', '\t']).2.1 packetCodec [] testPacket
      (tableCodec_writes hpacket (by simp)) (tableCodec_skipsBlanks hpacket (by simp)) rfl rfl
  · exact (appends_read_back_iff "proposals.jsonl" [' ', '\t']).2.2.1 proposalCodec [] testProposal
      (tableCodec_writes hproposal (by simp)) (tableCodec_skipsBlanks hproposal (by simp)) rfl rfl
  · exact (appends_read_back_iff "snapshots.jsonl" [' ', '\t']).2.2.2.1
      (tableCodec [(testSnapshot 9000, snapshotLine)]) [] (testSnapshot 9000)
      (tableCodec_writes hsnapshot (by simp)) (tableCodec_skipsBlanks hsnapshot (by simp)) rfl rfl
  · exact (appends_read_back_iff "rollbacks.jsonl" [' ', '\t']).2.2.2.2 rollbackCodec []
      (testRollback 10000 9001 9000) (tableCodec_writes hrollback (by simp))
      (tableCodec_skipsBlanks hrollback (by simp)) rfl rfl

end QTom.Topology
