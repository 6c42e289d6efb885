import QTom.Loom.Evaluation
import QTom.Topology.Evidence
import QTom.Topology.Ledgers

/- The constructors' checks over a reload. A reader asks for distinct ids and nothing
   else, so a record that fails its constructor's checks is returned like any other
   (`unchecked_packet_returned`). Records come back checked when they went out checked:
   from a file the ledger's own write and append functions made of records that their
   constructors, and for proposals the lifecycle calls, returned. -/
namespace QTom.Topology
open QTom.Lib QTom.Loom QTom.Router

/-! Built records, and the checks they passed. -/

def BuiltPacket (packet : AgentDecommissionPacket) : Prop :=
  ∃ packetId agentId rootTaskId taskId promptId planId deliverableRefs selfSummaryRef,
    AgentDecommissionPacket.completed packetId agentId rootTaskId taskId promptId planId
      deliverableRefs selfSummaryRef = .ok packet

structure PacketChecks (packet : AgentDecommissionPacket) : Prop where
  deliverables : packet.deliverableRefs ≠ []
  summary : isBlank packet.selfSummaryRef = false

def BuiltRollback (record : RollbackRecord) : Prop :=
  ∃ rollbackId source target reason trigger affected createdAtMs,
    RollbackRecord.new rollbackId source target reason trigger affected createdAtMs = .ok record

structure RollbackChecks (record : RollbackRecord) : Prop where
  moves : record.fromTopologySnapshotId ≠ record.toTopologySnapshotId
  reason : isBlank record.reason = false
  trigger : isBlank record.triggeredByRef = false
  affected : record.affectedRouteDecisionRefs ≠ []

def BuiltFixture {F : Type} [F32 F] (fixture : EvaluationFixture F) : Prop :=
  ∃ evaluationId evaluator taskId artifactRefs score rationale,
    EvaluationFixture.new evaluationId evaluator taskId artifactRefs score rationale = .ok fixture

structure FixtureChecks {F : Type} [F32 F] (fixture : EvaluationFixture F) : Prop where
  artifacts : fixture.artifactRefs ≠ []
  score : unitScore fixture.score = true
  rationale : isBlank fixture.rationale = false

/-- A draft after any lifecycle calls. -/
def BuiltProposal (proposal : TopologyProposal) : Prop :=
  ∃ id kind proposer change evidence createdAtMs draft calls,
    TopologyProposal.draft id kind proposer change evidence createdAtMs = .ok draft ∧
    proposal = ((Session.start draft).run calls).proposal

structure ProposalChecks (proposal : TopologyProposal) : Prop where
  evidence : proposal.evidenceRefs ≠ []
  committed : proposal.status = .committed → proposal.benchmarkReportRefs ≠ [] ∧
    proposal.shadowReportRefs ≠ [] ∧ proposal.approvalRefs ≠ []

theorem BuiltPacket.checks {packet : AgentDecommissionPacket} (h : BuiltPacket packet) :
    PacketChecks packet := by
  obtain ⟨_, _, _, _, _, _, _, _, hnew⟩ := h
  obtain ⟨⟨hrefs, hsummary⟩, rfl⟩ := AgentDecommissionPacket.completed_ok_iff.mp hnew
  exact ⟨hrefs, hsummary⟩

theorem ensureDistinctSnapshots_ok_iff {source target : Nat} :
    ensureDistinctSnapshots source target = .ok () ↔ source ≠ target := by
  unfold ensureDistinctSnapshots
  split
  · simp [*]
  · simp [Ne.symm ‹_›]

theorem BuiltRollback.checks {record : RollbackRecord} (h : BuiltRollback record) :
    RollbackChecks record := by
  obtain ⟨_, _, _, _, _, _, _, hnew⟩ := h
  unfold RollbackRecord.new at hnew
  rw [then_ok_iff, then_ok_iff, then_ok_iff, then_ok_iff, ensureNotEmpty_ok_iff,
    ensureNotEmpty_ok_iff, ensureNotEmptyCollection_ok_iff, ensureDistinctSnapshots_ok_iff] at hnew
  obtain ⟨hreason, htrigger, haffected, hmoves, hrecord⟩ := hnew
  obtain rfl := Except.ok.inj hrecord
  exact ⟨hmoves, hreason, htrigger, haffected⟩

theorem BuiltFixture.checks {F : Type} [F32 F] {fixture : EvaluationFixture F}
    (h : BuiltFixture fixture) : FixtureChecks fixture := by
  obtain ⟨_, _, _, _, _, _, hnew⟩ := h
  obtain ⟨⟨hrefs, hscore, hrationale⟩, rfl⟩ := EvaluationFixture.new_ok_iff.mp hnew
  exact ⟨hrefs, hscore, hrationale⟩

theorem BuiltProposal.checks {proposal : TopologyProposal} (h : BuiltProposal proposal) :
    ProposalChecks proposal := by
  obtain ⟨_, _, _, _, _, _, draft, calls, hdraft, rfl⟩ := h
  obtain ⟨⟨_, _, hevidence⟩, hfields⟩ := TopologyProposal.draft_ok_iff.mp hdraft
  have hstart : Backed draft [] (Session.start draft).proposal := Backed.start (by rw [hfields])
  have hbacked := history_backed hstart calls
  refine ⟨?_, hbacked.committed⟩
  rw [(hbacked.origin _ List.mem_cons_self).evidenceRefs, hfields]
  exact hevidence

/-- The four readers. Of any file a reader returns the records its lines hold, when their ids
    differ; of a file made by the ledger's own functions from built records, records that pass
    their constructor's checks. -/
theorem readers_restore_built {F : Type} [F32 F] :
    LedgerGuarantee writeDecommissionPacketsJsonl readDecommissionPacketsJsonl
      appendDecommissionPacketJsonl AgentDecommissionPacket.packetId BuiltPacket PacketChecks ∧
    LedgerGuarantee writeRollbackRecordsJsonl readRollbackRecordsJsonl appendRollbackRecordJsonl
      RollbackRecord.rollbackId BuiltRollback RollbackChecks ∧
    LedgerGuarantee writeEvaluationFixturesJsonl readEvaluationFixturesJsonl
      appendEvaluationFixtureJsonl EvaluationFixture.evaluationId (BuiltFixture (F := F))
      FixtureChecks ∧
    LedgerGuarantee writeTopologyProposalsJsonl readTopologyProposalsJsonl
      appendTopologyProposalJsonl TopologyProposal.topologyProposalId BuiltProposal ProposalChecks :=
  ⟨ledgerGuarantee fun _ => BuiltPacket.checks, ledgerGuarantee fun _ => BuiltRollback.checks,
    ledgerGuarantee fun _ => BuiltFixture.checks, ledgerGuarantee fun _ => BuiltProposal.checks⟩

/-! A file from elsewhere. -/

/-- A packet without deliverables. -/
def idlePacket : AgentDecommissionPacket :=
  ⟨1200, 10011, 1, 11, 7, 42, "completed", [], "inline://decommission"⟩

def idlePacketLine : String :=
  "\x7b\"packet_id\":1200,\"agent_id\":10011,\"root_task_id\":1,\"task_id\":11," ++
    "\"prompt_id\":7,\"plan_id\":42,\"final_status\":\"completed\"," ++
    "\"deliverable_refs\":[],\"self_summary_ref\":\"inline://decommission\"\x7d"

section
set_option maxRecDepth 4000

theorem idlePacketLine_object : ObjectLine idlePacketLine := by
  iterate 2 refine ObjectLine.append ?_ rfl rfl
  exact objectLine_of_chars rfl rfl rfl

end

def idlePacketCodec : Codec AgentDecommissionPacket := tableCodec [(idlePacket, idlePacketLine)]

/-- No constructor call returns the packet, and the reader does. -/
theorem unchecked_packet_returned :
    readDecommissionPacketsJsonl idlePacketCodec "packets.jsonl"
      (some (idlePacketLine.toList ++ ['\n'])) = .ok [idlePacket] ∧
    ¬ ∀ (codec : Codec AgentDecommissionPacket) (path : String) (text : List Char) packets,
      readDecommissionPacketsJsonl codec path (some text) = .ok packets →
      ∀ packet ∈ packets, PacketChecks packet := by
  have hlines : ObjectLines [(idlePacket, idlePacketLine)] :=
    objectLines_singleton idlePacketLine_object
  have hwrites : idlePacketCodec.Writes idlePacket := tableCodec_writes hlines (by simp)
  have hline : idlePacketCodec.encode idlePacket = idlePacketLine.toList :=
    tableCodec_encode_head _ _
  have hread : readDecommissionPacketsJsonl idlePacketCodec "packets.jsonl"
      (some (idlePacketLine.toList ++ ['\n'])) = .ok [idlePacket] := by
    rw [← hline]
    exact (readLedger_ok_iff "packets.jsonl").mpr ⟨records_line hwrites, rfl⟩
  refine ⟨hread, ?_⟩
  intro hall
  exact (hall idlePacketCodec "packets.jsonl" _ _ hread idlePacket List.mem_cons_self).deliverables rfl

end QTom.Topology
