import QTom.Lib.Jsonl
import QTom.Loom.LogRuns

/- The event log kept in a JSONL file (`loom.rs`). The file's text is what the
   functions read and leave; serde_json is the codec. I/O succeeds, so the one I/O
   error is opening a file that is not there.

   The file is a refinement of `InMemoryEventLog`: along any run of appends it is
   the lines of the events accepted so far (`HoldsLog`), so every append re-reads
   exactly the in-memory log. -/
namespace QTom.Loom
open QTom.Lib

def writeEventLogJsonl (codec : Codec LoomEvent) (events : List LoomEvent) :
    Except LoomEventError Unit × File :=
  (.ok (), some (jsonl codec events))

def readEventLogJsonl (codec : Codec LoomEvent) (path : String) :
    File → Except LoomEventError InMemoryEventLog
  | none => .error (.io path notFound)
  | some text =>
    readJsonl codec (fun lineNumber source => .json (some lineNumber) source)
      InMemoryEventLog.appendOrFail .new text

/-- The event log as a store of lines. -/
def eventLogStore (codec : Codec LoomEvent) (path : String) :
    LineStore LoomEvent InMemoryEventLog LoomEventError where
  codec := codec
  read := readEventLogJsonl codec path
  empty := .new
  accept := InMemoryEventLog.appendOrFail

def appendEventLogJsonl (codec : Codec LoomEvent) (path : String) (file : File)
    (event : LoomEvent) : Except LoomEventError Unit × File :=
  (eventLogStore codec path).append file event

/-- A text is accepted when its lines parse and the events append in order. -/
theorem readEventLogJsonl_ok_iff (codec : Codec LoomEvent) (path : String) {text : List Char}
    {log : InMemoryEventLog} :
    readEventLogJsonl codec path (some text) = .ok log ↔
      records codec (lines text) = .ok log.events ∧ log.Reachable := by
  show readJsonl codec _ InMemoryEventLog.appendOrFail .new text = .ok log ↔ _
  rw [readJsonl_ok_iff]
  refine ⟨?_, ?_⟩
  · intro ⟨events, hrecords, hrun⟩
    obtain ⟨hevents, hreach⟩ := InMemoryEventLog.reachable_of_appendAll hrun
    rw [hevents]
    exact ⟨hrecords, hreach⟩
  · intro ⟨hrecords, hreach⟩
    exact ⟨log.events, hrecords, InMemoryEventLog.reachable_iff.mp hreach⟩

variable {codec : Codec LoomEvent} {path : String}

theorem reachable_push {log : InMemoryEventLog} {e : LoomEvent} (h : log.Reachable)
    (ha : log.Accepts e) : (log.push e).Reachable := by
  have hnext : (log.append e).2.Reachable := Reaches.next e h
  rw [InMemoryEventLog.append_ok ha] at hnext
  exact hnext

/-- The event log is a lawful store of its events. -/
theorem eventLogStore_lawful (codec : Codec LoomEvent) (path : String) :
    (eventLogStore codec path).Lawful InMemoryEventLog.events InMemoryEventLog.Reachable := by
  refine ⟨?_, ⟨rfl, Reaches.start⟩, ?_⟩
  · intro text log
    exact readEventLogJsonl_ok_iff codec path
  · intro log e log' h haccept
    obtain ⟨ha, rfl⟩ := (InMemoryEventLog.appendOrFail_guarded log e log').mp haccept
    exact ⟨rfl, reachable_push h ha⟩

/-! Runs of appends on an absent file. -/

/-- The file is the lines of the log's events, absent while there are none. -/
structure HoldsLog (codec : Codec LoomEvent) (file : File) (log : InMemoryEventLog) : Prop where
  reachable : log.Reachable
  writes : ∀ e ∈ log.events, codec.Writes e
  text : file = if log.events.isEmpty then none else some (jsonl codec log.events)

/-- What a rewritten log reads back as. -/
theorem read_write (log : InMemoryEventLog) (h : log.Reachable)
    (hw : ∀ e ∈ log.events, codec.Writes e) :
    readEventLogJsonl codec path (writeEventLogJsonl codec (log.replay .start)).2 = .ok log := by
  rw [InMemoryEventLog.replay_start]
  exact (readEventLogJsonl_ok_iff codec path).mpr ⟨records_jsonl hw, h⟩

theorem HoldsLog.stored {file : File} {log : InMemoryEventLog} (h : HoldsLog codec file log) :
    (eventLogStore codec path).stored file = .ok log := by
  rw [h.text]
  by_cases hnil : log.events.isEmpty = true
  · -- a reachable log without events is the new one
    rw [if_pos hnil]
    have hrun := InMemoryEventLog.reachable_iff.mp h.reachable
    rw [List.isEmpty_iff.mp hnil] at hrun
    exact hrun
  · rw [if_neg hnil]
    exact (readEventLogJsonl_ok_iff codec path).mpr ⟨records_jsonl h.writes, h.reachable⟩

/-- One append on the file does what it does on the log. -/
theorem HoldsLog.step {file : File} {log : InMemoryEventLog} (h : HoldsLog codec file log)
    {e : LoomEvent} (he : codec.Writes e) :
    (appendEventLogJsonl codec path file e).1 = (log.append e).1 ∧
      HoldsLog codec (appendEventLogJsonl codec path file e).2 (log.append e).2 := by
  have hstored : (eventLogStore codec path).stored file = .ok log := h.stored
  rcases InMemoryEventLog.append_cases log e with ⟨ha, happ⟩ | ⟨_, err, happ⟩
  · have haccept : log.appendOrFail e = .ok (log.push e) :=
      (InMemoryEventLog.appendOrFail_guarded log e _).mpr ⟨ha, rfl⟩
    rw [appendEventLogJsonl, LineStore.append_accepted hstored haccept, happ]
    refine ⟨rfl, reachable_push h.reachable ha, ?_, ?_⟩
    · intro e' he'
      rcases List.mem_append.mp he' with hmem | hmem
      · exact h.writes e' hmem
      · rw [List.mem_singleton.mp hmem]
        exact he
    · -- the new line stands after the lines of the events before
      have hpush : (log.push e).events.isEmpty = false := by simp [InMemoryEventLog.push]
      rw [hpush, if_neg Bool.false_ne_true, h.text]
      by_cases hnil : log.events.isEmpty = true
      · simp [InMemoryEventLog.push, jsonl, List.isEmpty_iff.mp hnil, eventLogStore]
      · simp [InMemoryEventLog.push, jsonl, hnil, eventLogStore]
  · have haccept : log.appendOrFail e = .error err := by
      simp only [InMemoryEventLog.appendOrFail, happ]
    rw [appendEventLogJsonl, LineStore.append_refused hstored haccept, happ]
    exact ⟨rfl, h⟩

/-- The file beside the in-memory log: not there while the log is empty, else read
back as the log; and the log, rewritten, reads back as itself. -/
structure MatchesLog (codec : Codec LoomEvent) (path : String) (file : File)
    (log : InMemoryEventLog) : Prop where
  absent : log = .new → file = none
  readsBack : log ≠ .new → readEventLogJsonl codec path file = .ok log
  rewritten :
    readEventLogJsonl codec path (writeEventLogJsonl codec (log.replay .start)).2 = .ok log

theorem HoldsLog.matchesLog {file : File} {log : InMemoryEventLog} (h : HoldsLog codec file log) :
    MatchesLog codec path file log := by
  refine ⟨?_, ?_, read_write log h.reachable h.writes⟩
  · intro hnew
    rw [h.text, hnew]
    rfl
  · intro hne
    have hstored : (eventLogStore codec path).stored file = .ok log := h.stored
    cases file with
    | none => exact absurd (Except.ok.inj hstored).symm hne
    | some text => exact hstored

/-- Appending any events to an absent file answers as the in-memory log does, and
after every step the file matches that log. A refused event leaves any file as it was. -/
theorem appends_match_log (codec : Codec LoomEvent) (path : String) {events : List LoomEvent}
    (h : ∀ e ∈ events, codec.Writes e) :
    List.Forall₂
      (fun onFile inMemory => onFile.1 = inMemory.1 ∧ MatchesLog codec path onFile.2 inMemory.2)
      (trace (appendEventLogJsonl codec path) none events)
      (trace InMemoryEventLog.append .new events) ∧
    ∀ file event err, (appendEventLogJsonl codec path file event).1 = .error err →
      (appendEventLogJsonl codec path file event).2 = file := by
  have hnew : HoldsLog codec none .new := ⟨Reaches.start, by simp [InMemoryEventLog.new], rfl⟩
  have hrun := trace_forall₂ (f := appendEventLogJsonl codec path) (g := InMemoryEventLog.append)
    (R := HoldsLog codec) (fun e he file log hR => hR.step (h e he)) hnew
  refine ⟨hrun.imp ?_, ?_⟩
  · intro onFile inMemory hboth
    exact ⟨hboth.1, hboth.2.matchesLog⟩
  · intro file event err herr
    exact LineStore.append_error herr

/-! A created event and its line. -/

def createdLine : String :=
  "\x7b\"event_id\":1,\"event_type\":\"TaskCreated\",\"root_task_id\":1,\"task_id\":10," ++
    "\"parent_task_id\":null,\"prompt_id\":7,\"agent_id\":42,\"agent_role\":null," ++
    "\"topology_snapshot_id\":3,\"payload_schema\":\"test.payload.v1\"," ++
    "\"payload_ref\":\"inline://event\",\"occurred_at_ms\":1001,\"causation_id\":null," ++
    "\"correlation_id\":99\x7d"

def createdCodec : Codec LoomEvent := tableCodec [(testEvent .taskCreated 1 10, createdLine)]

set_option maxRecDepth 4000 in
theorem createdLine_object : ObjectLine createdLine := by
  iterate 4 refine ObjectLine.append ?_ rfl rfl
  exact objectLine_of_chars rfl rfl rfl

theorem createdCodec_writes : createdCodec.Writes (testEvent .taskCreated 1 10) :=
  tableCodec_writes (objectLines_singleton createdLine_object) (by simp)

/-- The same event twice: accepted, then refused. -/
theorem appends_match_log_createdTwice :
    List.Forall₂
      (fun onFile inMemory =>
        onFile.1 = inMemory.1 ∧ MatchesLog createdCodec "events.jsonl" onFile.2 inMemory.2)
      (trace (appendEventLogJsonl createdCodec "events.jsonl") none
        [testEvent .taskCreated 1 10, testEvent .taskCreated 1 10])
      (trace InMemoryEventLog.append .new
        [testEvent .taskCreated 1 10, testEvent .taskCreated 1 10]) ∧
    ∀ file event err, (appendEventLogJsonl createdCodec "events.jsonl" file event).1 = .error err →
      (appendEventLogJsonl createdCodec "events.jsonl" file event).2 = file := by
  apply appends_match_log
  intro e he
  rcases List.mem_pair.mp he with rfl | rfl
  · exact createdCodec_writes
  · exact createdCodec_writes

/-! An event without a payload and its line. -/

def emptyEvent : LoomEvent := { testEvent .taskCreated 1 10 with payloadRef := "" }

def emptyLine : String :=
  "\x7b\"event_id\":1,\"event_type\":\"TaskCreated\",\"root_task_id\":1,\"task_id\":10," ++
    "\"parent_task_id\":null,\"prompt_id\":7,\"agent_id\":42,\"agent_role\":null," ++
    "\"topology_snapshot_id\":3,\"payload_schema\":\"test.payload.v1\"," ++
    "\"payload_ref\":\"\",\"occurred_at_ms\":1001,\"causation_id\":null," ++
    "\"correlation_id\":99\x7d"

set_option maxRecDepth 4000 in
theorem emptyLine_object : ObjectLine emptyLine := by
  iterate 4 refine ObjectLine.append ?_ rfl rfl
  exact objectLine_of_chars rfl rfl rfl

/-- A first event that is refused leaves no file, and reading no file fails. -/
theorem refused_first_event_unreadable :
    (tableCodec [(emptyEvent, emptyLine)]).Writes emptyEvent ∧
      ¬ List.Forall₂
        (fun onFile inMemory =>
          readEventLogJsonl (tableCodec [(emptyEvent, emptyLine)]) "events.jsonl" onFile.2 =
            .ok inMemory.2)
        (trace (appendEventLogJsonl (tableCodec [(emptyEvent, emptyLine)]) "events.jsonl") none
          [emptyEvent])
        (trace InMemoryEventLog.append .new [emptyEvent]) := by
  refine ⟨tableCodec_writes (objectLines_singleton emptyLine_object) (by simp), ?_⟩
  intro h
  have hrefused : (eventLogStore (tableCodec [(emptyEvent, emptyLine)]) "events.jsonl").accept .new
      emptyEvent = .error .missingPayloadRef := by decide
  obtain ⟨hread, _⟩ := List.forall₂_cons.mp h
  rw [appendEventLogJsonl, LineStore.append_refused rfl hrefused] at hread
  cases hread

end QTom.Loom
