import Mathlib.Data.Finset.Insert
import QTom.Lib.Jsonl
import QTom.Loom.ModelError

/- The JSONL ledgers of `loom_model.rs`. Each kind of record has its own write, read
   and append function, all of one shape: the records are validated together
   (`validate`, unique ids), reading parses one record a line, appending re-reads the
   ledger and writes one line at its end. The shape is defined here once, with its
   laws; a record's functions are its instances. I/O succeeds, and a file's text is
   valid UTF-8. -/
namespace QTom.Loom
open QTom.Lib
variable {ρ : Type}

/-! Unique ids. -/

/-- The validation loop, `seen` being the ids of the records before. -/
def validateUniqueFrom (idOf : ρ → Nat) (duplicate : Nat → LoomModelError) (seen : Finset Nat) :
    List ρ → Except LoomModelError Unit
  | [] => .ok ()
  | r :: rs =>
    if idOf r ∈ seen then .error (duplicate (idOf r))
    else validateUniqueFrom idOf duplicate (insert (idOf r) seen) rs

def validateUnique (idOf : ρ → Nat) (duplicate : Nat → LoomModelError) (rs : List ρ) :
    Except LoomModelError Unit :=
  validateUniqueFrom idOf duplicate ∅ rs

theorem validateUniqueFrom_ok_iff {idOf : ρ → Nat} {duplicate : Nat → LoomModelError}
    {seen : Finset Nat} {rs : List ρ} :
    validateUniqueFrom idOf duplicate seen rs = .ok () ↔
      (rs.map idOf).Nodup ∧ ∀ r ∈ rs, idOf r ∉ seen := by
  induction rs generalizing seen with
  | nil => simp [validateUniqueFrom]
  | cons r rs ih =>
    simp only [validateUniqueFrom]
    by_cases hr : idOf r ∈ seen
    · simp [hr]
    · rw [if_neg hr, ih, List.map_cons, List.nodup_cons, List.forall_mem_cons]
      simp only [Finset.mem_insert, not_or, List.mem_map, not_exists, not_and]
      refine ⟨?_, ?_⟩
      · intro ⟨hnodup, hfresh⟩
        exact ⟨⟨fun x hx => (hfresh x hx).1, hnodup⟩, hr, fun x hx => (hfresh x hx).2⟩
      · intro ⟨⟨hne, hnodup⟩, _, hfresh⟩
        exact ⟨hnodup, fun x hx => ⟨hne x hx, hfresh x hx⟩⟩

theorem validateUnique_ok_iff {idOf : ρ → Nat} {duplicate : Nat → LoomModelError} {rs : List ρ} :
    validateUnique idOf duplicate rs = .ok () ↔ (rs.map idOf).Nodup := by
  rw [validateUnique, validateUniqueFrom_ok_iff]
  simp

/-! The shape of a ledger. -/

def writeLedger (validate : List ρ → Except LoomModelError Unit) (codec : Codec ρ) (file : File)
    (rs : List ρ) : Except LoomModelError Unit × File :=
  match validate rs with
  | .error err => (.error err, file)
  | .ok () => (.ok (), some (jsonl codec rs))

def readLedger (validate : List ρ → Except LoomModelError Unit) (codec : Codec ρ) (path : String) :
    File → Except LoomModelError (List ρ)
  | none => .error (.io path notFound)
  | some text => do
    let rs ← readJsonl codec (fun lineNumber source => .json (some lineNumber) source)
      (fun rs r => .ok (rs ++ [r])) [] text
    validate rs
    return rs

/-- A ledger as a store of lines. -/
def ledgerStore (validate : List ρ → Except LoomModelError Unit) (codec : Codec ρ)
    (path : String) : LineStore ρ (List ρ) LoomModelError where
  codec := codec
  read := readLedger validate codec path
  empty := []
  accept rs r := do
    validate (rs ++ [r])
    return rs ++ [r]

def appendLedger (validate : List ρ → Except LoomModelError Unit) (codec : Codec ρ) (path : String)
    (file : File) (r : ρ) : Except LoomModelError Unit × File :=
  (ledgerStore validate codec path).append file r

section
variable {validate : List ρ → Except LoomModelError Unit} {codec : Codec ρ}

/-- A text is accepted when its lines parse and its records pass validation together. -/
theorem readLedger_ok_iff (path : String) {text : List Char} {rs : List ρ} :
    readLedger validate codec path (some text) = .ok rs ↔
      records codec (lines text) = .ok rs ∧ validate rs = .ok () := by
  simp only [readLedger, bind_ok_iff, readJsonl_ok_iff, foldlM_collect, List.nil_append, pure,
    Except.pure, Except.ok.injEq]
  refine ⟨?_, ?_⟩
  · intro ⟨xs, ⟨ys, hrecords, hxs⟩, _, hvalid, heq⟩
    rw [← heq, ← hxs]
    rw [← hxs] at hvalid
    exact ⟨hrecords, hvalid⟩
  · intro ⟨hrecords, hvalid⟩
    exact ⟨rs, ⟨rs, hrecords, rfl⟩, (), hvalid, rfl⟩

variable {path : String}

theorem accept_ok_iff {rs t : List ρ} {r : ρ} :
    (ledgerStore validate codec path).accept rs r = .ok t ↔
      validate (rs ++ [r]) = .ok () ∧ t = rs ++ [r] := by
  simp only [ledgerStore, then_ok_iff, pure, Except.pure, Except.ok.injEq, eq_comm (a := t)]

theorem ledgerStore_lawful (hnil : validate [] = .ok ()) :
    (ledgerStore validate codec path).Lawful (fun rs => rs) (fun rs => validate rs = .ok ()) := by
  refine ⟨?_, ⟨rfl, hnil⟩, ?_⟩
  · intro text rs
    exact readLedger_ok_iff path
  · intro rs r t _ haccept
    obtain ⟨hvalid, rfl⟩ := accept_ok_iff.mp haccept
    exact ⟨rfl, hvalid⟩

/-- What is written reads back. -/
theorem readLedger_written {rs : List ρ} (hvalid : validate rs = .ok ())
    (h : ∀ r ∈ rs, codec.Writes r) (file : File) :
    readLedger validate codec path (writeLedger validate codec file rs).2 = .ok rs := by
  simp only [writeLedger, hvalid]
  exact (readLedger_ok_iff path).mpr ⟨records_jsonl h, hvalid⟩

/-- Appending to what was written reads back as the records and the new one. -/
theorem readLedger_appended (path : String) {rs : List ρ} {r : ρ} (hvalid : validate rs = .ok ())
    (happended : validate (rs ++ [r]) = .ok ()) (h : ∀ x ∈ rs, codec.Writes x)
    (hr : codec.Writes r) (file : File) :
    (appendLedger validate codec path (writeLedger validate codec file rs).2 r).1 = .ok () ∧
    readLedger validate codec path
      (appendLedger validate codec path (writeLedger validate codec file rs).2 r).2 =
        .ok (rs ++ [r]) := by
  have hwritten : (writeLedger validate codec file rs).2 = some (jsonl codec rs) := by
    simp only [writeLedger, hvalid]
  have hstored : (ledgerStore validate codec path).stored (some (jsonl codec rs)) = .ok rs :=
    (readLedger_ok_iff path).mpr ⟨records_jsonl h, hvalid⟩
  have haccept : (ledgerStore validate codec path).accept rs r = .ok (rs ++ [r]) :=
    accept_ok_iff.mpr ⟨happended, rfl⟩
  rw [hwritten, appendLedger, LineStore.append_accepted hstored haccept]
  refine ⟨rfl, ?_⟩
  -- the new file is the lines of all the records
  have htext : jsonl codec rs ++ (codec.encode r ++ ['\n']) = jsonl codec (rs ++ [r]) := by
    simp [jsonl]
  show readLedger validate codec path (some (jsonl codec rs ++ (codec.encode r ++ ['\n']))) = _
  rw [htext]
  refine (readLedger_ok_iff path).mpr ⟨records_jsonl ?_, happended⟩
  intro x hx
  rcases List.mem_append.mp hx with hx | hx
  · exact h x hx
  · rw [List.mem_singleton.mp hx]
    exact hr

/-- A successful append is read back exactly when the text's open line is skipped. -/
theorem appendLedger_readsBackWhen (hnil : validate [] = .ok ()) (path : String)
    (text : List Char) : ReadsBackWhen (fun rs => rs) (readLedger validate)
      (appendLedger validate) path text (SkippedOpenLine text) := by
  intro codec rs r h hs hread hok
  exact LineStore.append_reads_back_iff (ledgerStore_lawful hnil) h hs hread hok

end

/-! Files a ledger's own functions made. -/

/-- A file that writes and appends of `Built` records made, refused calls among them. -/
inductive BuiltFile (write : Codec ρ → File → List ρ → Except LoomModelError Unit × File)
    (append : Codec ρ → String → File → ρ → Except LoomModelError Unit × File) (codec : Codec ρ)
    (path : String) (Built : ρ → Prop) : File → Prop where
  | absent : BuiltFile write append codec path Built none
  | written {file : File} {rs : List ρ} : BuiltFile write append codec path Built file →
      (∀ r ∈ rs, Built r) → BuiltFile write append codec path Built (write codec file rs).2
  | appended {file : File} {r : ρ} : BuiltFile write append codec path Built file →
      Built r → BuiltFile write append codec path Built (append codec path file r).2

section
variable {validate : List ρ → Except LoomModelError Unit} {codec : Codec ρ} {path : String}
  {Built : ρ → Prop}

/-- Such a file is absent or the lines of built records. -/
theorem BuiltFile.lines_of_built {file : File}
    (h : BuiltFile (writeLedger validate) (appendLedger validate) codec path Built file) :
    ∃ rs, (∀ r ∈ rs, Built r) ∧ (file = none ∧ rs = [] ∨ file = some (jsonl codec rs)) := by
  induction h with
  | absent => exact ⟨[], fun _ hr => (nomatch hr), Or.inl ⟨rfl, rfl⟩⟩
  | @written file rs _ hbuilt ih =>
    unfold writeLedger
    split
    · exact ih
    · exact ⟨rs, hbuilt, Or.inr rfl⟩
  | @appended file r _ hbuilt ih =>
    rcases (ledgerStore validate codec path).append_cases file r with
      ⟨e, hrefused⟩ | ⟨_, _, _, _, haccepted⟩
    · rw [appendLedger, hrefused]
      exact ih
    · obtain ⟨rs, hrs, hfile⟩ := ih
      have htext : file.getD [] = jsonl codec rs := by
        rcases hfile with ⟨rfl, rfl⟩ | rfl <;> rfl
      refine ⟨rs ++ [r], List.forall_mem_append.mpr ⟨hrs, by simpa using hbuilt⟩, Or.inr ?_⟩
      rw [appendLedger, haccepted, htext]
      simp [jsonl, ledgerStore]

/-- The records read from it are built ones. -/
theorem BuiltFile.read_built {file : File} {rs : List ρ}
    (h : BuiltFile (writeLedger validate) (appendLedger validate) codec path Built file)
    (hcodec : ∀ r, Built r → codec.RoundTrips r) (hread : readLedger validate codec path file = .ok rs) :
    ∀ r ∈ rs, Built r := by
  obtain ⟨written, hwritten, hfile⟩ := h.lines_of_built
  rcases hfile with ⟨rfl, _⟩ | rfl
  · cases hread
  · intro r hr
    obtain ⟨hrecords, _⟩ := (readLedger_ok_iff path).mp hread
    exact hwritten r (mem_of_records_jsonl (fun x hx => hcodec x (hwritten x hx)) hrecords r hr)

end

/-- What a ledger's functions guarantee of the records read. Any file the reader accepts gives
the records of its lines, with distinct ids and nothing else checked; a file made of built
records by the ledger's own functions gives records that pass the checks of `Meets`. -/
structure LedgerGuarantee (write : Codec ρ → File → List ρ → Except LoomModelError Unit × File)
    (read : Codec ρ → String → File → Except LoomModelError (List ρ))
    (append : Codec ρ → String → File → ρ → Except LoomModelError Unit × File) (idOf : ρ → Nat)
    (Built Meets : ρ → Prop) : Prop where
  decoded : ∀ codec path text rs, read codec path (some text) = .ok rs ↔
    records codec (lines text) = .ok rs ∧ (rs.map idOf).Nodup
  built : ∀ codec path file rs, (∀ r, Built r → codec.RoundTrips r) →
    BuiltFile write append codec path Built file → read codec path file = .ok rs → ∀ r ∈ rs, Meets r

theorem ledgerGuarantee {idOf : ρ → Nat} {duplicate : Nat → LoomModelError} {Built Meets : ρ → Prop}
    (h : ∀ r, Built r → Meets r) :
    LedgerGuarantee (writeLedger (validateUnique idOf duplicate))
      (readLedger (validateUnique idOf duplicate)) (appendLedger (validateUnique idOf duplicate))
      idOf Built Meets := by
  refine ⟨?_, ?_⟩
  · intro codec path text rs
    rw [readLedger_ok_iff, validateUnique_ok_iff]
  · intro codec path file rs hcodec hfile hread r hr
    exact h r (hfile.read_built hcodec hread r hr)

/-! Decommission packets. -/

structure AgentDecommissionPacket where
  packetId : Nat
  agentId : Nat
  rootTaskId : Nat
  taskId : Nat
  promptId : Nat
  planId : Nat
  finalStatus : String
  deliverableRefs : List Nat
  selfSummaryRef : String
  deriving DecidableEq, Repr

def AgentDecommissionPacket.completed (packetId agentId rootTaskId taskId promptId planId : Nat)
    (deliverableRefs : List Nat) (selfSummaryRef : String) :
    Except LoomModelError AgentDecommissionPacket := do
  ensureNotEmptyCollection "deliverable_refs" deliverableRefs
  ensureNotEmpty "self_summary_ref" selfSummaryRef
  return {
    packetId, agentId, rootTaskId, taskId, promptId, planId
    finalStatus := "completed"
    deliverableRefs, selfSummaryRef }

theorem AgentDecommissionPacket.completed_ok_iff {packetId agentId rootTaskId taskId promptId
    planId : Nat} {deliverableRefs : List Nat} {selfSummaryRef : String}
    {packet : AgentDecommissionPacket} :
    completed packetId agentId rootTaskId taskId promptId planId deliverableRefs selfSummaryRef =
        .ok packet ↔
      (deliverableRefs ≠ [] ∧ isBlank selfSummaryRef = false) ∧
        packet = ⟨packetId, agentId, rootTaskId, taskId, promptId, planId, "completed",
          deliverableRefs, selfSummaryRef⟩ := by
  unfold completed
  rw [then_ok_iff, then_ok_iff, ensureNotEmptyCollection_ok_iff, ensureNotEmpty_ok_iff]
  simp only [pure, Except.pure, Except.ok.injEq, and_assoc, eq_comm (a := packet)]

def validateUniquePacketIds (packets : List AgentDecommissionPacket) : Except LoomModelError Unit :=
  validateUnique AgentDecommissionPacket.packetId .duplicatePacketId packets

def writeDecommissionPacketsJsonl (codec : Codec AgentDecommissionPacket) (file : File)
    (packets : List AgentDecommissionPacket) : Except LoomModelError Unit × File :=
  writeLedger validateUniquePacketIds codec file packets

def readDecommissionPacketsJsonl (codec : Codec AgentDecommissionPacket) (path : String)
    (file : File) : Except LoomModelError (List AgentDecommissionPacket) :=
  readLedger validateUniquePacketIds codec path file

def appendDecommissionPacketJsonl (codec : Codec AgentDecommissionPacket) (path : String)
    (file : File) (packet : AgentDecommissionPacket) : Except LoomModelError Unit × File :=
  appendLedger validateUniquePacketIds codec path file packet

end QTom.Loom
