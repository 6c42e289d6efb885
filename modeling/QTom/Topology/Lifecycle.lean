import QTom.Topology.Proposal

/- Runs of lifecycle calls on one proposal. A session is the proposal its caller
   holds and the snapshots its commits returned; a refused call changes neither.

   Three of the four methods demand the status before the one they set, `markTested`
   does not, so an approved or a committed proposal can be marked tested again and
   committed twice (`committed_then_tested`). `governed_run_iff` says which runs
   keep to the lifecycle: exactly those whose every `markTested` finds a draft or is
   refused by its own two checks. -/
namespace QTom.Topology
open QTom.Lib QTom.Loom

/-- A lifecycle call and its arguments. -/
inductive ProposalCall where
  | markTested (benchmarkReportRefs : List String) (updatedAtMs : Nat)
  | markShadowed (shadowReportRefs : List String) (updatedAtMs : Nat)
  | markApproved (approvalRefs : List String) (updatedAtMs : Nat)
  | commit (topologySnapshotId : Nat) (parentSnapshotId : Option Nat)
      (agentRegistryVersion : String)
      (gradientSpaceVersions memoryIndexVersions routePolicyVersions : List String)
      (hardConstraintPolicyVersion : String) (updatedAtMs : Nat)
  deriving DecidableEq, Repr

def ProposalCall.isCommit : ProposalCall → Bool
  | .commit .. => true
  | _ => false

/-- The proposal a call returns, and the snapshot when it is a commit. -/
def TopologyProposal.call (p : TopologyProposal) :
    ProposalCall → Except LoomModelError (TopologyProposal × Option TopologySnapshot)
  | .markTested refs at' => return (← p.markTested refs at', none)
  | .markShadowed refs at' => return (← p.markShadowed refs at', none)
  | .markApproved refs at' => return (← p.markApproved refs at', none)
  | .commit id parent registry gradient memory policies hard at' => do
    let (q, snapshot) ← p.commit id parent registry gradient memory policies hard at'
    return (q, some snapshot)

structure Session where
  proposal : TopologyProposal
  snapshots : List TopologySnapshot
  deriving DecidableEq, Repr

namespace Session

def start (p : TopologyProposal) : Session := ⟨p, []⟩

def step (s : Session) (c : ProposalCall) : Session :=
  match s.proposal.call c with
  | .ok (q, snapshot) => ⟨q, s.snapshots ++ snapshot.toList⟩
  | .error _ => s

def run (s : Session) (calls : List ProposalCall) : Session := calls.foldl step s

end Session

/-! One call: the guards its method checks, and what it leaves when they hold. -/

namespace ProposalCall

/-- The status a successful call sets. -/
def target : ProposalCall → TopologyProposalStatus
  | .markTested .. => .tested
  | .markShadowed .. => .shadowed
  | .markApproved .. => .approved
  | .commit .. => .committed

/-- The status check of each method: all but `markTested` have one. -/
def Expects (status : TopologyProposalStatus) : ProposalCall → Prop
  | .markTested .. => True
  | .markShadowed .. => status = .tested
  | .markApproved .. => status = .shadowed
  | .commit .. => status = .approved

/-- The evidence or the versions a call must bring. -/
def Complete : ProposalCall → Prop
  | .markTested refs _ | .markShadowed refs _ | .markApproved refs _ => refs ≠ []
  | .commit _ _ registry gradient memory policies hard _ =>
    TopologyProposal.Versions registry gradient memory policies hard

def updatedAtMs : ProposalCall → Nat
  | .markTested _ at' | .markShadowed _ at' | .markApproved _ at' => at'
  | .commit _ _ _ _ _ _ _ at' => at'

end ProposalCall

namespace TopologyProposal

structure Accepts (p : TopologyProposal) (c : ProposalCall) : Prop where
  status : c.Expects p.status
  complete : c.Complete
  later : p.updatedAtMs < c.updatedAtMs

/-- The proposal after an accepted call. -/
def after (p : TopologyProposal) : ProposalCall → TopologyProposal
  | .markTested refs at' =>
    { p with benchmarkReportRefs := refs, status := .tested, updatedAtMs := at' }
  | .markShadowed refs at' =>
    { p with shadowReportRefs := refs, status := .shadowed, updatedAtMs := at' }
  | .markApproved refs at' =>
    { p with approvalRefs := refs, status := .approved, updatedAtMs := at' }
  | .commit _ _ _ _ _ _ _ at' => { p with status := .committed, updatedAtMs := at' }

/-- The snapshot an accepted call mints. -/
def minted (p : TopologyProposal) : ProposalCall → Option TopologySnapshot
  | .commit id parent registry gradient memory policies hard at' =>
    some ⟨id, parent, p.topologyProposalId, registry, gradient, memory, policies, hard,
      .active, at'⟩
  | _ => none

@[simp] theorem after_status (p : TopologyProposal) (c : ProposalCall) :
    (p.after c).status = c.target := by
  cases c <;> rfl

theorem call_ok_iff {p : TopologyProposal} {c : ProposalCall}
    {r : TopologyProposal × Option TopologySnapshot} :
    p.call c = .ok r ↔ p.Accepts c ∧ r = (p.after c, p.minted c) := by
  cases c with
  | markTested refs at' =>
    have hcall : p.call (.markTested refs at') = .ok r ↔ _ :=
      bind_pure_ok_iff (fun _ => markTested_ok_iff) fun q => (q, none)
    rw [hcall]
    exact and_congr_left' ⟨fun ⟨hrefs, hlater⟩ => ⟨trivial, hrefs, hlater⟩,
      fun h => ⟨h.complete, h.later⟩⟩
  | markShadowed refs at' =>
    have hcall : p.call (.markShadowed refs at') = .ok r ↔ _ :=
      bind_pure_ok_iff (fun _ => markShadowed_ok_iff) fun q => (q, none)
    rw [hcall]
    exact and_congr_left' ⟨fun ⟨hstatus, hrefs, hlater⟩ => ⟨hstatus, hrefs, hlater⟩,
      fun h => ⟨h.status, h.complete, h.later⟩⟩
  | markApproved refs at' =>
    have hcall : p.call (.markApproved refs at') = .ok r ↔ _ :=
      bind_pure_ok_iff (fun _ => markApproved_ok_iff) fun q => (q, none)
    rw [hcall]
    exact and_congr_left' ⟨fun ⟨hstatus, hrefs, hlater⟩ => ⟨hstatus, hrefs, hlater⟩,
      fun h => ⟨h.status, h.complete, h.later⟩⟩
  | commit id parent registry gradient memory policies hard at' =>
    have hcommit : ∀ x, p.commit id parent registry gradient memory policies hard at' = .ok x ↔
        (p.status = .approved ∧ Versions registry gradient memory policies hard ∧
          p.updatedAtMs < at') ∧
        x = ({ p with status := .committed, updatedAtMs := at' },
          ⟨id, parent, p.topologyProposalId, registry, gradient, memory, policies, hard,
            .active, at'⟩) := by
      intro x
      rw [Prod.ext_iff]
      exact commit_ok_iff
    have hcall : p.call (.commit id parent registry gradient memory policies hard at') =
        .ok r ↔ _ := bind_pure_ok_iff hcommit fun x => (x.1, some x.2)
    rw [hcall]
    exact and_congr_left' ⟨fun ⟨hstatus, hversions, hlater⟩ => ⟨hstatus, hversions, hlater⟩,
      fun h => ⟨h.status, h.complete, h.later⟩⟩

end TopologyProposal

theorem Session.step_cases (s : Session) (c : ProposalCall) :
    (s.proposal.Accepts c ∧
      s.step c = ⟨s.proposal.after c, s.snapshots ++ (s.proposal.minted c).toList⟩) ∨
    (¬ s.proposal.Accepts c ∧ s.step c = s) := by
  unfold Session.step
  cases h : s.proposal.call c with
  | ok r =>
    obtain ⟨hacc, rfl⟩ := TopologyProposal.call_ok_iff.mp h
    exact Or.inl ⟨hacc, rfl⟩
  | error e =>
    refine Or.inr ⟨fun hacc => ?_, rfl⟩
    rw [TopologyProposal.call_ok_iff.mpr ⟨hacc, rfl⟩] at h
    cases h

/-! The lifecycle discipline. -/

/-- What the lifecycle asks of a call on `p`: success moves one step forward, an
approved proposal only commits and a committed one is closed. -/
structure Disciplined (p : TopologyProposal) (c : ProposalCall) : Prop where
  forward : ∀ q snapshot, p.call c = .ok (q, snapshot) → p.status.next = some q.status
  frozen : p.status = .approved → ∀ r, p.call c = .ok r → c.isCommit = true
  closed : p.status = .committed → ∀ r, p.call c ≠ .ok r

/-- A `markTested` call finds a draft, or its own checks refuse it. -/
def TestsDraft (p : TopologyProposal) (c : ProposalCall) : Prop :=
  ∀ refs at', c = .markTested refs at' →
    p.status = .drafted ∨ refs = [] ∨ at' ≤ p.updatedAtMs

/-- On calls that test drafts only, every accepted call finds the status before its own. -/
theorem TestsDraft.next_eq {p : TopologyProposal} {c : ProposalCall} (h : TestsDraft p c)
    (hacc : p.Accepts c) : p.status.next = some c.target := by
  have hexp := hacc.status
  cases c with
  | markTested refs at' =>
    rcases h refs at' rfl with hd | hnil | hle
    · rw [hd]; rfl
    · exact absurd hnil hacc.complete
    · exact absurd hacc.later (Nat.not_lt.mpr hle)
  | markShadowed refs at' => rw [show p.status = .tested from hexp]; rfl
  | markApproved refs at' => rw [show p.status = .shadowed from hexp]; rfl
  | commit id parent registry gradient memory policies hard at' =>
    rw [show p.status = .approved from hexp]; rfl

theorem disciplined_iff {p : TopologyProposal} {c : ProposalCall} :
    Disciplined p c ↔ TestsDraft p c := by
  refine ⟨?_, ?_⟩
  · intro h refs at' hc
    by_contra hnot
    obtain ⟨hd, hrefs, hlater⟩ := not_or.mp hnot |>.imp_right not_or.mp
    -- the call passes every check `markTested` makes, so it succeeds off a draft
    have hacc : p.Accepts c := by
      subst hc
      exact ⟨trivial, hrefs, Nat.lt_of_not_le hlater⟩
    have hnext := h.forward _ _ (TopologyProposal.call_ok_iff.mpr ⟨hacc, rfl⟩)
    rw [TopologyProposal.after_status, hc] at hnext
    cases hs : p.status <;> rw [hs] at hnext hd <;> first | exact hd rfl | cases hnext
  · intro h
    have hnext : ∀ r, p.call c = .ok r → p.status.next = some c.target ∧ r.1.status = c.target := by
      intro r hr
      obtain ⟨hacc, rfl⟩ := TopologyProposal.call_ok_iff.mp hr
      exact ⟨h.next_eq hacc, TopologyProposal.after_status p c⟩
    refine ⟨fun q snapshot hq => ?_, fun hs r hr => ?_, fun hs r hr => ?_⟩
    · obtain ⟨hn, hq'⟩ := hnext _ hq
      rw [hn, ← hq']
    · have hn := (hnext r hr).1
      rw [hs] at hn
      cases c <;> first | rfl | cases hn
    · have hn := (hnext r hr).1
      rw [hs] at hn
      cases hn

/-- One snapshot once the proposal is committed, none before. -/
def OneCommit (s : Session) : Prop :=
  s.snapshots.length = if s.proposal.status = .committed then 1 else 0

theorem OneCommit.step {s : Session} {c : ProposalCall} (htest : TestsDraft s.proposal c)
    (h : OneCommit s) : OneCommit (s.step c) := by
  rcases s.step_cases c with ⟨hacc, hstep⟩ | ⟨_, hstep⟩
  · have hnext := htest.next_eq hacc
    have hopen : s.proposal.status ≠ .committed := by
      intro hs
      rw [hs] at hnext
      cases hnext
    unfold OneCommit at h ⊢
    rw [if_neg hopen] at h
    rw [hstep, TopologyProposal.after_status, List.length_append, h]
    cases c <;> rfl
  · rw [hstep]
    exact h

/-- The lifecycle over runs from a draft: every call of the run is disciplined and
at most one commit succeeds, exactly when every `markTested` of the run finds a
draft or is refused by its own checks. -/
theorem governed_run_iff {id : Nat} {kind : TopologyProposalKind} {proposer change : String}
    {evidence : List String} {createdAtMs : Nat} {p : TopologyProposal}
    (h : TopologyProposal.draft id kind proposer change evidence createdAtMs = .ok p)
    (calls : List ProposalCall) :
    (Along (fun s c => Disciplined s.proposal c) Session.step (Session.start p) calls ∧
      ((Session.start p).run calls).snapshots.length ≤ 1) ↔
    Along (fun s c => TestsDraft s.proposal c) Session.step (Session.start p) calls := by
  have hdraft : p.status = .drafted := by rw [(TopologyProposal.draft_ok_iff.mp h).2]
  refine ⟨fun hrun => hrun.1.mono fun _ _ => disciplined_iff.mp, fun hrun => ⟨?_, ?_⟩⟩
  · exact hrun.mono fun _ _ => disciplined_iff.mpr
  · have hstart : OneCommit (Session.start p) := by
      unfold OneCommit Session.start
      rw [hdraft]
      rfl
    have hone : OneCommit ((Session.start p).run calls) :=
      hrun.invariant (fun _ _ => OneCommit.step) hstart
    rw [show _ = _ from hone]
    split <;> omega

/-- A proposal to change the route policy. -/
def policyDraft : TopologyProposal :=
  ⟨7, .routePolicy, "agent://director", "inline://change/7", ["inline://evidence/7"], [], [], [], [],
    .drafted, 100, 100⟩

/-- Tested, shadowed, approved and committed, at four times from `t` on. -/
def fullCycle (snapshotId t : Nat) : List ProposalCall :=
  [.markTested ["bench"] t, .markShadowed ["shadow"] (t + 1), .markApproved ["approval"] (t + 2),
    .commit snapshotId none "registry.v1" ["gradient.v1"] ["memory.v1"] ["policy.v1"] "hard.v1" (t + 3)]

theorem governed_run_iff_fullCycle :
    (Along (fun s c => Disciplined s.proposal c) Session.step (Session.start policyDraft)
        (fullCycle 1 101) ∧
      ((Session.start policyDraft).run (fullCycle 1 101)).snapshots.length ≤ 1) ↔
    Along (fun s c => TestsDraft s.proposal c) Session.step (Session.start policyDraft)
      (fullCycle 1 101) :=
  governed_run_iff
    (show TopologyProposal.draft 7 .routePolicy "agent://director" "inline://change/7"
      ["inline://evidence/7"] 100 = .ok policyDraft from rfl) (fullCycle 1 101)

/-- A committed proposal can be marked tested and run through the cycle again, so
one draft yields two snapshots. -/
theorem committed_then_tested :
    ¬ ∀ id kind proposer change evidence createdAtMs p calls,
      TopologyProposal.draft id kind proposer change evidence createdAtMs = .ok p →
      Along (fun s c => Disciplined s.proposal c) Session.step (Session.start p) calls ∧
        ((Session.start p).run calls).snapshots.length ≤ 1 := by
  intro h
  have htwo := (h 7 .routePolicy "agent://director" "inline://change/7" ["inline://evidence/7"] 100
    policyDraft (fullCycle 1 101 ++ fullCycle 2 201) rfl).2
  revert htwo
  decide

end QTom.Topology
