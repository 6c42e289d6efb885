import QTom.Topology.Lifecycle

/- What stands behind a commit. `history` lists the successful calls of a run with the
   proposals they returned. `Backed` ties it to the proposal the caller holds: each
   status the commit path passes through was set by the call before, with the
   references the proposal still carries, and every version is later than the one
   before it. `Backed.step` is one call, `history_backed` a run; `commit_backed` reads
   a commit off it. A proposal may go round the path again before it commits, since
   `markTested` is open at every status, but only through all three steps. -/
namespace QTom.Topology
open QTom.Lib QTom.Loom

/-- A successful call and the proposal it returned. -/
abbrev Step := ProposalCall × TopologyProposal

/-- The successful calls of a run. -/
def Session.history (s : Session) : List ProposalCall → List Step
  | [] => []
  | c :: calls =>
    match s.proposal.call c with
    | .ok (q, _) => (c, q) :: (s.step c).history calls
    | .error _ => (s.step c).history calls

/-- The fields no call may change. -/
structure TopologyProposal.SameOrigin (p q : TopologyProposal) : Prop where
  topologyProposalId : q.topologyProposalId = p.topologyProposalId
  proposalKind : q.proposalKind = p.proposalKind
  proposerRef : q.proposerRef = p.proposerRef
  changeSetRef : q.changeSetRef = p.changeSetRef
  evidenceRefs : q.evidenceRefs = p.evidenceRefs
  createdAtMs : q.createdAtMs = p.createdAtMs

namespace TopologyProposal

theorem SameOrigin.refl (p : TopologyProposal) : p.SameOrigin p := ⟨rfl, rfl, rfl, rfl, rfl, rfl⟩

theorem SameOrigin.after {p q : TopologyProposal} (h : p.SameOrigin q) (c : ProposalCall) :
    p.SameOrigin (q.after c) := by
  obtain ⟨hid, hkind, hproposer, hchange, hevidence, hcreated⟩ := h
  cases c <;> exact ⟨hid, hkind, hproposer, hchange, hevidence, hcreated⟩

theorem after_updatedAtMs (p : TopologyProposal) (c : ProposalCall) :
    (p.after c).updatedAtMs = c.updatedAtMs := by
  cases c <;> rfl

/-! The calls that set a status, read from the last one back. -/

def TestedBy (q : TopologyProposal) (done : List Step) : Prop :=
  ∃ earlier t v, done = earlier ++ [(.markTested q.benchmarkReportRefs t, v)] ∧
    q.benchmarkReportRefs ≠ []

def ShadowedBy (q : TopologyProposal) (done : List Step) : Prop :=
  ∃ earlier t v, done = earlier ++ [(.markShadowed q.shadowReportRefs t, v)] ∧
    q.shadowReportRefs ≠ [] ∧ q.TestedBy earlier

def ApprovedBy (q : TopologyProposal) (done : List Step) : Prop :=
  ∃ earlier t v, done = earlier ++ [(.markApproved q.approvalRefs t, v)] ∧
    q.approvalRefs ≠ [] ∧ q.ShadowedBy earlier

end TopologyProposal

/-- What the successful calls `done` on the draft `p` say of the proposal `q` they led to. -/
structure Backed (p : TopologyProposal) (done : List Step) (q : TopologyProposal) : Prop where
  origin : ∀ v ∈ q :: done.map Prod.snd, p.SameOrigin v
  later : (p :: done.map Prod.snd).Pairwise fun a b => a.updatedAtMs < b.updatedAtMs
  latest : ∀ v ∈ p :: done.map Prod.snd, v.updatedAtMs ≤ q.updatedAtMs
  tested : q.status = .tested → q.TestedBy done
  shadowed : q.status = .shadowed → q.ShadowedBy done
  approved : q.status = .approved → q.ApprovedBy done
  committed : q.status = .committed →
    q.benchmarkReportRefs ≠ [] ∧ q.shadowReportRefs ≠ [] ∧ q.approvalRefs ≠ []

namespace Backed
variable {p q : TopologyProposal} {done : List Step} {c : ProposalCall}

theorem start (h : p.status = .drafted) : Backed p [] p := by
  have hother : ∀ status, p.status = status → status = .drafted := fun _ hs => hs ▸ h
  refine ⟨?_, by simp, by simp, ?_, ?_, ?_, ?_⟩
  · intro v hv
    rw [List.mem_singleton.mp hv]
    exact TopologyProposal.SameOrigin.refl p
  all_goals
    intro hs
    exact absurd (hother _ hs) (by decide)

/-- The new version is later than all before it. -/
theorem later_step (h : Backed p done q) (hacc : q.Accepts c) :
    (p :: (done ++ [(c, q.after c)]).map Prod.snd).Pairwise
      fun a b => a.updatedAtMs < b.updatedAtMs := by
  rw [List.map_append, ← List.cons_append]
  refine List.pairwise_append.mpr ⟨h.later, List.pairwise_singleton _ _, ?_⟩
  intro v hv w hw
  rw [List.mem_singleton.mp hw, TopologyProposal.after_updatedAtMs]
  exact Nat.lt_of_le_of_lt (h.latest v hv) hacc.later

theorem latest_step (h : Backed p done q) (hacc : q.Accepts c) :
    ∀ v ∈ p :: (done ++ [(c, q.after c)]).map Prod.snd, v.updatedAtMs ≤ (q.after c).updatedAtMs := by
  intro v hv
  rw [List.map_append, ← List.cons_append] at hv
  rcases List.mem_append.mp hv with hv | hv
  · rw [TopologyProposal.after_updatedAtMs]
    exact Nat.le_of_lt (Nat.lt_of_le_of_lt (h.latest v hv) hacc.later)
  · rw [List.mem_singleton.mp hv]

theorem origin_step (h : Backed p done q) :
    ∀ v ∈ q.after c :: (done ++ [(c, q.after c)]).map Prod.snd, p.SameOrigin v := by
  have hnew : p.SameOrigin (q.after c) := (h.origin q List.mem_cons_self).after c
  intro v hv
  rcases List.mem_cons.mp hv with rfl | hv
  · exact hnew
  · rw [List.map_append] at hv
    rcases List.mem_append.mp hv with hv | hv
    · exact h.origin v (List.mem_cons_of_mem q hv)
    · rw [List.mem_singleton.mp hv]
      exact hnew

/-- The step: an accepted call extends the history. -/
theorem step (h : Backed p done q) (hacc : q.Accepts c) :
    Backed p (done ++ [(c, q.after c)]) (q.after c) := by
  refine ⟨h.origin_step, h.later_step hacc, h.latest_step hacc, ?_, ?_, ?_, ?_⟩
  · intro hs
    rw [TopologyProposal.after_status] at hs
    cases c with
    | markTested refs at' => exact ⟨done, at', _, rfl, hacc.complete⟩
    | _ => cases hs
  · intro hs
    rw [TopologyProposal.after_status] at hs
    cases c with
    | markShadowed refs at' => exact ⟨done, at', _, rfl, hacc.complete, h.tested hacc.status⟩
    | _ => cases hs
  · intro hs
    rw [TopologyProposal.after_status] at hs
    cases c with
    | markApproved refs at' => exact ⟨done, at', _, rfl, hacc.complete, h.shadowed hacc.status⟩
    | _ => cases hs
  · intro hs
    rw [TopologyProposal.after_status] at hs
    cases c with
    | commit id parent registry gradient memory policies hard at' =>
      obtain ⟨_, _, _, _, happroval, _, _, _, _, hshadow, _, _, _, _, hbenchmark⟩ :=
        h.approved hacc.status
      exact ⟨hbenchmark, hshadow, happroval⟩
    | _ => cases hs

end Backed

/-- The run: the calls of a session back the proposal it holds. -/
theorem history_backed {p : TopologyProposal} {done : List Step} {s : Session}
    (h : Backed p done s.proposal) (calls : List ProposalCall) :
    Backed p (done ++ s.history calls) (s.run calls).proposal := by
  induction calls generalizing s done with
  | nil =>
    rw [Session.history, List.append_nil]
    exact h
  | cons c calls ih =>
    rw [Session.history]
    show Backed p _ ((s.step c).run calls).proposal
    rcases s.step_cases c with ⟨hacc, hstep⟩ | ⟨hrefused, hstep⟩
    · have hnext : Backed p (done ++ [(c, s.proposal.after c)]) (s.step c).proposal := by
        rw [hstep]
        exact h.step hacc
      rw [TopologyProposal.call_ok_iff.mpr ⟨hacc, rfl⟩]
      dsimp only
      rw [List.append_cons]
      exact ih hnext
    · have hsame : Backed p done (s.step c).proposal := by
        rw [hstep]
        exact h
      cases hcall : s.proposal.call c with
      | ok r => exact absurd (TopologyProposal.call_ok_iff.mp hcall).1 hrefused
      | error e => exact ih hsame

/-- A successful commit, in any run of calls from a draft. The last three successful calls before
    it are `markTested`, `markShadowed` and `markApproved`, and brought the references the
    committed proposal carries; none of its evidence is empty; every version is later than the
    one before, from the creation on, and keeps the draft's origin; and the snapshot is active,
    names the proposal and is created at the commit. -/
theorem commit_backed {id : Nat} {kind : TopologyProposalKind} {proposer change : String}
    {evidence : List String} {createdAtMs : Nat} {p q : TopologyProposal} {c : ProposalCall}
    {snapshot : TopologySnapshot}
    (h : TopologyProposal.draft id kind proposer change evidence createdAtMs = .ok p)
    (calls : List ProposalCall)
    (hcommit : ((Session.start p).run calls).proposal.call c = .ok (q, some snapshot)) :
    (∃ earlier tested shadowed approved, ∃ tt ts ta : Nat,
      (Session.start p).history calls = earlier ++
        [(.markTested q.benchmarkReportRefs tt, tested),
          (.markShadowed q.shadowReportRefs ts, shadowed),
          (.markApproved q.approvalRefs ta, approved)]) ∧
    (q.status = .committed ∧ q.evidenceRefs ≠ [] ∧ q.benchmarkReportRefs ≠ [] ∧
      q.shadowReportRefs ≠ [] ∧ q.approvalRefs ≠ []) ∧
    (p.updatedAtMs = p.createdAtMs ∧
      (p :: ((Session.start p).history calls ++ [(c, q)]).map Prod.snd).Pairwise
        fun a b => a.updatedAtMs < b.updatedAtMs) ∧
    (∀ v ∈ ((Session.start p).history calls ++ [(c, q)]).map Prod.snd, p.SameOrigin v) ∧
    (snapshot.status = .active ∧ snapshot.sourceProposalId = q.topologyProposalId ∧
      snapshot.createdAtMs = q.updatedAtMs) := by
  obtain ⟨⟨_, _, hevidence⟩, hdraft⟩ := TopologyProposal.draft_ok_iff.mp h
  have hbacked : Backed p ((Session.start p).history calls)
      ((Session.start p).run calls).proposal := by
    have hstart : Backed p [] (Session.start p).proposal := Backed.start (by rw [hdraft])
    exact history_backed hstart calls
  obtain ⟨hacc, hresult⟩ := TopologyProposal.call_ok_iff.mp hcommit
  obtain ⟨hq, hsnapshot⟩ := Prod.mk.inj hresult
  cases c with
  | commit sid parent registry gradient memory policies hard at' =>
    have hnext := hbacked.step hacc
    rw [← hq] at hnext
    -- the commit demands the approved status, and with it the three calls before
    obtain ⟨before, ta, approved, hthird, happroval, hshadowed⟩ := hbacked.approved hacc.status
    obtain ⟨before', ts, shadowed, hsecond, hshadow, htested⟩ := hshadowed
    obtain ⟨earlier, tt, tested, hfirst, hbenchmark⟩ := htested
    have horigin := hnext.origin q List.mem_cons_self
    refine ⟨⟨earlier, tested, shadowed, approved, tt, ts, ta, ?_⟩, ⟨?_, ?_, ?_, ?_, ?_⟩,
      ⟨?_, hnext.later⟩, fun v hv => hnext.origin v (List.mem_cons_of_mem q hv), ?_⟩
    · rw [hthird, hsecond, hfirst, hq]
      simp [TopologyProposal.after]
    · rw [hq]
      rfl
    · rw [horigin.evidenceRefs, hdraft]
      exact hevidence
    · rw [hq]
      exact hbenchmark
    · rw [hq]
      exact hshadow
    · rw [hq]
      exact happroval
    · rw [hdraft]
    · rw [Option.some.inj hsnapshot, hq]
      exact ⟨rfl, rfl, rfl⟩
  | _ => cases hsnapshot

/-- A proposal tested again after its approval, with a refused commit in between. -/
def secondRound : List ProposalCall :=
  (fullCycle 1 101).take 3 ++ [.markTested ["bench2"] 110,
    .commit 1 none "registry.v1" ["gradient.v1"] ["memory.v1"] ["policy.v1"] "hard.v1" 111,
    .markShadowed ["shadow2"] 112, .markApproved ["approval2"] 113]

/-- The commit that follows. -/
def secondCommit : ProposalCall :=
  .commit 1 none "registry.v1" ["gradient.v1"] ["memory.v1"] ["policy.v1"] "hard.v1" 114

theorem commit_backed_secondRound : ∃ q snapshot,
    ((Session.start policyDraft).run secondRound).proposal.call secondCommit =
      .ok (q, some snapshot) ∧ q.benchmarkReportRefs = ["bench2"] ∧ snapshot.status = .active := by
  have hdraft : TopologyProposal.draft 7 .routePolicy "agent://director" "inline://change/7"
      ["inline://evidence/7"] 100 = .ok policyDraft := rfl
  have hcommit : ((Session.start policyDraft).run secondRound).proposal.call secondCommit =
      .ok (_, some _) := rfl
  exact ⟨_, _, hcommit, rfl, (commit_backed hdraft secondRound hcommit).2.2.2.2.1⟩

end QTom.Topology
