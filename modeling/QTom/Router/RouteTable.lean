import QTom.Router.Score

/- The packed route table (`route_table.rs`): agent ids and one vector of all
   rows. The field `packed` is what makes every row slice lie inside the vector, so
   reading a row needs an index below `len` and nothing else. -/
namespace QTom.Router
open QTom.Lib

structure AgentRouteTable (F : Type) where
  agentIds : List Nat
  vectors : List F
  dimensions : Nat
  packed : vectors.length = agentIds.length * dimensions

namespace AgentRouteTable
variable {F : Type}

@[ext] theorem ext {s t : AgentRouteTable F} (hids : s.agentIds = t.agentIds)
    (hvectors : s.vectors = t.vectors) (hdim : s.dimensions = t.dimensions) : s = t := by
  cases s
  cases t
  cases hids
  cases hvectors
  cases hdim
  rfl

def len (t : AgentRouteTable F) : Nat := t.agentIds.length

def isEmpty (t : AgentRouteTable F) : Bool := t.agentIds.isEmpty

def agentId (t : AgentRouteTable F) (index : Fin t.len) : Nat := t.agentIds.get index

def vector (t : AgentRouteTable F) (index : Fin t.len) : List F :=
  slice t.vectors t.dimensions index

/-- One turn of the loop in `from_agents`. -/
def pushAgent (t : AgentRouteTable F) (agent : AgentProfile F) :
    Except RouteError (AgentRouteTable F) :=
  if h : agent.vector.length ≠ t.dimensions then
    .error (.dimensionMismatch t.dimensions agent.vector.length "agent vector")
  else
    .ok {
      agentIds := t.agentIds ++ [agent.id]
      vectors := t.vectors ++ agent.vector
      dimensions := t.dimensions
      packed := by
        rw [List.length_append, List.length_append, t.packed, not_not.mp h, Nat.add_mul]
        simp }

def fromAgents : List (AgentProfile F) → Except RouteError (AgentRouteTable F)
  | [] => .ok { agentIds := [], vectors := [], dimensions := 0, packed := rfl }
  | first :: rest =>
    (first :: rest).foldlM pushAgent
      { agentIds := [], vectors := [], dimensions := first.vector.length, packed := by simp }

/-- A row slice is a whole row. -/
theorem length_vector (t : AgentRouteTable F) (index : Fin t.len) :
    (t.vector index).length = t.dimensions := by
  have hend : (index.val + 1) * t.dimensions ≤ t.vectors.length := by
    rw [t.packed]
    exact Nat.mul_le_mul_right _ index.isLt
  have hsum : (index.val + 1) * t.dimensions = index.val * t.dimensions + t.dimensions := by
    rw [Nat.add_mul, Nat.one_mul]
  unfold vector slice
  rw [List.length_take, List.length_drop]
  omega

theorem length_chunksExact (t : AgentRouteTable F) (hd : t.dimensions ≠ 0) :
    (chunksExact t.dimensions t.vectors).length = t.len := by
  unfold chunksExact
  rw [List.length_map, List.length_range, t.packed, Nat.mul_div_cancel _ (Nat.pos_of_ne_zero hd)]
  rfl

theorem chunksExact_getElem (t : AgentRouteTable F) {i : Nat}
    (h : i < (chunksExact t.dimensions t.vectors).length) (hi : i < t.len) :
    (chunksExact t.dimensions t.vectors)[i] = t.vector ⟨i, hi⟩ := by
  simp only [chunksExact, List.getElem_map, List.getElem_range]
  rfl

/-! The table of agents of one dimension. -/

/-- All vectors have length `d`. -/
def Uniform (d : Nat) (agents : List (AgentProfile F)) : Prop :=
  ∀ agent ∈ agents, agent.vector.length = d

/-- The rows, ids and vectors, of agents of dimension `d`. -/
def ofAgents (d : Nat) (agents : List (AgentProfile F)) (h : Uniform d agents) :
    AgentRouteTable F where
  agentIds := agents.map AgentProfile.id
  vectors := (agents.map AgentProfile.vector).flatten
  dimensions := d
  packed := by
    rw [length_flatten (List.forall_mem_map.mpr h), List.length_map, List.length_map]

theorem foldlM_pushAgent {d : Nat} {agents : List (AgentProfile F)} (h : Uniform d agents)
    (t : AgentRouteTable F) (ht : t.dimensions = d) :
    ∃ u, agents.foldlM pushAgent t = .ok u ∧ u.dimensions = d ∧
      u.agentIds = t.agentIds ++ agents.map AgentProfile.id ∧
      u.vectors = t.vectors ++ (agents.map AgentProfile.vector).flatten := by
  induction agents generalizing t with
  | nil => exact ⟨t, rfl, ht, by simp, by simp⟩
  | cons agent agents ih =>
    have hagent : agent.vector.length = t.dimensions := by rw [ht]; exact h agent (by simp)
    obtain ⟨u, hrun, hd, hids, hvectors⟩ := ih (fun a ha => h a (by simp [ha]))
      { agentIds := t.agentIds ++ [agent.id], vectors := t.vectors ++ agent.vector
        dimensions := t.dimensions
        packed := by
          rw [List.length_append, List.length_append, t.packed, hagent, Nat.add_mul]
          simp } ht
    refine ⟨u, ?_, hd, ?_, ?_⟩
    · rw [List.foldlM_cons]
      unfold pushAgent
      rw [dif_neg (not_not.mpr hagent)]
      exact hrun
    · rw [hids]
      simp
    · rw [hvectors]
      simp

/-- Agents of one dimension pack into their table. -/
theorem fromAgents_uniform {d : Nat} {agents : List (AgentProfile F)} (h : Uniform d agents)
    (hne : agents ≠ []) : fromAgents agents = .ok (ofAgents d agents h) := by
  cases agents with
  | nil => exact absurd rfl hne
  | cons first rest =>
    have hd : first.vector.length = d := h first (by simp)
    obtain ⟨u, hrun, hdim, hids, hvectors⟩ := foldlM_pushAgent h
      { agentIds := [], vectors := [], dimensions := first.vector.length, packed := by simp } hd
    show (first :: rest).foldlM pushAgent _ = _
    rw [hrun]
    -- a table is its ids, its vector and its dimension
    congr 1
    exact ext (by rw [hids]; rfl) (by rw [hvectors]; rfl) hdim

theorem ofAgents_agentId {d : Nat} {agents : List (AgentProfile F)} (h : Uniform d agents)
    (i : Fin (ofAgents d agents h).len) (hi : i.val < agents.length) :
    (ofAgents d agents h).agentId i = agents[i.val].id := by
  have hi' : i.val < (agents.map AgentProfile.id).length := by
    rw [List.length_map]
    exact hi
  show (agents.map AgentProfile.id).get ⟨i.val, hi'⟩ = _
  rw [List.get_eq_getElem, List.getElem_map]

theorem ofAgents_vector {d : Nat} {agents : List (AgentProfile F)} (h : Uniform d agents)
    (i : Fin (ofAgents d agents h).len) (hi : i.val < agents.length) :
    (ofAgents d agents h).vector i = agents[i.val].vector := by
  have hrows : ∀ row ∈ agents.map AgentProfile.vector, row.length = d := List.forall_mem_map.mpr h
  show slice (agents.map AgentProfile.vector).flatten d i.val = _
  rw [slice_flatten hrows (by rw [List.length_map]; exact hi), List.getElem_map]

end AgentRouteTable

end QTom.Router
