import QTom.Golden.RoundTrip
import QTom.Router.Ieee

/- Generated fixtures (`fixtures.rs`) in IEEE arithmetic. Every draw is a number between
   bounds, so every generated coordinate is between 0 and 1 (`generateFixture_numeric`), and
   the rows are values of the Rust types (`generateFixture_typed`). The agents are numbered
   from 0, and agent 0 is unavailable (`generateFixture_rows`). -/
namespace QTom.Golden
open QTom.Lib QTom.Router

/-- f32 arithmetic on bit patterns. -/
def ieee : F32Arithmetic where
  ofU32 n := Binary32.toBits (.ofMagnitude precision_pos false (n.toNat * 2 ^ 149))
  add x y := Binary32.toBits (F32.add (Binary32.ofBits x) (Binary32.ofBits y))
  sub x y := Binary32.toBits (F32.sub (Binary32.ofBits x) (Binary32.ofBits y))
  mul x y := Binary32.toBits (F32.mul (Binary32.ofBits x) (Binary32.ofBits y))
  div x y := Binary32.toBits (.div precision_pos 149 (Binary32.ofBits x) (Binary32.ofBits y))
  clamp x low high := Binary32.toBits
    (.clamp (Binary32.ofBits x) (Binary32.ofBits low) (Binary32.ofBits high))

/-- Vectors of finite coordinates, loads between 0 and 1. -/
structure Fixture.Numeric (fixture : Fixture) : Prop where
  agents : ∀ agent ∈ fixture.agents, ∀ x ∈ agent.vector, (Binary32.ofBits x).isFinite = true
  requests : ∀ request ∈ fixture.requests, ∀ x ∈ request.vector,
    (Binary32.ofBits x).isFinite = true
  states : ∀ state ∈ fixture.states, (Binary32.ofBits state.queueDepthNorm).InUnit ∧
    (Binary32.ofBits state.latencyNorm).InUnit ∧ (Binary32.ofBits state.cachePressureNorm).InUnit

/-- The Vecs of a fixture have at most `isize::MAX` bytes. -/
structure FixtureConfig.Fits (config : FixtureConfig) (sizes : RowSizes) : Prop where
  dimensions : config.dimensions < 2 ^ 61
  agents : config.agentCount * sizes.agentProfile < 2 ^ 63
  states : config.agentCount * sizes.agentRuntimeState < 2 ^ 63
  requests : config.taskCount * sizes.routingRequest < 2 ^ 63

/-! Draws. -/

theorem ofBits_ofU32 (n : BitVec 32) : Binary32.ofBits (ieee.ofU32 n) =
    .ofRatio precision_pos false (n.toNat * 2 ^ 149) 1 := by
  unfold ieee
  dsimp only
  rw [Binary32.ofBits_toBits, BinaryFloat.ofMagnitude_eq]

theorem ofU32_within (n : BitVec 32) : (Binary32.ofBits (ieee.ofU32 n)).Within (2 ^ 181) := by
  have hle : n.toNat * 2 ^ 149 ≤ 2 ^ 181 * 1 := by
    calc n.toNat * 2 ^ 149 ≤ 2 ^ 32 * 2 ^ 149 := Nat.mul_le_mul_right _ (Nat.le_of_lt n.isLt)
      _ = 2 ^ 181 * 1 := by decide
  rw [ofBits_ofU32]
  have hbound : Representable 24 253 (2 ^ 181) := representable_two_pow (by decide)
  exact BinaryFloat.within_ofRatio precision_pos Nat.one_pos hbound hle

/-- `u32::MAX as f32` is rounded up to `2 ^ 32`. -/
theorem ofU32_max : Binary32.ofBits (ieee.ofU32 0xffffffff#32) =
    .finite false (2 ^ 181) (representable_two_pow (by decide)) := by
  have hround : roundRatio 24 ((0xffffffff#32).toNat * 2 ^ 149) 1 = 2 ^ 181 := by decide +kernel
  rw [ofBits_ofU32]
  unfold BinaryFloat.ofRatio
  simp only [hround]
  have hbound : Representable 24 253 (2 ^ 181) := representable_two_pow (by decide)
  rw [dif_pos hbound.lt]

/-- A draw is at most 1. -/
theorem nextF32_within (rng : Lcg) :
    (Binary32.ofBits ((Lcg.nextF32 ieee).run rng).1).Within (2 ^ 149) := by
  show (Binary32.ofBits (Binary32.toBits (.div _ _ _ (Binary32.ofBits (ieee.ofU32 _))))).Within _
  rw [Binary32.ofBits_toBits, ofU32_max]
  exact (ofU32_within _).div precision_pos (Nat.two_pow_pos _) (representable_two_pow (by decide))
    (by decide)

theorem nextSignedF32_within (rng : Lcg) :
    (Binary32.ofBits ((Lcg.nextSignedF32 ieee).run rng).1).Within (2 ^ 151) := by
  have htwo : (Binary32.ofBits 0x40000000#32).Within (2 ^ 150) := by decide +kernel
  have hone : (Binary32.ofBits 0x3f800000#32).Within (2 ^ 149) := by decide +kernel
  have hscaled : (F32.mul (Binary32.ofBits ((Lcg.nextF32 ieee).run rng).1)
      (Binary32.ofBits 0x40000000#32) : Binary32).Within (2 ^ 150) :=
    (nextF32_within rng).mul precision_pos htwo (representable_two_pow (by decide)) (by decide)
  have hshifted := hscaled.sub precision_pos hone
    (representable_two_pow (show 151 ≤ 253 by decide)) (by decide)
  show (Binary32.ofBits (Binary32.toBits (F32.sub (Binary32.ofBits (Binary32.toBits _)) _))).Within _
  rw [Binary32.ofBits_toBits, Binary32.ofBits_toBits]
  exact hshifted

/-- What a jittered coordinate is clamped to. -/
theorem clamped_inUnit {value signed scale : F32Bits}
    (hvalue : (Binary32.ofBits value).Within (2 ^ 149))
    (hsigned : (Binary32.ofBits signed).Within (2 ^ 151))
    (hscale : (Binary32.ofBits scale).Within (2 ^ 149)) :
    (Binary32.ofBits (ieee.clamp (ieee.add value (ieee.mul signed scale)) 0#32
      0x3f800000#32)).InUnit := by
  have hjitter : (F32.mul (Binary32.ofBits signed) (Binary32.ofBits scale) : Binary32).Within
      (2 ^ 151) :=
    hsigned.mul precision_pos hscale (representable_two_pow (by decide)) (by decide)
  have hsum := hvalue.add precision_pos hjitter
    (representable_two_pow (show 152 ≤ 253 by decide)) (by decide)
  have hbounds : (Binary32.ofBits 0#32).le (Binary32.ofBits 0x3f800000#32) = true := by
    decide +kernel
  unfold ieee
  dsimp only
  rw [Binary32.ofBits_toBits, Binary32.ofBits_toBits, Binary32.ofBits_toBits]
  exact BinaryFloat.clamp_between hsum.isNan hbounds

variable {centers : List (List F32Bits)} {clusterCount dimensions : Nat}

theorem jittered_inUnit {center : List F32Bits} {scale : F32Bits}
    (hcenter : ∀ x ∈ center, (Binary32.ofBits x).Within (2 ^ 149))
    (hscale : (Binary32.ofBits scale).Within (2 ^ 149)) (rng : Lcg) :
    ∀ x ∈ ((jittered ieee center scale).run rng).1, (Binary32.ofBits x).InUnit := by
  refine forall_right (forall₂_mapM (P := fun _ x => (Binary32.ofBits x).InUnit) ?_ rng)
    fun _ _ hx => hx
  intro value hvalue rng
  exact clamped_inUnit (hcenter value hvalue) (nextSignedF32_within rng) hscale

theorem generateCenters_within (count dimensions : Nat) (rng : Lcg) :
    ∀ center ∈ ((generateCenters ieee count dimensions).run rng).1,
      ∀ x ∈ center, (Binary32.ofBits x).Within (2 ^ 149) := by
  apply forall_mapM
  intro _ _ rng
  exact forall_mapM (fun _ _ rng => nextF32_within rng) rng

/-- A cluster's center, or no coordinates. -/
theorem center_within (h : ∀ center ∈ centers, ∀ x ∈ center, (Binary32.ofBits x).Within (2 ^ 149))
    (cluster : Nat) : ∀ x ∈ centers[cluster]?.getD [], (Binary32.ofBits x).Within (2 ^ 149) := by
  cases hcenter : centers[cluster]? with
  | none => exact fun x hx => absurd hx List.not_mem_nil
  | some center => exact h center (List.mem_of_getElem? hcenter)

/-! Rows. -/

theorem generateAgent_typed (arithmetic : F32Arithmetic) (hcenters : Centers centers clusterCount
    dimensions) (hdimensions : dimensions < 2 ^ 61) (idx : Nat) (rng : Lcg) :
    AgentTyped ((generateAgent arithmetic centers clusterCount idx).run rng).1.1 ∧
      StateTyped ((generateAgent arithmetic centers clusterCount idx).run rng).1.2 := by
  have hlen := (length_jittered arithmetic (centers[idx % clusterCount]?.getD []) 0x3d0f5c29#32
    rng).trans (hcenters.length idx)
  refine ⟨⟨?_, ?_, ?_, ?_, ?_, ?_, ?_, ?_⟩, ⟨?_⟩⟩
  · exact Nat.mod_lt _ (by decide)
  · exact (by decide : 1 < 2 ^ 16)
  · exact Nat.mod_lt _ (by decide)
  · exact Nat.lt_trans (Nat.mod_lt idx (by decide : 0 < 4)) (by decide)
  · exact Nat.lt_trans (Nat.mod_lt idx (by decide : 0 < 16)) (by decide)
  · exact Nat.lt_trans (Nat.mod_lt idx (by decide : 0 < 3)) (by decide)
  · exact Nat.lt_trans (Nat.mod_lt idx (by decide : 0 < 5)) (by decide)
  · show 8 + ((jittered arithmetic _ _).run rng).1.length < 2 ^ 64
    omega
  · show (if idx % 29 = 0 then 0 else 1) < 2 ^ 32
    split <;> decide

theorem generateRequest_typed (arithmetic : F32Arithmetic) (hcenters : Centers centers clusterCount
    dimensions) (hdimensions : dimensions < 2 ^ 61) {k taskIdx : Nat} (hk : k < 2 ^ 64)
    (htask : taskIdx < 2 ^ 64) (rng : Lcg) :
    RequestTyped ((generateRequest arithmetic centers clusterCount k taskIdx).run rng).1 := by
  have hlen := (length_jittered arithmetic (centers[taskIdx % clusterCount]?.getD []) 0x3ca3d70a#32
    rng).trans (hcenters.length taskIdx)
  refine ⟨htask, hk, Nat.two_pow_pos 32, ?_⟩
  show 5 + ((jittered arithmetic _ _).run rng).1.length < 2 ^ 64
  omega

/-- The rows of a generated fixture are values of the Rust types, where they fit in memory. -/
theorem generateFixture_typed (arithmetic : F32Arithmetic) {sizes : RowSizes}
    {config : FixtureConfig} (hconfig : ConfigTyped config) (hfits : config.Fits sizes) :
    (generateFixture arithmetic config).Typed sizes := by
  have hshaped := generateFixture_shaped arithmetic config
  have hpos : 0 < min 8 (max config.agentCount 1) := by omega
  have hcenters := generateCenters_centers arithmetic hpos config.dimensions
    (BitVec.ofNat 64 config.seed)
  have hrows : ∀ rng, ∀ row ∈ (((List.range config.agentCount).mapM (generateAgent arithmetic
      ((generateCenters arithmetic (min 8 (max config.agentCount 1)) config.dimensions).run
        (BitVec.ofNat 64 config.seed)).1 (min 8 (max config.agentCount 1)))).run rng).1,
      AgentTyped row.1 ∧ StateTyped row.2 :=
    forall_mapM fun idx _ rng => generateAgent_typed arithmetic hcenters hfits.dimensions idx rng
  refine ⟨?_, ?_, ?_, ?_, ?_, ?_⟩
  · intro agent hagent
    obtain ⟨row, hrow, rfl⟩ := List.mem_map.mp hagent
    exact (hrows _ row hrow).1
  · intro state hstate
    obtain ⟨row, hrow, rfl⟩ := List.mem_map.mp hstate
    exact (hrows _ row hrow).2
  · refine forall_right (forall₂_mapM (P := fun _ request => RequestTyped request) ?_ _)
      fun _ _ h => h
    intro taskIdx htask rng
    have hlt := List.mem_range.mp htask
    exact generateRequest_typed arithmetic hcenters hfits.dimensions hconfig.k
      (Nat.lt_trans hlt hconfig.taskCount) rng
  · rw [hshaped.agents]
    exact hfits.agents
  · rw [hshaped.states]
    exact hfits.states
  · rw [hshaped.requests]
    exact hfits.requests

/-- Every generated coordinate is between 0 and 1, and so are the loads. -/
theorem generateFixture_numeric (config : FixtureConfig) : (generateFixture ieee config).Numeric := by
  have hcenters := generateCenters_within (min 8 (max config.agentCount 1)) config.dimensions
    (BitVec.ofNat 64 config.seed)
  have hscale : (Binary32.ofBits 0x3d0f5c29#32).Within (2 ^ 149) := by decide +kernel
  have hscale' : (Binary32.ofBits 0x3ca3d70a#32).Within (2 ^ 149) := by decide +kernel
  have hload : ∀ (busy : Prop) [Decidable busy] {load : F32Bits}, (Binary32.ofBits load).InUnit →
      (Binary32.ofBits (if busy then load else 0#32)).InUnit := by
    intro busy _ load h
    split
    · exact h
    · exact ⟨by decide +kernel, by decide +kernel⟩
  refine ⟨?_, ?_, ?_⟩
  · intro agent hagent
    obtain ⟨row, hrow, rfl⟩ := List.mem_map.mp hagent
    refine forall_mapM (P := fun row : AgentProfile F32Bits × AgentRuntimeState F32Bits =>
      ∀ x ∈ row.1.vector, (Binary32.ofBits x).isFinite = true) ?_ _ row hrow
    intro idx _ rng x hx
    exact (jittered_inUnit (center_within hcenters _) hscale rng x hx).within.isFinite
  · refine forall_mapM (P := fun request : RoutingRequest F32Bits =>
      ∀ x ∈ request.vector, (Binary32.ofBits x).isFinite = true) ?_ _
    intro taskIdx _ rng x hx
    exact (jittered_inUnit (center_within hcenters _) hscale' rng x hx).within.isFinite
  · intro state hstate
    obtain ⟨row, hrow, rfl⟩ := List.mem_map.mp hstate
    refine forall_mapM (P := fun row : AgentProfile F32Bits × AgentRuntimeState F32Bits =>
      (Binary32.ofBits row.2.queueDepthNorm).InUnit ∧ (Binary32.ofBits row.2.latencyNorm).InUnit ∧
        (Binary32.ofBits row.2.cachePressureNorm).InUnit) ?_ _ row hrow
    intro idx _ rng
    exact ⟨hload (idx % 17 = 0) ⟨by decide +kernel, by decide +kernel⟩,
      hload (idx % 19 = 0) ⟨by decide +kernel, by decide +kernel⟩,
      hload (idx % 23 = 0) ⟨by decide +kernel, by decide +kernel⟩⟩

/-- The agents are numbered from 0, and every 29th of them is unavailable. -/
theorem generateFixture_rows (arithmetic : F32Arithmetic) (config : FixtureConfig) :
    List.Forall₂ (fun idx row => row.1.id = idx % 2 ^ 32 ∧
        (row.2.availability = 0 ↔ idx % 29 = 0)) (List.range config.agentCount)
      ((generateFixture arithmetic config).agents.zip
        (generateFixture arithmetic config).states) := by
  have hrows : ∀ rng, List.Forall₂ (fun idx (row : AgentProfile F32Bits × AgentRuntimeState F32Bits) =>
      row.1.id = idx % 2 ^ 32 ∧ (row.2.availability = 0 ↔ idx % 29 = 0))
      (List.range config.agentCount) (((List.range config.agentCount).mapM (generateAgent arithmetic
        ((generateCenters arithmetic (min 8 (max config.agentCount 1)) config.dimensions).run
          (BitVec.ofNat 64 config.seed)).1 (min 8 (max config.agentCount 1)))).run rng).1 := by
    refine forall₂_mapM ?_
    intro idx _ rng
    refine ⟨rfl, ?_⟩
    show (if idx % 29 = 0 then 0 else 1) = 0 ↔ _
    split <;> simp_all
  have hzip : ∀ rows : List (AgentProfile F32Bits × AgentRuntimeState F32Bits),
      (rows.map Prod.fst).zip (rows.map Prod.snd) = rows :=
    fun _ => (List.zip_of_prod rfl rfl).symm
  show List.Forall₂ _ _ ((List.map Prod.fst _).zip (List.map Prod.snd _))
  rw [hzip]
  exact hrows _

/-- Up to `2 ^ 32` agents have their places as ids. -/
theorem generateFixture_ids (arithmetic : F32Arithmetic) {config : FixtureConfig}
    (hfew : config.agentCount ≤ 2 ^ 32) :
    (generateFixture arithmetic config).agents.map AgentProfile.id = List.range config.agentCount := by
  have hshaped := generateFixture_shaped arithmetic config
  have hlen : (generateFixture arithmetic config).agents.length =
      (generateFixture arithmetic config).states.length :=
    hshaped.agents.trans hshaped.states.symm
  have hids : (List.range config.agentCount).map (· % 2 ^ 32) =
      ((generateFixture arithmetic config).agents.zip (generateFixture arithmetic config).states).map
        fun row => row.1.id := by
    rw [← List.forall₂_eq_eq_eq, List.forall₂_map_left_iff, List.forall₂_map_right_iff]
    exact (generateFixture_rows arithmetic config).imp fun _ _ hrow => hrow.1.symm
  calc (generateFixture arithmetic config).agents.map AgentProfile.id
      = ((generateFixture arithmetic config).agents.zip
          (generateFixture arithmetic config).states).map (fun row => row.1.id) :=
        (congrArg (List.map AgentProfile.id) (List.map_fst_zip (Nat.le_of_eq hlen)).symm).trans
          List.map_map
    _ = (List.range config.agentCount).map (· % 2 ^ 32) := hids.symm
    _ = (List.range config.agentCount).map id := by
        apply List.map_congr_left
        intro idx hidx
        exact Nat.mod_eq_of_lt (Nat.lt_of_lt_of_le (List.mem_range.mp hidx) hfew)
    _ = List.range config.agentCount := List.map_id _

theorem generateFixture_radius (arithmetic : F32Arithmetic) (config : FixtureConfig) :
    ∀ request ∈ (generateFixture arithmetic config).requests,
      request.radiusMaxThreshold = 0x41200000#32 :=
  forall_mapM (fun _ _ _ => rfl) _

theorem generateFixture_k (arithmetic : F32Arithmetic) (config : FixtureConfig) :
    ∀ request ∈ (generateFixture arithmetic config).requests, request.k = config.k :=
  forall_mapM (fun _ _ _ => rfl) _

end QTom.Golden
