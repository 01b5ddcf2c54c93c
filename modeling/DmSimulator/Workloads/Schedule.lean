/-
  DmSimulator.Workloads.Schedule

  What the checks of a synthetic workload give, and the arrival schedule of a
  generated one with unbounded time: within an epoch the issue offsets of a node
  do not decrease.
-/
import DmSimulator.Workloads.Generators
import Mathlib.Data.List.Chain

namespace DmSimulator

-- ============================================================================
-- Results of checked computations
-- ============================================================================

theorem bind_eq_ok {α β ε : Type} {x : Except ε α} {f : α → Except ε β} {b : β} :
    (x >>= f) = .ok b ↔ ∃ a, x = .ok a ∧ f a = .ok b := by
  cases x <;> simp [bind, Except.bind]

theorem pure_eq_ok {α ε : Type} {a b : α} : (pure a : Except ε α) = .ok b ↔ a = b := by
  simp [pure, Except.pure]

theorem throwIf_eq_ok {condition : Bool} {message : String} {u : Unit} :
    throwIf condition message = .ok u ↔ condition = false := by
  cases condition <;> simp [throwIf]

-- ============================================================================
-- A source without randomness
-- ============================================================================

/-- The source that draws the lowest number and keeps the order of a shuffle. -/
def lowestSource : RandomSource :=
  { Engine := Unit
    seed := fun _ => ()
    bernoulli := fun p engine => (decide (1 ≤ p), engine)
    uniformInt := fun lo _ engine => (lo, engine)
    shuffle := fun objects engine => (objects, engine)
    uniformInt_mem := fun _ _ _ h => ⟨Nat.le_refl _, h⟩
    shuffle_perm := fun objects _ => List.Perm.refl objects }

-- ============================================================================
-- The arrival schedule
-- ============================================================================

/-- The parameters of a burst: bursts are nonempty, and one ends before the next
    one begins. -/
structure BurstsFit (config : SyntheticWorkloadConfig) : Prop where
  burstSize_pos : 0 < config.burstSize
  span_le : (config.burstSize - 1) * config.intraBurstGap ≤ config.burstInterval

/-- A span that passes the overflow check is not reduced. -/
theorem Arith.mul_of_le_div {A : Arith} {a b : Nat} (ha : 0 < a)
    (h : b ≤ (Arith.wordSize - 1) / a) : A.mul a b = a * b := by
  cases A with
  | exact => rfl
  | word64 =>
      have hle : a * b ≤ Arith.wordSize - 1 := by
        rw [Nat.mul_comm]
        exact (Nat.le_div_iff_mul_le ha).mp h
      have hpos : 0 < Arith.wordSize := by decide
      exact Nat.mod_eq_of_lt (by omega)

/-- In either arithmetic, what the checks give of the bursts; a gap that occurs is a
    machine time. -/
theorem burstsFit_and_gap_le {A : Arith} {config : SyntheticWorkloadConfig}
    (h : validateSyntheticWorkloadConfig A config = .ok ())
    (hmode : config.issueMode = .scheduledBursty) :
    BurstsFit config ∧ (1 < config.burstSize → config.intraBurstGap ≤ Arith.wordSize - 1) := by
  unfold validateSyntheticWorkloadConfig at h
  simp only [bind_eq_ok, throwIf_eq_ok, exists_and_left, exists_const] at h
  obtain ⟨-, -, -, -, -, -, -, -, -, -, -, -, -, -, -, hsize, -, hburst⟩ := h
  have hpos : 0 < config.burstSize := by
    simp only [decide_eq_false_iff_not] at hsize
    omega
  by_cases hone : config.burstSize > 1
  · rw [if_pos ⟨hmode, hone⟩] at hburst
    simp only [bind_eq_ok, throwIf_eq_ok, exists_and_left, decide_eq_false_iff_not] at hburst
    have hgap : config.intraBurstGap ≤ (Arith.wordSize - 1) / (config.burstSize - 1) :=
      Nat.not_lt.mp hburst.1
    have hspan := Nat.not_lt.mp hburst.2.1
    rw [Arith.mul_of_le_div (by omega) hgap] at hspan
    exact ⟨⟨hpos, hspan⟩, fun _ => hgap.trans (Nat.div_le_self _ _)⟩
  · have hsize' : config.burstSize - 1 = 0 := by omega
    refine ⟨⟨hpos, ?_⟩, fun hlt => absurd hlt hone⟩
    rw [hsize', Nat.zero_mul]
    exact Nat.zero_le _

theorem burstsFit_of_validate {A : Arith} {config : SyntheticWorkloadConfig}
    (h : validateSyntheticWorkloadConfig A config = .ok ())
    (hmode : config.issueMode = .scheduledBursty) : BurstsFit config :=
  (burstsFit_and_gap_le h hmode).1

/-- The next request is the next one of its burst, or it opens the next burst. -/
theorem scheduledIssueOffset_succ {config : SyntheticWorkloadConfig}
    (hpos : 0 < config.burstSize) (hmode : config.issueMode = .scheduledBursty)
    (rng : RandomSource) (nodeId : NodeId) (epochId : EpochId) (i : Nat) :
    (i % config.burstSize + 1 < config.burstSize ∧
      scheduledIssueOffset .exact rng config nodeId epochId (i + 1) =
        scheduledIssueOffset .exact rng config nodeId epochId i + config.intraBurstGap) ∨
    scheduledIssueOffset .exact rng config nodeId epochId (i + 1) +
        (config.burstSize - 1) * config.intraBurstGap =
      scheduledIssueOffset .exact rng config nodeId epochId i + config.burstInterval := by
  have hbursty : config.issueMode ≠ .completionDriven := by
    rw [hmode]
    decide
  unfold scheduledIssueOffset
  simp only [if_neg hbursty, Arith.add_exact, Arith.mul_exact]
  have hlt := Nat.mod_lt i hpos
  have hdecompose := Nat.mod_add_div i config.burstSize
  by_cases hlast : i % config.burstSize + 1 = config.burstSize
  · right
    have hnext : i + 1 = config.burstSize * (i / config.burstSize + 1) := by
      rw [Nat.mul_add, Nat.mul_one]
      omega
    have hposition : i % config.burstSize = config.burstSize - 1 := by omega
    rw [hnext, Nat.mul_div_cancel_left _ hpos, Nat.mul_mod_right, Nat.add_mul, Nat.one_mul,
      Nat.zero_mul, hposition]
    lia
  · left
    have hless : i % config.burstSize + 1 < config.burstSize := by omega
    have hnext : i + 1 = i % config.burstSize + 1 + config.burstSize * (i / config.burstSize) := by
      omega
    have hdiv : (i + 1) / config.burstSize = i / config.burstSize := by
      rw [hnext, Nat.add_mul_div_left _ _ hpos, Nat.div_eq_of_lt hless, Nat.zero_add]
    have hmod : (i + 1) % config.burstSize = i % config.burstSize + 1 := by
      rw [hnext, Nat.add_mul_mod_self_left, Nat.mod_eq_of_lt hless]
    refine ⟨hless, ?_⟩
    rw [hdiv, hmod, Nat.succ_mul]
    exact (Nat.add_assoc _ _ _).symm

/-- The planned offsets of one epoch do not decrease. -/
theorem scheduledIssueOffset_le_succ {config : SyntheticWorkloadConfig} (h : BurstsFit config)
    (rng : RandomSource) (nodeId : NodeId) (epochId : EpochId) (i : Nat) :
    scheduledIssueOffset .exact rng config nodeId epochId i ≤
      scheduledIssueOffset .exact rng config nodeId epochId (i + 1) := by
  cases hmode : config.issueMode with
  | completionDriven =>
      unfold scheduledIssueOffset
      rw [if_pos hmode, if_pos hmode]
  | scheduledBursty =>
      have hspan := h.span_le
      rcases scheduledIssueOffset_succ h.burstSize_pos hmode rng nodeId epochId i with
        ⟨-, heq⟩ | heq <;> lia

/-- Within an epoch the issue offsets of a stream do not decrease. -/
def OffsetsSorted (requests : List RequestSpec) : Prop :=
  requests.IsChain (fun spec next => spec.epochId = next.epochId →
    spec.scheduledIssueOffset ≤ next.scheduledIssueOffset)

section Generated

variable {rng : RandomSource} {config : SyntheticWorkloadConfig}

/-- The requests of one epoch carry its id and the planned offsets. -/
theorem generateRequests_spec (hfit : BurstsFit config) {objectSizes : List Nat}
    {hotSet coldSet : List ObjectId} {nodeId : NodeId} {epochId : EpochId} {count i : Nat}
    {engine engine' : rng.Engine} {requests : List RequestSpec}
    (h : generateRequests .exact rng config objectSizes hotSet coldSet nodeId epochId count i
      engine = .ok (requests, engine')) :
    (∀ spec ∈ requests, spec.epochId = epochId) ∧ OffsetsSorted requests ∧
      ∀ first ∈ requests.head?,
        first.scheduledIssueOffset = scheduledIssueOffset .exact rng config nodeId epochId i := by
  induction count generalizing i engine engine' requests with
  | zero =>
      simp only [generateRequests, pure_eq_ok, Prod.mk.injEq] at h
      obtain ⟨rfl, -⟩ := h
      exact ⟨by simp, List.IsChain.nil, by simp⟩
  | succ count ih =>
      simp only [generateRequests, bind_eq_ok, pure_eq_ok, Prod.mk.injEq, Prod.exists] at h
      obtain ⟨objectId, engine₁, -, rest, engine₂, hrest, rfl, -⟩ := h
      obtain ⟨hepochs, hsorted, hhead⟩ := ih hrest
      refine ⟨?_, ?_, by simp⟩
      · intro spec hspec
        rcases List.mem_cons.mp hspec with rfl | hin
        · rfl
        · exact hepochs spec hin
      · refine List.isChain_cons.mpr ⟨fun next hnext _ => ?_, hsorted⟩
        rw [hhead next hnext]
        exact scheduledIssueOffset_le_succ hfit rng nodeId epochId i

/-- A stream of the epochs before `epochId` with sorted offsets. -/
def StreamBefore (epochId : EpochId) (requests : List RequestSpec) : Prop :=
  OffsetsSorted requests ∧ ∀ spec ∈ requests, spec.epochId < epochId

/-- One more epoch is appended to every stream. -/
theorem generateEpoch_streams (hfit : BurstsFit config) {objects : List ObjectId}
    {objectSizes : List Nat} {segments : HotSetSegments} {epochId : EpochId} {nodeIndex : Nat}
    {workloads workloads' : List NodeWorkload} {hotSets hotSets' : UnorderedMap NodeId (List ObjectId)}
    {engine engine' : rng.Engine}
    (h : generateEpoch .exact rng config objects objectSizes segments epochId nodeIndex workloads
      hotSets engine = .ok (workloads', hotSets', engine'))
    (hbefore : ∀ w ∈ workloads, StreamBefore epochId w.requests) :
    ∀ w ∈ workloads', StreamBefore (epochId + 1) w.requests := by
  induction workloads generalizing nodeIndex workloads' hotSets hotSets' engine engine' with
  | nil =>
      simp only [generateEpoch, pure_eq_ok, Prod.mk.injEq] at h
      obtain ⟨rfl, -⟩ := h
      simp
  | cons workload rest ih =>
      simp only [generateEpoch, bind_eq_ok, pure_eq_ok, Prod.mk.injEq, Prod.exists] at h
      obtain ⟨requests, engine₁, hrequests, rest', hotSets₁, engine₂, hrest, rfl, -⟩ := h
      obtain ⟨hepochs, hsorted, -⟩ := generateRequests_spec hfit hrequests
      obtain ⟨hold, hpast⟩ := hbefore workload List.mem_cons_self
      intro w hw
      rcases List.mem_cons.mp hw with rfl | hin
      · refine ⟨List.isChain_append.mpr ⟨hold, hsorted, ?_⟩, ?_⟩
        · -- the last request before the epoch has another epoch id
          intro last hlast first hfirst heq
          have hlt := hpast last (List.mem_of_getLast? hlast)
          rw [heq, hepochs first (List.mem_of_head? hfirst)] at hlt
          exact absurd hlt (Nat.lt_irrefl _)
        · intro spec hspec
          rcases List.mem_append.mp hspec with hin | hin
          · exact Nat.lt_succ_of_lt (hpast spec hin)
          · rw [hepochs spec hin]
            exact Nat.lt_succ_self _
      · exact ih hrest (fun w hw => hbefore w (List.mem_cons_of_mem workload hw)) w hin

theorem generateEpochs_streams (hfit : BurstsFit config)
    {objects hotObjectCandidates : List ObjectId} {objectSizes : List Nat} {epochs : Nat}
    {epochId : EpochId} {segments : HotSetSegments} {cursor : Nat} {engine : rng.Engine}
    {workload workload' : GeneratedWorkload}
    (h : generateEpochs .exact rng config objects hotObjectCandidates objectSizes epochs epochId
      segments cursor engine workload = .ok workload')
    (hbefore : ∀ w ∈ workload.nodeWorkloads, StreamBefore epochId w.requests) :
    ∀ w ∈ workload'.nodeWorkloads, OffsetsSorted w.requests := by
  induction epochs generalizing epochId segments cursor engine workload with
  | zero =>
      simp only [generateEpochs, pure_eq_ok] at h
      rw [← h]
      exact fun w hw => (hbefore w hw).1
  | succ epochs ih =>
      simp only [generateEpochs, bind_eq_ok, Prod.exists] at h
      obtain ⟨segments', cursor', -, workloads', hotSets', engine', hepoch, hrest⟩ := h
      exact ih hrest (generateEpoch_streams hfit hepoch hbefore)

/-- A generated bursty workload follows a schedule. -/
theorem generateSyntheticWorkload_offsetsSorted {workload : GeneratedWorkload}
    (h : generateSyntheticWorkload .exact rng config = .ok workload)
    (hmode : config.issueMode = .scheduledBursty) :
    ∀ w ∈ workload.nodeWorkloads, OffsetsSorted w.requests := by
  unfold generateSyntheticWorkload at h
  simp only [bind_eq_ok] at h
  obtain ⟨u, hvalid, hgenerate⟩ := h
  refine generateEpochs_streams (burstsFit_of_validate hvalid hmode) hgenerate ?_
  intro w hw
  obtain ⟨nodeId, -, rfl⟩ := List.mem_map.mp hw
  exact ⟨List.IsChain.nil, by simp⟩

end Generated

end DmSimulator
