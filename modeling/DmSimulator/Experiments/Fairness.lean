/-
  DmSimulator.Experiments.Fairness

  The fairness figure of a run is Jain's index of the inverse mean latencies of
  the nodes that have one (`jainInverseLatencyFairness_eq`).
-/
import DmSimulator.Experiments.Runner
import DmSimulator.Lib.Fairness

namespace DmSimulator

open Fairness

/-- The mean latencies the figure is taken over. -/
def positiveLatencies (perNode : List PerNodeMetricsSummary) : List Rat :=
  (perNode.map PerNodeMetricsSummary.meanLatency).filter (fun latency => 0 < latency)

/-- The shares of the nodes. -/
def inverseLatencies (perNode : List PerNodeMetricsSummary) : List Rat :=
  (positiveLatencies perNode).map (fun latency => 1 / latency)

theorem inverseLatencies_cons (node : PerNodeMetricsSummary)
    (perNode : List PerNodeMetricsSummary) :
    inverseLatencies (node :: perNode) =
      if node.meanLatency ≤ 0 then inverseLatencies perNode
      else 1 / node.meanLatency :: inverseLatencies perNode := by
  unfold inverseLatencies positiveLatencies
  by_cases h : node.meanLatency ≤ 0
  · simp [h]
  · simp [h, not_le.mp h]

/-- The loop adds up the shares, their squares and their number. -/
theorem foldl_addNode (perNode : List PerNodeMetricsSummary) (sums : FairnessSums) :
    perNode.foldl FairnessSums.addNode sums =
      { sum := sums.sum + (inverseLatencies perNode).sum
        sumSquares := sums.sumSquares + sumSquares (inverseLatencies perNode)
        samples := sums.samples + (inverseLatencies perNode).length } := by
  induction perNode generalizing sums with
  | nil => simp [inverseLatencies, positiveLatencies]
  | cons node perNode ih =>
      rw [List.foldl_cons, ih, inverseLatencies_cons]
      unfold FairnessSums.addNode
      by_cases h : node.meanLatency ≤ 0
      · rw [if_pos h, if_pos h]
      · rw [if_neg h, if_neg h, List.sum_cons, sumSquares_cons, List.length_cons]
        congr 1
        · ring
        · ring
        · exact Nat.add_right_comm _ _ _

theorem inverseLatencies_pos (perNode : List PerNodeMetricsSummary) :
    ∀ share ∈ inverseLatencies perNode, 0 < share := by
  intro share hshare
  obtain ⟨latency, hlatency, rfl⟩ := List.mem_map.mp hshare
  have hpos : 0 < latency := by simpa using (List.mem_filter.mp hlatency).2
  exact one_div_pos.mpr hpos

/-- The guards of the figure only keep it from dividing by zero. -/
theorem jainInverseLatencyFairness_eq (perNode : List PerNodeMetricsSummary) :
    jainInverseLatencyFairness perNode = jainIndex (inverseLatencies perNode) := by
  unfold jainInverseLatencyFairness jainIndex
  rw [foldl_addNode]
  simp only [zero_add]
  split
  next hzero =>
    rcases hzero with hsamples | hsquares
    · rw [hsamples, Nat.cast_zero, zero_mul, div_zero]
    · rw [hsquares, mul_zero, div_zero]
  next => rfl

theorem mem_positiveLatencies {perNode : List PerNodeMetricsSummary} {latency : Rat} :
    latency ∈ positiveLatencies perNode ↔
      ∃ node ∈ perNode, node.meanLatency = latency ∧ 0 < latency := by
  unfold positiveLatencies
  rw [List.mem_filter, List.mem_map]
  simp only [decide_eq_true_eq]
  constructor
  · rintro ⟨⟨node, hnode, heq⟩, hpos⟩
    exact ⟨node, hnode, heq, hpos⟩
  · rintro ⟨node, hnode, heq, hpos⟩
    exact ⟨⟨node, hnode, heq⟩, hpos⟩

/-- Equal shares are equal latencies. -/
theorem inverseLatencies_equal_iff (perNode : List PerNodeMetricsSummary) :
    (∀ x ∈ inverseLatencies perNode, ∀ y ∈ inverseLatencies perNode, x = y) ↔
      ∀ a ∈ perNode, ∀ b ∈ perNode, 0 < a.meanLatency → 0 < b.meanLatency →
        a.meanLatency = b.meanLatency := by
  constructor
  · intro h a ha b hb hapos hbpos
    have hmema := List.mem_map_of_mem (f := fun latency : Rat => 1 / latency)
      (mem_positiveLatencies.mpr ⟨a, ha, rfl, hapos⟩)
    have hmemb := List.mem_map_of_mem (f := fun latency : Rat => 1 / latency)
      (mem_positiveLatencies.mpr ⟨b, hb, rfl, hbpos⟩)
    have hinverse : 1 / a.meanLatency = 1 / b.meanLatency := h _ hmema _ hmemb
    exact (one_div_one_div a.meanLatency).symm.trans
      ((congrArg (fun x => 1 / x) hinverse).trans (one_div_one_div b.meanLatency))
  · intro h x hx y hy
    obtain ⟨latency, hlatency, rfl⟩ := List.mem_map.mp hx
    obtain ⟨latency', hlatency', rfl⟩ := List.mem_map.mp hy
    obtain ⟨a, ha, rfl, hapos⟩ := mem_positiveLatencies.mp hlatency
    obtain ⟨b, hb, rfl, hbpos⟩ := mem_positiveLatencies.mp hlatency'
    rw [h a ha b hb hapos hbpos]

/-- Scaling the latencies scales the shares. -/
theorem inverseLatencies_scale {factor : Rat} (hfactor : 0 < factor)
    {perNode scaled : List PerNodeMetricsSummary}
    (h : scaled.map PerNodeMetricsSummary.meanLatency =
      perNode.map (fun node => factor * node.meanLatency)) :
    inverseLatencies scaled = (inverseLatencies perNode).map (fun x => factor⁻¹ * x) := by
  unfold inverseLatencies positiveLatencies
  have hlatencies : perNode.map (fun node => factor * node.meanLatency) =
      (perNode.map PerNodeMetricsSummary.meanLatency).map (fun latency => factor * latency) := by
    rw [List.map_map]
    rfl
  rw [h, hlatencies, List.filter_map, List.map_map, List.map_map]
  have hsame : ((fun latency : Rat => decide (0 < latency)) ∘ fun latency => factor * latency) =
      fun latency => decide (0 < latency) := by
    funext latency
    simp [hfactor]
  rw [hsame]
  apply List.map_congr_left
  intro latency _
  simp only [Function.comp_apply]
  rw [one_div, one_div, mul_inv]

/-- What the fairness figure of a list of nodes satisfies. -/
structure FairnessLaws (perNode : List PerNodeMetricsSummary) : Prop where
  lower : 1 / ((positiveLatencies perNode).length : Rat) ≤ jainInverseLatencyFairness perNode
  upper : jainInverseLatencyFairness perNode ≤ 1
  eq_one_iff : jainInverseLatencyFairness perNode = 1 ↔
    ∀ a ∈ perNode, ∀ b ∈ perNode, 0 < a.meanLatency → 0 < b.meanLatency →
      a.meanLatency = b.meanLatency
  scale : ∀ (factor : Rat) (scaled : List PerNodeMetricsSummary), 0 < factor →
    scaled.map PerNodeMetricsSummary.meanLatency =
      perNode.map (fun node => factor * node.meanLatency) →
    jainInverseLatencyFairness scaled = jainInverseLatencyFairness perNode
  perm : ∀ other : List PerNodeMetricsSummary, other.Perm perNode →
    jainInverseLatencyFairness other = jainInverseLatencyFairness perNode

/-- The fairness laws, for every list in which some node has a positive mean latency. -/
theorem jainInverseLatencyFairness_laws {perNode : List PerNodeMetricsSummary}
    (h : 1 ≤ (positiveLatencies perNode).length) : FairnessLaws perNode := by
  have hlength : (inverseLatencies perNode).length = (positiveLatencies perNode).length :=
    List.length_map _
  have hne : inverseLatencies perNode ≠ [] := by
    intro hnil
    rw [hnil, List.length_nil] at hlength
    omega
  have hpos := inverseLatencies_pos perNode
  constructor
  case lower =>
    rw [jainInverseLatencyFairness_eq, ← hlength]
    exact one_div_length_le_jainIndex hne hpos
  case upper =>
    rw [jainInverseLatencyFairness_eq]
    exact jainIndex_le_one hne hpos
  case eq_one_iff =>
    rw [jainInverseLatencyFairness_eq, jainIndex_eq_one_iff hne hpos, inverseLatencies_equal_iff]
  case scale =>
    intro factor scaled hfactor hscaled
    rw [jainInverseLatencyFairness_eq, jainInverseLatencyFairness_eq,
      inverseLatencies_scale hfactor hscaled, jainIndex_map_mul (inv_ne_zero hfactor.ne')]
  case perm =>
    intro other hperm
    rw [jainInverseLatencyFairness_eq, jainInverseLatencyFairness_eq]
    apply jainIndex_perm
    exact ((hperm.map _).filter _).map _

/-- One node of three has no samples; the other two are not equally fast. -/
theorem jainInverseLatencyFairness_laws_uneven :
    FairnessLaws [{ meanLatency := 10 }, { meanLatency := 0 }, { meanLatency := 40 }] :=
  jainInverseLatencyFairness_laws (by decide +kernel)

end DmSimulator
