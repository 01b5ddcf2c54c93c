/-
  DmSimulator.Runs.Start

  A constructed simulator satisfies the invariant of a run, and so does every
  state its run reaches.
-/
import DmSimulator.Runs.Release

namespace DmSimulator

namespace Simulator

-- ============================================================================
-- Construction
-- ============================================================================

/-- What the node loop of `validate_config` accepts. -/
theorem validateNodes_spec {memoryNodeId : NodeId} {seen : List NodeId}
    {nodeConfigs : List ComputeNodeConfig}
    (h : validateNodes memoryNodeId seen nodeConfigs = .ok ()) :
    (∀ nodeConfig ∈ nodeConfigs, nodeConfig.nodeId ≠ memoryNodeId ∧ nodeConfig.nodeId ∉ seen ∧
      (nodeConfig.requests.map RequestSpec.epochId).Pairwise (· ≤ ·)) ∧
      (nodeConfigs.map ComputeNodeConfig.nodeId).Nodup := by
  induction nodeConfigs generalizing seen with
  | nil => simp
  | cons first rest ih =>
      simp only [validateNodes, bind_eq_ok, throwIf_eq_ok, exists_and_left, exists_const,
        decide_eq_false_iff_not, not_not] at h
      obtain ⟨hmemory, hseen, hsorted, hrest⟩ := h
      obtain ⟨hall, hnodup⟩ := ih hrest
      refine ⟨?_, ?_⟩
      · intro nodeConfig hmem
        rcases List.mem_cons.mp hmem with rfl | hin
        · exact ⟨hmemory, hseen, List.isChain_iff_pairwise.mp hsorted⟩
        · obtain ⟨hmemory', hseen', hsorted'⟩ := hall nodeConfig hin
          exact ⟨hmemory', fun hin' => hseen' (List.mem_cons_of_mem _ hin'), hsorted'⟩
      · rw [List.map_cons, List.nodup_cons]
        refine ⟨fun hin => ?_, hnodup⟩
        obtain ⟨nodeConfig, hmem, heq⟩ := List.mem_map.mp hin
        exact (hall nodeConfig hmem).2.1 (heq ▸ List.mem_cons_self)

theorem prepared_of_validate {config : SimulationConfig}
    {generatedWorkload : Option GeneratedWorkload} (hchannels : config.memoryChannelCount ≠ 0)
    (hbandwidth : config.memoryBandwidthBytesPerTime ≠ 0)
    (hvalid : validateConfig config generatedWorkload = .ok ())
    (hoffsets : issueModeOf config = .scheduledBursty →
      ∀ nodeConfig ∈ config.computeNodes, OffsetsSorted nodeConfig.requests) :
    Prepared config := by
  unfold validateConfig at hvalid
  simp only [bind_eq_ok, throwIf_eq_ok, exists_and_left, exists_const] at hvalid
  obtain ⟨hall, hnodup⟩ := validateNodes_spec hvalid.2
  exact ⟨Nat.pos_of_ne_zero hchannels, Nat.pos_of_ne_zero hbandwidth, hnodup,
    fun c hc => (hall c hc).1, fun c hc => (hall c hc).2.2, hoffsets⟩

/-- The configuration a constructor keeps is well formed. -/
theorem prepared_of_prepareConfig {rng : RandomSource} {config prepared : SimulationConfig}
    {generatedWorkload : Option GeneratedWorkload}
    (h : prepareConfig .exact rng config = .ok (prepared, generatedWorkload)) :
    Prepared prepared := by
  unfold prepareConfig at h
  cases hsynthetic : config.syntheticWorkload with
  | none =>
      simp only [hsynthetic, bind_eq_ok, throwIf_eq_ok, exists_and_left, exists_const,
        decide_eq_false_iff_not, pure_eq_ok, Prod.mk.injEq, exists_eq_left'] at h
      obtain ⟨hchannels, _, hvalid, hbandwidth, rfl, -⟩ := h
      refine prepared_of_validate hchannels hbandwidth hvalid fun hmode => ?_
      unfold issueModeOf at hmode
      rw [hsynthetic] at hmode
      cases hmode
  | some synthetic =>
      simp only [hsynthetic, bind_eq_ok, throwIf_eq_ok, exists_and_left, exists_const,
        decide_eq_false_iff_not, pure_eq_ok, Prod.mk.injEq, exists_eq_left'] at h
      obtain ⟨hchannels, -, workload, hgenerate, _, hvalid, hbandwidth, rfl, -⟩ := h
      refine prepared_of_validate hchannels hbandwidth hvalid fun hmode => ?_
      intro nodeConfig hmem
      obtain ⟨w, hw, rfl⟩ := List.mem_map.mp hmem
      exact generateSyntheticWorkload_offsetsSorted hgenerate hmode w hw

/-- A constructed simulator is that of a well-formed configuration. -/
theorem construct_spec {rng : RandomSource} {config : SimulationConfig}
    {s : Simulator (makeCachePolicy .exact config.localCache)}
    (h : construct .exact rng config = .ok s) :
    ∃ prepared generatedWorkload, s = ofConfig _ prepared generatedWorkload ∧
      Prepared prepared := by
  unfold construct at h
  simp only [bind_eq_ok, pure_eq_ok, Prod.exists] at h
  obtain ⟨prepared, generatedWorkload, hprepare, rfl⟩ := h
  exact ⟨prepared, generatedWorkload, rfl, prepared_of_prepareConfig hprepare⟩

-- ============================================================================
-- The compute nodes of a new simulator
-- ============================================================================

section Emplace

variable {P : CachePolicy} {config : SimulationConfig} {plan : Option GlobalReplicaPlan}

/-- The loop body of the node construction. -/
theorem foldl_emplace {nodeConfigs all : List ComputeNodeConfig}
    {nodes nodes' : KeyedStore (ComputeNode.nodeId (P := P))}
    (h : nodes' = nodeConfigs.foldl
      (fun nodes nodeConfig =>
        if nodes.contains nodeConfig.nodeId then nodes
        else nodes.insert (makeComputeNode P config plan nodeConfig)) nodes)
    (hsub : ∀ c ∈ nodeConfigs, c ∈ all)
    (hnodes : ∀ node ∈ nodes.items, ∃ c ∈ all, node = makeComputeNode P config plan c) :
    (∀ node ∈ nodes'.items, ∃ c ∈ all, node = makeComputeNode P config plan c) ∧
      (∀ k, (∃ node, nodes.find k = some node) → ∃ node, nodes'.find k = some node) ∧
      ∀ c ∈ nodeConfigs, ∃ node, nodes'.find c.nodeId = some node := by
  induction nodeConfigs generalizing nodes with
  | nil =>
      subst h
      exact ⟨hnodes, fun k hk => hk, by simp⟩
  | cons first rest ih =>
      rw [List.foldl_cons] at h
      have hstep : ∀ nodes₁ : KeyedStore (ComputeNode.nodeId (P := P)),
          nodes₁ = (if nodes.contains first.nodeId then nodes
            else nodes.insert (makeComputeNode P config plan first)) →
          (∀ node ∈ nodes₁.items, ∃ c ∈ all, node = makeComputeNode P config plan c) ∧
            (∀ k, (∃ node, nodes.find k = some node) → ∃ node, nodes₁.find k = some node) ∧
            ∃ node, nodes₁.find first.nodeId = some node := by
        intro nodes₁ heq
        by_cases hcontains : nodes.contains first.nodeId = true
        · rw [if_pos hcontains] at heq
          subst heq
          exact ⟨hnodes, fun k hk => hk, Option.isSome_iff_exists.mp hcontains⟩
        · rw [if_neg hcontains] at heq
          subst heq
          refine ⟨?_, fun k hk => KeyedStore.exists_find_insert hk _, _,
            KeyedStore.find_insert_self nodes (makeComputeNode P config plan first)⟩
          intro node hmem
          rcases KeyedStore.mem_insert.mp hmem with rfl | ⟨hold, -⟩
          · exact ⟨first, hsub first List.mem_cons_self, rfl⟩
          · exact hnodes node hold
      obtain ⟨hall, hkeeps, hfirst⟩ := hstep _ rfl
      obtain ⟨hall', hkeeps', hrest⟩ := ih h (fun c hc => hsub c (List.mem_cons_of_mem first hc))
        hall
      refine ⟨hall', fun k hk => hkeeps' k (hkeeps k hk), ?_⟩
      intro c hc
      rcases List.mem_cons.mp hc with rfl | hin
      · exact hkeeps' _ hfirst
      · exact hrest c hin

theorem emplaceNodes_spec (P : CachePolicy) (config : SimulationConfig)
    (plan : Option GlobalReplicaPlan) :
    (∀ node ∈ (emplaceNodes P config plan).items,
      ∃ c ∈ config.computeNodes, node = makeComputeNode P config plan c) ∧
      ∀ c ∈ config.computeNodes,
        ∃ node, (emplaceNodes P config plan).find c.nodeId = some node := by
  have hempty : ∀ node ∈ (KeyedStore.empty : KeyedStore (ComputeNode.nodeId (P := P))).items,
      ∃ c ∈ config.computeNodes, node = makeComputeNode P config plan c := by simp
  obtain ⟨hall, -, hfind⟩ := foldl_emplace (show emplaceNodes P config plan = _ from rfl)
    (fun c hc => hc) hempty
  exact ⟨hall, hfind⟩

end Emplace

end Simulator

-- ============================================================================
-- The invariant of every run
-- ============================================================================

section Runs

variable {P : CachePolicy} {config : SimulationConfig}
  {generatedWorkload : Option GeneratedWorkload}

/-- A node that has not been started. -/
theorem nodeInv_init {plan : Option GlobalReplicaPlan} {nodeConfig : ComputeNodeConfig}
    (hmem : nodeConfig ∈ config.computeNodes) {v : View} (htable : v.requestTable = KeyedStore.empty)
    (hpending : v.pending = 0) :
    NodeInv config v none 0 (Simulator.makeComputeNode P config plan nodeConfig) := by
  have htickets : ∀ id, v.tickets id = none := by
    intro id
    unfold View.tickets
    rw [htable]
    rfl
  have hdue : ¬ (Simulator.makeComputeNode P config plan nodeConfig).Due none := by
    rw [ComputeNode.due_iff]
    rintro ⟨spec, -, hnone⟩
    cases hnone
  have hgenerates : ∀ nodeId, generatesFor v.pending nodeId = 0 := by
    intro nodeId
    rw [hpending]
    rfl
  refine ⟨⟨nodeConfig, hmem, rfl, rfl⟩, rfl, rfl, rfl, rfl, ⟨[], List.Pairwise.nil, ?_, ?_⟩,
    Nat.zero_le _, ?_, ?_, ?_, ?_, ?_, fun _ hd => absurd hd hdue, ?_⟩
  · exact List.Forall₂.nil
  · intro id t ht
    rw [htickets id] at ht
    cases ht
  · rw [htable]
    rfl
  · intro spec epoch _ hnone
    cases hnone
  · intro id t ht
    rw [htickets id] at ht
    cases ht
  · intro _
    unfold load
    rw [hgenerates, htable, hpending]
    exact Nat.zero_le 1
  · intro _ hne
    exact absurd (hgenerates _) hne
  · intro _
    rw [if_neg hdue]
    exact hgenerates _

/-- A channel that has not been used. -/
theorem serverInv_init {tickets : Tickets} (htickets : ∀ id, tickets id = none)
    (place : RequestId → Place) (c : MemoryChannelId) :
    ServerInv config tickets [] 0 place c {} [] := by
  have hchannelOf : ∀ id, channelOf config tickets id ≠ some c := by
    intro id
    unfold channelOf
    rw [htickets id]
    exact fun heq => by cases heq
  exact ⟨rfl, fun id hid => absurd hid (hchannelOf id), rfl, by simp, List.nodup_nil,
    .idle rfl rfl rfl (le_refl 0) fun id start hid => absurd hid (hchannelOf id)⟩

/-- A new simulator. -/
theorem runInv_init (P : CachePolicy) (hprepared : Prepared config)
    (generatedWorkload : Option GeneratedWorkload) (phase : RequestId → Phase) :
    RunInv (Simulator.ofConfig P config generatedWorkload) phase 0 := by
  obtain ⟨plan, hplan⟩ : ∃ plan, (Simulator.ofConfig P config generatedWorkload).computeNodes =
      Simulator.emplaceNodes P config plan := ⟨_, rfl⟩
  obtain ⟨hnodes, hpresent⟩ := Simulator.emplaceNodes_spec P config plan
  have htickets : ∀ id, (Simulator.ofConfig P config generatedWorkload).view.tickets id = none :=
    fun id => rfl
  refine ⟨hprepared, Scheduler.wellOrdered_init, rfl, Lifecycle.init config phase, ?_, ?_, rfl,
    rfl, List.length_replicate, ?_, ?_, ?_, ?_, ?_⟩
  · rw [hplan]
    intro node hmem
    obtain ⟨nodeConfig, hconfig, rfl⟩ := hnodes node hmem
    exact nodeInv_init hconfig rfl rfl
  · rw [hplan]
    exact hpresent
  · intro c channel hchannel
    obtain rfl : channel = {} :=
      List.eq_of_mem_replicate (List.mem_of_getElem? hchannel)
    exact ⟨[], serverInv_init htickets _ c⟩
  · intro id t ht
    rw [htickets id] at ht
    cases ht
  · intro id t ht
    rw [htickets id] at ht
    cases ht
  · intro e he
    exact absurd he (Multiset.notMem_zero e)
  · rw [hplan]
    show KeyedStore.total _ _ + 1 = 1
    have hzero : (Simulator.emplaceNodes P config plan).total
        (fun node => node.workload.nextIndex) = 0 := by
      unfold KeyedStore.total
      rw [List.sum_eq_zero_iff_forall_eq_nat]
      intro index hindex
      obtain ⟨node, hmem, rfl⟩ := List.mem_map.mp hindex
      obtain ⟨nodeConfig, -, rfl⟩ := hnodes node hmem
      rfl
    rw [hzero]

/-- The invariant of the states a run passes through between two turns. -/
def TurnInv (s : Simulator P) : Prop := (∃ phase base, RunInv s phase base) ∧ s.Settled

/-- One turn of the loop keeps the invariant. -/
theorem turnInv_move {s t : Simulator P} (h : TurnInv s)
    (hmove : Run.Moves (Simulator.step .exact) s t) : TurnInv t := by
  obtain ⟨⟨phase, base, hrun⟩, -⟩ := h
  obtain ⟨event, scheduler, s', hpop, hdispatched, rfl⟩ := Simulator.moves_iff.mp hmove
  obtain ⟨s₁, phase', hdispatched', hrun'⟩ := hrun.dispatch hpop
  obtain rfl : s₁ = s' := by
    have h1 := hdispatched'.dispatchEvent_eq
    have h2 := hdispatched.dispatchEvent_eq
    exact Except.ok.inj (h1.symm.trans h2)
  obtain ⟨base', hreleased, hsettled⟩ := hrun'.release
  exact ⟨⟨phase', base', hreleased⟩, hsettled⟩

/-- A turn of the loop never throws. -/
theorem step_ok {s : Simulator P} (h : TurnInv s) :
    ∃ next, Simulator.step .exact s = .ok next := by
  obtain ⟨⟨phase, base, hrun⟩, -⟩ := h
  cases hpop : s.shared.scheduler.popNext with
  | none =>
      refine ⟨none, ?_⟩
      unfold Simulator.step
      rw [hpop]
      rfl
  | some popped =>
      obtain ⟨event, scheduler⟩ := popped
      obtain ⟨s', phase', hdispatched, -⟩ := hrun.dispatch hpop
      exact ⟨_, Simulator.moves_iff.mpr ⟨event, scheduler, s', hpop, hdispatched, rfl⟩⟩

/-- The invariant holds after the initial release. -/
theorem turnInv_init (hprepared : Prepared config) :
    TurnInv (Simulator.releaseNextEpochIfReady .exact
      (Simulator.ofConfig P config generatedWorkload)) := by
  obtain ⟨base, hrun, hsettled⟩ :=
    (runInv_init P hprepared generatedWorkload fun _ => .lookup).release
  exact ⟨⟨_, base, hrun⟩, hsettled⟩

/-- The invariant holds in every reachable state. -/
theorem turnInv_of_reachable (hprepared : Prepared config) {t : Simulator P}
    (h : Simulator.Reachable .exact (Simulator.ofConfig P config generatedWorkload) t) :
    TurnInv t :=
  Run.invariant_of_reaches TurnInv (fun _ _ ha hmove => turnInv_move ha hmove) (turnInv_init hprepared) h

end Runs

end DmSimulator
