/-
  DmSimulator.Runs.Noninterference

  What the rest of the system can do to the cache of a node under a private policy,
  with unbounded time.

  Two completion-driven runs serve the same stream of a node.  Whatever the other
  nodes, the link and the memory do, the node's requests hit and miss alike unless
  the runs differ on a tie: two consecutive uses of the cache carry the same time
  in one run and not in the other.  That can only happen between two epochs or
  when a fetch takes no time (`TiesAgree`).
-/
import DmSimulator.Runs.VisitTurns

namespace DmSimulator

open Recency Simulator

-- ============================================================================
-- Ties
-- ============================================================================

/-- Two runs agree on whether consecutive uses of the cache carry the same time, where this
    depends on more than the node: between two epochs, and where the later request could be
    fetched in no time. -/
def TiesAgree (config config' : SimulationConfig) (visits visits' : List Visit) : Prop :=
  ∀ i v w v' w', visits[i]? = some v → visits[i + 1]? = some w → visits'[i]? = some v' →
    visits'[i + 1]? = some w' →
    (v.demand.epochId ≠ w.demand.epochId ∨ fetchTime config w.demand = 0 ∨
      fetchTime config' w.demand = 0) →
    (v.useTime = w.useTime ↔ v'.useTime = w'.useTime)

section Times

variable {config config' : SimulationConfig} {v w v' w' : Visit} {visits visits' : List Visit}

theorem Visit.Timed.useTime_bounds (h : v.Timed config) :
    v.issueTime ≤ v.useTime ∧ v.useTime ≤ v.completionTime := by
  unfold Visit.useTime
  cases v.tier with
  | localCache => exact ⟨le_refl _, h.issue_le⟩
  | memory => exact ⟨h.issue_le, le_refl _⟩

theorem Visit.Follows.useTime_le (h : v.Follows w) (hv : v.Timed config) (hw : w.Timed config) :
    v.useTime ≤ w.useTime :=
  (hv.useTime_bounds.2.trans h.1).trans hw.useTime_bounds.1

/-- In one epoch, uses that follow each other carry the same time only if the second is a
    hit right after a response. -/
theorem Visit.Follows.tie_iff (h : v.Follows w) (hv : v.Timed config) (hw : w.Timed config)
    (hepoch : v.demand.epochId = w.demand.epochId) (hfetch : fetchTime config w.demand ≠ 0) :
    v.useTime = w.useTime ↔ w.tier = .localCache ∧
      (v.tier = .memory ∨ config.localCache.hitLatency = 0) := by
  have hissue : w.issueTime = v.completionTime := h.2 hepoch
  cases htier : w.tier with
  | memory =>
      have hend := hw.miss htier
      have huse : w.useTime = w.completionTime := by
        simp only [Visit.useTime, htier]
      have hbefore := hv.useTime_bounds.2
      refine iff_of_false ?_ (fun hboth => by cases hboth.1)
      rw [huse]
      lia
  | localCache =>
      have huse : w.useTime = w.issueTime := by
        simp only [Visit.useTime, htier]
      rw [huse, hissue]
      cases htier' : v.tier with
      | memory =>
          refine iff_of_true ?_ ⟨rfl, Or.inl rfl⟩
          simp only [Visit.useTime, htier']
      | localCache =>
          have huse' : v.useTime = v.issueTime := by
            simp only [Visit.useTime, htier']
          rw [huse', hv.hit htier']
          constructor
          · intro htie
            exact ⟨rfl, Or.inr (by lia)⟩
          · rintro ⟨-, hmemory | hzero⟩
            · cases hmemory
            · rw [hzero]
              exact (Nat.add_zero _).symm

theorem InTime.follows (h : InTime config visits) {i : Nat} (hv : visits[i]? = some v)
    (hw : visits[i + 1]? = some w) : v.Timed config ∧ w.Timed config ∧ v.Follows w := by
  obtain ⟨hi, rfl⟩ := List.getElem?_eq_some_iff.mp hv
  obtain ⟨hi', rfl⟩ := List.getElem?_eq_some_iff.mp hw
  exact ⟨h.timed _ (List.getElem_mem hi), h.timed _ (List.getElem_mem hi'),
    List.isChain_iff_getElem.mp h.paced i hi'⟩

/-- Equal lists of demands, at one place. -/
theorem demand_eq_of_map (hdemand : visits.map Visit.demand = visits'.map Visit.demand) {i : Nat}
    (hv : visits[i]? = some v) (hv' : visits'[i]? = some v') : v.demand = v'.demand := by
  have hplace := congrArg (fun demands => demands[i]?) hdemand
  simp only [List.getElem?_map, hv, hv'] at hplace
  exact Option.some.inj hplace

/-- The visits of the two runs follow each other alike. -/
theorem followAlike_of_inTime (h : InTime config visits) (h' : InTime config' visits')
    (hlatency : config.localCache.hitLatency = config'.localCache.hitLatency)
    (hdemand : visits.map Visit.demand = visits'.map Visit.demand)
    (hties : TiesAgree config config' visits visits') :
    LocalCache.FollowAlike visits visits' := by
  intro i v w v' w' hv hw hv' hw' htier htier'
  obtain ⟨htimed, htimed_w, hfollows⟩ := h.follows hv hw
  obtain ⟨htimed', htimed_w', hfollows'⟩ := h'.follows hv' hw'
  refine ⟨hfollows.useTime_le htimed htimed_w, hfollows'.useTime_le htimed' htimed_w', ?_⟩
  by_cases hsensitive : v.demand.epochId ≠ w.demand.epochId ∨ fetchTime config w.demand = 0 ∨
      fetchTime config' w.demand = 0
  · exact hties i v w v' w' hv hw hv' hw' hsensitive
  · rw [not_or, not_or, not_not] at hsensitive
    obtain ⟨hepoch, hfetch, hfetch'⟩ := hsensitive
    have hdemand_v := demand_eq_of_map hdemand hv hv'
    have hdemand_w := demand_eq_of_map hdemand hw hw'
    rw [hfollows.tie_iff htimed htimed_w hepoch hfetch,
      hfollows'.tie_iff htimed' htimed_w' (by rw [← hdemand_v, ← hdemand_w]; exact hepoch)
        (by rw [← hdemand_w]; exact hfetch'), htier, htier', hlatency]

theorem fetchTime_ne_zero (hlink : 0 < config.oneWayLinkLatency) (demand : Demand) :
    fetchTime config demand ≠ 0 := by
  unfold fetchTime
  lia

/-- In one epoch there is nothing to agree on if the links take time. -/
theorem tiesAgree_of_epoch {requests : List RequestSpec} {epoch : EpochId}
    (hdemand : visits.map Visit.demand = requests.map RequestSpec.demand)
    (hepoch : ∀ spec ∈ requests, spec.epochId = epoch) (hlink : 0 < config.oneWayLinkLatency)
    (hlink' : 0 < config'.oneWayLinkLatency) : TiesAgree config config' visits visits' := by
  have hvisit : ∀ v ∈ visits, v.demand.epochId = epoch := by
    intro v hv
    have hmem : v.demand ∈ requests.map RequestSpec.demand :=
      hdemand ▸ List.mem_map_of_mem hv
    obtain ⟨spec, hspec, heq⟩ := List.mem_map.mp hmem
    rw [← heq]
    exact hepoch spec hspec
  intro i v w v' w' hv hw _ _ hsensitive
  have hsame : v.demand.epochId = w.demand.epochId :=
    (hvisit v (List.mem_of_getElem? hv)).trans (hvisit w (List.mem_of_getElem? hw)).symm
  rcases hsensitive with hchange | hzero | hzero
  · exact absurd hsame hchange
  · exact absurd hzero (fetchTime_ne_zero hlink w.demand)
  · exact absurd hzero (fetchTime_ne_zero hlink' w.demand)

end Times

-- ============================================================================
-- Two runs
-- ============================================================================

/-- The same cache under the same private policy: LRU, or hotness with the same parameters. -/
structure SamePrivateCache (cache cache' : LocalCacheConfig) : Prop where
  capacityBytes : cache.capacityBytes = cache'.capacityBytes
  hitLatency : cache.hitLatency = cache'.hitLatency
  policy : cache.policyType = .lru ∧ cache'.policyType = .lru ∨
    cache.policyType = .hotnessOnly ∧ cache'.policyType = .hotnessOnly ∧
      cache.hotness = cache'.hotness

namespace SamePrivateCache

variable {cache cache' : LocalCacheConfig}

theorem makeCachePolicy_eq (h : SamePrivateCache cache cache') (A : Arith) :
    makeCachePolicy A cache = makeCachePolicy A cache' ∧ (makeCachePolicy A cache).Private := by
  unfold makeCachePolicy
  rcases h.policy with ⟨hlru, hlru'⟩ | ⟨hhotness, hhotness', hparameters⟩
  · rw [hlru, hlru']
    exact ⟨rfl, LruPolicy.isPrivate⟩
  · rw [hhotness, hhotness', hparameters]
    exact ⟨rfl, HotnessOnlyPolicy.isPrivate A cache'.hotness⟩

/-- Neither cache is filled from a plan. -/
theorem policyType_ne (h : SamePrivateCache cache cache') :
    cache.policyType ≠ .globalHottestReplication ∧
      cache'.policyType ≠ .globalHottestReplication := by
  rcases h.policy with ⟨hpolicy, hpolicy'⟩ | ⟨hpolicy, hpolicy', -⟩
  · rw [hpolicy, hpolicy']
    decide
  · rw [hpolicy, hpolicy']
    decide

end SamePrivateCache

namespace Simulator

/-- A constructed simulator has the cache of its configuration, and its completion-driven run
    is in time and takes the node's cache through the stream. -/
theorem construct_visits {rng : RandomSource} {config : SimulationConfig}
    {s final : Simulator (makeCachePolicy .exact config.localCache)}
    (h : construct .exact rng config = .ok s) (hmode : issueModeOf s.config = .completionDriven)
    (hpolicy : config.localCache.policyType ≠ .globalHottestReplication)
    {nodeConfig : ComputeNodeConfig} (hnode : nodeConfig ∈ s.config.computeNodes)
    (hfinal : RunsTo .exact s final) :
    s.config.localCache = config.localCache ∧
      InTime s.config (final.visits nodeConfig.nodeId) ∧
      (final.visits nodeConfig.nodeId).map Visit.demand =
        nodeConfig.requests.map RequestSpec.demand ∧
      ∃ cache, LocalCache.Visited (makeCachePolicy .exact config.localCache) .exact
        config.localCache.capacityBytes (final.visits nodeConfig.nodeId) cache := by
  unfold construct at h
  simp only [bind_eq_ok, pure_eq_ok, Prod.exists] at h
  obtain ⟨prepared, generatedWorkload, hprepare, rfl⟩ := h
  have hcache : prepared.localCache = config.localCache := prepareConfig_localCache hprepare
  have hmode' : issueModeOf prepared ≠ .scheduledBursty := by
    intro hbursty
    cases hbursty.symm.trans hmode
  have hvisits := RunsTo.visits_spec (prepared_of_prepareConfig hprepare) hmode'
    (by rw [hcache]; exact hpolicy) hfinal hnode
  rw [hcache] at hvisits
  exact ⟨hcache, hvisits⟩

def rereadNode : ComputeNodeConfig :=
  { nodeId := 1
    requests := [{ objectId := 1, sizeBytes := 64 }, { objectId := 1, sizeBytes := 64 }] }

/-- The same node with a neighbour, on slower links. -/
def rereadBesideConfig : SimulationConfig :=
  { rereadConfig with
    computeNodes :=
      [rereadNode, { nodeId := 3, requests := [{ objectId := 2, sizeBytes := 640 }] }]
    oneWayLinkLatency := 7 }

-- ============================================================================
-- Interference
-- ============================================================================

/-- Two completion-driven systems that give the node the same stream and the same private
    cache, with runs in which its requests do not hit and miss alike. -/
def Interfere (config config' : SimulationConfig) (nodeConfig : ComputeNodeConfig) : Prop :=
  SamePrivateCache config.localCache config'.localCache ∧
    ∃ s s' final final', construct .exact lowestSource config = .ok s ∧
      construct .exact lowestSource config' = .ok s' ∧
      (issueModeOf s.config = .completionDriven ∧ issueModeOf s'.config = .completionDriven) ∧
      (nodeConfig ∈ s.config.computeNodes ∧ nodeConfig ∈ s'.config.computeNodes) ∧
      RunsTo .exact s final ∧ RunsTo .exact s' final' ∧
      final.outcomes nodeConfig.nodeId ≠ final'.outcomes nodeConfig.nodeId

/-- The test that the last request of the node was served from the tier. -/
def lastServedFrom {P : CachePolicy} (nodeConfig : ComputeNodeConfig) (tier : ServedFromTier)
    (final : Simulator P) : Bool :=
  decide (issueModeOf final.config = .completionDriven ∧
    nodeConfig ∈ final.config.computeNodes ∧
    (final.outcomes nodeConfig.nodeId).getLast? = some tier)

/-- Room for two objects, under a private policy that admits at once. -/
def smallCache (policyType : LocalCachePolicyType) : LocalCacheConfig :=
  { capacityBytes := 128
    policyType := policyType
    hotness := { minAdmitCount := 1 } }

/-- A node that comes back to its first object in the next epoch and in the one after. -/
def returningNode : ComputeNodeConfig :=
  { nodeId := 1
    requests :=
      [{ objectId := 1, sizeBytes := 64 }, { objectId := 2, sizeBytes := 64 },
       { objectId := 1, sizeBytes := 64, epochId := 1 },
       { objectId := 3, sizeBytes := 64, epochId := 2 },
       { objectId := 1, sizeBytes := 64, epochId := 2 }] }

def returningAlone (policyType : LocalCachePolicyType) : SimulationConfig :=
  { computeNodes := [returningNode]
    localCache := smallCache policyType }

/-- A neighbour that is still in the first epoch when the node is done with it. -/
def returningBeside (policyType : LocalCachePolicyType) : SimulationConfig :=
  { computeNodes :=
      [returningNode,
       { nodeId := 3
         requests :=
           [{ objectId := 4, sizeBytes := 64 }, { objectId := 4, sizeBytes := 64 },
            { objectId := 5, sizeBytes := 640 }] }]
    localCache := smallCache policyType }

/-- A node that also asks for an object of no bytes. -/
def emptyObjectNode : ComputeNodeConfig :=
  { nodeId := 1
    requests :=
      [{ objectId := 2, sizeBytes := 128 }, { objectId := 1 }, { objectId := 3, sizeBytes := 64 },
       { objectId := 3, sizeBytes := 64 }, { objectId := 1 }] }

/-- The object of no bytes takes no time but that of the links. -/
def emptyObjectOver (oneWayLinkLatency : SimTime) (policyType : LocalCachePolicyType) :
    SimulationConfig :=
  { computeNodes := [emptyObjectNode]
    oneWayLinkLatency := oneWayLinkLatency
    memoryBaseLatency := 0
    localCache := smallCache policyType }

end Simulator

end DmSimulator
