/-
  DmSimulator.Runs.CacheRuns

  The caches of the nodes over a run.

  A turn changes the cache of at most one node, by the operations `cacheOps`
  reads off the event.  What the cache operations keep is therefore kept by
  runs; here this gives the representation invariant of the cache stores.
-/
import DmSimulator.Cache.Accounting
import DmSimulator.Runs.Completion

namespace DmSimulator

namespace ComputeNode

variable {P : CachePolicy} (A : Arith)

/-- The operations a node performs on its cache when it handles an event. -/
def cacheOps (node : ComputeNode P) (event : Event) (sh : Shared) : List LocalCache.CacheOp :=
  match event.type with
  | .generateRequest =>
      match node.workload.upcoming with
      | none => []
      | some spec =>
          if node.currentEpoch = some spec.epochId then []
          else
            match node.globalReplicaPlan with
            | none => [.onEpochStart sh.stats spec.epochId]
            | some plan =>
                [.onEpochStart sh.stats spec.epochId,
                  .installReplicas ((plan.lookup spec.epochId).getD []) event.time node.nodeId
                    spec.epochId]
  | .localCacheLookup =>
      match sh.requestTable.find event.requestId with
      | none => []
      | some request => [.lookup sh.stats (lookedUp request) event.time]
  | .returnResponse =>
      match sh.requestTable.find event.requestId with
      | none => []
      | some request =>
          [.admitObject request (memoryResponse A request event.time) event.time]
  | _ => []

variable {A} {node node' : ComputeNode P} {event : Event} {sh : Shared} {effect : Effect}

/-- A handler applies exactly these operations to the node's cache. -/
theorem ComputeStep.localCache_eq (h : ComputeStep A node event sh node' effect) :
    node'.localCache = (node.cacheOps A event sh).foldl (LocalCache.applyOp A) node.localCache := by
  unfold cacheOps
  cases h with
  | drained htype hup => rw [htype, hup]; rfl
  | issue htype hup =>
      rename_i spec
      rw [htype, hup]
      show node.enterEpoch A sh.stats spec.epochId event.time = _
      unfold enterEpoch
      by_cases hepoch : node.currentEpoch = some spec.epochId
      · simp only [hepoch, if_true]
        rfl
      · simp only [hepoch, if_false]
        cases node.globalReplicaPlan <;> rfl
  | hit htype hrequest => rw [htype, hrequest]; rfl
  | miss htype hrequest => rw [htype, hrequest]; rfl
  | hitComplete htype => rw [htype]; rfl
  | returned htype hrequest => rw [htype, hrequest]; rfl
  | complete htype => rw [htype]; rfl

end ComputeNode

namespace Simulator

variable {P : CachePolicy} {A : Arith}

/-- What a turn does to the nodes: it replaces one of them by one with the same id
    and the same stream, whose cache has gone through the operations of the event,
    or it leaves them alone. -/
theorem moves_nodes {s t : Simulator P} (h : Run.Moves (step A) s t) :
    ∃ event scheduler, s.shared.scheduler.popNext = some (event, scheduler) ∧
      ((s.computeNodes.find event.targetId = none ∧ t.computeNodes = s.computeNodes) ∨
        ∃ node node', s.computeNodes.find event.targetId = some node ∧
          node'.nodeId = node.nodeId ∧ t.computeNodes = s.computeNodes.insert node' ∧
          node'.localCache =
            (node.cacheOps A event s.shared).foldl (LocalCache.applyOp A) node.localCache) := by
  obtain ⟨event, scheduler, s', hpop, hdispatched, rfl⟩ := moves_iff.mp h
  refine ⟨event, scheduler, hpop, ?_⟩
  rw [(release_nodes A s').1]
  cases hdispatched with
  | @compute node node' effect hfind hstep =>
      exact Or.inr ⟨node, node', hfind, (computeStep_stream hstep).1, rfl, hstep.localCache_eq⟩
  | memory hnone _ _ => exact Or.inl ⟨hnone, rfl⟩

/-- What holds of a new cache and is kept by every operation holds of the caches of a run. -/
theorem caches_of_reachable {Q : LocalCache P → Prop} {config : SimulationConfig}
    {generatedWorkload : Option GeneratedWorkload}
    (hinit : Q { capacityBytes := config.localCache.capacityBytes })
    (hop : ∀ c op, Q c → Q (LocalCache.applyOp A c op)) {t : Simulator P}
    (h : Reachable A (ofConfig P config generatedWorkload) t) :
    ∀ node ∈ t.computeNodes.items, Q node.localCache := by
  refine Run.invariant_of_reaches (fun t : Simulator P => ∀ node ∈ t.computeNodes.items,
    Q node.localCache) ?_ ?_ h
  · intro a b ha hmove
    obtain ⟨event, scheduler, -, hcase⟩ := moves_nodes hmove
    rcases hcase with ⟨-, hsame⟩ | ⟨node, node', hfind, -, hinsert, hcache⟩
    · rw [hsame]
      exact ha
    · have hops : ∀ (ops : List LocalCache.CacheOp) (c : LocalCache P), Q c →
          Q (ops.foldl (LocalCache.applyOp A) c) := by
        intro ops
        induction ops with
        | nil => exact fun c hc => hc
        | cons op rest ih => exact fun c hc => ih _ (hop c op hc)
      intro other hmem
      rw [hinsert] at hmem
      rcases KeyedStore.mem_insert.mp hmem with rfl | ⟨hold, -⟩
      · rw [hcache]
        exact hops _ _ (ha node (KeyedStore.find_eq_some.mp hfind).1)
      · exact ha other hold
  · have hnodes := (release_nodes A (ofConfig P config generatedWorkload)).1
    obtain ⟨plan, hplan⟩ : ∃ plan, (ofConfig P config generatedWorkload).computeNodes =
        emplaceNodes P config plan := ⟨_, rfl⟩
    intro node hmem
    rw [hnodes, hplan] at hmem
    obtain ⟨nodeConfig, -, rfl⟩ := (emplaceNodes_spec P config plan).1 node hmem
    exact hinit

-- ============================================================================
-- The representation invariant
-- ============================================================================

/-- The cache of every node satisfies the representation invariant. -/
def CachesAccounted (A : Arith) (s : Simulator P) : Prop :=
  ∀ node ∈ s.computeNodes.items, node.localCache.Accounted A

/-- The next event brings a node the response for an object that its cache would
    store over a resident copy. -/
def Overwrites (A : Arith) (s : Simulator P) : Prop :=
  ∃ event scheduler node request, s.shared.scheduler.popNext = some (event, scheduler) ∧
    event.type = .returnResponse ∧ s.computeNodes.find event.targetId = some node ∧
    s.shared.requestTable.find event.requestId = some request ∧
    node.localCache.Overwrites A request (ComputeNode.memoryResponse A request event.time)

/-- The operations of an event keep the representation invariant exactly if they do
    not overwrite a resident. -/
theorem accounted_cacheOps_iff {node : ComputeNode P} {event : Event} {sh : Shared}
    (h : node.localCache.Accounted A) :
    ((node.cacheOps A event sh).foldl (LocalCache.applyOp A) node.localCache).Accounted A ↔
      ¬ (event.type = .returnResponse ∧ ∃ request,
        sh.requestTable.find event.requestId = some request ∧
        node.localCache.Overwrites A request
          (ComputeNode.memoryResponse A request event.time)) := by
  unfold ComputeNode.cacheOps
  cases htype : event.type with
  | generateRequest =>
      simp only [reduceCtorEq, false_and, not_false_eq_true, iff_true]
      have hstart : ∀ stats epochId, (node.localCache.onEpochStart stats epochId).Accounted A :=
        fun stats epochId => h.congr rfl rfl rfl rfl (fun _ _ => Iff.rfl) rfl
      cases node.workload.upcoming with
      | none => exact h
      | some spec =>
          by_cases hepoch : node.currentEpoch = some spec.epochId
          · simp only [hepoch, if_true]
            exact h
          · simp only [hepoch, if_false]
            cases node.globalReplicaPlan with
            | none => exact hstart _ _
            | some plan => exact (hstart _ _).installReplicas _ _ _ _
  | localCacheLookup =>
      simp only [reduceCtorEq, false_and, not_false_eq_true, iff_true]
      cases sh.requestTable.find event.requestId with
      | none => exact h
      | some request => exact h.lookup _ _ _
  | returnResponse =>
      simp only [true_and]
      cases sh.requestTable.find event.requestId with
      | none => simpa using h
      | some request =>
          simp only [Option.some.injEq, exists_eq_left']
          exact h.admitObject_iff
  | _ => simpa using h

theorem cachesAccounted_init (A : Arith) (config : SimulationConfig)
    (generatedWorkload : Option GeneratedWorkload) :
    (releaseNextEpochIfReady A (ofConfig P config generatedWorkload)).CachesAccounted A := by
  have hnodes := (release_nodes A (ofConfig P config generatedWorkload)).1
  obtain ⟨plan, hplan⟩ : ∃ plan, (ofConfig P config generatedWorkload).computeNodes =
      emplaceNodes P config plan := ⟨_, rfl⟩
  intro node hmem
  rw [hnodes, hplan] at hmem
  obtain ⟨nodeConfig, -, rfl⟩ := (emplaceNodes_spec P config plan).1 node hmem
  exact LocalCache.Accounted.init A P _

/-- A turn keeps the representation invariant exactly if it does not overwrite. -/
theorem cachesAccounted_move {s t : Simulator P} (h : s.CachesAccounted A)
    (hmove : Run.Moves (step A) s t) : t.CachesAccounted A ↔ ¬ s.Overwrites A := by
  obtain ⟨event, scheduler, hpop, hcase⟩ := moves_nodes hmove
  rcases hcase with ⟨hnone, hsame⟩ | ⟨node, node', hfind, hid, hinsert, hcache⟩
  · refine iff_of_true (fun node hmem => h node (hsame ▸ hmem)) ?_
    rintro ⟨event', scheduler', node, request, hpop', -, hfind, -⟩
    rw [hpop] at hpop'
    obtain ⟨rfl, rfl⟩ := Prod.mk.inj (Option.some.inj hpop')
    rw [hnone] at hfind
    cases hfind
  · have hmem := (KeyedStore.find_eq_some.mp hfind).1
    have hiff : ((node.cacheOps A event s.shared).foldl (LocalCache.applyOp A)
        node.localCache).Accounted A ↔ _ := accounted_cacheOps_iff (h node hmem)
    rw [← hcache] at hiff
    constructor
    · rintro ht ⟨event', scheduler', other, request, hpop', htype, hother, hrequest, hover⟩
      rw [hpop] at hpop'
      obtain ⟨rfl, rfl⟩ := Prod.mk.inj (Option.some.inj hpop')
      obtain rfl := Option.some.inj (hfind.symm.trans hother)
      refine hiff.mp (ht node' ?_) ⟨htype, request, hrequest, hover⟩
      rw [hinsert]
      exact KeyedStore.mem_insert.mpr (Or.inl rfl)
    · intro hnot other hin
      rw [hinsert] at hin
      rcases KeyedStore.mem_insert.mp hin with rfl | ⟨hold, -⟩
      · refine hiff.mpr ?_
        rintro ⟨htype, request, hrequest, hover⟩
        exact hnot ⟨event, scheduler, node, request, hpop, htype, hfind, hrequest, hover⟩
      · exact h other hold

theorem construct_eq_ofConfig {rng : RandomSource} {config : SimulationConfig}
    {s : Simulator (makeCachePolicy A config.localCache)} (h : construct A rng config = .ok s) :
    ∃ prepared generatedWorkload, s = ofConfig _ prepared generatedWorkload := by
  unfold construct at h
  simp only [bind_eq_ok, pure_eq_ok, Prod.exists] at h
  obtain ⟨prepared, generatedWorkload, -, rfl⟩ := h
  exact ⟨prepared, generatedWorkload, rfl⟩

/-- In both readings of the arithmetic, a run whose turns never overwrite a resident
    keeps the representation invariant of every cache, and a turn that overwrites one
    breaks it. -/
theorem run_cachesAccounted {rng : RandomSource} {config : SimulationConfig}
    {s : Simulator (makeCachePolicy A config.localCache)} (h : construct A rng config = .ok s) :
    (∀ t, Run.ReachesWhile (step A) (fun u => ¬ u.Overwrites A) (releaseNextEpochIfReady A s) t →
      t.CachesAccounted A) ∧
    ∀ t u, Run.ReachesWhile (step A) (fun u => ¬ u.Overwrites A) (releaseNextEpochIfReady A s) t →
      Run.Moves (step A) t u → (u.CachesAccounted A ↔ ¬ t.Overwrites A) := by
  obtain ⟨prepared, generatedWorkload, rfl⟩ := construct_eq_ofConfig h
  have hall : ∀ t, Run.ReachesWhile (step A) (fun u => ¬ u.Overwrites A)
      (releaseNextEpochIfReady A
        (ofConfig (makeCachePolicy A config.localCache) prepared generatedWorkload)) t →
        t.CachesAccounted A := fun t ht =>
    Run.invariant_of_reachesWhile (CachesAccounted A)
      (fun a b ha hallowed hmove => (cachesAccounted_move ha hmove).mpr hallowed)
      (cachesAccounted_init A prepared generatedWorkload) ht
  exact ⟨hall, fun t u ht hmove => cachesAccounted_move (hall t ht) hmove⟩

/-- The next event brings a node the response for an object that it has already. -/
def returnsResident (s : Simulator P) : Bool :=
  match s.shared.scheduler.popNext with
  | none => false
  | some (event, _) =>
      event.type = .returnResponse && (s.computeNodes.find event.targetId).any fun node =>
        (s.shared.requestTable.find event.requestId).any fun request =>
          (node.localCache.entries.find request.objectId).isSome

theorem not_overwrites_of_absent {s : Simulator P} (h : (!s.returnsResident) = true) :
    ¬ s.Overwrites A := by
  rintro ⟨event, scheduler, node, request, hpop, htype, hfind, hrequest, -, -, hresident, -⟩
  unfold returnsResident at h
  simp [hpop, htype, hfind, hrequest, hresident] at h

/-- No turn of this run overwrites a resident, up to its end, where the cache holds one. -/
theorem rereadConfig_cachesAccounted :
    ∃ s final, construct .word64 lowestSource rereadConfig = .ok s ∧ RunsTo .word64 s final ∧
      Run.ReachesWhile (step .word64) (fun u => ¬ u.Overwrites .word64)
        (releaseNextEpochIfReady .word64 s) final ∧
      (final.computeNodes.total fun node => node.localCache.occupancyBytes) = 64 ∧
      final.CachesAccounted .word64 := by
  obtain ⟨s, final, hs, hfinal, hreach, hcheck⟩ := reachesWhile_of_endsWhile
    (show endsWhile .word64 lowestSource rereadConfig 20 (fun s => !s.returnsResident)
      (fun final =>
        (final.computeNodes.total fun node => node.localCache.occupancyBytes) = 64) = true by
      decide +kernel)
  have hkept := hreach.mono fun _ => not_overwrites_of_absent (A := .word64)
  exact ⟨s, final, hs, hfinal, hkept, of_decide_eq_true hcheck,
    (run_cachesAccounted hs).1 final hkept⟩

/-- One node that asks for its only object twice in a burst, faster than the memory
    answers. -/
def burstOnOneObject : SimulationConfig :=
  { localCache := { capacityBytes := 256, policyType := .lru }
    syntheticWorkload := some
      { computeNodeIds := [1]
        objectCount := 1
        requestsPerNodePerEpoch := 2
        hotSetSize := 1
        issueMode := .scheduledBursty } }

/-- At the end of this run the occupancy counts the one resident twice. -/
theorem burstOnOneObject_not_accounted :
    ∃ s final, construct .word64 lowestSource burstOnOneObject = .ok s ∧
      RunsTo .word64 s final ∧ ¬ final.CachesAccounted .word64 := by
  obtain ⟨s, final, hs, hfinal, hcheck⟩ := runsTo_of_endsWith
    (show endsWith .word64 lowestSource burstOnOneObject 20 (fun final =>
      final.computeNodes.items.any fun node => node.localCache.occupancyBytes !=
        Arith.norm .word64 (node.localCache.entries.total CacheEntry.sizeBytes)) = true
      by decide +kernel)
  refine ⟨s, final, hs, hfinal, fun hall => ?_⟩
  obtain ⟨node, hmem, hne⟩ := List.any_eq_true.mp hcheck
  exact bne_iff_ne.mp hne (hall node hmem).occupancy_eq

end Simulator

end DmSimulator
