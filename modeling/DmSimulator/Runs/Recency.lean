/-
  DmSimulator.Runs.Recency

  LRU recency over a run, in either reading of the arithmetic.

  A node uses its cache at the times of the events it processes, which never
  decrease.  So the times that LRU compares rank the residents by the order in
  which they were used, up to uses that carry the same time: those the source
  orders by object id.
-/
import DmSimulator.Cache.Recency
import DmSimulator.Runs.CacheRuns
import DmSimulator.Runs.ConfirmationRuns

namespace DmSimulator

open Recency

namespace ComputeNode

variable {P : CachePolicy} {A : Arith} {node : ComputeNode P} {event : Event} {sh : Shared}

/-- A node without a replica plan installs no replicas. -/
theorem cacheOps_not_installs (hplan : node.globalReplicaPlan = none) :
    ∀ op ∈ node.cacheOps A event sh, ¬ op.Installs := by
  intro op hop
  unfold cacheOps at hop
  split at hop
  · cases hup : node.workload.upcoming with
    | none => simp [hup] at hop
    | some spec =>
        simp only [hup, hplan] at hop
        split at hop
        · cases hop
        · rw [List.mem_singleton.mp hop]
          exact not_false
  · cases hrequest : sh.requestTable.find event.requestId with
    | none => simp [hrequest] at hop
    | some request =>
        simp only [hrequest, List.mem_singleton] at hop
        rw [hop]
        exact not_false
  · cases hrequest : sh.requestTable.find event.requestId with
    | none => simp [hrequest] at hop
    | some request =>
        simp only [hrequest, List.mem_singleton] at hop
        rw [hop]
        exact not_false
  · cases hop

/-- A node without a replica plan makes at most one use for an event, at its time. -/
theorem usesOf_cacheOps (hplan : node.globalReplicaPlan = none) :
    LocalCache.usesOf A node.localCache (node.cacheOps A event sh) = [] ∨
      ∃ objectId, LocalCache.usesOf A node.localCache (node.cacheOps A event sh) =
        [(objectId, event.time)] := by
  have hone : ∀ {c : LocalCache P} {op : LocalCache.CacheOp} {objectId : ObjectId},
      (LocalCache.opUses A c op = [] ∨ LocalCache.opUses A c op = [(objectId, event.time)]) →
        LocalCache.usesOf A c [op] = [] ∨
          ∃ objectId, LocalCache.usesOf A c [op] = [(objectId, event.time)] := by
    rintro c op objectId (hnone | hsome)
    · exact Or.inl (by simp [LocalCache.usesOf, hnone])
    · exact Or.inr ⟨objectId, by simp [LocalCache.usesOf, hsome]⟩
  unfold cacheOps
  split
  · cases node.workload.upcoming with
    | none => exact Or.inl rfl
    | some spec =>
        simp only [hplan]
        split
        · exact Or.inl rfl
        · exact Or.inl rfl
  · cases sh.requestTable.find event.requestId with
    | none => exact Or.inl rfl
    | some request => exact hone (ite_eq_or_eq _ _ _).symm
  · cases sh.requestTable.find event.requestId with
    | none => exact Or.inl rfl
    | some request => exact hone (ite_eq_or_eq _ _ _).symm
  · exact Or.inl rfl

theorem ComputeStep.globalReplicaPlan_eq {node' : ComputeNode P} {effect : Effect}
    (h : ComputeStep A node event sh node' effect) :
    node'.globalReplicaPlan = node.globalReplicaPlan := by
  cases h <;> rfl

end ComputeNode

namespace Simulator

variable {P : CachePolicy} {A : Arith}

/-- The use the next turn makes of the cache of a node, if any. -/
def usesAt (A : Arith) (nodeId : NodeId) (s : Simulator P) : List (ObjectId × SimTime) :=
  match s.shared.scheduler.popNext with
  | none => []
  | some (event, _) =>
      if event.targetId = nodeId then
        match s.computeNodes.find nodeId with
        | none => []
        | some node => LocalCache.usesOf A node.localCache (node.cacheOps A event s.shared)
      else []

/-- Whenever the next turn is an admission attempt of a node, what it removes are the first
    of the node's residents in the given order. -/
def EvictsInOrder (A : Arith) (nodeId : NodeId) (order : ObjectId → ObjectId → Prop)
    (s : Simulator P) : Prop :=
  ∀ event scheduler node request, s.shared.scheduler.popNext = some (event, scheduler) →
    event.type = .returnResponse → event.targetId = nodeId →
    s.computeNodes.find nodeId = some node →
    s.shared.requestTable.find event.requestId = some request →
      ∃ residents : List ObjectId,
        residents.Perm (node.localCache.entries.items.map CacheEntry.objectId) ∧
        residents.Pairwise order ∧
        LocalCache.admissionRemovals A node.localCache request
          (ComputeNode.memoryResponse A request event.time) event.time <+: residents

/-- What holds of the uses of a node's cache along a run. -/
structure UsesInv (nodeId : NodeId) (s : Simulator P) (uses : List (ObjectId × SimTime)) :
    Prop where
  ordered : s.shared.scheduler.WellOrdered
  chronological : Chronological uses
  past : ∀ use ∈ uses, use.2 ≤ s.shared.scheduler.currentTime
  noPlan : ∀ node ∈ s.computeNodes.items, node.globalReplicaPlan = none
  stamped : ∀ node, s.computeNodes.find nodeId = some node → node.localCache.Stamped uses

variable {nodeId : NodeId} {s t : Simulator P} {uses : List (ObjectId × SimTime)}

/-- A release keeps the uses. -/
theorem UsesInv.release (h : UsesInv nodeId s uses) :
    UsesInv nodeId (releaseNextEpochIfReady A s) uses := by
  have hnodes := (release_nodes A s).1
  have htime := (release_log A s).2
  refine ⟨?_, h.chronological, by rw [htime]; exact h.past, by rw [hnodes]; exact h.noPlan,
    by rw [hnodes]; exact h.stamped⟩
  exact release_preserves (p := fun t => t.shared.scheduler.WellOrdered) h.ordered
    fun _ _ _ => h.ordered.scheduleRecords _

/-- What a turn leaves: the uses it makes carry the time of its event, and stamp the
    residents of the node. -/
theorem UsesInv.move (hP : P.Stamps) (h : UsesInv nodeId s uses)
    (hmove : Run.Moves (step A) s t) : UsesInv nodeId t (uses ++ usesAt A nodeId s) := by
  obtain ⟨event, scheduler, s', hpop, hdispatched, rfl⟩ := moves_iff.mp hmove
  obtain ⟨hordered, hle⟩ := h.ordered.popNext hpop
  obtain ⟨-, htime, -, -, -⟩ := Scheduler.popNext_eq_some hpop
  have hnow : s'.shared.scheduler.currentTime = event.time :=
    (dispatched_log hdispatched).2.trans htime
  have hpast : ∀ use ∈ uses, use.2 ≤ event.time := fun use huse => le_trans (h.past use huse) hle
  -- no use is made unless the event is for the node
  have hnone : (event.targetId ≠ nodeId ∨ s.computeNodes.find event.targetId = none) →
      usesAt A nodeId s = [] := by
    intro hcase
    unfold usesAt
    simp only [hpop]
    split
    · next htarget =>
        have hfind := hcase.resolve_left (not_not_intro htarget)
        rw [htarget] at hfind
        rw [hfind]
    · rfl
  refine UsesInv.release ?_
  cases hdispatched with
  | @memory memoryNode effect hfind htarget hstep =>
      rw [hnone (Or.inr hfind), List.append_nil]
      refine ⟨hordered.scheduleRecords _, h.chronological, ?_, h.noPlan, h.stamped⟩
      rw [hnow]
      exact hpast
  | @compute node node' effect hfind hstep =>
      have hfind' : s.computeNodes.find event.targetId = some node := hfind
      have hmem := (KeyedStore.find_eq_some.mp hfind').1
      have hplan := h.noPlan node hmem
      have hkey : node'.nodeId = event.targetId :=
        (computeStep_stream hstep).1.trans (KeyedStore.key_of_find hfind')
      have hcache : node'.localCache =
          (node.cacheOps A event s.shared).foldl (LocalCache.applyOp A) node.localCache :=
        hstep.localCache_eq
      have hplans : ∀ other ∈ (s.computeNodes.insert node').items,
          other.globalReplicaPlan = none := by
        intro other hother
        rcases KeyedStore.mem_insert.mp hother with rfl | ⟨hold, -⟩
        · exact hstep.globalReplicaPlan_eq.trans hplan
        · exact h.noPlan other hold
      by_cases htarget : event.targetId = nodeId
      · have huses : usesAt A nodeId s =
            LocalCache.usesOf A node.localCache (node.cacheOps A event s.shared) := by
          unfold usesAt
          rw [htarget] at hfind'
          simp only [hpop, htarget, if_true, hfind']
        have hstamped : node'.localCache.Stamped (uses ++ usesAt A nodeId s) := by
          rw [huses, hcache]
          rw [htarget] at hfind'
          exact (h.stamped node hfind').foldl_applyOp hP
            (ComputeNode.cacheOps_not_installs hplan)
        have hchronological : Chronological (uses ++ usesAt A nodeId s) ∧
            ∀ use ∈ uses ++ usesAt A nodeId s, use.2 ≤ event.time := by
          rw [huses]
          rcases @ComputeNode.usesOf_cacheOps _ A node event s.shared hplan with
            heq | ⟨objectId, heq⟩
          · rw [heq, List.append_nil]
            exact ⟨h.chronological, hpast⟩
          · rw [heq]
            refine ⟨chronological_snoc.mpr ⟨h.chronological, hpast⟩, fun use huse => ?_⟩
            rcases List.mem_append.mp huse with hin | hin
            · exact hpast use hin
            · rw [List.mem_singleton.mp hin]
        refine ⟨hordered.scheduleRecords _, hchronological.1, ?_, hplans, ?_⟩
        · rw [hnow]
          exact hchronological.2
        · intro other hother
          have hself : (s.computeNodes.insert node').find nodeId = some node' := by
            rw [← htarget, ← hkey]
            exact KeyedStore.find_insert_self _ _
          obtain rfl : node' = other := Option.some.inj (hself.symm.trans hother)
          exact hstamped
      · rw [hnone (Or.inl htarget), List.append_nil]
        refine ⟨hordered.scheduleRecords _, h.chronological, ?_, hplans, ?_⟩
        · rw [hnow]
          exact hpast
        · intro other hother
          have hne : nodeId ≠ node'.nodeId := fun heq => htarget (hkey.symm.trans heq.symm)
          have hsame : (s.computeNodes.insert node').find nodeId = s.computeNodes.find nodeId :=
            KeyedStore.find_insert_ne _ _ hne
          exact h.stamped other (hsame.symm.trans hother)

theorem usesInv_init (nodeId : NodeId) (config : SimulationConfig)
    (generatedWorkload : Option GeneratedWorkload)
    (hpolicy : config.localCache.policyType ≠ .globalHottestReplication) :
    UsesInv nodeId (releaseNextEpochIfReady A (ofConfig P config generatedWorkload)) [] := by
  apply UsesInv.release
  have hnodes : (ofConfig P config generatedWorkload).computeNodes = emplaceNodes P config none := by
    unfold ofConfig
    simp [hpolicy]
  have hmade : ∀ node ∈ (ofConfig P config generatedWorkload).computeNodes.items,
      ∃ c ∈ config.computeNodes, node = makeComputeNode P config none c := by
    rw [hnodes]
    exact (emplaceNodes_spec P config none).1
  refine ⟨Scheduler.wellOrdered_init, List.Pairwise.nil,
    fun use huse => absurd huse List.not_mem_nil, ?_, ?_⟩
  · intro node hmem
    obtain ⟨c, -, rfl⟩ := hmade node hmem
    rfl
  · intro node hfind
    obtain ⟨c, -, rfl⟩ := hmade node (KeyedStore.find_eq_some.mp hfind).1
    exact LocalCache.stamped_init P _

/-- The uses along a run. -/
theorem UsesInv.of_traced (hP : P.Stamps) {start : Simulator P} (h : UsesInv nodeId start [])
    (ht : Run.Traced (step A) (usesAt A nodeId) start uses t) : UsesInv nodeId t uses := by
  induction ht with
  | start => exact h
  | move _ hmove ih => exact ih.move hP hmove

/-- The preparation of a configuration leaves the cache settings alone. -/
theorem prepareConfig_localCache {rng : RandomSource} {config prepared : SimulationConfig}
    {generatedWorkload : Option GeneratedWorkload}
    (h : prepareConfig A rng config = .ok (prepared, generatedWorkload)) :
    prepared.localCache = config.localCache := by
  unfold prepareConfig at h
  cases hsynthetic : config.syntheticWorkload with
  | none =>
      simp only [hsynthetic, bind_eq_ok, throwIf_eq_ok, exists_and_left, exists_const,
        pure_eq_ok, Prod.mk.injEq, exists_eq_left'] at h
      obtain ⟨-, -, -, -, rfl, -⟩ := h
      rfl
  | some synthetic =>
      simp only [hsynthetic, bind_eq_ok, throwIf_eq_ok, exists_and_left, exists_const,
        pure_eq_ok, Prod.mk.injEq, exists_eq_left'] at h
      obtain ⟨-, -, workload, -, -, -, -, rfl, -⟩ := h
      rfl

theorem evictsInOrder_of_traced (hP : P = LruPolicy) {config : SimulationConfig}
    {generatedWorkload : Option GeneratedWorkload}
    (hpolicy : config.localCache.policyType ≠ .globalHottestReplication)
    (ht : Run.Traced (step A) (usesAt A nodeId)
      (releaseNextEpochIfReady A (ofConfig P config generatedWorkload)) uses t) :
    t.EvictsInOrder A nodeId (LessRecent uses) := by
  subst hP
  have huses := (usesInv_init nodeId config generatedWorkload hpolicy).of_traced LruPolicy.stamps ht
  intro event scheduler node request _ _ _ hfind _
  exact LocalCache.lru_removals (huses.stamped node hfind) huses.chronological request _ _

/-- LRU recency.  In every run with the LRU policy, what an admission removes are the least
    recently used residents of the node's cache, in order, where residents whose last uses
    carry the same time are taken in the order of their object ids. -/
theorem run_evictsLeastRecent {rng : RandomSource} {config : SimulationConfig}
    {s : Simulator (makeCachePolicy A config.localCache)}
    (hpolicy : config.localCache.policyType = .lru) (h : construct A rng config = .ok s)
    (nodeId : NodeId) (uses : List (ObjectId × SimTime))
    (t : Simulator (makeCachePolicy A config.localCache))
    (ht : Run.Traced (step A) (usesAt A nodeId) (releaseNextEpochIfReady A s) uses t) :
    t.EvictsInOrder A nodeId (LessRecent uses) := by
  unfold construct at h
  simp only [bind_eq_ok, pure_eq_ok, Prod.exists] at h
  obtain ⟨prepared, generatedWorkload, hprepare, rfl⟩ := h
  have hlru : makeCachePolicy A config.localCache = LruPolicy := by
    unfold makeCachePolicy
    rw [hpolicy]
  refine evictsInOrder_of_traced hlru ?_ ht
  rw [prepareConfig_localCache hprepare, hpolicy]
  decide

/-- One node that reads object 1 again after object 2, and then needs room for object 3. -/
def touchedAgain : SimulationConfig :=
  { computeNodes :=
      [{ nodeId := 1
         requests :=
           [{ objectId := 1, sizeBytes := 64 }, { objectId := 2, sizeBytes := 64 },
             { objectId := 1, sizeBytes := 64 }, { objectId := 3, sizeBytes := 64 }] }]
    localCache := { capacityBytes := 128, policyType := .lru } }

theorem touchedAgain_evictsLeastRecent :
    ∃ s, construct .word64 lowestSource touchedAgain = .ok s ∧
      ∀ nodeId uses t,
        Run.Traced (step .word64) (usesAt .word64 nodeId) (releaseNextEpochIfReady .word64 s) uses
          t → t.EvictsInOrder .word64 nodeId (LessRecent uses) :=
  ⟨_, rfl, run_evictsLeastRecent rfl
    (show construct .word64 lowestSource touchedAgain = .ok _ from rfl)⟩

/-- The next turn is an admission of the node that removes a resident before one whose last
    use was made earlier. -/
def evictsOutOfOrder (A : Arith) (nodeId : NodeId) (uses : List (ObjectId × SimTime))
    (s : Simulator P) : Bool :=
  match s.shared.scheduler.popNext with
  | none => false
  | some (event, _) =>
      match s.computeNodes.find nodeId, s.shared.requestTable.find event.requestId with
      | some node, some request =>
          event.type = .returnResponse && event.targetId = nodeId &&
            match LocalCache.admissionRemovals A node.localCache request
              (ComputeNode.memoryResponse A request event.time) event.time with
            | [] => false
            | victim :: _ => (node.localCache.entries.items.map CacheEntry.objectId).any fun other =>
                other ≠ victim && ¬ age uses other < age uses victim
      | _, _ => false

theorem not_evictsInOrder (h : s.evictsOutOfOrder A nodeId uses = true) :
    ¬ s.EvictsInOrder A nodeId (UsedEarlier uses) := by
  unfold evictsOutOfOrder at h
  intro horder
  cases hpop : s.shared.scheduler.popNext with
  | none => simp [hpop] at h
  | some popped =>
      obtain ⟨event, scheduler⟩ := popped
      cases hnode : s.computeNodes.find nodeId with
      | none => simp [hpop, hnode] at h
      | some node =>
          cases hrequest : s.shared.requestTable.find event.requestId with
          | none => simp [hpop, hnode, hrequest] at h
          | some request =>
              simp only [hpop, hnode, hrequest, Bool.and_eq_true, decide_eq_true_eq] at h
              obtain ⟨⟨htype, htarget⟩, hvictims⟩ := h
              obtain ⟨residents, hperm, hsorted, hfront⟩ :=
                horder event scheduler node request hpop htype htarget hnode hrequest
              cases hremovals : LocalCache.admissionRemovals A node.localCache request
                  (ComputeNode.memoryResponse A request event.time) event.time with
              | nil => simp [hremovals] at hvictims
              | cons victim rest =>
                  simp only [hremovals, List.any_eq_true, Bool.and_eq_true,
                    decide_eq_true_eq] at hvictims
                  obtain ⟨other, hresident, hne, hlater⟩ := hvictims
                  rw [hremovals] at hfront
                  obtain ⟨last, rfl⟩ := hfront
                  rcases List.mem_cons.mp (hperm.symm.subset hresident) with heq | hin
                  · exact hne heq
                  · exact hlater ((List.pairwise_cons.mp hsorted).1 other hin)

/-- Construct, make a number of moves, and test the uses of a node's cache and the state. -/
def tracesTo (A : Arith) (rng : RandomSource) (config : SimulationConfig) (nodeId : NodeId)
    (fuel : Nat)
    (check : List (ObjectId × SimTime) → Simulator (makeCachePolicy A config.localCache) → Bool) :
    Bool :=
  match construct A rng config with
  | .error _ => false
  | .ok s =>
      let traced := Run.traceFor (step A) (usesAt A nodeId) fuel [] (releaseNextEpochIfReady A s)
      check traced.1 traced.2

theorem traced_of_tracesTo {rng : RandomSource} {config : SimulationConfig} {fuel : Nat}
    {check : List (ObjectId × SimTime) → Simulator (makeCachePolicy A config.localCache) → Bool}
    (h : tracesTo A rng config nodeId fuel check = true) :
    ∃ s uses t, construct A rng config = .ok s ∧
      Run.Traced (step A) (usesAt A nodeId) (releaseNextEpochIfReady A s) uses t ∧
        check uses t = true := by
  unfold tracesTo at h
  cases hs : construct A rng config with
  | error e => simp [hs] at h
  | ok s =>
      rw [hs] at h
      exact ⟨s, _, _, rfl, Run.traced_traceFor fuel .start, h⟩

/-- Object 1 is read again at the time at which object 2 is admitted.  It was used later,
    and is removed first. -/
theorem touchedAgain_not_usedEarlier :
    ∃ s uses t, construct .word64 lowestSource touchedAgain = .ok s ∧
      Run.Traced (step .word64) (usesAt .word64 1) (releaseNextEpochIfReady .word64 s) uses t ∧
        ¬ t.EvictsInOrder .word64 1 (UsedEarlier uses) := by
  obtain ⟨s, uses, t, hs, htraced, hcheck⟩ := traced_of_tracesTo
    (show tracesTo .word64 lowestSource touchedAgain 1 23
      (fun uses t => t.evictsOutOfOrder .word64 1 uses) = true by decide +kernel)
  exact ⟨s, uses, t, hs, htraced, not_evictsInOrder hcheck⟩

end Simulator

end DmSimulator
