/-
  DmSimulator.Runs.ConfirmationRuns

  The confirmation counts of the nodes over a run, in either reading of the
  arithmetic.

  A node processes the lookup of a request while it is in the epoch of the request
  (`Paced.inEpoch`), and it enters its epochs in order.  So the lookups of its
  cache come epoch by epoch, and what its policy retains is the window that ends in
  the epoch of the node, whatever epochs it has skipped.
-/
import DmSimulator.Cache.ConfirmationWindow
import DmSimulator.Cache.EvictionRows
import DmSimulator.Runs.PolicyRuns
import DmSimulator.Runs.UnderWay

namespace DmSimulator

open EpochCounts ContentionAwarePolicy

namespace Simulator

section Lookups

variable {P : CachePolicy} {A : Arith} {s s' : Simulator P} {event : Event}

/-- The lookups that a node has processed so far, each with its epoch and object. -/
def lookupsOf (s : Simulator P) (nodeId : NodeId) : List (EpochId × ObjectId) :=
  s.eventLog.filterMap fun e =>
    if e.type = .localCacheLookup ∧ e.targetId = nodeId then
      (s.shared.requestTable.find e.requestId).map Request.occurrence
    else none

/-- The lookups of an object by a node in the epochs of the window that ends in `current`. -/
def windowLookups (s : Simulator P) (nodeId : NodeId) (window : Nat) (current : EpochId)
    (objectId : ObjectId) : Nat :=
  keptCount (fun epochId => decide (epochId ≤ current ∧ current - epochId < window))
    (s.lookupsOf nodeId) objectId

/-- The lookups on the log have tickets. -/
def LookupsKnown (s : Simulator P) : Prop :=
  ∀ e ∈ s.eventLog, e.type = .localCacheLookup → ∃ t, s.view.tickets e.requestId = some t

theorem lookupsOf_eq (s : Simulator P) (nodeId : NodeId) :
    s.lookupsOf nodeId = s.eventLog.filterMap fun e =>
      if e.type = .localCacheLookup ∧ e.targetId = nodeId then
        (s.view.tickets e.requestId).map fun t => (t.epochId, t.objectId)
      else none := by
  unfold lookupsOf View.tickets
  congr 1
  funext e
  split
  · rw [Option.map_map]
    rfl
  · rfl

/-- An event adds its own lookup to those of the node that processes it. -/
theorem lookupsOf_append (hknown : s.LookupsKnown)
    (hticket : ∀ id t, s.view.tickets id = some t → s'.view.tickets id = some t)
    (hlog : s'.eventLog = s.eventLog ++ [event.record]) (nodeId : NodeId) :
    s'.lookupsOf nodeId = s.lookupsOf nodeId ++
      (if event.type = .localCacheLookup ∧ event.targetId = nodeId then
        (s'.view.tickets event.requestId).map fun t => (t.epochId, t.objectId)
      else none).toList := by
  rw [lookupsOf_eq, lookupsOf_eq, hlog, List.filterMap_append]
  congr 1
  refine List.filterMap_congr fun e he => ?_
  by_cases hboth : e.type = .localCacheLookup ∧ e.targetId = nodeId
  · obtain ⟨t, ht⟩ := hknown e he hboth.1
    rw [if_pos hboth, if_pos hboth, ht, hticket _ t ht]
  · rw [if_neg hboth, if_neg hboth]

end Lookups

-- ============================================================================
-- The policies of the nodes
-- ============================================================================

section Policies

variable {contention : ContentionPolicyConfig} {capacityBytes : Nat}
  {s s' : Simulator (ContentionAwarePolicy contention capacityBytes)} {A : Arith} {event : Event}
  {scheduler : Scheduler} {effect : Effect}

/-- The policy of a node is in the epoch of the node and counts the lookups of the window. -/
structure NodeConfirming (s : Simulator (ContentionAwarePolicy contention capacityBytes))
    (node : ComputeNode (ContentionAwarePolicy contention capacityBytes)) : Prop where
  confirming : Confirming contention.localConfirmationWindowEpochs node.localCache.policy
    (s.lookupsOf node.nodeId)
  currentEpoch : node.localCache.policy.currentEpoch = node.currentEpoch

/-- An admission attempt leaves the confirmation counts alone. -/
theorem admitObject_confirmation
    (c : LocalCache (ContentionAwarePolicy contention capacityBytes)) (request : Request)
    (response : Response) (time : SimTime) :
    let policy := (c.admitObject A request response time).1.policy
    policy.currentEpoch = c.policy.currentEpoch ∧
      policy.localConfirmationByEpoch = c.policy.localConfirmationByEpoch ∧
        policy.localConfirmationCounts = c.policy.localConfirmationCounts := by
  obtain ⟨admitted, reason, victims, -, hpolicy, -⟩ :=
    LocalCache.admitObject_row (A := A) c request response time
  rw [hpolicy]
  exact ⟨rfl, rfl, rfl⟩

/-- The policy of a node that enters an epoch, or is in it already. -/
theorem enterEpoch_policy
    {node : ComputeNode (ContentionAwarePolicy contention capacityBytes)}
    (h : node.localCache.policy.currentEpoch = node.currentEpoch) (stats : Stats)
    (epochId : EpochId) (time : SimTime) :
    (node.enterEpoch A stats epochId time).policy =
      onEpochStart contention stats node.localCache.policy epochId := by
  unfold ComputeNode.enterEpoch
  by_cases hsame : node.currentEpoch = some epochId
  · rw [if_pos hsame, onEpochStart_same stats (h.trans hsame)]
  · rw [if_neg hsame]
    cases node.globalReplicaPlan with
    | none => rfl
    | some plan => exact LocalCache.installReplicas_policy _ _ _ _ _

/-- The node that handles an event goes on counting the lookups of its window. -/
theorem NodeConfirming.step (hconfirm : usesLocalConfirmation contention = true)
    (hpos : 1 ≤ contention.localConfirmationWindowEpochs) (hpaced : s.Paced)
    (hpop : s.shared.scheduler.popNext = some (event, scheduler))
    {node node' : ComputeNode (ContentionAwarePolicy contention capacityBytes)}
    (hfind : s.computeNodes.find event.targetId = some node) (h : s.NodeConfirming node)
    (hstep : ComputeNode.ComputeStep A node event (s.popped scheduler).shared node' effect)
    (hlookups : s'.lookupsOf node.nodeId = s.lookupsOf node.nodeId ++
      (if event.type = .localCacheLookup ∧ event.targetId = node.nodeId then
        (s'.view.tickets event.requestId).map fun t => (t.epochId, t.objectId)
      else none).toList)
    (hticket : ∀ id t, s.view.tickets id = some t → s'.view.tickets id = some t) :
    s'.NodeConfirming node' := by
  obtain ⟨hmem, hkey⟩ := KeyedStore.find_eq_some.mp hfind
  have hother : event.type ≠ .localCacheLookup →
      s'.lookupsOf node.nodeId = s.lookupsOf node.nodeId := by
    intro htype
    rw [if_neg fun hboth => htype hboth.1] at hlookups
    exact hlookups.trans (List.append_nil _)
  -- a lookup belongs to the epoch of its node
  have hlookup : ∀ {request : Request}, event.type = .localCacheLookup →
      s.shared.requestTable.find event.requestId = some request →
        node.currentEpoch = some request.epochId ∧
          s'.lookupsOf node.nodeId = s.lookupsOf node.nodeId ++ [request.occurrence] := by
    intro request htype hrequest
    obtain ⟨request', hrequest', hcurrent⟩ := hpaced.handles hpop (by rw [htype]; rfl) hfind
    obtain rfl : request = request' := Option.some.inj (hrequest.symm.trans hrequest')
    refine ⟨hcurrent, ?_⟩
    rw [if_pos ⟨htype, hkey.symm⟩,
      hticket _ request.ticket (congrArg (Option.map Request.ticket) hrequest)] at hlookups
    exact hlookups
  cases hstep with
  | drained htype | hitComplete htype | complete htype =>
      have hsame := hother (by rw [htype]; exact EventType.noConfusion)
      exact ⟨hsame ▸ h.confirming, h.currentEpoch⟩
  | @issue spec htype hup =>
      have hsame := hother (by rw [htype]; exact EventType.noConfusion)
      have hpolicy : (node.afterIssue A s.shared.stats spec event.time).localCache.policy =
          ContentionAwarePolicy.onEpochStart contention s.shared.stats node.localCache.policy
            spec.epochId :=
        enterEpoch_policy h.currentEpoch s.shared.stats spec.epochId event.time
      have hin : spec ∈ node.workload.requests.drop node.workload.nextIndex := by
        rw [List.drop_eq_getElem?_toList_append,
          show node.workload.requests[node.workload.nextIndex]? = some spec from hup]
        exact List.mem_append_left _ (List.mem_singleton_self spec)
      have hstart := h.confirming.onEpochStart hconfirm hpos s.shared.stats fun current hcurrent =>
        (hpaced.nodes node hmem).ahead spec hin current (h.currentEpoch.symm.trans hcurrent)
      refine ⟨?_, ?_⟩
      · show Confirming _ (node.afterIssue A s.shared.stats spec event.time).localCache.policy
          (s'.lookupsOf node.nodeId)
        rw [hpolicy, hsame]
        exact hstart
      · show (node.afterIssue A s.shared.stats spec event.time).localCache.policy.currentEpoch =
          some spec.epochId
        rw [hpolicy]
        exact onEpochStart_currentEpoch _ _ _
  | @hit request htype hrequest | @miss request htype hrequest =>
      obtain ⟨hcurrent, happend⟩ := hlookup htype hrequest
      have hpolicy := LocalCache.lookup_policy s.shared.stats node.localCache
        (ComputeNode.lookedUp request) event.time
      have hcurrent' : node.localCache.policy.currentEpoch =
        some (ComputeNode.lookedUp request).epochId := h.currentEpoch.trans hcurrent
      obtain ⟨hconfirming, hsame⟩ := h.confirming.onLookup hconfirm hpos s.shared.stats hcurrent'
      refine ⟨?_, ?_⟩
      · show Confirming _ (node.localCache.lookup s.shared.stats (ComputeNode.lookedUp request)
          event.time).1.policy (s'.lookupsOf node.nodeId)
        rw [hpolicy, happend]
        exact hconfirming
      · show (node.localCache.lookup s.shared.stats (ComputeNode.lookedUp request)
          event.time).1.policy.currentEpoch = node.currentEpoch
        rw [hpolicy]
        exact hsame.trans h.currentEpoch
  | @returned request htype =>
      have hsame := hother (by rw [htype]; exact EventType.noConfusion)
      obtain ⟨hcurrent, hbuckets, hcounts⟩ := admitObject_confirmation (A := A) node.localCache
        request (ComputeNode.memoryResponse A request event.time) event.time
      exact ⟨hsame ▸ h.confirming.congr hcurrent hbuckets hcounts,
        hcurrent.trans h.currentEpoch⟩

/-- Every node counts the lookups of its window. -/
structure AllConfirming (s : Simulator (ContentionAwarePolicy contention capacityBytes)) :
    Prop where
  paced : s.Paced
  known : s.LookupsKnown
  nodes : ∀ node ∈ s.computeNodes.items, s.NodeConfirming node

theorem AllConfirming.dispatch (hconfirm : usesLocalConfirmation contention = true)
    (hpos : 1 ≤ contention.localConfirmationWindowEpochs) (h : s.AllConfirming)
    (hpop : s.shared.scheduler.popNext = some (event, scheduler))
    (hdispatched : Dispatched A (s.popped scheduler) event s') : s'.AllConfirming := by
  have hpaced' := h.paced.dispatch hpop hdispatched
  have hlog : s'.eventLog = s.eventLog ++ [event.record] := (dispatched_log hdispatched).1
  -- tickets are kept, and so is what is known about the lookups on the log
  have hkept : (∀ id t, s.view.tickets id = some t → s'.view.tickets id = some t) →
      (event.type = .localCacheLookup → ∃ t, s.view.tickets event.requestId = some t) →
        s'.LookupsKnown := by
    intro hticket hevent e he htype
    rw [hlog] at he
    rcases List.mem_append.mp he with hold | hnew
    · obtain ⟨t, ht⟩ := h.known e hold htype
      exact ⟨t, hticket _ t ht⟩
    · obtain rfl := List.mem_singleton.mp hnew
      obtain ⟨t, ht⟩ := hevent htype
      exact ⟨t, hticket _ t ht⟩
  cases hdispatched with
  | @compute node node' effect hfind hstep =>
      have hfind' : s.computeNodes.find event.targetId = some node := hfind
      have hkey : node'.nodeId = event.targetId :=
        (computeStep_stream hstep).1.trans (KeyedStore.key_of_find hfind')
      have hticket : ∀ id t, s.view.tickets id = some t →
          ((s.popped scheduler).afterCompute event node' effect).view.tickets id = some t :=
        fun id t ht => h.paced.drains.ticket hstep.writes rfl ht
      refine ⟨hpaced', hkept hticket fun htype => ?_, fun other hother => ?_⟩
      · obtain ⟨t, ht, -⟩ := h.paced.targets event.record (by
          rw [Scheduler.popNext_raised hpop]
          exact Multiset.mem_cons_self _ _) (by
            show event.type.atSource = true
            rw [htype]
            rfl)
        exact ⟨t, ht⟩
      · rcases KeyedStore.mem_insert.mp hother with rfl | ⟨hold, hne⟩
        · exact (h.nodes node (KeyedStore.find_eq_some.mp hfind').1).step hconfirm hpos h.paced hpop
            hfind' hstep (lookupsOf_append h.known hticket hlog node.nodeId) hticket
        · obtain ⟨hconfirming, hcurrent⟩ := h.nodes other hold
          refine ⟨?_, hcurrent⟩
          have hsame := lookupsOf_append h.known hticket hlog other.nodeId
          rw [if_neg fun hboth => hne (hboth.2.symm.trans hkey.symm)] at hsame
          rw [hsame]
          exact (List.append_nil (s.lookupsOf other.nodeId)).symm ▸ hconfirming
  | @memory memoryNode effect hfind htarget hstep =>
      have hticket : ∀ id t, s.view.tickets id = some t →
          ((s.popped scheduler).afterMemory event memoryNode effect).view.tickets id = some t :=
        fun id t ht => h.paced.drains.ticket hstep.writes rfl ht
      have htype : event.type ≠ .localCacheLookup := by
        cases hstep with
        | forwardIdle htype | forwardBusy htype | start htype | completeIdle htype
        | completeNext htype =>
            rw [htype]
            exact EventType.noConfusion
      refine ⟨hpaced', hkept hticket fun hlookup => absurd hlookup htype, fun node hmem => ?_⟩
      obtain ⟨hconfirming, hcurrent⟩ := h.nodes node hmem
      refine ⟨?_, hcurrent⟩
      have hsame := lookupsOf_append h.known hticket hlog node.nodeId
      rw [if_neg fun hboth => htype hboth.1] at hsame
      rw [hsame]
      exact (List.append_nil (s.lookupsOf node.nodeId)).symm ▸ hconfirming

theorem AllConfirming.release (h : s.AllConfirming) :
    (releaseNextEpochIfReady A s).AllConfirming := by
  refine release_preserves h fun epoch hdrained hnext => ?_
  have hpaced := h.paced.release (A := A)
  rw [afterRelease_eq hdrained hnext] at hpaced
  exact ⟨hpaced, h.known, fun node hmem => ⟨(h.nodes node hmem).confirming,
    (h.nodes node hmem).currentEpoch⟩⟩

theorem allConfirming_move (hconfirm : usesLocalConfirmation contention = true)
    (hpos : 1 ≤ contention.localConfirmationWindowEpochs) (h : s.AllConfirming)
    (hmove : Run.Moves (step A) s s') : s'.AllConfirming := by
  obtain ⟨event, scheduler, s₁, hpop, hdispatched, rfl⟩ := moves_iff.mp hmove
  exact (h.dispatch hconfirm hpos hpop hdispatched).release

theorem allConfirming_init {config : SimulationConfig}
    (generatedWorkload : Option GeneratedWorkload)
    (hpaced : (ofConfig (ContentionAwarePolicy contention capacityBytes) config
      generatedWorkload).Paced) :
    (ofConfig (ContentionAwarePolicy contention capacityBytes) config
      generatedWorkload).AllConfirming := by
  refine ⟨hpaced, fun e he => absurd he List.not_mem_nil, ?_⟩
  obtain ⟨plan, hplan⟩ : ∃ plan, (ofConfig (ContentionAwarePolicy contention capacityBytes) config
      generatedWorkload).computeNodes = emplaceNodes _ config plan := ⟨_, rfl⟩
  intro node hmem
  rw [hplan] at hmem
  obtain ⟨c, -, rfl⟩ := (emplaceNodes_spec _ config plan).1 node hmem
  exact ⟨Confirming.init _, rfl⟩

end Policies

-- ============================================================================
-- Whole runs
-- ============================================================================

theorem makeCachePolicy_contentionAware {A : Arith} {localCache : LocalCacheConfig}
    (h : localCache.policyType = .contentionAware) :
    makeCachePolicy A localCache =
      ContentionAwarePolicy localCache.contention localCache.capacityBytes := by
  unfold makeCachePolicy
  rw [h]

/-- The state of a policy that is known to be contention-aware. -/
def contentionState {P : CachePolicy} {contention : ContentionPolicyConfig} {capacityBytes : Nat}
    (h : P = ContentionAwarePolicy contention capacityBytes) (state : P.State) : ContentionState :=
  cast (congrArg CachePolicy.State h) state

/-- In every state of a run the confirmation counts of a node are its lookups, hits and
    misses, in the window that ends in its epoch, and it retains no more buckets than the
    window has epochs. -/
structure CountsItsWindow {P : CachePolicy} {contention : ContentionPolicyConfig}
    {capacityBytes : Nat} (h : P = ContentionAwarePolicy contention capacityBytes)
    (s : Simulator P) (node : ComputeNode P) : Prop where
  counts : ∀ current, node.currentEpoch = some current → ∀ objectId,
    confirmationCountFor (contentionState h node.localCache.policy) objectId =
      s.windowLookups node.nodeId contention.localConfirmationWindowEpochs current objectId
  buckets : (contentionState h node.localCache.policy).localConfirmationByEpoch.length ≤
    contention.localConfirmationWindowEpochs

/-- The next event is the admission decision of the node for the request. -/
def Decides {P : CachePolicy} (s : Simulator P) (node : ComputeNode P) (request : Request) :
    Prop :=
  ∃ event scheduler, s.shared.scheduler.popNext = some (event, scheduler) ∧
    event.type = .returnResponse ∧ s.computeNodes.find event.targetId = some node ∧
      s.shared.requestTable.find event.requestId = some request

theorem countsItsWindow_of_reachable {P : CachePolicy} {contention : ContentionPolicyConfig}
    {capacityBytes : Nat} (hP : P = ContentionAwarePolicy contention capacityBytes)
    (hvariant : contention.variant = .smoothedReuseGated)
    (hwindow : 1 ≤ contention.localConfirmationWindowEpochs) {A : Arith}
    {config : SimulationConfig} {generatedWorkload : Option GeneratedWorkload}
    (hpaced : (ofConfig P config generatedWorkload).Paced) {t : Simulator P}
    (ht : Reachable A (ofConfig P config generatedWorkload) t) :
    ∀ node ∈ t.computeNodes.items, CountsItsWindow hP t node ∧
      ∀ request, t.Decides node request → node.currentEpoch = some request.epochId := by
  subst hP
  have hconfirm : usesLocalConfirmation contention = true := by
    unfold usesLocalConfirmation
    rw [hvariant]
    rfl
  have hall : t.AllConfirming := Run.invariant_of_reaches AllConfirming
    (fun a b ha hmove => allConfirming_move hconfirm hwindow ha hmove)
    (allConfirming_init generatedWorkload hpaced).release ht
  intro node hmem
  obtain ⟨hconfirming, hcurrent⟩ := hall.nodes node hmem
  refine ⟨⟨fun current heq objectId => hconfirming.count_eq (hcurrent.trans heq) objectId,
    hconfirming.length_le⟩, ?_⟩
  rintro request ⟨event, scheduler, hpop, htype, hfind, hrequest⟩
  obtain ⟨request', hrequest', hepoch⟩ := hall.paced.handles hpop (by rw [htype]; rfl) hfind
  obtain rfl : request = request' := Option.some.inj (hrequest.symm.trans hrequest')
  exact hepoch

/-- Local confirmation counts exactly its window.  For every window and in every run, in
    either reading of the arithmetic: when a node decides on an admission for a request of
    epoch `E`, it is in epoch `E`, the confirmation count of every object is the number of
    its lookups by that node in the last epochs of the window up to `E`, and there are at
    most as many buckets as the window has epochs. -/
theorem run_countsItsWindow {A : Arith} {rng : RandomSource} {config : SimulationConfig}
    {s : Simulator (makeCachePolicy A config.localCache)}
    (hpolicy : config.localCache.policyType = .contentionAware)
    (hvariant : config.localCache.contention.variant = .smoothedReuseGated)
    (hwindow : 1 ≤ config.localCache.contention.localConfirmationWindowEpochs)
    (h : construct A rng config = .ok s) {t : Simulator (makeCachePolicy A config.localCache)}
    (ht : Reachable A s t) :
    ∀ node ∈ t.computeNodes.items,
      CountsItsWindow (makeCachePolicy_contentionAware hpolicy) t node ∧
        ∀ request, t.Decides node request → node.currentEpoch = some request.epochId := by
  unfold construct at h
  simp only [bind_eq_ok, pure_eq_ok, Prod.exists] at h
  obtain ⟨prepared, generatedWorkload, hprepare, rfl⟩ := h
  obtain ⟨hnodup, hsorted⟩ := streams_of_prepareConfig hprepare
  exact countsItsWindow_of_reachable (makeCachePolicy_contentionAware hpolicy) hvariant hwindow
    (paced_init generatedWorkload hnodup hsorted) ht

/-- Two nodes that skip epochs, under a confirmation window of two epochs. -/
def twoEpochWindow : SimulationConfig :=
  { computeNodes :=
      [{ nodeId := 1
         requests := [{ objectId := 1, sizeBytes := 64 },
          { objectId := 1, sizeBytes := 64, epochId := 1 },
          { objectId := 1, sizeBytes := 64, epochId := 4 },
          { objectId := 1, sizeBytes := 64, epochId := 5 }] },
       { nodeId := 3
         requests := [{ objectId := 1, sizeBytes := 64, epochId := 1 },
          { objectId := 2, sizeBytes := 64, epochId := 2 }] }]
    localCache :=
      { capacityBytes := 64
        policyType := .contentionAware
        contention := { variant := .smoothedReuseGated, localConfirmationWindowEpochs := 2 } } }

theorem twoEpochWindow_countsItsWindow :
    ∃ s, construct .word64 lowestSource twoEpochWindow = .ok s ∧
      ∀ t, Reachable .word64 s t → ∀ node ∈ t.computeNodes.items,
        CountsItsWindow (@makeCachePolicy_contentionAware .word64 twoEpochWindow.localCache rfl)
            t node ∧
          ∀ request, t.Decides node request → node.currentEpoch = some request.epochId :=
  ⟨_, rfl, fun _ ht => run_countsItsWindow rfl rfl (by decide)
    (show construct .word64 lowestSource twoEpochWindow = .ok _ from rfl) ht⟩

end Simulator

end DmSimulator
