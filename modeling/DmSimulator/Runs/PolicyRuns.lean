/-
  DmSimulator.Runs.PolicyRuns

  Runs under two policies that make the same decisions, with unbounded time.

  The two simulators mirror each other turn by turn: they process the same events
  and their caches hold the same entries.  An admission may rely on its object
  having been looked up: the lookup is on the log, and by the epoch barrier the
  node is still in the epoch of the request.
-/
import DmSimulator.Cache.Capacity
import DmSimulator.Cache.PolicySim
import DmSimulator.Runs.Barrier
import DmSimulator.Runs.Latency

namespace DmSimulator

/-- The configuration with other knobs for the contention-aware policy. -/
def SimulationConfig.withContention (config : SimulationConfig)
    (contention : ContentionPolicyConfig) : SimulationConfig :=
  { config with localCache := { config.localCache with contention := contention } }

-- ============================================================================
-- Nodes side by side
-- ============================================================================

namespace ComputeNode

variable {P Q : CachePolicy}

/-- The node with a cache under another policy. -/
def withCache (node : ComputeNode P) (localCache : LocalCache Q) : ComputeNode Q :=
  { nodeId := node.nodeId
    memoryNodeId := node.memoryNodeId
    workload := node.workload
    issueMode := node.issueMode
    oneWayLinkLatency := node.oneWayLinkLatency
    localCacheHitLatency := node.localCacheHitLatency
    localCache := localCache
    globalReplicaPlan := node.globalReplicaPlan
    currentEpoch := node.currentEpoch
    currentEpochStartTime := node.currentEpochStartTime
    outstandingRequests := node.outstandingRequests }

/-- The two nodes differ in their caches, which mirror each other. -/
structure Mirrors (sim : PolicySim P Q) (node : ComputeNode P) (node' : ComputeNode Q) : Prop where
  sameNode : node' = node.withCache node'.localCache
  cache : node.localCache.Mirrors sim node'.localCache
  noPlan : node.globalReplicaPlan = none

variable {sim : PolicySim P Q} {A : Arith} {node node₁ : ComputeNode P} {node' : ComputeNode Q}
  {event : Event} {sh : Shared} {effect : Effect}

theorem Mirrors.key_eq (h : node.Mirrors sim node') : node.nodeId = node'.nodeId := by
  rw [h.sameNode]
  rfl

theorem Mirrors.enterEpoch (h : node.Mirrors sim node') (stats : Stats) (epochId : EpochId)
    (time : SimTime) :
    (node.enterEpoch A stats epochId time).Mirrors sim (node'.enterEpoch A stats epochId time) := by
  obtain ⟨hsame, hcache, hplan⟩ := h
  generalize node'.localCache = localCache at hsame hcache
  subst hsame
  have hcurrent : (node.withCache localCache).currentEpoch = node.currentEpoch := rfl
  have hplan' : (node.withCache localCache).globalReplicaPlan = none := hplan
  unfold ComputeNode.enterEpoch
  rw [hcurrent, hplan, hplan']
  split
  · exact hcache
  · exact hcache.onEpochStart stats epochId

/-- A step of one node is matched by the other, with the same effect. -/
theorem ComputeStep.mirror (h : node.Mirrors sim node')
    (hstep : ComputeStep A node event sh node₁ effect)
    (hready : event.type = .returnResponse → ∀ request,
      sh.requestTable.find event.requestId = some request →
        sim.ready node.localCache.policy request.epochId request.objectId) :
    ∃ node₁', ComputeStep A node' event sh node₁' effect ∧ node₁.Mirrors sim node₁' := by
  have hentered := h.enterEpoch (A := A)
  obtain ⟨hsame, hcache, hplan⟩ := id h
  generalize node'.localCache = localCache at hsame hcache
  subst hsame
  cases hstep with
  | drained htype hup => exact ⟨_, .drained htype hup, h⟩
  | @issue spec htype hup =>
      exact ⟨_, .issue htype hup, rfl, hentered sh.stats spec.epochId event.time, hplan⟩
  | @hit request htype hrequest hhit =>
      obtain ⟨hlookup, hsame⟩ := hcache.lookup sh.stats (lookedUp request) event.time
      exact ⟨_, .hit htype hrequest (hsame.symm.trans hhit), rfl, hlookup, hplan⟩
  | @miss request htype hrequest hmiss =>
      obtain ⟨hlookup, hsame⟩ := hcache.lookup sh.stats (lookedUp request) event.time
      exact ⟨_, .miss htype hrequest (hsame.symm.trans hmiss), rfl, hlookup, hplan⟩
  | hitComplete htype hrequest houtstanding =>
      exact ⟨_, .hitComplete htype hrequest houtstanding, rfl, hcache, hplan⟩
  | @returned request htype hrequest houtstanding =>
      exact ⟨_, .returned htype hrequest houtstanding, rfl,
        hcache.admitObject request _ event.time (hready htype request hrequest), hplan⟩
  | complete htype => exact ⟨_, .complete htype, h⟩

end ComputeNode

/-- The memory node reads nothing of the cache configuration. -/
theorem MemoryNode.MemoryStep.withContention {A : Arith} {m m' : MemoryNode} {event : Event}
    {sh : Shared} {effect : Effect} (hstep : MemoryStep A m event sh m' effect)
    (contention : ContentionPolicyConfig) :
    MemoryStep A { m with config := m.config.withContention contention } event sh
      { m' with config := m.config.withContention contention } effect := by
  cases hstep with
  | forwardIdle htype hrequest hchannel hidle hunscheduled =>
      exact .forwardIdle htype hrequest hchannel hidle hunscheduled
  | forwardBusy htype hrequest hchannel hbusy => exact .forwardBusy htype hrequest hchannel hbusy
  | start htype hrequest hchannel hqueue => exact .start htype hrequest hchannel hqueue
  | completeIdle htype hrequest hchannel hserving hqueue =>
      exact .completeIdle htype hrequest hchannel hserving hqueue
  | completeNext htype hrequest hchannel hserving hqueue =>
      exact .completeNext htype hrequest hchannel hserving hqueue

-- ============================================================================
-- Simulators side by side
-- ============================================================================

namespace Simulator

variable {P Q : CachePolicy}

/-- The two simulators differ in the knobs of the contention-aware policy and in the
    caches of their nodes, which mirror each other. -/
structure Mirrors (sim : PolicySim P Q) (s : Simulator P) (t : Simulator Q) : Prop where
  config : ∃ contention, t.config = s.config.withContention contention
  memoryConfig : s.memoryNode.config = s.config
  memoryNode : t.memoryNode = { s.memoryNode with config := t.config }
  shared : t.shared = s.shared
  nodes : s.computeNodes.Related (ComputeNode.Mirrors sim) t.computeNodes
  eventLog : t.eventLog = s.eventLog
  releasedEpoch : t.releasedEpoch = s.releasedEpoch

variable {sim : PolicySim P Q} {A : Arith} {s s' : Simulator P} {t : Simulator Q} {event : Event}

theorem Mirrors.find (h : s.Mirrors sim t) (nodeId : NodeId) :
    (s.computeNodes.find nodeId = none ∧ t.computeNodes.find nodeId = none) ∨
      ∃ node node', s.computeNodes.find nodeId = some node ∧
        t.computeNodes.find nodeId = some node' ∧ node.Mirrors sim node' :=
  h.nodes.find (fun _ _ hnode => hnode.key_eq) nodeId

theorem Mirrors.computeNodes_eq (h : s.Mirrors sim t) :
    t.config.computeNodes = s.config.computeNodes := by
  obtain ⟨contention, hconfig⟩ := h.config
  rw [hconfig]
  rfl

/-- The release of an epoch is matched. -/
theorem Mirrors.release (h : s.Mirrors sim t) :
    (releaseNextEpochIfReady A s).Mirrors sim (releaseNextEpochIfReady A t) := by
  have hidle : t.allComputeNodesIdle = s.allComputeNodesIdle := by
    unfold allComputeNodesIdle
    have hall : ∀ (l : List (ComputeNode P)) (l' : List (ComputeNode Q)),
        List.Forall₂ (ComputeNode.Mirrors sim) l l' →
          l'.all (fun node => node.outstandingRequests = 0) =
            l.all (fun node => node.outstandingRequests = 0) := by
      intro l l' hrelated
      induction hrelated with
      | nil => rfl
      | cons hnode _ ih =>
          rw [List.all_cons, List.all_cons, ih, hnode.sameNode]
          rfl
    exact hall _ _ h.nodes
  have hnext : t.nextUnreleasedEpoch = s.nextUnreleasedEpoch := by
    unfold nextUnreleasedEpoch
    rw [h.releasedEpoch]
    have hfold : ∀ (l : List (ComputeNode P)) (l' : List (ComputeNode Q)),
        List.Forall₂ (ComputeNode.Mirrors sim) l l' → ∀ nextEpoch,
          l'.foldl (considerNode s.releasedEpoch) nextEpoch =
            l.foldl (considerNode s.releasedEpoch) nextEpoch := by
      intro l l' hrelated
      induction hrelated with
      | nil => exact fun nextEpoch => rfl
      | cons hnode _ ih =>
          intro nextEpoch
          rw [List.foldl_cons, List.foldl_cons, ih, hnode.sameNode]
          rfl
    exact hfold _ _ h.nodes none
  have hevent : ∀ epoch now nodeConfig,
      t.releaseEvent A epoch now nodeConfig = s.releaseEvent A epoch now nodeConfig := by
    intro epoch now nodeConfig
    unfold releaseEvent
    rcases h.find nodeConfig.nodeId with ⟨hnone, hnone'⟩ | ⟨node, node', hfind, hfind', hnode⟩
    · rw [hnone, hnone']
    · rw [hfind, hfind', hnode.sameNode]
      rfl
  have hdrained : t.Drained ↔ s.Drained := by
    rw [← gate_iff_drained, ← gate_iff_drained, hidle, h.shared]
  rcases release_cases A s with ⟨hnot, heq⟩ | ⟨hyes, hnone, heq⟩ | ⟨epoch, hyes, hsome, heq⟩
  · rcases release_cases A t with ⟨-, heq'⟩ | ⟨hyes', -⟩ | ⟨_, hyes', -⟩
    · rw [heq, heq']
      exact h
    · exact absurd (hdrained.mp hyes') hnot
    · exact absurd (hdrained.mp hyes') hnot
  · rcases release_cases A t with ⟨hnot', -⟩ | ⟨-, -, heq'⟩ | ⟨_, -, hsome', -⟩
    · exact absurd (hdrained.mpr hyes) hnot'
    · rw [heq, heq']
      exact h
    · rw [hnext, hnone] at hsome'
      cases hsome'
  · rcases release_cases A t with ⟨hnot', -⟩ | ⟨-, hnone', -⟩ | ⟨epoch', -, hsome', heq'⟩
    · exact absurd (hdrained.mpr hyes) hnot'
    · rw [hnext, hsome] at hnone'
      cases hnone'
    · obtain rfl : epoch = epoch' := by
        rw [hnext, hsome] at hsome'
        exact Option.some.inj hsome'
      rw [heq, heq']
      refine ⟨h.config, h.memoryConfig, h.memoryNode, ?_, h.nodes, h.eventLog, rfl⟩
      unfold afterRelease
      simp only
      rw [h.shared, h.computeNodes_eq]
      congr 3
      funext nodeConfig
      exact hevent epoch _ nodeConfig

/-- The dispatch of an event is matched. -/
theorem Dispatched.mirror (h : s.Mirrors sim t) (hdispatched : Dispatched A s event s')
    (hready : event.type = .returnResponse → ∀ request node,
      s.shared.requestTable.find event.requestId = some request →
        s.computeNodes.find event.targetId = some node →
          sim.ready node.localCache.policy request.epochId request.objectId) :
    ∃ t', Dispatched A t event t' ∧ s'.Mirrors sim t' := by
  cases hdispatched with
  | @compute node node₁ effect hfind hstep =>
      rcases h.find event.targetId with ⟨hnone, -⟩ | ⟨node₀, node', hfind₀, hfind', hnode⟩
      · rw [hnone] at hfind
        cases hfind
      obtain rfl : node = node₀ := Option.some.inj (hfind.symm.trans hfind₀)
      obtain ⟨node₁', hstep', hnode₁⟩ := ComputeNode.ComputeStep.mirror hnode hstep
        fun htype request hrequest => hready htype request node hrequest hfind
      rw [← h.shared] at hstep'
      refine ⟨_, .compute hfind' hstep', h.config, h.memoryConfig, h.memoryNode, ?_,
        h.nodes.insert (fun _ _ hnode => hnode.key_eq) hnode₁, ?_, h.releasedEpoch⟩
      · show t.shared.apply effect = s.shared.apply effect
        rw [h.shared]
      · show t.eventLog ++ [event.record] = s.eventLog ++ [event.record]
        rw [h.eventLog]
  | @memory memoryNode effect hfind htarget hstep =>
      rcases h.find event.targetId with ⟨-, hnone'⟩ | ⟨node₀, node', hfind₀, -⟩
      · obtain ⟨contention, hconfig⟩ := h.config
        have hstep' := hstep.withContention contention
        have hmemory : t.memoryNode =
            { s.memoryNode with config := s.memoryNode.config.withContention contention } := by
          rw [h.memoryNode, h.memoryConfig, hconfig]
        have hsame : memoryNode.config = s.memoryNode.config := by cases hstep <;> rfl
        rw [← hmemory, ← h.shared] at hstep'
        refine ⟨_, .memory hnone' ?_ hstep', ⟨contention, hconfig⟩, hsame.trans h.memoryConfig, ?_,
          ?_, h.nodes, ?_, h.releasedEpoch⟩
        · rw [hconfig]
          exact htarget
        · show ({ memoryNode with config := s.memoryNode.config.withContention contention } :
            MemoryNode) = { memoryNode with config := t.config }
          rw [hconfig, h.memoryConfig]
        · show t.shared.apply effect = s.shared.apply effect
          rw [h.shared]
        · show t.eventLog ++ [event.record] = s.eventLog ++ [event.record]
          rw [h.eventLog]
      · rw [hfind] at hfind₀
        cases hfind₀

end Simulator

-- ============================================================================
-- What an admission may rely on
-- ============================================================================

namespace LocalCache

variable {P Q : CachePolicy} {sim : PolicySim P Q} {A : Arith} {c : LocalCache P}

theorem lookup_policy (stats : Stats) (c : LocalCache P) (request : Request) (time : SimTime) :
    (c.lookup stats request time).1.policy =
      P.onLookup stats c.policy request time (c.lookup stats request time).2 := by
  unfold lookup
  cases c.entries.find request.objectId with
  | none => rfl
  | some entry => exact recordHit_policy _ _

/-- An admission keeps what later admissions rely on. -/
theorem ready_admitObject (request : Request) (response : Response) (time : SimTime)
    {epochId : EpochId} {objectId : ObjectId} (h : sim.ready c.policy epochId objectId) :
    sim.ready (c.admitObject A request response time).1.policy epochId objectId := by
  have hnoted : ∀ (c' : LocalCache P) (admitted : Bool) (reason : String)
      (victims : List ObjectId), c'.policy = c.policy →
        sim.ready (c'.recordResult request response time admitted reason victims).1.policy epochId
          objectId := by
    intro c' admitted reason victims hpolicy
    unfold recordResult
    rw [hpolicy]
    cases admitted <;>
      exact sim.ready_onAdmissionResult request response time _ reason victims h
  unfold admitObject
  simp only
  split
  · exact hnoted _ _ _ _ rfl
  split
  · exact hnoted _ _ _ _ rfl
  cases c.victimPlan A request with
  | none => exact h
  | some plan =>
      cases plan with
      | rejected reason victims => exact hnoted _ _ _ _ rfl
      | planned victims =>
          refine hnoted _ _ _ _ ?_
          show (c.evictAll A victims time).policy = c.policy
          exact evictAll_policy c victims time

end LocalCache

namespace Simulator

/-- The lookups on the log have left their traces in the policies of the nodes that
    are still in the same epoch. -/
def LookupsReady {P Q : CachePolicy} (sim : PolicySim P Q) (s : Simulator P) : Prop :=
  ∀ e ∈ s.eventLog, e.type = .localCacheLookup → ∀ t, s.view.tickets e.requestId = some t →
    ∀ node, s.computeNodes.find t.sourceNodeId = some node →
      node.currentEpoch = some t.epochId →
        sim.ready node.localCache.policy t.epochId t.objectId

end Simulator

section Ready

variable {P Q : CachePolicy} {sim : PolicySim P Q} {s s' : Simulator P}
  {phase : RequestId → Phase} {base : SimTime} {event : Event} {scheduler : Scheduler}

open Simulator

/-- What a node's policy holds ready in an epoch survives what the node does in that
    epoch. -/
theorem RunInv.ready_kept (h : RunInv s phase base)
    (hpop : s.shared.scheduler.popNext = some (event, scheduler)) {node node' : ComputeNode P}
    {effect : Effect} (hfind : s.computeNodes.find event.targetId = some node)
    (hstep : ComputeNode.ComputeStep .exact node event (s.popped scheduler).shared node' effect)
    {t : Ticket} {id : RequestId} (ht : s.view.tickets id = some t)
    (hsource : t.sourceNodeId = event.targetId) (hcurrent : node'.currentEpoch = some t.epochId)
    (hready : node.currentEpoch = some t.epochId →
      sim.ready node.localCache.policy t.epochId t.objectId) :
    sim.ready node'.localCache.policy t.epochId t.objectId := by
  obtain ⟨hnode, hkey⟩ := h.node_of_find hfind
  -- a further lookup belongs to the same epoch
  have hlookup : ∀ {request : Request}, event.type = .localCacheLookup →
      s.shared.requestTable.find event.requestId = some request →
        node.currentEpoch = some t.epochId →
        sim.ready (node.localCache.lookup s.shared.stats (ComputeNode.lookedUp request)
          event.time).1.policy t.epochId t.objectId := by
    intro request htype hrequest hcurrent
    obtain ⟨request', node₀, hawaits, htarget, hepoch⟩ := h.atSource hpop (Or.inl htype)
    obtain rfl : request = request' := Option.some.inj (hrequest.symm.trans hawaits.find)
    obtain rfl : node = node₀ := by
      rw [htarget] at hfind
      exact Option.some.inj (hfind.symm.trans hawaits.source)
    have hsame : t.epochId = (ComputeNode.lookedUp request).epochId :=
      Option.some.inj (hcurrent.symm.trans hepoch)
    have hready' := hready hcurrent
    rw [LocalCache.lookup_policy]
    rw [hsame] at hready' ⊢
    exact sim.ready_onLookup_other _ (ComputeNode.lookedUp request) _ _ hready'
  cases hstep with
  | drained | complete => exact hready hcurrent
  | @issue spec htype hup =>
      -- the node was in the epoch already
      obtain ⟨-, -, -, -, hold⟩ := h.popped_ordered hpop
      have hpending : event.record ∈ s.view.pending := hold ▸ Multiset.mem_cons_self _ _
      obtain ⟨spec', hup', hreleased⟩ :=
        ComputeNode.due_iff.mp (hnode.due_of_generate hpending htype hkey.symm)
      obtain rfl : spec = spec' := Option.some.inj (hup.symm.trans hup')
      have hspec : spec.epochId = t.epochId := Option.some.inj hcurrent
      rw [hspec] at hreleased
      have hentered := hnode.entered id t ht (hsource.trans hkey.symm) hreleased
      have hcache : node.enterEpoch .exact (s.popped scheduler).shared.stats spec.epochId
          event.time = node.localCache := by
        unfold ComputeNode.enterEpoch
        rw [if_pos (by rw [hspec]; exact hentered)]
      show sim.ready (node.enterEpoch .exact _ spec.epochId event.time).policy _ _
      rw [hcache]
      exact hready hentered
  | hit htype hrequest _ => exact hlookup htype hrequest hcurrent
  | miss htype hrequest _ => exact hlookup htype hrequest hcurrent
  | hitComplete => exact hready hcurrent
  | returned => exact LocalCache.ready_admitObject _ _ _ (hready hcurrent)

/-- The lookup that is being processed is left ready. -/
theorem RunInv.ready_lookup (h : RunInv s phase base)
    (hpop : s.shared.scheduler.popNext = some (event, scheduler))
    (htype : event.type = .localCacheLookup) {node node' : ComputeNode P} {effect : Effect}
    (hstep : ComputeNode.ComputeStep .exact node event (s.popped scheduler).shared node' effect)
    {t : Ticket} (ht : s.view.tickets event.requestId = some t) :
    sim.ready node'.localCache.policy t.epochId t.objectId := by
  obtain ⟨request, _, hawaits, -, -⟩ := h.atSource hpop (Or.inl htype)
  obtain rfl : request.ticket = t := Option.some.inj (hawaits.ticket.symm.trans ht)
  have hlookup : ∀ {request' : Request},
      s.shared.requestTable.find event.requestId = some request' →
        sim.ready (node.localCache.lookup s.shared.stats (ComputeNode.lookedUp request')
          event.time).1.policy request.epochId request.objectId := by
    intro request' hrequest
    obtain rfl : request = request' := Option.some.inj (hawaits.find.symm.trans hrequest)
    rw [LocalCache.lookup_policy]
    exact sim.ready_onLookup _ (ComputeNode.lookedUp request) _ _
  cases hstep with
  | hit _ hrequest _ => exact hlookup hrequest
  | miss _ hrequest _ => exact hlookup hrequest
  | drained hother | issue hother | hitComplete hother | returned hother | complete hother =>
      exact EventType.noConfusion (htype.symm.trans hother)

theorem Simulator.LookupsReady.move (hr : s.LookupsReady sim) (h : RunInv s phase base)
    {t : Simulator P} (hmove : Run.Moves (step .exact) s t) : t.LookupsReady sim := by
  obtain ⟨e₀, hpending, hlog, hturn⟩ := h.turn_spec hmove
  obtain ⟨event, scheduler, s', hpop, hdispatched, rfl⟩ := moves_iff.mp hmove
  have hnodes := (release_nodes .exact s').1
  obtain rfl : e₀ = event.record := by
    rw [(release_log .exact s').1, (dispatched_log hdispatched).1] at hlog
    exact (List.singleton_inj.mp (List.append_cancel_left hlog)).symm
  intro e he htype t ht node hfind hcurrent
  rw [hnodes] at hfind
  rw [hlog, List.mem_append, List.mem_singleton] at he
  have hlt : e.requestId < s.shared.nextRequestId := by
    rcases he with hold | rfl
    · exact h.lifecycle.log_ids e hold
    · exact h.lifecycle.pending_ids _ hpending
  rw [known_tickets hturn hlt] at ht
  cases hdispatched with
  | @compute node₀ node₁ effect hfind₀ hstep =>
      have hkey₀ : node₀.nodeId = event.targetId := KeyedStore.key_of_find hfind₀
      have hkey₁ : node₁.nodeId = event.targetId := (computeStep_stream hstep).1.trans hkey₀
      have hfind' : (s.computeNodes.insert node₁).find t.sourceNodeId = some node := hfind
      by_cases hsource : t.sourceNodeId = event.targetId
      · rw [hsource, ← hkey₁, KeyedStore.find_insert_self] at hfind'
        obtain rfl := Option.some.inj hfind'
        rcases he with hold | rfl
        · exact h.ready_kept hpop hfind₀ hstep ht hsource hcurrent fun hcurrent₀ =>
            hr e hold htype t ht node₀ (hsource ▸ hfind₀) hcurrent₀
        · exact h.ready_lookup hpop htype hstep ht
      · rw [KeyedStore.find_insert_ne _ _ (by rw [hkey₁]; exact hsource)] at hfind'
        rcases he with hold | rfl
        · exact hr e hold htype t ht node hfind' hcurrent
        · -- a lookup is processed by the node that issued the request
          obtain ⟨request, _, hawaits, htarget, -⟩ := h.atSource hpop (Or.inl htype)
          obtain rfl : request.ticket = t := Option.some.inj (hawaits.ticket.symm.trans ht)
          exact absurd htarget.symm hsource
  | memory hnone _ hstep =>
      rcases he with hold | rfl
      · exact hr e hold htype t ht node hfind hcurrent
      · obtain ⟨request, node₀, hawaits, htarget, -⟩ := h.atSource hpop (Or.inl htype)
        have hsome := hawaits.source
        rw [← htarget, show s.computeNodes.find event.targetId = none from hnone] at hsome
        cases hsome

/-- A request that is returned has been looked up. -/
theorem Phase.lookup_logged {config : SimulationConfig} {t : Ticket} {phase : Phase}
    {e : EventRecord} (h : phase.pending config t = some e) (htype : e.type = .returnResponse) :
    t.computeEvent t.issueTime .localCacheLookup ∈ phase.logged config t := by
  cases phase <;> cases h <;> first | exact List.mem_cons_self | cases htype

/-- An object that is offered for admission is ready. -/
theorem RunInv.ready_return (h : RunInv s phase base) (hr : s.LookupsReady sim)
    (hpop : s.shared.scheduler.popNext = some (event, scheduler))
    (htype : event.type = .returnResponse) (request : Request) (node : ComputeNode P)
    (hrequest : s.shared.requestTable.find event.requestId = some request)
    (hfind : s.computeNodes.find event.targetId = some node) :
    sim.ready node.localCache.policy request.epochId request.objectId := by
  obtain ⟨request', node', hawaits, htarget, hcurrent⟩ := h.atSource hpop (Or.inr htype)
  obtain rfl : request = request' := Option.some.inj (hrequest.symm.trans hawaits.find)
  obtain rfl : node = node' := by
    rw [htarget] at hfind
    exact Option.some.inj (hfind.symm.trans hawaits.source)
  have hlogged := Phase.lookup_logged hawaits.waits htype
  rw [← hawaits.tracks.logged, List.mem_filter, decide_eq_true_eq] at hlogged
  exact hr _ hlogged.1 rfl request.ticket (by rw [hlogged.2, hawaits.key]; exact hawaits.ticket) node
    hawaits.source hcurrent

/-- A turn is matched. -/
theorem Simulator.Mirrors.move {t : Simulator Q} (hm : s.Mirrors sim t) (h : RunInv s phase base)
    (hr : s.LookupsReady sim) (hmove : Run.Moves (step .exact) s s') :
    ∃ t', Run.Moves (step .exact) t t' ∧ s'.Mirrors sim t' := by
  obtain ⟨event, scheduler, s₁, hpop, hdispatched, rfl⟩ := moves_iff.mp hmove
  have hpopped : (s.popped scheduler).Mirrors sim (t.popped scheduler) := by
    refine ⟨hm.config, hm.memoryConfig, hm.memoryNode, ?_, hm.nodes, hm.eventLog, hm.releasedEpoch⟩
    show { t.shared with scheduler := scheduler } = { s.shared with scheduler := scheduler }
    rw [hm.shared]
  obtain ⟨t₁, hdispatched', hm₁⟩ := Dispatched.mirror hpopped hdispatched
    fun htype request node hrequest hfind => h.ready_return hr hpop htype request node hrequest hfind
  rw [← hm.shared] at hpop
  exact ⟨_, moves_iff.mpr ⟨event, scheduler, t₁, hpop, hdispatched', rfl⟩, hm₁.release⟩

end Ready

-- ============================================================================
-- Whole runs
-- ============================================================================

/-- The two caches hold the same entries and have made the same decisions. -/
structure SameCache {P Q : CachePolicy} (c : LocalCache P) (d : LocalCache Q) : Prop where
  entries : d.entries = c.entries
  occupancyBytes : d.occupancyBytes = c.occupancyBytes
  hitCount : d.hitCount = c.hitCount
  missCount : d.missCount = c.missCount
  bytesAdmitted : d.bytesAdmitted = c.bytesAdmitted
  bytesEvicted : d.bytesEvicted = c.bytesEvicted
  admissions : List.Forall₂ SamePlacement c.admissionRecords d.admissionRecords
  decisions : List.Forall₂ SameDecision (P.diagnostics c.policy) (Q.diagnostics d.policy)

/-- The two simulators have been through the same run. -/
structure SameRun {P Q : CachePolicy} (s : Simulator P) (t : Simulator Q) : Prop where
  eventLog : t.eventLog = s.eventLog
  requestTable : t.shared.requestTable = s.shared.requestTable
  responses : t.shared.responses = s.shared.responses
  stats : t.shared.stats = s.shared.stats
  caches : s.computeNodes.Related (fun node node' => node.nodeId = node'.nodeId ∧
    SameCache node.localCache node'.localCache) t.computeNodes

theorem LocalCache.Mirrors.sameCache {P Q : CachePolicy} {sim : PolicySim P Q} {c : LocalCache P}
    {d : LocalCache Q} (h : c.Mirrors sim d) : SameCache c d := by
  obtain ⟨policy, records, rfl, hpolicy, hrecords⟩ := h.exists_relabel
  exact ⟨rfl, rfl, rfl, rfl, rfl, rfl, hrecords, sim.diagnostics hpolicy⟩

namespace Simulator

variable {P Q : CachePolicy} {sim : PolicySim P Q} {config : SimulationConfig}
  {generatedWorkload : Option GeneratedWorkload}

theorem Mirrors.sameRun {s : Simulator P} {t : Simulator Q} (h : s.Mirrors sim t) :
    SameRun s t := by
  refine ⟨h.eventLog, by rw [h.shared], by rw [h.shared], by rw [h.shared], ?_⟩
  exact h.nodes.imp fun node node' hnode => ⟨hnode.key_eq, hnode.cache.sameCache⟩

/-- New simulators mirror each other. -/
theorem ofConfig_mirrors (sim : PolicySim P Q)
    (hpolicy : config.localCache.policyType ≠ .globalHottestReplication)
    (contention : ContentionPolicyConfig) :
    (ofConfig P config generatedWorkload).Mirrors sim
      (ofConfig Q (config.withContention contention) generatedWorkload) := by
  have hplan : ∀ c : SimulationConfig, c.localCache.policyType ≠ .globalHottestReplication →
      ∀ R : CachePolicy, (ofConfig R c generatedWorkload).computeNodes = emplaceNodes R c none := by
    intro c hc R
    unfold ofConfig
    simp [hc]
  refine ⟨⟨contention, rfl⟩, rfl, rfl, rfl, ?_, rfl, rfl⟩
  rw [hplan config hpolicy, hplan (config.withContention contention) hpolicy]
  unfold emplaceNodes
  rw [show (config.withContention contention).computeNodes = config.computeNodes from rfl]
  have hempty : (KeyedStore.empty : KeyedStore (ComputeNode.nodeId (P := P))).Related
      (ComputeNode.Mirrors sim) (KeyedStore.empty : KeyedStore (ComputeNode.nodeId (P := Q))) :=
    List.Forall₂.nil
  revert hempty
  generalize (KeyedStore.empty : KeyedStore (ComputeNode.nodeId (P := P))) = nodes
  generalize (KeyedStore.empty : KeyedStore (ComputeNode.nodeId (P := Q))) = nodes'
  intro hnodes
  induction config.computeNodes generalizing nodes nodes' with
  | nil => exact hnodes
  | cons nodeConfig rest ih =>
      rw [List.foldl_cons, List.foldl_cons]
      refine ih _ _ ?_
      have hkey : ∀ (node : ComputeNode P) (node' : ComputeNode Q), node.Mirrors sim node' →
          node.nodeId = node'.nodeId := fun _ _ hnode => hnode.key_eq
      unfold KeyedStore.contains
      rcases hnodes.find hkey nodeConfig.nodeId with
        ⟨hnone, hnone'⟩ | ⟨node, node', hfind, hfind', -⟩
      · rw [hnone, hnone']
        exact hnodes.insert hkey ⟨rfl, ⟨rfl, sim.init, .nil⟩, rfl⟩
      · rw [hfind, hfind']
        exact hnodes

/-- A constructor does not look at the knobs of the contention-aware policy. -/
theorem construct_withContention {rng : RandomSource}
    {s : Simulator (makeCachePolicy .exact config.localCache)}
    (h : construct .exact rng config = .ok s) (contention : ContentionPolicyConfig) :
    ∃ prepared generatedWorkload, s = ofConfig _ prepared generatedWorkload ∧
      Prepared prepared ∧ prepared.localCache = config.localCache ∧
      Prepared (prepared.withContention contention) ∧
      construct .exact rng (config.withContention contention) =
        .ok (ofConfig _ (prepared.withContention contention) generatedWorkload) := by
  unfold construct at h
  simp only [bind_eq_ok, pure_eq_ok, Prod.exists] at h
  obtain ⟨prepared, generatedWorkload, hprepare, rfl⟩ := h
  have hsame : prepared.localCache = config.localCache ∧
      prepareConfig .exact rng (config.withContention contention) =
        .ok (prepared.withContention contention, generatedWorkload) := by
    unfold prepareConfig at hprepare ⊢
    rw [show (config.withContention contention).syntheticWorkload = config.syntheticWorkload
      from rfl]
    cases hsynthetic : config.syntheticWorkload with
    | none =>
        simp only [hsynthetic, bind_eq_ok, throwIf_eq_ok, exists_and_left, exists_const,
          pure_eq_ok, Prod.mk.injEq, exists_eq_left'] at hprepare ⊢
        obtain ⟨hchannels, ⟨⟩, hvalid, hbandwidth, rfl, rfl⟩ := hprepare
        exact ⟨rfl, hchannels, ⟨⟩, hvalid, hbandwidth, rfl, rfl⟩
    | some synthetic =>
        simp only [hsynthetic, bind_eq_ok, throwIf_eq_ok, exists_and_left, exists_const,
          pure_eq_ok, Prod.mk.injEq, exists_eq_left'] at hprepare ⊢
        obtain ⟨hchannels, hempty, workload, hgenerate, ⟨⟩, hvalid, hbandwidth, rfl, rfl⟩ :=
          hprepare
        exact ⟨rfl, hchannels, hempty, workload, hgenerate, ⟨⟩, hvalid, hbandwidth, rfl, rfl⟩
  refine ⟨prepared, generatedWorkload, rfl, prepared_of_prepareConfig hprepare, hsame.1,
    prepared_of_prepareConfig hsame.2, ?_⟩
  unfold construct
  rw [hsame.2]
  rfl

/-- Whole runs under policies that make the same decisions are the same. -/
theorem runsTo_of_sim (sim : PolicySim P Q) (hprepared : Prepared config)
    (hpolicy : config.localCache.policyType ≠ .globalHottestReplication)
    (contention : ContentionPolicyConfig) {final : Simulator P}
    (hfinal : RunsTo .exact (ofConfig P config generatedWorkload) final) :
    ∃ final', RunsTo .exact
        (ofConfig Q (config.withContention contention) generatedWorkload) final' ∧
      SameRun final final' := by
  have hmirrors : (ofConfig P config generatedWorkload).Mirrors sim
      (ofConfig Q (config.withContention contention) generatedWorkload) :=
    ofConfig_mirrors sim hpolicy contention
  have hready : (releaseNextEpochIfReady .exact
      (ofConfig P config generatedWorkload)).LookupsReady sim := by
    intro e he
    rw [(release_log .exact _).1] at he
    cases he
  have hstep : ∀ a b : Simulator P, TurnInv a ∧ a.LookupsReady sim → Run.Moves (step .exact) a b →
      TurnInv b ∧ b.LookupsReady sim := by
    rintro a b ⟨hturn, hready⟩ hmove
    obtain ⟨⟨phase, base, hrun⟩, -⟩ := id hturn
    exact ⟨turnInv_move hturn hmove, hready.move hrun hmove⟩
  obtain ⟨final', hfinal', hsame⟩ := Run.EndsIn.simulates _ (Mirrors sim) hstep
    (by
      rintro a b a' ⟨⟨⟨phase, base, hrun⟩, -⟩, hready⟩ hm hmove
      exact hm.move hrun hready hmove)
    (by
      intro a a' hm hhalt
      rw [halted_iff] at hhalt ⊢
      rw [hm.shared]
      exact hhalt)
    ⟨turnInv_init hprepared, hready⟩ hmirrors.release hfinal
  exact ⟨final', hfinal', hsame.sameRun⟩

end Simulator

end DmSimulator
