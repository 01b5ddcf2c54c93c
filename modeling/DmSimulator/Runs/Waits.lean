/-
  DmSimulator.Runs.Waits

  How long requests wait for their channels in a bursty run in which every lookup
  misses, with unbounded time.

  When an epoch is released the memory node has served everything that came
  before.  So a request waits for those requests of its own epoch that reached
  its channel before it, and how long it waits can be read off the machine of
  the issuing side: the machine's clock starts anew with every epoch.
-/
import DmSimulator.Lib.TimedQueue
import DmSimulator.Runs.FrontendRuns

namespace DmSimulator

-- ============================================================================
-- The epochs at the memory node
-- ============================================================================

/-- The epoch of an issued request. -/
def epochIn (tickets : Tickets) (id : RequestId) : EpochId :=
  match tickets id with
  | none => 0
  | some t => t.epochId

theorem epochIn_of_some {tickets : Tickets} {id : RequestId} {t : Ticket}
    (h : tickets id = some t) : epochIn tickets id = t.epochId := by
  unfold epochIn
  rw [h]

/-- The requests that have reached the memory node, in this order. -/
def arrivedIn (log : List EventRecord) : List RequestId :=
  (log.filter (fun e => e.type = .forwardToMemory)).map EventRecord.requestId

theorem mem_arrivedIn {log : List EventRecord} {id : RequestId} :
    id ∈ arrivedIn log ↔ ∃ e ∈ log, e.type = .forwardToMemory ∧ e.requestId = id := by
  unfold arrivedIn
  simp [List.mem_map, List.mem_filter, and_assoc]

theorem arrivedIn_snoc (log : List EventRecord) (e : EventRecord) :
    arrivedIn (log ++ [e]) =
      arrivedIn log ++ if e.type = .forwardToMemory then [e.requestId] else [] := by
  unfold arrivedIn
  rw [List.filter_append, List.map_append]
  by_cases htype : e.type = .forwardToMemory
  · simp [htype]
  · simp [htype]

/-- The arrivals at a channel are among those at the memory node. -/
theorem arrivals_eq_filter (config : SimulationConfig) (tickets : Tickets)
    (log : List EventRecord) (c : MemoryChannelId) :
    arrivals config tickets log c =
      (arrivedIn log).filter (fun id => channelOf config tickets id = some c) := by
  unfold arrivals arrivedIn
  rw [List.filter_map, List.filter_filter]
  congr 1
  apply List.filter_congr
  intro e _
  rw [Bool.decide_and, Bool.and_comm]
  rfl

/-- The epochs do not meet at the memory node: their requests arrive one epoch after
    the other, and what came before is served when an epoch is released. -/
structure EpochsApart (config : SimulationConfig) (tickets : Tickets) (log : List EventRecord)
    (released : Option EpochId) (bases : EpochId → SimTime) : Prop where
  sorted : (arrivedIn log).Pairwise (fun a b => epochIn tickets a ≤ epochIn tickets b)
  served : ∀ c epoch,
    (released = some epoch ∨ ∃ id t, tickets id = some t ∧ t.epochId = epoch) →
      Fifo.free (((arrivals config tickets log c).filter
        (fun id => epochIn tickets id < epoch)).map (jobOf config tickets)) ≤ bases epoch

namespace EpochsApart

variable {config : SimulationConfig} {tickets tickets' : Tickets} {log : List EventRecord}
  {released : Option EpochId} {bases : EpochId → SimTime}

theorem init (config : SimulationConfig) (tickets : Tickets) (released : Option EpochId)
    (bases : EpochId → SimTime) : EpochsApart config tickets [] released bases :=
  ⟨List.Pairwise.nil, fun _ epoch _ => Nat.zero_le (bases epoch)⟩

/-- A turn that issues requests of the released epoch only, and brings only such to
    the memory node. -/
theorem turn (h : EpochsApart config tickets log released bases) {e : EventRecord}
    (hkept : ∀ r ∈ log, tickets' r.requestId = tickets r.requestId)
    (hnew : ∀ id t, tickets' id = some t → tickets id = some t ∨ released = some t.epochId)
    (hbefore : ∀ id t, tickets id = some t → ∃ epoch, released = some epoch ∧ t.epochId ≤ epoch)
    (harrival : e.type = .forwardToMemory →
      ∃ t, tickets' e.requestId = some t ∧ released = some t.epochId) :
    EpochsApart config tickets' (log ++ [e]) released bases := by
  have harrived : ∀ id ∈ arrivedIn log, tickets' id = tickets id := by
    intro id hid
    obtain ⟨r, hr, -, rfl⟩ := mem_arrivedIn.mp hid
    exact hkept r hr
  have hepochIn : ∀ id ∈ arrivedIn log, epochIn tickets' id = epochIn tickets id := by
    intro id hid
    unfold epochIn
    rw [harrived id hid]
  refine ⟨?_, fun c epoch hbegun => ?_⟩
  · rw [arrivedIn_snoc, List.pairwise_append]
    refine ⟨?_, ?_, fun a ha b hb => ?_⟩
    · refine h.sorted.imp_of_mem fun {a b} ha hb hle => ?_
      rw [hepochIn a ha, hepochIn b hb]
      exact hle
    · split <;> simp
    · by_cases htype : e.type = .forwardToMemory
      · rw [if_pos htype, List.mem_singleton] at hb
        obtain ⟨t, ht, hreleased⟩ := harrival htype
        rw [hb, epochIn_of_some ht, hepochIn a ha]
        cases hticket : tickets a with
        | none =>
            unfold epochIn
            rw [hticket]
            exact Nat.zero_le t.epochId
        | some ticket =>
            obtain ⟨epoch, hreleased', hle⟩ := hbefore a ticket hticket
            obtain rfl := Option.some.inj (hreleased.symm.trans hreleased')
            rw [epochIn_of_some hticket]
            exact hle
      · rw [if_neg htype] at hb
        exact absurd hb List.not_mem_nil
  · -- the epochs that have begun are no later than the released one
    have hbegun' : released = some epoch ∨ ∃ id t, tickets id = some t ∧ t.epochId = epoch := by
      rcases hbegun with hreleased | ⟨id, t, ht, rfl⟩
      · exact Or.inl hreleased
      · rcases hnew id t ht with hold | hreleased
        · exact Or.inr ⟨id, t, hold, rfl⟩
        · exact Or.inl hreleased
    have hle : ∀ {last : EpochId}, released = some last → epoch ≤ last := by
      intro last hlast
      rcases hbegun' with hreleased | ⟨id, t, ht, rfl⟩
      · exact le_of_eq (Option.some.inj (hreleased.symm.trans hlast))
      · obtain ⟨epoch', hreleased, hle⟩ := hbefore id t ht
        obtain rfl := Option.some.inj (hreleased.symm.trans hlast)
        exact hle
    have hsame : (arrivals config tickets' (log ++ [e]) c).filter
        (fun id => epochIn tickets' id < epoch) =
          (arrivals config tickets log c).filter (fun id => epochIn tickets id < epoch) := by
      rw [arrivals_snoc, List.filter_append, arrivals_congr hkept c]
      have hlast : (if e.type = .forwardToMemory ∧ channelOf config tickets' e.requestId = some c
          then [e.requestId] else []).filter (fun id => epochIn tickets' id < epoch) = [] := by
        rw [List.filter_eq_nil_iff]
        intro id hid
        by_cases hboth : e.type = .forwardToMemory ∧
            channelOf config tickets' e.requestId = some c
        · rw [if_pos hboth, List.mem_singleton] at hid
          obtain ⟨t, ht, hreleased⟩ := harrival hboth.1
          rw [hid, epochIn_of_some ht, decide_eq_true_eq]
          exact Nat.not_lt_of_le (hle hreleased)
        · rw [if_neg hboth] at hid
          exact absurd hid List.not_mem_nil
      rw [hlast, List.append_nil]
      apply List.filter_congr
      intro id hid
      rw [arrivals_eq_filter] at hid
      rw [hepochIn id (List.mem_filter.mp hid).1]
    rw [hsame]
    refine le_trans (le_of_eq ?_) (h.served c epoch hbegun')
    refine congrArg Fifo.free (List.map_congr_left fun id hid => ?_)
    have hin := (List.mem_filter.mp hid).1
    rw [arrivals_eq_filter] at hin
    unfold jobOf
    rw [harrived id (List.mem_filter.mp hin).1]

/-- The release of a later epoch, when everything has been served. -/
theorem release (h : EpochsApart config tickets log released bases) {epoch : EpochId}
    {now : SimTime}
    (hfree : ∀ c, Fifo.free ((arrivals config tickets log c).map (jobOf config tickets)) ≤ now) :
    EpochsApart config tickets log (some epoch) (Function.update bases epoch now) := by
  refine ⟨h.sorted, fun c other hbegun => ?_⟩
  by_cases heq : other = epoch
  · rw [heq, Function.update_self]
    exact le_trans (Fifo.free_mono (List.filter_sublist.map _)) (hfree c)
  · rw [Function.update_of_ne heq]
    refine h.served c other (Or.inr ?_)
    rcases hbegun with hreleased | hticket
    · exact absurd (Option.some.inj hreleased).symm heq
    · exact hticket

end EpochsApart

section Runs

variable {P : CachePolicy} {s s' : Simulator P} {phase : RequestId → Phase} {base : SimTime}
  {bases : EpochId → SimTime} {event : Event} {scheduler : Scheduler}

open Simulator

/-- An arrival belongs to the released epoch. -/
theorem RunInv.arrival_epoch (h : RunInv s phase base) {e : EventRecord}
    (he : e ∈ s.view.pending) (htype : e.type = .forwardToMemory) :
    ∃ t, s.view.tickets e.requestId = some t ∧ s.releasedEpoch = some t.epochId := by
  have hid : e.requestId ≠ 0 := fun hzero =>
    EventType.noConfusion (htype.symm.trans (h.generates e he hzero).1)
  obtain ⟨request, hfind⟩ := h.lifecycle.find_of_event he hid
  have ht : s.view.tickets e.requestId = some request.ticket := by
    unfold View.tickets
    rw [hfind]
    rfl
  obtain ⟨epoch, hreleased, -, hepoch⟩ := h.barrier e.requestId request.ticket ht
  rw [← hepoch (Phase.not_ended_of_pending (h.lifecycle.pending_eq he hfind))] at hreleased
  exact ⟨request.ticket, ht, hreleased⟩

/-- With nothing pending, the channels have served everything that has arrived. -/
theorem RunInv.free_of_drained (h : RunInv s phase base) (hnil : s.view.pending = 0)
    (c : MemoryChannelId) :
    Fifo.free ((arrivals s.config s.view.tickets s.eventLog c).map
      (jobOf s.config s.view.tickets)) ≤ s.shared.scheduler.currentTime := by
  -- no request of the channel is about to start or in service
  have hplace : ∀ id, channelOf s.config s.view.tickets id = some c →
      places phase id = .away ∨ ∃ start, places phase id = .served start := by
    intro id hid
    obtain ⟨request, -, hticket, -⟩ := exists_of_channelOf hid
    have hended := h.ended_of_drained hnil hticket
    unfold places
    cases hphase : phase id with
    | hitEnd => exact Or.inl rfl
    | missEnd start => exact Or.inr ⟨start, rfl⟩
    | _ =>
        rw [hphase] at hended
        exact hended.elim
  by_cases hc : c < s.memoryNode.channels.length
  · obtain ⟨served, hserver⟩ := h.channels c _ (List.getElem?_eq_getElem hc)
    cases hserver.mode with
    | idle _ _ hqueue hfree _ =>
        rw [hserver.arrivals_eq, hqueue, List.append_nil]
        exact hfree
    | @starting id rest start _ _ hqueue hstarting =>
        have hmem : id ∈ (s.memoryNode.channels[c]).queuedRequests := by
          rw [hqueue]
          exact List.mem_cons_self
        rcases hplace id (hserver.channelOf_queue hmem) with haway | ⟨start', hserved⟩
        · cases hstarting.symm.trans haway
        · cases hstarting.symm.trans hserved
    | @serving id start _ _ hid hserving =>
        rcases hplace id hid with haway | ⟨start', hserved⟩
        · cases hserving.symm.trans haway
        · cases hserving.symm.trans hserved
  · -- no request is mapped to a channel that does not exist
    have hnone : arrivals s.config s.view.tickets s.eventLog c = [] := by
      rw [List.eq_nil_iff_forall_not_mem]
      intro id hid
      obtain ⟨request, -, -, hchannel⟩ := exists_of_channelOf (mem_arrivals hid)
      rw [h.channels_length] at hc
      exact hc (hchannel ▸ h.channel_lt request.ticket)
    rw [hnone]
    exact Nat.zero_le _

-- ============================================================================
-- Runs refine the issuing side
-- ============================================================================

/-- The state is one of a run of the configuration, and `f` is its issuing side. -/
def Simulator.ShowsFrontend (config : SimulationConfig) (s : Simulator P) (f : Frontend) : Prop :=
  s.config = config ∧ ∃ phase base bases, RunInv s phase base ∧ s.HasFrontend base bases f ∧
    EpochsApart s.config s.view.tickets s.eventLog s.releasedEpoch bases

variable {config : SimulationConfig} {f : Frontend}

/-- A dispatch is matched by steps of the issuing side. -/
theorem Simulator.ShowsFrontend.dispatch (h : s.ShowsFrontend config f) (hmisses : s.NeverHits)
    (hmode : issueModeOf config = .scheduledBursty)
    (hpop : s.shared.scheduler.popNext = some (event, scheduler))
    (hdispatched : Dispatched .exact (s.popped scheduler) event s') :
    ∃ f', Relation.ReflTransGen (Frontend.Step config) f f' ∧ s'.ShowsFrontend config f' := by
  obtain ⟨rfl, phase, base, bases, hrun, hf, hapart⟩ := h
  obtain ⟨f', hsteps, hf'⟩ := hf.dispatch hrun hmisses hmode hpop hdispatched
  obtain ⟨phase', hrun'⟩ := hrun.of_dispatched hpop hdispatched
  have hmove : Run.Moves (step .exact) s (releaseNextEpochIfReady .exact s') :=
    moves_iff.mpr ⟨event, scheduler, s', hpop, hdispatched, rfl⟩
  obtain ⟨e, he, hlog, hturn⟩ := hrun.turn_spec hmove
  rw [(release_log .exact s').1] at hlog
  -- the release changes no ticket
  have hrelease : (releaseNextEpochIfReady .exact s').view.tickets = s'.view.tickets :=
    release_keeps (fun t => t.view.tickets) .exact s' fun _ => rfl
  have hconfig : s'.config = s.config := by
    cases hdispatched <;> rfl
  have hreleased : s'.releasedEpoch = s.releasedEpoch := hdispatched.releasedEpoch_eq
  refine ⟨f', hsteps, hconfig, phase', base, bases, hrun', hf', ?_⟩
  rw [hconfig, hlog, hreleased]
  refine hapart.turn ?_ ?_ ?_ ?_
  · intro r hr
    rw [← hrelease]
    exact hrun.logged_tickets hturn hr
  · intro id t ht
    cases hfind : s.shared.requestTable.find id with
    | some request =>
        have hlt := (hrun.lifecycle.ids id).mp (Option.isSome_iff_exists.mpr ⟨request, hfind⟩)
        rw [← hrelease, known_tickets hturn hlt.2] at ht
        exact Or.inl ht
    | none =>
        unfold View.tickets at ht
        obtain ⟨request, hin, rfl⟩ := Option.map_eq_some_iff.mp ht
        obtain ⟨hmem, hid⟩ := KeyedStore.find_eq_some.mp hin
        exact Or.inr (hrun.issue_epoch hpop hdispatched hmem (hid.symm ▸ hfind))
  · intro id t ht
    obtain ⟨epoch, hepoch, hle, -⟩ := hrun.barrier id t ht
    exact ⟨epoch, hepoch, hle⟩
  · intro htype
    obtain ⟨t, ht, hepoch⟩ := hrun.arrival_epoch he htype
    refine ⟨t, ?_, hepoch⟩
    rcases hturn with hadvances | hissues
    · rw [← hrelease, hadvances.tickets]
      exact ht
    · cases htype.symm.trans hissues.type_eq

/-- A release is matched by steps of the issuing side. -/
theorem Simulator.ShowsFrontend.release (h : s.ShowsFrontend config f) :
    ∃ f', Relation.ReflTransGen (Frontend.Step config) f f' ∧
      (releaseNextEpochIfReady .exact s).ShowsFrontend config f' := by
  refine release_preserves (p := fun t => ∃ f', Relation.ReflTransGen (Frontend.Step config) f f' ∧
    t.ShowsFrontend config f') ⟨f, Relation.ReflTransGen.refl, h⟩ fun epoch hdrained hnext => ?_
  obtain ⟨rfl, phase, base, bases, hrun, hf, hapart⟩ := h
  obtain ⟨f', hstep, hf'⟩ := hf.release hrun hdrained.1 hnext
  obtain ⟨hrun', -⟩ := hrun.afterRelease hdrained.1 hnext
  exact ⟨f', Relation.ReflTransGen.single hstep, rfl, phase, _, _, hrun', hf',
    hapart.release (hrun.free_of_drained hdrained.1)⟩

/-- The streams of a new simulator are those of its configuration. -/
theorem Simulator.streamIn_emplaceNodes {plan : Option GlobalReplicaPlan}
    (hprepared : Prepared config) (nodeId : NodeId) :
    streamIn (emplaceNodes P config plan) nodeId =
      match config.computeNodes.find? (fun c => c.nodeId = nodeId) with
      | none => []
      | some nodeConfig => nodeConfig.requests := by
  obtain ⟨hnodes, hpresent⟩ := emplaceNodes_spec P config plan
  cases hconfig : config.computeNodes.find? (fun c => c.nodeId = nodeId) with
  | none =>
      have hnone : (emplaceNodes P config plan).find nodeId = none := by
        rw [KeyedStore.find_eq_none]
        intro node hmem hid
        obtain ⟨c, hc, rfl⟩ := hnodes node hmem
        exact (List.find?_eq_none.mp hconfig c hc) (decide_eq_true hid)
      unfold streamIn
      rw [hnone]
  | some nodeConfig =>
      have hmem := List.mem_of_find?_eq_some hconfig
      have hid : nodeConfig.nodeId = nodeId := by simpa using List.find?_some hconfig
      obtain ⟨node, hfind⟩ := hpresent nodeConfig hmem
      obtain ⟨hin, hkey⟩ := KeyedStore.find_eq_some.mp hfind
      obtain ⟨c, hc, rfl⟩ := hnodes node hin
      obtain rfl : c = nodeConfig := List.inj_on_of_nodup_map hprepared.nodeIds_nodup hc hmem hkey
      rw [← hid, streamIn_of_find hfind]
      rfl

/-- The machine of the issuing side at the start of a run. -/
def Frontend.ofNodes (nodeConfigs : List ComputeNodeConfig) : Frontend :=
  { streams := fun nodeId =>
      match nodeConfigs.find? (fun c => c.nodeId = nodeId) with
      | none => []
      | some nodeConfig => nodeConfig.requests }

theorem Simulator.showsFrontend_ofConfig (hprepared : Prepared config)
    (generatedWorkload : Option GeneratedWorkload) :
    (ofConfig P config generatedWorkload).ShowsFrontend config
      (Frontend.ofNodes config.computeNodes) := by
  refine ⟨rfl, fun _ => .lookup, 0, fun _ => 0, runInv_init P hprepared generatedWorkload _, ?_,
    EpochsApart.init _ _ _ _⟩
  refine ⟨?_, rfl, rfl, rfl, fun id => rfl, rfl, ?_⟩
  · funext nodeId
    exact streamIn_emplaceNodes hprepared nodeId
  · intro epoch hreleased
    cases hreleased

/-- No lookup of a run hits under a policy that never admits and without replicas. -/
theorem Simulator.neverHits_init (hprepared : Prepared config)
    {generatedWorkload : Option GeneratedWorkload}
    (hpolicy : config.localCache.policyType ≠ .globalHottestReplication) :
    (releaseNextEpochIfReady .exact (ofConfig P config generatedWorkload)).NeverHits := by
  have hnodes : ∀ node ∈ (ofConfig P config generatedWorkload).computeNodes.items, node.Bare := by
    intro node hmem
    obtain ⟨c, -, rfl⟩ := (emplaceNodes_spec P config _).1 node hmem
    refine ⟨?_, fun objectId hheld => ?_⟩
    · show (if _ then some _ else none) = none
      rw [if_neg (by simpa using hpolicy)]
    · exact Bool.false_ne_true hheld
  have hpending : ∀ e ∈ (releaseNextEpochIfReady .exact
      (ofConfig P config generatedWorkload)).view.pending, e.type ≠ .localCacheHitComplete := by
    intro e he
    rcases (runInv_init P hprepared generatedWorkload fun _ => .lookup).release_pending he with
      hin | hgenerate
    · exact absurd hin (Multiset.notMem_zero e)
    · rw [hgenerate]
      exact EventType.noConfusion
  refine ⟨?_, ?_⟩
  · rw [(release_nodes .exact _).1]
    exact hnodes
  · rintro e (hin | hin)
    · exact hpending e hin
    · rw [(release_log .exact _).1] at hin
      exact absurd hin List.not_mem_nil

/-- A run takes its issuing side to the end. -/
theorem Simulator.RunsTo.exists_frontend (hprepared : Prepared config) (hP : P.NeverAdmits)
    (hpolicy : config.localCache.policyType ≠ .globalHottestReplication)
    (hmode : issueModeOf config = .scheduledBursty) {generatedWorkload : Option GeneratedWorkload}
    {final : Simulator P} (hfinal : RunsTo .exact (ofConfig P config generatedWorkload) final) :
    ∃ f, Relation.ReflTransGen (Frontend.Step config) (Frontend.ofNodes config.computeNodes) f ∧
      (∀ g, ¬ Frontend.Step config f g) ∧ final.ShowsFrontend config f ∧ final.NeverHits := by
  obtain ⟨f₀, hsteps₀, hmirrors₀⟩ :=
    (showsFrontend_ofConfig (P := P) hprepared generatedWorkload).release
  have hmatch : ∀ (s t : Simulator P) (f : Frontend), s.ShowsFrontend config f ∧ s.NeverHits →
      Run.Moves (step .exact) s t →
        ∃ f', Relation.ReflTransGen (Frontend.Step config) f f' ∧ t.ShowsFrontend config f' ∧
          t.NeverHits := by
    rintro s t f ⟨hmirrors, hmisses⟩ hmove
    obtain ⟨phase, base, bases, hrun, -, -⟩ := hmirrors.2
    have hmisses' := hmisses.move hP hrun hmove
    obtain ⟨event, scheduler, s', hpop, hdispatched, rfl⟩ := moves_iff.mp hmove
    obtain ⟨f₁, hsteps₁, hmirrors₁⟩ := hmirrors.dispatch hmisses hmode hpop hdispatched
    obtain ⟨f₂, hsteps₂, hmirrors₂⟩ := hmirrors₁.release
    exact ⟨f₂, hsteps₁.trans hsteps₂, hmirrors₂, hmisses'⟩
  obtain ⟨f, hsteps, hmirrors, hmisses⟩ := Run.refines_of_reaches
    (fun s f => s.ShowsFrontend config f ∧ s.NeverHits) hmatch
      ⟨hmirrors₀, neverHits_init hprepared hpolicy⟩ hfinal.reaches
  refine ⟨f, hsteps₀.trans hsteps, Frontend.not_step_of_done ?_ ?_, hmirrors, hmisses⟩
  · obtain ⟨phase, base, bases, -, hf, -⟩ := hmirrors.2
    have hqueue := hf.queue
    rw [Scheduler.agenda_eq_nil.mpr (halted_iff.mp hfinal.halted)] at hqueue
    exact List.map_eq_nil_iff.mp hqueue.symm
  · obtain ⟨phase, base, bases, -, hf, -⟩ := hmirrors.2
    obtain ⟨-, hsettled⟩ := turnInv_of_reachable hprepared hfinal.reaches
    intro nodeId
    rw [← hf.streams]
    cases hfind : final.computeNodes.find nodeId with
    | none =>
        unfold streamIn
        rw [hfind]
    | some node =>
        rw [streamIn_of_find hfind]
        exact WorkloadCursor.remaining_of_none (hsettled (halted_iff.mp hfinal.halted) node
          (KeyedStore.find_eq_some.mp hfind).1)

end Runs

-- ============================================================================
-- Waits
-- ============================================================================

namespace Frontend

variable (config : SimulationConfig) (f : Frontend)

/-- The requests of its epoch that have reached the channel of a request before it. -/
def ahead (id : RequestId) : List RequestId :=
  (f.arrived.takeWhile (fun other => other ≠ id)).filter fun other =>
    channelOf config f.tickets other = channelOf config f.tickets id ∧
      epochIn f.tickets other = epochIn f.tickets id

/-- How long a request waits for its channel. -/
def wait (id : RequestId) : SimTime :=
  Fifo.free ((f.ahead config id).map (jobOf config f.tickets)) -
    (jobOf config f.tickets id).arrival

end Frontend

section Waits

variable {P : CachePolicy} {s : Simulator P} {phase : RequestId → Phase} {base : SimTime}
  {bases : EpochId → SimTime} {f : Frontend}

namespace Simulator.HasFrontend

theorem channelOf_eq (hf : s.HasFrontend base bases f) (id : RequestId) :
    channelOf s.config s.view.tickets id = channelOf s.config f.tickets id := by
  unfold channelOf
  rw [hf.tickets id, Option.map_map]
  rfl

theorem epochIn_eq (hf : s.HasFrontend base bases f) (id : RequestId) :
    epochIn s.view.tickets id = epochIn f.tickets id := by
  unfold epochIn
  rw [hf.tickets id]
  cases f.tickets id <;> rfl

/-- The clock of a request's job is that of its epoch. -/
theorem jobOf_eq (hf : s.HasFrontend base bases f) {id : RequestId} {t : Ticket}
    (ht : f.tickets id = some t) :
    jobOf s.config s.view.tickets id = (jobOf s.config f.tickets id).delay (bases t.epochId) := by
  unfold jobOf
  rw [hf.tickets id, ht]
  have harrival : (t.delay bases).arrival s.config = bases t.epochId + t.arrival s.config :=
    Nat.add_assoc _ _ _
  simp only [Option.map_some, harrival]
  rfl

end Simulator.HasFrontend

/-- The jobs of the requests of one epoch have the clock of that epoch. -/
theorem Simulator.HasFrontend.map_jobOf (hf : s.HasFrontend base bases f) {epoch : EpochId}
    {ids : List RequestId}
    (hids : ∀ id ∈ ids, (∃ t, f.tickets id = some t) ∧ epochIn f.tickets id = epoch) :
    ids.map (jobOf s.config s.view.tickets) =
      (ids.map (jobOf s.config f.tickets)).map (Fifo.Job.delay (bases epoch)) := by
  rw [List.map_map]
  refine List.map_congr_left fun id hid => ?_
  obtain ⟨⟨t, ht⟩, hepoch⟩ := hids id hid
  rw [epochIn_of_some ht] at hepoch
  rw [hf.jobOf_eq ht, hepoch]
  rfl

-- ============================================================================
-- The arrivals before a request
-- ============================================================================

/-- The requests among some arrivals that share the channel of a request. -/
def Simulator.sharing (s : Simulator P) (request : Request) (arrived : List RequestId) :
    List RequestId :=
  arrived.filter fun other =>
    channelOf s.config s.view.tickets other = some (request.ticket.channel s.config)

/-- A request that was served by the memory node has arrived there. -/
theorem RunInv.mem_arrivedIn (h : RunInv s phase base) {id : RequestId} {request : Request}
    {start : SimTime} (hfind : s.shared.requestTable.find id = some request)
    (hphase : phase id = .missEnd start) : id ∈ arrivedIn s.eventLog := by
  have hid : request.requestId = id := KeyedStore.key_of_find hfind
  have hlogged := (h.lifecycle.tracks id request hfind).logged
  have hin : request.ticket.memoryEvent s.config (request.ticket.arrival s.config)
      .forwardToMemory ∈ (phase id).logged s.config request.ticket := by
    rw [hphase]
    exact List.mem_cons_of_mem _ List.mem_cons_self
  rw [← hlogged] at hin
  exact DmSimulator.mem_arrivedIn.mpr
    ⟨_, (List.mem_filter.mp hin).1, rfl, hid⟩

section Split

variable {id : RequestId} {request : Request} {before after : List RequestId}

/-- Its channel sees the request after those that share the channel. -/
theorem Simulator.arrivals_of_split (hticket : s.view.tickets id = some request.ticket)
    (hsplit : arrivedIn s.eventLog = before ++ id :: after) :
    arrivals s.config s.view.tickets s.eventLog (request.ticket.channel s.config) =
      s.sharing request before ++ id :: s.sharing request after := by
  have hchannel := RunInv.channelOf_eq (s := s) hticket
  rw [arrivals_eq_filter, hsplit, List.filter_append, List.filter_cons_of_pos
    (by simpa using hchannel)]
  rfl

/-- Those that share its channel: older epochs first, then the epoch of the request. -/
theorem EpochsApart.sharing_eq
    (hapart : EpochsApart s.config s.view.tickets s.eventLog s.releasedEpoch bases)
    (hticket : s.view.tickets id = some request.ticket)
    (hsplit : arrivedIn s.eventLog = before ++ id :: after) :
    (s.sharing request before).filter
        (fun other => epochIn s.view.tickets other < request.epochId) ++
      (s.sharing request before).filter
        (fun other => epochIn s.view.tickets other = request.epochId) =
      s.sharing request before := by
  have hsorted := hapart.sorted
  rw [hsplit, List.pairwise_append] at hsorted
  obtain ⟨hsortedBefore, -, hle⟩ := hsorted
  have hepoch : epochIn s.view.tickets id = request.epochId := epochIn_of_some hticket
  have horder : TimedQueue.InOrder (epochIn s.view.tickets) (s.sharing request before) :=
    hsortedBefore.sublist List.filter_sublist
  exact horder.filter_lt_append_filter_eq fun other hother =>
    hepoch ▸ hle other (List.mem_filter.mp hother).1 id List.mem_cons_self

/-- The older epochs are served when the epoch of the request is released. -/
theorem EpochsApart.free_older
    (hapart : EpochsApart s.config s.view.tickets s.eventLog s.releasedEpoch bases)
    (hticket : s.view.tickets id = some request.ticket)
    (hsplit : arrivedIn s.eventLog = before ++ id :: after) :
    Fifo.free (((s.sharing request before).filter
        (fun other => epochIn s.view.tickets other < request.epochId)).map
          (jobOf s.config s.view.tickets)) ≤ bases request.epochId := by
  refine le_trans (Fifo.free_mono ?_) (hapart.served (request.ticket.channel s.config)
    request.epochId (Or.inr ⟨id, _, hticket, rfl⟩))
  rw [Simulator.arrivals_of_split hticket hsplit, List.filter_append]
  exact (List.sublist_append_left _ _).map _

/-- The requests ahead on the issuing side are those of its epoch that share its channel. -/
theorem Simulator.HasFrontend.ahead_of_split (hf : s.HasFrontend base bases f)
    (hticket : s.view.tickets id = some request.ticket)
    (hsplit : arrivedIn s.eventLog = before ++ id :: after) (hnot : id ∉ before) :
    f.ahead s.config id = (s.sharing request before).filter
      (fun other => epochIn s.view.tickets other = request.epochId) := by
  have hbefore : f.arrived.takeWhile (fun other => other ≠ id) = before := by
    rw [← hf.arrived, show (s.eventLog.filter _).map _ = arrivedIn s.eventLog from rfl, hsplit,
      List.takeWhile_append_of_pos]
    · simp
    · intro other hother
      simp only [ne_eq, decide_eq_true_eq]
      exact fun heq => hnot (heq ▸ hother)
  have hchannel := RunInv.channelOf_eq (s := s) hticket
  have hepoch : epochIn s.view.tickets id = request.epochId := epochIn_of_some hticket
  unfold Frontend.ahead Simulator.sharing
  rw [hbefore, List.filter_filter]
  apply List.filter_congr
  intro other _
  rw [← hf.channelOf_eq, ← hf.channelOf_eq, ← hf.epochIn_eq, ← hf.epochIn_eq, hchannel,
    hepoch, Bool.decide_and, Bool.and_comm]

/-- Its server starts the request as the recursion over the arrivals says. -/
theorem RunInv.start_eq (h : RunInv s phase base) {start : SimTime}
    (hticket : s.view.tickets id = some request.ticket) (hphase : phase id = .missEnd start)
    (hsplit : arrivedIn s.eventLog = before ++ id :: after) :
    start = max (request.ticket.arrival s.config)
      (Fifo.free ((s.sharing request before).map (jobOf s.config s.view.tickets))) := by
  obtain ⟨channel, hchannel⟩ := h.exists_channel request.ticket
  obtain ⟨served, hserver⟩ := h.channels _ channel hchannel
  have harrivals := Simulator.arrivals_of_split hticket hsplit
  have hat : (arrivals s.config s.view.tickets s.eventLog (request.ticket.channel s.config))[
      (s.sharing request before).length]? = some id := by
    rw [harrivals, List.getElem?_append_right (le_refl _), Nat.sub_self]
    rfl
  have hstarts : (Fifo.starts ((arrivals s.config s.view.tickets s.eventLog
      (request.ticket.channel s.config)).map (jobOf s.config s.view.tickets)))[
        (s.sharing request before).length]? = some (max (request.ticket.arrival s.config)
          (Fifo.free ((s.sharing request before).map (jobOf s.config s.view.tickets)))) := by
    have hget := Fifo.starts_getElem?
      ((s.sharing request before).map (jobOf s.config s.view.tickets))
      ((s.sharing request after).map (jobOf s.config s.view.tickets))
      (jobOf s.config s.view.tickets id)
    rw [List.length_map, RunInv.jobOf_eq hticket] at hget
    rw [harrivals, List.map_append, List.map_cons, RunInv.jobOf_eq hticket]
    exact hget
  have hplace : (places phase id).start = some start := by
    unfold places
    rw [hphase]
    rfl
  rcases hserver.start_of_arrival hat hstarts with hnone | hsome
  · cases hplace.symm.trans hnone
  · exact Option.some.inj (hplace.symm.trans hsome)

end Split

/-- How long a request has waited for its channel. -/
theorem RunInv.wait_eq (h : RunInv s phase base) (hf : s.HasFrontend base bases f)
    (hapart : EpochsApart s.config s.view.tickets s.eventLog s.releasedEpoch bases)
    {id : RequestId} {request : Request} {start : SimTime}
    (hfind : s.shared.requestTable.find id = some request)
    (hphase : phase id = .missEnd start) :
    start - request.ticket.arrival s.config = f.wait s.config id := by
  have hticket : s.view.tickets id = some request.ticket := by
    show (s.shared.requestTable.find id).map Request.ticket = _
    rw [hfind]
    rfl
  obtain ⟨t, ht, hdelay⟩ : ∃ t, f.tickets id = some t ∧ t.delay bases = request.ticket := by
    rw [hf.tickets id] at hticket
    exact Option.map_eq_some_iff.mp hticket
  have hepoch : t.epochId = request.epochId := congrArg Ticket.epochId hdelay
  obtain ⟨before, after, hsplit, hnot⟩ :=
    List.eq_append_cons_of_mem (h.mem_arrivedIn hfind hphase)
  have hahead := hf.ahead_of_split hticket hsplit hnot
  have hjobs : (f.ahead s.config id).map (jobOf s.config s.view.tickets) =
      ((f.ahead s.config id).map (jobOf s.config f.tickets)).map
        (Fifo.Job.delay (bases request.epochId)) := by
    refine hf.map_jobOf fun other hother => ?_
    rw [hahead] at hother
    obtain ⟨hin, hsame⟩ := List.mem_filter.mp hother
    have hchannel := of_decide_eq_true (List.mem_filter.mp hin).2
    rw [hf.channelOf_eq] at hchannel
    obtain ⟨t', ht', -⟩ := Option.map_eq_some_iff.mp hchannel
    exact ⟨⟨t', ht'⟩, (hf.epochIn_eq other).symm.trans (of_decide_eq_true hsame)⟩
  have harrival : request.ticket.arrival s.config =
      bases request.epochId + (jobOf s.config f.tickets id).arrival := by
    rw [← hepoch]
    have hjob := congrArg Fifo.Job.arrival (hf.jobOf_eq ht)
    rw [RunInv.jobOf_eq hticket] at hjob
    exact hjob
  rw [h.start_eq hticket hphase hsplit, ← hapart.sharing_eq hticket hsplit, ← hahead,
    List.map_append, Fifo.free, Fifo.freeFrom_append, hjobs, harrival]
  exact Fifo.wait_delay (hapart.free_older hticket hsplit) _ _

/-- Without hits, every request has been served by the memory node at the end. -/
theorem RunInv.missEnd_of_drained (h : RunInv s phase base) (hmisses : s.NeverHits)
    (hnil : s.view.pending = 0) {id : RequestId} {request : Request}
    (hfind : s.shared.requestTable.find id = some request) :
    ∃ start, phase id = .missEnd start := by
  obtain ⟨hmem, hid⟩ := KeyedStore.find_eq_some.mp hfind
  have hended := h.ended_of_drained hnil (RunInv.ticket_of_mem hmem).2
  rw [hid] at hended
  cases hphase : phase id with
  | hitEnd =>
      have hlogged := (h.lifecycle.tracks id request hfind).logged
      have hin : request.ticket.computeEvent (request.ticket.hitTime s.config)
          .localCacheHitComplete ∈ (phase id).logged s.config request.ticket := by
        rw [hphase]
        exact List.mem_cons_of_mem _ List.mem_cons_self
      rw [← hlogged] at hin
      exact absurd rfl (hmisses.events _ (Or.inr (List.mem_filter.mp hin).1))
  | missEnd start => exact ⟨start, rfl⟩
  | _ =>
      rw [hphase] at hended
      exact hended.elim

/-- What the waits of the requests are worth on the log. -/
theorem RunInv.worth_of_drained (h : RunInv s phase base) (hf : s.HasFrontend base bases f)
    (hapart : EpochsApart s.config s.view.tickets s.eventLog s.releasedEpoch bases)
    (hmisses : s.NeverHits) (hnil : s.view.pending = 0) {id : RequestId} {request : Request}
    (hfind : s.shared.requestTable.find id = some request) :
    ∃ start, phase id = .missEnd start ∧
      request.ticket.memoryEvent s.config start .memoryServiceStart ∈ s.eventLog ∧
      start - request.ticket.arrival s.config = f.wait s.config id := by
  obtain ⟨start, hphase⟩ := h.missEnd_of_drained hmisses hnil hfind
  refine ⟨start, hphase, ?_, h.wait_eq hf hapart hfind hphase⟩
  have hlogged := (h.lifecycle.tracks id request hfind).logged
  have hin : request.ticket.memoryEvent s.config start .memoryServiceStart ∈
      (phase id).logged s.config request.ticket := by
    rw [hphase]
    exact List.mem_cons_of_mem _ (List.mem_cons_of_mem _ List.mem_cons_self)
  rw [← hlogged] at hin
  exact (List.mem_filter.mp hin).1

open Simulator

/-- The waits add up to `total_memory_wait`. -/
theorem RunInv.totalMemoryWait_eq (h : RunInv s phase base) (hf : s.HasFrontend base bases f)
    (hapart : EpochsApart s.config s.view.tickets s.eventLog s.releasedEpoch bases)
    (hmisses : s.NeverHits) (hnil : s.view.pending = 0) (ht : s.Telemetry) :
    s.shared.stats.totalMemoryWait =
      ((List.range' 1 (f.nextRequestId - 1)).map (f.wait s.config)).sum := by
  have hsum : s.shared.stats.totalMemoryWait =
      (s.shared.requestTable.items.map fun request => f.wait s.config request.requestId).sum := by
    rw [ht.totalMemoryWait_eq]
    unfold ledger
    simp only [h.weigh_eq]
    refine congrArg List.sum (List.map_congr_left fun request hmem => ?_)
    obtain ⟨hfind, -⟩ := RunInv.ticket_of_mem hmem
    obtain ⟨start, hphase, -, hwait⟩ := h.worth_of_drained hf hapart hmisses hnil hfind
    rw [hphase, Phase.worth_missEnd_start, hwait]
  have hperm := h.requestIds_perm.map (f.wait s.config)
  rw [hf.nextRequestId, List.map_map] at hperm
  rw [hsum]
  exact hperm.sum_eq

end Waits

-- ============================================================================
-- The longest wait
-- ============================================================================

theorem Stats.maxMemoryWait_recordMemoryWait (stats : Stats) (waitTime : SimTime) :
    (stats.recordMemoryWait .exact waitTime).maxMemoryWait =
      max stats.maxMemoryWait waitTime := by
  show (if waitTime > stats.maxMemoryWait then waitTime else stats.maxMemoryWait) = _
  rcases Nat.lt_or_ge stats.maxMemoryWait waitTime with hlt | hge
  · rw [if_pos hlt, Nat.max_eq_right (Nat.le_of_lt hlt)]
  · rw [if_neg (Nat.not_lt_of_le hge), Nat.max_eq_left hge]

namespace Simulator

variable {P : CachePolicy} {s t : Simulator P} {phase : RequestId → Phase} {base : SimTime}
  {bases : EpochId → SimTime} {f : Frontend}

/-- The queue wait that an event of the log ends. -/
def waitEnding (s : Simulator P) (e : EventRecord) : SimTime :=
  worth .memoryServiceStart (fun t time => time - t.arrival s.config)
    (s.view.tickets e.requestId) e

/-- `max_memory_wait` is the longest wait on the log. -/
def MaxWait (s : Simulator P) : Prop :=
  ∀ bound, s.shared.stats.maxMemoryWait ≤ bound ↔ ∀ e ∈ s.eventLog, s.waitEnding e ≤ bound

theorem MaxWait.move (hmax : s.MaxWait) (h : RunInv s phase base)
    (hmove : Run.Moves (step .exact) s t) : t.MaxWait := by
  obtain ⟨hconfig, -, -⟩ := move_spec hmove
  obtain ⟨e, hlog, hturn, hbooks⟩ := h.books hmove
  have hstats : t.shared.stats.maxMemoryWait =
      max s.shared.stats.maxMemoryWait (s.waitEnding e) := by
    -- an event that starts no service ends no wait
    have hnone : e.type ≠ .memoryServiceStart →
        s.shared.stats.maxMemoryWait = max s.shared.stats.maxMemoryWait (s.waitEnding e) := by
      intro htype
      unfold waitEnding worth
      rw [if_neg htype, Nat.max_zero]
    cases hbooks with
    | nothing htype hbooked =>
        rw [hbooked.stats]
        exact hnone (by rcases htype with htype | htype <;> rw [htype] <;> decide)
    | hit htype hbooked | miss htype hbooked | arrival _ _ htype _ hbooked
    | service _ htype _ hbooked =>
        rw [hbooked.stats]
        exact hnone (by rw [htype]; decide)
    | answer p htype hbooked =>
        rw [hbooked.stats]
        exact hnone (by rcases htype with htype | htype <;> rw [htype] <;> decide)
    | wait request htype hticket hbooked =>
        rw [hbooked.stats]
        refine (Stats.maxMemoryWait_recordMemoryWait _ _).trans ?_
        unfold waitEnding worth
        rw [if_pos htype, hticket]
        rfl
  have hold : ∀ r ∈ s.eventLog, t.waitEnding r = s.waitEnding r := by
    intro r hr
    unfold waitEnding
    rw [hconfig, h.logged_tickets hturn hr]
  have hlast : t.waitEnding e = s.waitEnding e := by
    unfold waitEnding
    rw [hconfig, worth_turn hturn (by decide)]
  intro bound
  rw [hstats, Nat.max_le, hmax bound, hlog]
  constructor
  · rintro ⟨hearlier, hle⟩ r hr
    rcases List.mem_append.mp hr with hin | hin
    · rw [hold r hin]
      exact hearlier r hin
    · rw [List.mem_singleton.mp hin, hlast]
      exact hle
  · intro hall
    refine ⟨fun r hr => ?_, ?_⟩
    · rw [← hold r hr]
      exact hall r (List.mem_append_left _ hr)
    · rw [← hlast]
      exact hall e (List.mem_append_right _ (List.mem_singleton_self e))

theorem maxWait_of_reachable {config : SimulationConfig} (hprepared : Prepared config)
    {generatedWorkload : Option GeneratedWorkload}
    (h : Reachable .exact (ofConfig P config generatedWorkload) t) : t.MaxWait := by
  have hbare : (ofConfig P config generatedWorkload).MaxWait := fun bound =>
    ⟨fun _ e he => absurd he List.not_mem_nil, fun _ => Nat.zero_le bound⟩
  have hinit : (releaseNextEpochIfReady .exact (ofConfig P config generatedWorkload)).MaxWait :=
    release_preserves hbare fun _ _ _ => hbare
  have hboth : TurnInv t ∧ t.MaxWait := by
    refine Run.invariant_of_reaches (fun t => TurnInv t ∧ t.MaxWait) ?_
      ⟨turnInv_init hprepared, hinit⟩ h
    rintro a b ⟨hturn, hmax⟩ hmove
    have hnext := turnInv_move hturn hmove
    obtain ⟨⟨phase, base, hrun⟩, -⟩ := hturn
    exact ⟨hnext, hmax.move hrun hmove⟩
  exact hboth.2

/-- The longest wait is at most a bound if the wait of every request is. -/
theorem MaxWait.le_iff (hmax : s.MaxWait) (h : RunInv s phase base)
    (hf : s.HasFrontend base bases f)
    (hapart : EpochsApart s.config s.view.tickets s.eventLog s.releasedEpoch bases)
    (hmisses : s.NeverHits) (hnil : s.view.pending = 0) (bound : SimTime) :
    s.shared.stats.maxMemoryWait ≤ bound ↔
      ∀ id, 1 ≤ id → id < f.nextRequestId → f.wait s.config id ≤ bound := by
  rw [hmax bound]
  constructor
  · intro hall id hpos hlt
    rw [← hf.nextRequestId] at hlt
    obtain ⟨request, hfind⟩ := Option.isSome_iff_exists.mp ((h.lifecycle.ids id).mpr ⟨hpos, hlt⟩)
    obtain ⟨start, -, hin, hwait⟩ := h.worth_of_drained hf hapart hmisses hnil hfind
    have hle := hall _ hin
    have hid : request.requestId = id := KeyedStore.key_of_find hfind
    have hticket : s.view.tickets (request.ticket.memoryEvent s.config start
        .memoryServiceStart).requestId = some request.ticket := by
      show (s.shared.requestTable.find request.requestId).map _ = _
      rw [hid, show s.shared.requestTable.find id = some request from hfind]
      rfl
    unfold waitEnding at hle
    rw [hticket] at hle
    rw [← hwait]
    exact hle
  · intro hall e he
    unfold waitEnding worth
    by_cases htype : e.type = .memoryServiceStart
    · rw [if_pos htype]
      cases hticket : s.view.tickets e.requestId with
      | none => exact Nat.zero_le bound
      | some ticket =>
          unfold View.tickets at hticket
          obtain ⟨request, hfind, rfl⟩ := Option.map_eq_some_iff.mp hticket
          obtain ⟨start, hphase, -, hwait⟩ := h.worth_of_drained hf hapart hmisses hnil hfind
          obtain ⟨hpos, hlt⟩ :=
            (h.lifecycle.ids e.requestId).mp (Option.isSome_iff_exists.mpr ⟨request, hfind⟩)
          have hlogged := (h.lifecycle.tracks e.requestId request hfind).logged
          have hid : request.requestId = e.requestId := KeyedStore.key_of_find hfind
          have hin : e ∈ s.view.log.filter (fun r => r.requestId = request.requestId) :=
            List.mem_filter.mpr ⟨he, by simp [hid]⟩
          rw [hlogged, hphase] at hin
          have htime : e.time = start :=
            congrArg EventRecord.time (Phase.logged_start _ _ hin htype)
          have hle := hall e.requestId hpos (hf.nextRequestId ▸ hlt)
          show e.time - request.ticket.arrival s.config ≤ bound
          rw [htime, hwait]
          exact hle
    · rw [if_neg htype]
      exact Nat.zero_le bound

end Simulator

end DmSimulator
