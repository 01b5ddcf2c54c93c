/-
  DmSimulator.Runs.PriorTelemetry

  The telemetry snapshots of the nodes over a run, with unbounded time.

  Every node takes its snapshot at its own first request of an epoch, from
  statistics that later turns go on changing.  But a turn writes only to the
  epoch that is released, and a node enters no other: what the snapshot reads is
  final by then.
-/
import DmSimulator.Cache.PriorTelemetry
import DmSimulator.Runs.ConfirmationRuns
import DmSimulator.Runs.Telemetry

namespace DmSimulator

open ContentionAwarePolicy

-- ============================================================================
-- What a turn writes to
-- ============================================================================

namespace Stats

/-- The epoch whose contention statistics a recording changes. -/
def Recording.epoch : Recording → Option EpochId
  | .hit _ | .miss _ | .latency _ _ => none
  | .arrival request _ _ | .wait request _ _ | .service request _ _ => some request.epochId

/-- A recording leaves the rows of the other epochs alone. -/
theorem contentionByEpoch_record (s : Stats) {recording : Recording} {epochId : EpochId}
    (h : recording.epoch ≠ some epochId) :
    (s.record .exact recording).contentionByEpoch epochId = s.contentionByEpoch epochId := by
  have hlookup : (s.record .exact recording).contentionByEpoch_.lookup epochId =
      s.contentionByEpoch_.lookup epochId := by
    cases recording with
    | hit | miss | latency => rfl
    | arrival request | wait request | service request =>
        have hne : epochId ≠ request.epochId := fun heq => h (congrArg some heq.symm)
        exact AList.lookup_insert_ne hne
  unfold contentionByEpoch
  rw [hlookup]

end Stats

section Frozen

variable {P : CachePolicy} {s : Simulator P} {phase : RequestId → Phase} {base : SimTime}

open Simulator

/-- The request of a pending event belongs to the released epoch. -/
theorem RunInv.pending_epoch (h : RunInv s phase base) {e : EventRecord}
    (hpending : e ∈ s.view.pending) {ticket : Ticket}
    (hticket : s.view.tickets e.requestId = some ticket) :
    s.releasedEpoch = some ticket.epochId := by
  obtain ⟨epoch, hreleased, -, heq⟩ := h.barrier _ ticket hticket
  unfold View.tickets at hticket
  obtain ⟨request, hfind, rfl⟩ := Option.map_eq_some_iff.mp hticket
  rw [hreleased, heq (Phase.not_ended_of_pending (h.lifecycle.pending_eq hpending hfind))]

/-- A turn leaves the rows of the epochs before the released one alone. -/
theorem RunInv.contention_move (h : RunInv s phase base) {t : Simulator P}
    (hmove : Run.Moves (step .exact) s t) {released epochId : EpochId}
    (hreleased : s.releasedEpoch = some released) (hlt : epochId < released) :
    t.shared.stats.contentionByEpoch epochId = s.shared.stats.contentionByEpoch epochId := by
  obtain ⟨e, hpending, hlog, -⟩ := h.turn_spec hmove
  obtain ⟨e', hlog', -, hbooks⟩ := h.books hmove
  obtain rfl : e = e' := List.singleton_inj.mp (List.append_cancel_left (hlog.symm.trans hlog'))
  have hsame : ∀ {recording : Option Stats.Recording} {answers : List Response} {hits misses : Nat},
      Booked s t recording answers hits misses →
      (∀ r ∈ recording, r.epoch ≠ some epochId) →
      t.shared.stats.contentionByEpoch epochId = s.shared.stats.contentionByEpoch epochId := by
    intro recording answers hits misses hbooked hepoch
    rw [hbooked.stats]
    cases recording with
    | none => rfl
    | some r => exact s.shared.stats.contentionByEpoch_record (hepoch r rfl)
  have hother : ∀ {request : Request}, s.view.tickets e.requestId = some request.ticket →
      some request.epochId ≠ some epochId := by
    intro request hticket heq
    have hepoch := h.pending_epoch hpending hticket
    rw [hreleased] at hepoch
    have hepoch' : released = request.epochId := Option.some.inj hepoch
    rw [Option.some.inj heq] at hepoch'
    exact absurd hepoch' (Nat.ne_of_gt hlt)
  cases hbooks with
  | nothing _ hbooked => exact hsame hbooked fun r hr => absurd hr (Option.not_mem_none r)
  | hit _ hbooked | miss _ hbooked | answer _ _ hbooked =>
      refine hsame hbooked fun r hr => ?_
      rw [← Option.some.inj hr]
      intro hnone
      cases hnone
  | arrival request _ _ hticket hbooked | wait request _ hticket hbooked
  | service request _ hticket hbooked =>
      refine hsame hbooked fun r hr => ?_
      rw [← Option.some.inj hr]
      exact hother hticket

/-- From one state to a later one: a released epoch stays released or is followed by a
    later one, and the rows of the epochs before it stay as they are. -/
def Simulator.Frozen (s t : Simulator P) : Prop :=
  ∀ released, s.releasedEpoch = some released →
    (∃ later, t.releasedEpoch = some later ∧ released ≤ later) ∧
      ∀ epochId, epochId < released →
        t.shared.stats.contentionByEpoch epochId = s.shared.stats.contentionByEpoch epochId

theorem Simulator.Frozen.refl (s : Simulator P) : s.Frozen s :=
  fun released hreleased => ⟨⟨released, hreleased, le_refl released⟩, fun _ _ => rfl⟩

theorem Simulator.Frozen.trans {s t u : Simulator P} (hst : s.Frozen t) (htu : t.Frozen u) :
    s.Frozen u := by
  intro released hreleased
  obtain ⟨⟨later, hlater, hle⟩, hrows⟩ := hst released hreleased
  obtain ⟨⟨last, hlast, hle'⟩, hrows'⟩ := htu later hlater
  refine ⟨⟨last, hlast, hle.trans hle'⟩, fun epochId hlt => ?_⟩
  rw [hrows' epochId (lt_of_lt_of_le hlt hle), hrows epochId hlt]

/-- Released epochs increase. -/
theorem released_le_move {A : Arith} {t : Simulator P} (hmove : Run.Moves (step A) s t)
    {released : EpochId} (hreleased : s.releasedEpoch = some released) :
    ∃ later, t.releasedEpoch = some later ∧ released ≤ later := by
  obtain ⟨event, scheduler, s', hpop, hdispatched, rfl⟩ := moves_iff.mp hmove
  have hsame : s'.releasedEpoch = some released := hdispatched.releasedEpoch_eq.trans hreleased
  rcases s'.releasing_spec A with ⟨-, heq⟩ | ⟨epoch, -, -, -, hunreleased, heq⟩
  · rw [heq]
    exact ⟨released, hsame, le_refl released⟩
  · rw [heq]
    exact ⟨epoch, rfl, Nat.le_of_lt (hunreleased released hsame)⟩

theorem RunInv.frozen_move (h : RunInv s phase base) {t : Simulator P}
    (hmove : Run.Moves (step .exact) s t) : s.Frozen t := fun _ hreleased =>
  ⟨released_le_move hmove hreleased, fun _ hlt => h.contention_move hmove hreleased hlt⟩

theorem frozen_of_reaches (hturn : TurnInv s) {t : Simulator P}
    (h : Run.Reaches (step .exact) s t) : s.Frozen t := by
  refine Run.relates_of_reaches (fun _ _ ha hmove => turnInv_move ha hmove) Simulator.Frozen.refl
    (fun _ _ _ hab hbc => hab.trans hbc) ?_ hturn h
  rintro a b ⟨⟨phase, base, hrun⟩, -⟩ hmove
  exact hrun.frozen_move hmove

end Frozen

-- ============================================================================
-- The snapshots of the nodes
-- ============================================================================

section Snapshots

variable {contention : ContentionPolicyConfig} {capacityBytes : Nat} {A : Arith}

/-- The node is in no epoch that has not been released, and since it entered its epoch its
    policy holds the snapshot of it. -/
structure TookSnapshot (stats : Stats) (released : Option EpochId)
    (node : ComputeNode (ContentionAwarePolicy contention capacityBytes)) : Prop where
  currentEpoch : node.localCache.policy.currentEpoch = node.currentEpoch
  reached : ∀ epochId, node.currentEpoch = some epochId →
    ∃ last, released = some last ∧ epochId ≤ last
  snapshot : ∀ epochId, node.currentEpoch = some epochId →
    node.localCache.policy.previousEpochStats = epochSnapshot contention stats epochId ∧
      node.localCache.policy.maxima =
        refreshNormalizationMaxima (epochSnapshot contention stats epochId) {}

variable {node node' : ComputeNode (ContentionAwarePolicy contention capacityBytes)}

/-- The snapshot does not notice later turns. -/
theorem TookSnapshot.frozen {s t : Simulator (ContentionAwarePolicy contention capacityBytes)}
    (h : TookSnapshot s.shared.stats s.releasedEpoch node) (hfrozen : s.Frozen t) :
    TookSnapshot t.shared.stats t.releasedEpoch node := by
  refine ⟨h.currentEpoch, ?_, ?_⟩
  · intro epochId hcurrent
    obtain ⟨last, hlast, hle⟩ := h.reached epochId hcurrent
    obtain ⟨⟨later, hlater, hle'⟩, -⟩ := hfrozen last hlast
    exact ⟨later, hlater, hle.trans hle'⟩
  · intro epochId hcurrent
    obtain ⟨last, hlast, hle⟩ := h.reached epochId hcurrent
    obtain ⟨-, hrows⟩ := hfrozen last hlast
    have hsame : epochSnapshot contention t.shared.stats epochId =
        epochSnapshot contention s.shared.stats epochId :=
      epochSnapshot_congr fun earlier hlt => hrows earlier (lt_of_lt_of_le hlt hle)
    rw [hsame]
    exact h.snapshot epochId hcurrent

/-- The snapshot of an epoch that is entered. -/
theorem onEpochStart_snapshot (stats : Stats) {s : ContentionState} {epochId : EpochId}
    (h : s.currentEpoch ≠ some epochId) :
    (onEpochStart contention stats s epochId).previousEpochStats =
        epochSnapshot contention stats epochId ∧
      (onEpochStart contention stats s epochId).maxima =
        refreshNormalizationMaxima (epochSnapshot contention stats epochId) {} := by
  unfold onEpochStart
  rw [if_neg h]
  exact ⟨rfl, rfl⟩

/-- A lookup within the epoch keeps the snapshot. -/
theorem onLookup_snapshot (stats : Stats) {s : ContentionState} {request : Request}
    (h : s.currentEpoch = some request.epochId) :
    (onLookup contention stats s request).currentEpoch = s.currentEpoch ∧
      (onLookup contention stats s request).previousEpochStats = s.previousEpochStats ∧
        (onLookup contention stats s request).maxima = s.maxima := by
  unfold onLookup
  rw [if_neg (not_not_intro h)]
  cases usesLocalConfirmation contention <;> exact ⟨rfl, rfl, rfl⟩

/-- An admission attempt keeps it, too. -/
theorem admitObject_snapshot (c : LocalCache (ContentionAwarePolicy contention capacityBytes))
    (request : Request) (response : Response) (time : SimTime) :
    let policy := (c.admitObject A request response time).1.policy
    policy.currentEpoch = c.policy.currentEpoch ∧
      policy.previousEpochStats = c.policy.previousEpochStats ∧
        policy.maxima = c.policy.maxima := by
  obtain ⟨admitted, reason, victims, -, hpolicy, -⟩ :=
    LocalCache.admitObject_row (A := A) c request response time
  rw [hpolicy]
  exact ⟨rfl, rfl, rfl⟩

theorem TookSnapshot.of_policy {stats : Stats} {released : Option EpochId}
    (h : TookSnapshot stats released node) (hcurrent : node'.currentEpoch = node.currentEpoch)
    (hpolicy : node'.localCache.policy.currentEpoch = node.localCache.policy.currentEpoch)
    (hprevious : node'.localCache.policy.previousEpochStats =
      node.localCache.policy.previousEpochStats)
    (hmaxima : node'.localCache.policy.maxima = node.localCache.policy.maxima) :
    TookSnapshot stats released node' := by
  refine ⟨hpolicy.trans (h.currentEpoch.trans hcurrent.symm), ?_, ?_⟩
  · rw [hcurrent]
    exact h.reached
  · rw [hcurrent, hprevious, hmaxima]
    exact h.snapshot

variable {s : Simulator (ContentionAwarePolicy contention capacityBytes)}
  {phase : RequestId → Phase} {base : SimTime} {event : Event} {scheduler : Scheduler}
  {effect : Effect}

/-- The node that handles an event takes the snapshot of the epoch it enters, and keeps it. -/
theorem RunInv.tookSnapshot (hrun : RunInv s phase base)
    (hpop : s.shared.scheduler.popNext = some (event, scheduler))
    (hfind : s.computeNodes.find event.targetId = some node)
    (h : TookSnapshot s.shared.stats s.releasedEpoch node)
    (hstep : ComputeNode.ComputeStep .exact node event (s.popped scheduler).shared node' effect) :
    TookSnapshot s.shared.stats s.releasedEpoch node' := by
  obtain ⟨hnode, hkey⟩ := hrun.node_of_find hfind
  -- a lookup belongs to the epoch of its node
  have hlookup : ∀ {request : Request}, event.type = .localCacheLookup →
      s.shared.requestTable.find event.requestId = some request →
        node.localCache.policy.currentEpoch = some (ComputeNode.lookedUp request).epochId := by
    intro request htype hrequest
    obtain ⟨request', node₀, hawaits, htarget, hepoch⟩ := hrun.atSource hpop (Or.inl htype)
    obtain rfl : request = request' := Option.some.inj (hrequest.symm.trans hawaits.find)
    obtain rfl : node = node₀ := by
      rw [htarget] at hfind
      exact Option.some.inj (hfind.symm.trans hawaits.source)
    exact h.currentEpoch.trans hepoch
  cases hstep with
  | drained | complete => exact h
  | hitComplete => exact h.of_policy rfl rfl rfl rfl
  | @issue spec htype hup =>
      obtain ⟨-, -, -, -, hold⟩ := hrun.popped_ordered hpop
      have hpending : event.record ∈ s.view.pending := hold ▸ Multiset.mem_cons_self _ _
      obtain ⟨spec', hup', hreleased⟩ :=
        ComputeNode.due_iff.mp (hnode.due_of_generate hpending htype hkey.symm)
      obtain rfl : spec = spec' := Option.some.inj (hup.symm.trans hup')
      have hpolicy : (node.afterIssue .exact s.shared.stats spec event.time).localCache.policy =
          onEpochStart contention s.shared.stats node.localCache.policy spec.epochId :=
        Simulator.enterEpoch_policy h.currentEpoch s.shared.stats spec.epochId event.time
      by_cases hsame : node.localCache.policy.currentEpoch = some spec.epochId
      · rw [onEpochStart_same s.shared.stats hsame] at hpolicy
        refine h.of_policy ?_ (congrArg ContentionState.currentEpoch hpolicy)
          (congrArg ContentionState.previousEpochStats hpolicy)
          (congrArg ContentionState.maxima hpolicy)
        exact (h.currentEpoch.symm.trans hsame).symm
      · obtain ⟨hprevious, hmaxima⟩ := @onEpochStart_snapshot contention s.shared.stats
          node.localCache.policy spec.epochId hsame
        refine ⟨?_, ?_, ?_⟩
        · exact (congrArg ContentionState.currentEpoch hpolicy).trans
            (onEpochStart_currentEpoch s.shared.stats _ _)
        · intro epochId hcurrent
          obtain rfl : spec.epochId = epochId := Option.some.inj hcurrent
          exact ⟨spec.epochId, hreleased, le_refl _⟩
        · intro epochId hcurrent
          obtain rfl : spec.epochId = epochId := Option.some.inj hcurrent
          exact ⟨(congrArg ContentionState.previousEpochStats hpolicy).trans hprevious,
            (congrArg ContentionState.maxima hpolicy).trans hmaxima⟩
  | @hit request htype hrequest | @miss request htype hrequest =>
      have hpolicy := LocalCache.lookup_policy s.shared.stats node.localCache
        (ComputeNode.lookedUp request) event.time
      obtain ⟨hcurrent, hprevious, hmaxima⟩ :=
        onLookup_snapshot s.shared.stats (hlookup htype hrequest)
      exact h.of_policy rfl ((congrArg ContentionState.currentEpoch hpolicy).trans hcurrent)
        ((congrArg ContentionState.previousEpochStats hpolicy).trans hprevious)
        ((congrArg ContentionState.maxima hpolicy).trans hmaxima)
  | @returned request htype =>
      obtain ⟨hcurrent, hprevious, hmaxima⟩ := admitObject_snapshot (A := .exact) node.localCache
        request (ComputeNode.memoryResponse .exact request event.time) event.time
      exact h.of_policy rfl hcurrent hprevious hmaxima

/-- Every node holds the snapshot of its epoch. -/
def Simulator.AllSnapshots (s : Simulator (ContentionAwarePolicy contention capacityBytes)) :
    Prop :=
  ∀ node ∈ s.computeNodes.items, TookSnapshot s.shared.stats s.releasedEpoch node

theorem Simulator.AllSnapshots.move (h : s.AllSnapshots) (hrun : RunInv s phase base)
    {t : Simulator (ContentionAwarePolicy contention capacityBytes)}
    (hmove : Run.Moves (Simulator.step .exact) s t) : t.AllSnapshots := by
  have hfrozen := hrun.frozen_move hmove
  obtain ⟨event, scheduler, s', hpop, hdispatched, rfl⟩ := Simulator.moves_iff.mp hmove
  intro other hother
  rw [(Simulator.release_nodes .exact s').1] at hother
  cases hdispatched with
  | @compute node node' effect hfind hstep =>
      have hmem : node ∈ s.computeNodes.items := (KeyedStore.find_eq_some.mp hfind).1
      rcases KeyedStore.mem_insert.mp hother with rfl | ⟨hold, -⟩
      · exact (hrun.tookSnapshot hpop hfind (h node hmem) hstep).frozen hfrozen
      · exact (h other hold).frozen hfrozen
  | memory => exact (h other hother).frozen hfrozen

theorem allSnapshots_init (config : SimulationConfig)
    (generatedWorkload : Option GeneratedWorkload) :
    (Simulator.releaseNextEpochIfReady .exact
      (Simulator.ofConfig (ContentionAwarePolicy contention capacityBytes) config
        generatedWorkload)).AllSnapshots := by
  intro node hmem
  rw [(Simulator.release_nodes .exact _).1] at hmem
  obtain ⟨plan, hplan⟩ : ∃ plan, (Simulator.ofConfig
      (ContentionAwarePolicy contention capacityBytes) config generatedWorkload).computeNodes =
        Simulator.emplaceNodes _ config plan := ⟨_, rfl⟩
  rw [hplan] at hmem
  obtain ⟨nodeConfig, -, rfl⟩ := (Simulator.emplaceNodes_spec _ config plan).1 node hmem
  exact ⟨rfl, fun epochId hnone => (by cases hnone), fun epochId hnone => (by cases hnone)⟩

end Snapshots

-- ============================================================================
-- Whole runs
-- ============================================================================

namespace Simulator

/-- Between any state of a run and its end the snapshots keep what they hold. -/
theorem holdsPriorTelemetry_of_reachable {P : CachePolicy} {contention : ContentionPolicyConfig}
    {capacityBytes : Nat} (hP : P = ContentionAwarePolicy contention capacityBytes)
    {config : SimulationConfig} (hprepared : Prepared config)
    {generatedWorkload : Option GeneratedWorkload} {final t : Simulator P}
    (hfinal : RunsTo .exact (ofConfig P config generatedWorkload) final)
    (ht : Reachable .exact (ofConfig P config generatedWorkload) t) {node : ComputeNode P}
    (hmem : node ∈ t.computeNodes.items) {request : Request} (hdecides : t.Decides node request) :
    HoldsPriorTelemetry contention final.shared.stats request.epochId
      (contentionState hP node.localCache.policy) := by
  subst hP
  have hall : TurnInv t ∧ t.AllSnapshots := by
    refine Run.invariant_of_reaches (fun u => TurnInv u ∧ u.AllSnapshots) ?_
      ⟨turnInv_init hprepared, allSnapshots_init config generatedWorkload⟩ ht
    rintro a b ⟨hturn, hsnapshots⟩ hmove
    have hnext := turnInv_move hturn hmove
    obtain ⟨⟨phase, base, hrun⟩, -⟩ := hturn
    exact ⟨hnext, hsnapshots.move hrun hmove⟩
  obtain ⟨hturn, hsnapshots⟩ := hall
  have hfrozen : t.Frozen final := frozen_of_reaches hturn (hfinal.reaches_end ht)
  have hsnapshot := (hsnapshots node hmem).frozen hfrozen
  -- the node is in the epoch of the request that it decides on
  obtain ⟨⟨phase, base, hrun⟩, -⟩ := hturn
  obtain ⟨event, scheduler, hpop, htype, hfind, hrequest⟩ := hdecides
  obtain ⟨request', node', hawaits, htarget, hcurrent⟩ := hrun.atSource hpop (Or.inr htype)
  obtain rfl : request = request' := Option.some.inj (hrequest.symm.trans hawaits.find)
  obtain rfl : node = node' := by
    rw [htarget] at hfind
    exact Option.some.inj (hfind.symm.trans hawaits.source)
  obtain ⟨hprevious, hmaxima⟩ := hsnapshot.snapshot request.epochId hcurrent
  have hstamped := (telemetry_of_reachable hprepared hfinal.reaches).consistent.stamped
  refine holdsPriorTelemetry_of_snapshot hstamped hprevious (hmaxima.trans ?_)
  exact congrArg (fun previous => refreshNormalizationMaxima previous {}) hprevious.symm

/-- Prior-epoch telemetry is complete and exclusive.  In every run with the contention-aware
    policy, whenever a node decides on the admission for a request of epoch `E`, which includes
    the choice of the victims, the snapshot of its policy is the weighted sum of the statistics
    that the epochs before `E` have at the end of the run. -/
theorem run_holdsPriorTelemetry {rng : RandomSource} {config : SimulationConfig}
    {s : Simulator (makeCachePolicy .exact config.localCache)}
    (hpolicy : config.localCache.policyType = .contentionAware)
    (h : construct .exact rng config = .ok s) :
    (∃ final, RunsTo .exact s final) ∧ ∀ final, RunsTo .exact s final →
      ∀ t, Reachable .exact s t → ∀ node ∈ t.computeNodes.items,
        ∀ request, t.Decides node request →
          HoldsPriorTelemetry config.localCache.contention final.shared.stats request.epochId
            (contentionState (makeCachePolicy_contentionAware hpolicy) node.localCache.policy) := by
  obtain ⟨prepared, generatedWorkload, rfl, hprepared⟩ := construct_spec h
  refine ⟨exists_runsTo _ hprepared generatedWorkload, ?_⟩
  exact fun final hfinal t ht node hmem request hdecides =>
    holdsPriorTelemetry_of_reachable _ hprepared hfinal ht hmem hdecides

theorem twoEpochWindow_holdsPriorTelemetry :
    ∃ s, construct .exact lowestSource twoEpochWindow = .ok s ∧
      (∃ final, RunsTo .exact s final) ∧ ∀ final, RunsTo .exact s final →
        ∀ t, Reachable .exact s t → ∀ node ∈ t.computeNodes.items,
          ∀ request, t.Decides node request →
            HoldsPriorTelemetry twoEpochWindow.localCache.contention final.shared.stats
              request.epochId
              (contentionState
                (@makeCachePolicy_contentionAware .exact twoEpochWindow.localCache rfl)
                node.localCache.policy) :=
  ⟨_, rfl, run_holdsPriorTelemetry rfl
    (show construct .exact lowestSource twoEpochWindow = .ok _ from rfl)⟩

end Simulator

end DmSimulator
