/-
  DmSimulator.Runs.SplitChannels

  Two bursty runs of one synthetic workload without caching that differ in the
  number of memory channels, with unbounded time.

  Their issuing sides end in the same state, so the same requests arrive at the
  memory node in the same order and at the same distances within every epoch.  If
  every channel of the one run is part of a channel of the other, a request has
  fewer requests ahead of it there, and FIFO servers with fewer jobs are free
  sooner.
-/
import DmSimulator.Runs.Waits
import DmSimulator.Workloads.ChannelCount

namespace DmSimulator

-- ============================================================================
-- Channels and parts of channels
-- ============================================================================

/-- Objects of one part of a channel are on that channel, where the ids of the
    channels are not truncated. -/
theorem memoryChannelForObject_of_dvd {count count' : Nat} (hdvd : count ∣ count')
    {objectId other : ObjectId} (hobject : (objectId - 1) % count' < 2 ^ 32)
    (hother : (other - 1) % count' < 2 ^ 32)
    (h : memoryChannelForObject objectId count' = memoryChannelForObject other count') :
    memoryChannelForObject objectId count = memoryChannelForObject other count := by
  have hchannel : ∀ (id : ObjectId) (n : Nat),
      memoryChannelForObject id n = ((id - 1) % n) % 2 ^ 32 := by
    intro id n
    unfold memoryChannelForObject
    by_cases hid : id = 0
    · rw [if_pos hid, hid, Nat.zero_sub, Nat.zero_mod, Nat.zero_mod]
    · rw [if_neg hid]
  rw [hchannel, hchannel, Nat.mod_eq_of_lt hobject, Nat.mod_eq_of_lt hother] at h
  rw [hchannel, hchannel, ← Nat.mod_mod_of_dvd _ hdvd, h, Nat.mod_mod_of_dvd _ hdvd]

namespace Frontend

variable {config config' : SimulationConfig} {f : Frontend}

/-- With parts of channels for channels a request waits no longer. -/
theorem wait_le (hlink : config'.oneWayLinkLatency = config.oneWayLinkLatency)
    (hlatency : config'.memoryBaseLatency = config.memoryBaseLatency)
    (hbandwidth : config'.memoryBandwidthBytesPerTime = config.memoryBandwidthBytesPerTime)
    (hparts : ∀ a b t t', f.tickets a = some t → f.tickets b = some t' →
      t.channel config' = t'.channel config' → t.channel config = t'.channel config)
    (id : RequestId) : f.wait config' id ≤ f.wait config id := by
  have hjob : jobOf config' f.tickets = jobOf config f.tickets := by
    funext other
    unfold jobOf Ticket.arrival Ticket.serviceTime
    rw [hlink, hlatency, hbandwidth]
  have hsublist : (f.ahead config' id).Sublist (f.ahead config id) := by
    refine List.monotone_filter_right _ fun other hother => ?_
    simp only [decide_eq_true_eq] at hother ⊢
    refine ⟨?_, hother.2⟩
    have hchannel := hother.1
    unfold channelOf at hchannel ⊢
    cases ha : f.tickets other with
    | none =>
        cases hb : f.tickets id with
        | none => rfl
        | some t' =>
            rw [ha, hb] at hchannel
            cases hchannel
    | some t =>
        cases hb : f.tickets id with
        | none =>
            rw [ha, hb] at hchannel
            cases hchannel
        | some t' =>
            rw [ha, hb] at hchannel
            exact congrArg some (hparts other id t t' ha hb (Option.some.inj hchannel))
  unfold wait
  rw [hjob]
  exact Nat.sub_le_sub_right (Fifo.free_mono (hsublist.map _)) _

end Frontend

/-- The requests of a finished run are for the specs of the streams. -/
theorem ExactlyOnce.exists_spec {P : CachePolicy} {config : SimulationConfig} {s : Simulator P}
    (h : ExactlyOnce config s)
    {request : Request} (hmem : request ∈ s.shared.requestTable.items) :
    ∃ nodeConfig ∈ config.computeNodes, ∃ spec ∈ nodeConfig.requests,
      request.IssuedFor nodeConfig.nodeId spec := by
  obtain ⟨nodeConfig, hconfig, hsource⟩ := h.sources request hmem
  obtain ⟨requests, hperm, hfors⟩ := h.perm_of_node hconfig
  have hin : request ∈ requests :=
    hperm.mem_iff.mpr (List.mem_filter.mpr ⟨hmem, decide_eq_true hsource⟩)
  have hexists : ∀ {requests : List Request} {specs : List RequestSpec},
      List.Forall₂ (fun request spec => request.IssuedFor nodeConfig.nodeId spec) requests specs →
        request ∈ requests → ∃ spec ∈ specs, request.IssuedFor nodeConfig.nodeId spec := by
    intro requests specs hall hin
    induction hall with
    | nil => exact absurd hin List.not_mem_nil
    | cons hfor _ ih =>
        rcases List.mem_cons.mp hin with rfl | hrest
        · exact ⟨_, List.mem_cons_self, hfor⟩
        · obtain ⟨spec, hspec, hfor'⟩ := ih hrest
          exact ⟨spec, List.mem_cons_of_mem _ hspec, hfor'⟩
  obtain ⟨spec, hspec, hfor⟩ := hexists hfors hin
  exact ⟨nodeConfig, hconfig, spec, hspec, hfor⟩

-- ============================================================================
-- Two runs
-- ============================================================================

namespace Simulator

variable {P : CachePolicy}

/-- Some turn of the run records `waitTime` as the queue wait of the request. -/
def Waited (s : Simulator P) (id : RequestId) (waitTime : SimTime) : Prop :=
  ∃ t u, Reachable .exact s t ∧ Run.Moves (step .exact) t u ∧ t.RecordsQueueWait u id waitTime

/-- The request without the times at which things happened to it. -/
def untimed (request : Request) : Request :=
  { request with issueTime := 0, memoryEnqueueTime := 0 }

/-- The run from `s'` to `final'` has issued the requests of the run from `s` to `final`,
    and none of them has waited longer for its channel. -/
structure WaitsNoLonger (s final s' final' : Simulator P) : Prop where
  requests : ∀ id, (final'.shared.requestTable.find id).map untimed =
    (final.shared.requestTable.find id).map untimed
  waits : ∀ request ∈ final.shared.requestTable.items,
    (∃ waitTime, s.Waited request.requestId waitTime) ∧
    (∃ waitTime, s'.Waited request.requestId waitTime) ∧
    ∀ waitTime waitTime', s.Waited request.requestId waitTime →
      s'.Waited request.requestId waitTime' → waitTime' ≤ waitTime
  total : final'.shared.stats.totalMemoryWait ≤ final.shared.stats.totalMemoryWait
  longest : final'.shared.stats.maxMemoryWait ≤ final.shared.stats.maxMemoryWait

section TwoRuns

variable {config config' : SimulationConfig} {generatedWorkload generatedWorkload' :
  Option GeneratedWorkload} {final final' : Simulator P} {f : Frontend}

/-- The two runs end with the same issuing side. -/
theorem exists_common_frontend (hprepared : Prepared config) (hprepared' : Prepared config')
    (hP : P.NeverAdmits) (hpolicy : config.localCache.policyType ≠ .globalHottestReplication)
    (hpolicy' : config'.localCache.policyType ≠ .globalHottestReplication)
    (hmode : issueModeOf config = .scheduledBursty)
    (hmode' : issueModeOf config' = .scheduledBursty)
    (hnodes : config'.computeNodes = config.computeNodes)
    (hmemory : config'.memoryNodeId = config.memoryNodeId)
    (hlink : config'.oneWayLinkLatency = config.oneWayLinkLatency)
    (hfinal : RunsTo .exact (ofConfig P config generatedWorkload) final)
    (hfinal' : RunsTo .exact (ofConfig P config' generatedWorkload') final') :
    ∃ f, (final.ShowsFrontend config f ∧ final.NeverHits) ∧
      final'.ShowsFrontend config' f ∧ final'.NeverHits := by
  obtain ⟨f, hsteps, hend, hmirrors⟩ := RunsTo.exists_frontend hprepared hP hpolicy hmode hfinal
  obtain ⟨f', hsteps', hend', hmirrors'⟩ :=
    RunsTo.exists_frontend hprepared' hP hpolicy' hmode' hfinal'
  have hcongr : ∀ {a b}, Frontend.Step config' a b → Frontend.Step config a b :=
    fun hstep => hstep.congr hnodes.symm hmemory.symm hlink.symm
  have hstepsBack := Relation.ReflTransGen.mono (fun a b => hcongr) _ _ hsteps'
  rw [hnodes] at hstepsBack
  obtain rfl : f = f' := Run.end_unique (Frontend.step_rightUnique config) hsteps hstepsBack hend
    fun g hstep => hend' g (hstep.congr hnodes hmemory hlink)
  exact ⟨f, hmirrors, hmirrors'⟩

/-- The request of a ticket of the issuing side. -/
theorem find_of_frontend {phase : RequestId → Phase} {base : SimTime} {bases : EpochId → SimTime}
    (hrun : RunInv final phase base) (hf : final.HasFrontend base bases f)
    (hnil : final.view.pending = 0) (id : RequestId) :
    (final.shared.requestTable.find id).map untimed =
      (f.tickets id).map fun t =>
        { requestId := id
          sourceNodeId := t.sourceNodeId
          objectId := t.objectId
          sizeBytes := t.sizeBytes
          epochId := t.epochId
          currentStage := .completed } := by
  have hticket := hf.tickets id
  cases hfind : final.shared.requestTable.find id with
  | none =>
      unfold View.tickets at hticket
      rw [show final.view.requestTable.find id = none from hfind] at hticket
      rw [Option.map_eq_none_iff.mp hticket.symm]
      rfl
  | some request =>
      obtain ⟨hmem, hid⟩ := KeyedStore.find_eq_some.mp hfind
      have hstage := hrun.completed_of_drained hnil (RunInv.ticket_of_mem hmem).1
      unfold View.tickets at hticket
      rw [show final.view.requestTable.find id = some request from hfind] at hticket
      obtain ⟨t, ht, hdelay⟩ := Option.map_eq_some_iff.mp hticket.symm
      rw [ht, Option.map_some, Option.map_some, ← hid]
      have hsource : t.sourceNodeId = request.sourceNodeId := congrArg Ticket.sourceNodeId hdelay
      have hobject : t.objectId = request.objectId := congrArg Ticket.objectId hdelay
      have hsize : t.sizeBytes = request.sizeBytes := congrArg Ticket.sizeBytes hdelay
      have hepoch : t.epochId = request.epochId := congrArg Ticket.epochId hdelay
      rw [hsource, hobject, hsize, hepoch, ← hstage]
      rfl

/-- Without replication of its own and a cache that never admits, a run on parts of
    channels makes nobody wait longer. -/
theorem waitsNoLonger (hprepared : Prepared config) (hprepared' : Prepared config')
    (hP : P.NeverAdmits) (hpolicy : config.localCache.policyType ≠ .globalHottestReplication)
    (hpolicy' : config'.localCache.policyType ≠ .globalHottestReplication)
    (hmode : issueModeOf config = .scheduledBursty)
    (hmode' : issueModeOf config' = .scheduledBursty)
    (hnodes : config'.computeNodes = config.computeNodes)
    (hmemory : config'.memoryNodeId = config.memoryNodeId)
    (hlink : config'.oneWayLinkLatency = config.oneWayLinkLatency)
    (hlatency : config'.memoryBaseLatency = config.memoryBaseLatency)
    (hbandwidth : config'.memoryBandwidthBytesPerTime = config.memoryBandwidthBytesPerTime)
    (hparts : ∀ nodeConfig ∈ config.computeNodes, ∀ spec ∈ nodeConfig.requests,
      ∀ nodeConfig' ∈ config.computeNodes, ∀ spec' ∈ nodeConfig'.requests,
        memoryChannelForObject spec.objectId config'.memoryChannelCount =
          memoryChannelForObject spec'.objectId config'.memoryChannelCount →
        memoryChannelForObject spec.objectId config.memoryChannelCount =
          memoryChannelForObject spec'.objectId config.memoryChannelCount)
    (hfinal : RunsTo .exact (ofConfig P config generatedWorkload) final)
    (hfinal' : RunsTo .exact (ofConfig P config' generatedWorkload') final') :
    (ofConfig P config generatedWorkload).WaitsNoLonger final
      (ofConfig P config' generatedWorkload') final' := by
  obtain ⟨f, ⟨⟨hconfig, phase, base, bases, hrun, hf, hapart⟩, hmisses⟩,
    ⟨hconfig', phase', base', bases', hrun', hf', hapart'⟩, hmisses'⟩ :=
    exists_common_frontend hprepared hprepared' hP hpolicy hpolicy' hmode hmode' hnodes hmemory
      hlink hfinal hfinal'
  have hnil : final.view.pending = 0 := halted_iff.mp hfinal.halted
  have hnil' : final'.view.pending = 0 := halted_iff.mp hfinal'.halted
  obtain ⟨-, hsettled⟩ := turnInv_of_reachable hprepared hfinal.reaches
  -- the requests are for the objects of the streams
  have hspec : ∀ id t, f.tickets id = some t →
      ∃ nodeConfig ∈ config.computeNodes, ∃ spec ∈ nodeConfig.requests,
        spec.objectId = t.objectId := by
    intro id t ht
    have hticket := hf.tickets id
    rw [ht] at hticket
    unfold View.tickets at hticket
    obtain ⟨request, hfind, hdelay⟩ := Option.map_eq_some_iff.mp hticket
    obtain ⟨nodeConfig, hmem, spec, hin, -, hobject, -⟩ := (hrun.exactlyOnce hnil hsettled).exists_spec
      (KeyedStore.find_eq_some.mp hfind).1
    rw [hconfig] at hmem
    exact ⟨nodeConfig, hmem, spec, hin, hobject.symm.trans (congrArg Ticket.objectId hdelay)⟩
  have hwait : ∀ id, f.wait final'.config id ≤ f.wait final.config id := by
    rw [hconfig, hconfig']
    refine Frontend.wait_le hlink hlatency hbandwidth fun a b t t' ha hb hchannel => ?_
    obtain ⟨nodeConfig, hmem, spec, hin, hobject⟩ := hspec a t ha
    obtain ⟨nodeConfig', hmem', spec', hin', hobject'⟩ := hspec b t' hb
    unfold Ticket.channel at hchannel ⊢
    rw [← hobject, ← hobject'] at hchannel ⊢
    exact hparts nodeConfig hmem spec hin nodeConfig' hmem' spec' hin' hchannel
  refine ⟨fun id => ?_, fun request hmem => ?_, ?_, ?_⟩
  · rw [find_of_frontend hrun hf hnil, find_of_frontend hrun' hf' hnil']
  · obtain ⟨hfind, -⟩ := RunInv.ticket_of_mem hmem
    obtain ⟨request', hfind'⟩ : ∃ request',
        final'.shared.requestTable.find request.requestId = some request' := by
      have hsame := (find_of_frontend hrun' hf' hnil' request.requestId).trans
        (find_of_frontend hrun hf hnil request.requestId).symm
      rw [show final.shared.requestTable.find request.requestId = some request from hfind] at hsame
      obtain ⟨request', hfind', -⟩ := Option.map_eq_some_iff.mp hsame
      exact ⟨request', hfind'⟩
    obtain ⟨start, hphase, -, hstart⟩ := hrun.worth_of_drained hf hapart hmisses hnil hfind
    obtain ⟨start', hphase', -, hstart'⟩ :=
      hrun'.worth_of_drained hf' hapart' hmisses' hnil' hfind'
    obtain ⟨⟨t, u, waitTime, hwaited⟩, hrecorded⟩ :=
      recorded_of_missEnd hprepared hfinal hrun hfind hphase
    obtain ⟨⟨t', u', waitTime', hwaited'⟩, hrecorded'⟩ :=
      recorded_of_missEnd hprepared' hfinal' hrun' hfind' hphase'
    refine ⟨⟨waitTime, t, u, hwaited⟩, ⟨waitTime', t', u', hwaited'⟩, ?_⟩
    rintro w w' ⟨a, b, ha, hab, hw⟩ ⟨a', b', ha', hab', hw'⟩
    rw [hrecorded a b w ha hab hw, hrecorded' a' b' w' ha' hab' hw', hstart, hstart']
    exact hwait request.requestId
  · rw [hrun.totalMemoryWait_eq hf hapart hmisses hnil
        (telemetry_of_reachable hprepared hfinal.reaches),
      hrun'.totalMemoryWait_eq hf' hapart' hmisses' hnil'
        (telemetry_of_reachable hprepared' hfinal'.reaches)]
    exact List.sum_le_sum fun id _ => hwait id
  · rw [(maxWait_of_reachable hprepared' hfinal'.reaches).le_iff hrun' hf' hapart' hmisses' hnil']
    intro id hpos hlt
    have hle := ((maxWait_of_reachable hprepared hfinal.reaches).le_iff hrun hf hapart hmisses hnil
      _).mp (le_refl _) id hpos hlt
    exact le_trans (hwait id) hle

end TwoRuns

-- ============================================================================
-- Splitting channels
-- ============================================================================

theorem neverAdmits_of_alwaysRemote {A : Arith} {localCacheConfig : LocalCacheConfig}
    (h : localCacheConfig.policyType = .alwaysRemote) :
    (makeCachePolicy A localCacheConfig).NeverAdmits := by
  unfold makeCachePolicy
  rw [h]
  exact fun _ _ _ => rfl

/-- The simulator of a synthetic configuration runs the generated streams. -/
theorem construct_synthetic {rng : RandomSource} {config : SimulationConfig}
    {synthetic : SyntheticWorkloadConfig}
    (hsynthetic : config.syntheticWorkload = some synthetic)
    {s : Simulator (makeCachePolicy .exact config.localCache)}
    (h : construct .exact rng config = .ok s) :
    ∃ workload, generateSyntheticWorkload .exact rng
        (synthetic.withChannels config.memoryChannelCount) = .ok workload ∧
      ∃ prepared, s = ofConfig _ prepared (some workload) ∧ Prepared prepared ∧
        prepared =
          { config with
            syntheticWorkload := some (synthetic.withChannels config.memoryChannelCount)
            computeNodes := workload.nodeWorkloads.map fun nodeWorkload =>
              { nodeId := nodeWorkload.nodeId, requests := nodeWorkload.requests } } := by
  unfold construct at h
  simp only [bind_eq_ok, pure_eq_ok, Prod.exists] at h
  obtain ⟨prepared, generatedWorkload, hprepare, rfl⟩ := h
  have hprepared := prepared_of_prepareConfig hprepare
  unfold prepareConfig at hprepare
  simp only [hsynthetic, bind_eq_ok, throwIf_eq_ok, exists_and_left, exists_const,
    decide_eq_false_iff_not, pure_eq_ok, Prod.mk.injEq, exists_eq_left'] at hprepare
  obtain ⟨-, -, workload, hgenerate, _, -, -, rfl, rfl⟩ := hprepare
  exact ⟨workload, hgenerate, _, rfl, hprepared, rfl⟩

/-- Two accepted synthetic configurations without caching, in bursty mode and with hot
    objects on all channels, that differ in the number of memory channels alone: if
    the one number divides the other and no channel id is truncated, the runs issue
    the same requests, and with more channels none of them waits longer.  The channel
    count of the synthetic workload itself is overwritten by the constructor. -/
theorem run_splitChannels {rng : RandomSource} {config : SimulationConfig}
    {synthetic : SyntheticWorkloadConfig} {count : Nat} (overwritten : Nat)
    (hsynthetic : config.syntheticWorkload = some synthetic)
    (hpolicy : config.localCache.policyType = .alwaysRemote)
    (hmode : synthetic.issueMode = .scheduledBursty)
    (hhot : synthetic.hotObjectChannelCount = 0)
    (hdvd : config.memoryChannelCount ∣ count)
    (hfits : count ≤ 2 ^ 32 ∨ synthetic.objectCount ≤ 2 ^ 32)
    {s s' : Simulator (makeCachePolicy .exact config.localCache)}
    (h : construct .exact rng config = .ok s)
    (h' : construct .exact rng
      { config with
        memoryChannelCount := count
        syntheticWorkload := some (synthetic.withChannels overwritten) } = .ok s') :
    (∃ final, RunsTo .exact s final) ∧ (∃ final', RunsTo .exact s' final') ∧
      ∀ final final', RunsTo .exact s final → RunsTo .exact s' final' →
        s.WaitsNoLonger final s' final' := by
  obtain ⟨workload, hgenerate, prepared, rfl, hprepared, heq⟩ := construct_synthetic hsynthetic h
  obtain ⟨workload', hgenerate', prepared', rfl, hprepared', heq'⟩ := construct_synthetic rfl h'
  obtain rfl : workload' = workload := @generateSyntheticWorkload_withChannels .exact rng
    (synthetic.withChannels config.memoryChannelCount) hhot count _ _ hgenerate hgenerate'
  refine ⟨exists_runsTo _ hprepared _, exists_runsTo _ hprepared' _, fun final final' hf hf' => ?_⟩
  have hremote : ∀ other : SimulationConfig, other.localCache = config.localCache →
      other.localCache.policyType ≠ .globalHottestReplication := by
    intro other hother
    rw [hother, hpolicy]
    exact LocalCachePolicyType.noConfusion
  refine waitsNoLonger hprepared hprepared' (neverAdmits_of_alwaysRemote hpolicy)
    (hremote _ (by rw [heq])) (hremote _ (by rw [heq'])) (by rw [heq]; exact hmode)
    (by rw [heq']; exact hmode) (by rw [heq, heq']) (by rw [heq, heq']) (by rw [heq, heq'])
    (by rw [heq, heq']) (by rw [heq, heq']) ?_ hf hf'
  rw [heq, heq']
  intro nodeConfig hmem spec hspec nodeConfig' hmem' spec' hspec' hchannel
  -- the objects that exist have different numbers on each side of the truncation
  have hobject : ∀ c ∈ workload'.nodeWorkloads.map (fun nodeWorkload =>
      ({ nodeId := nodeWorkload.nodeId, requests := nodeWorkload.requests } : ComputeNodeConfig)),
      ∀ spec ∈ c.requests, (spec.objectId - 1) % count < 2 ^ 32 := by
    intro c hc spec hin
    obtain ⟨w, hw, rfl⟩ := List.mem_map.mp hc
    obtain ⟨hpos, hle⟩ := generateSyntheticWorkload_inRange hgenerate w hw spec hin
    have hle' : spec.objectId ≤ synthetic.objectCount := hle
    have hcount : 0 < count := by
      have hchannels := hprepared'.channels_pos
      rw [heq'] at hchannels
      exact hchannels
    rcases hfits with hcountLe | hobjects
    · exact Nat.lt_of_lt_of_le (Nat.mod_lt _ hcount) hcountLe
    · have hmod := Nat.mod_le (spec.objectId - 1) count
      lia
  exact memoryChannelForObject_of_dvd hdvd (hobject nodeConfig hmem spec hspec)
    (hobject nodeConfig' hmem' spec' hspec') hchannel

/-- Two nodes that read twelve objects in bursts. -/
def burstyWorkload : SyntheticWorkloadConfig :=
  { computeNodeIds := [1, 3]
    objectCount := 12
    requestsPerNodePerEpoch := 3
    epochCount := 2
    hotSetSize := 4
    issueMode := .scheduledBursty }

/-- The simulation of that workload over two channels. -/
def burstyConfig : SimulationConfig :=
  { memoryChannelCount := 2
    syntheticWorkload := some burstyWorkload }

theorem burstyConfig_splitChannels :
    ∃ s s' : Simulator (makeCachePolicy .exact burstyConfig.localCache),
      construct .exact lowestSource burstyConfig = .ok s ∧
      construct .exact lowestSource
        { burstyConfig with
          memoryChannelCount := 4
          syntheticWorkload := some (burstyWorkload.withChannels 1) } = .ok s' ∧
      (∃ final, RunsTo .exact s final) ∧ (∃ final', RunsTo .exact s' final') ∧
        ∀ final final', RunsTo .exact s final → RunsTo .exact s' final' →
          s.WaitsNoLonger final s' final' := by
  have haccepted : (construct .exact lowestSource burstyConfig).isOk = true := by decide +kernel
  have haccepted' : (construct .exact lowestSource
    { burstyConfig with
      memoryChannelCount := 4
      syntheticWorkload := some (burstyWorkload.withChannels 1) }).isOk = true := by
    decide +kernel
  cases hs : construct .exact lowestSource burstyConfig with
  | error message =>
      rw [hs] at haccepted
      cases haccepted
  | ok s =>
      cases hs' : construct .exact lowestSource
        { burstyConfig with
          memoryChannelCount := 4
          syntheticWorkload := some (burstyWorkload.withChannels 1) } with
      | error message =>
          rw [hs'] at haccepted'
          cases haccepted'
      | ok s' =>
          exact ⟨s, s', rfl, rfl, run_splitChannels 1 rfl rfl rfl rfl ⟨2, rfl⟩
            (Or.inl (by decide)) hs hs'⟩

-- ============================================================================
-- Truncated channel ids
-- ============================================================================

/-- The source that turns a shuffled list around and draws the two bounds in turn. -/
def reversingSource : RandomSource :=
  { Engine := Bool
    seed := fun _ => false
    bernoulli := fun p engine => (decide (1 ≤ p), engine)
    uniformInt := fun lo hi engine => (if engine then hi else lo, !engine)
    shuffle := fun objects engine => (objects.reverse, engine)
    uniformInt_mem := by
      intro lo hi engine h
      cases engine
      · exact ⟨Nat.le_refl lo, h⟩
      · exact ⟨h, Nat.le_refl hi⟩
    shuffle_perm := fun objects _ => List.reverse_perm objects }

/-- Two nodes that share a hot set of two objects. -/
def lastTwoObjects (objectCount : Nat) : SyntheticWorkloadConfig :=
  { computeNodeIds := [1, 3]
    objectCount := objectCount
    requestsPerNodePerEpoch := 1
    hotSetSize := 2
    hotAccessProbability := 1
    crossNodeOverlap := .high
    issueMode := .scheduledBursty }

/-- One request of each node, for the last two objects. -/
def lastTwoWorkload (objectCount : Nat) : GeneratedWorkload :=
  { nodeWorkloads :=
      [{ nodeId := 1, requests := [{ objectId := objectCount, sizeBytes := 64 }] },
       { nodeId := 3, requests := [{ objectId := objectCount - 1, sizeBytes := 64 }] }]
    epochs :=
      [{ epochId := 0
         hotSetsByNode :=
          AList.insert 3 [objectCount, objectCount - 1]
            (AList.insert 1 [objectCount, objectCount - 1] ∅) }] }

theorem validate_lastTwoObjects {count : Nat} (hcount : count = 641 ∨ count = 2 ^ 32 + 1) :
    validateSyntheticWorkloadConfig .exact ((lastTwoObjects (2 ^ 32 + 2)).withChannels count) =
      .ok () := by
  have heligible : ∀ {objectCount count : Nat}, 0 < count →
      eligibleHotObjectCount ((lastTwoObjects objectCount).withChannels count) = objectCount := by
    intro objectCount count hpos
    have hall : (makeObjectUniverse objectCount).filter (fun objectId =>
        memoryChannelForObject objectId count < count) = makeObjectUniverse objectCount :=
      List.filter_eq_self.mpr fun objectId _ =>
        decide_eq_true (memoryChannelForObject_lt objectId hpos)
    show ((makeObjectUniverse objectCount).filter (fun objectId =>
      memoryChannelForObject objectId count < count)).length = objectCount
    rw [hall]
    exact List.length_range'
  unfold validateSyntheticWorkloadConfig
  rcases hcount with rfl | rfl
  · simp only [heligible (show 0 < 641 by decide)]
    decide +kernel
  · simp only [heligible (show 0 < 2 ^ 32 + 1 by decide)]
    decide +kernel

theorem nextObjects_reversed {objectCount : Nat} (hobjects : 2 ≤ objectCount) :
    nextObjects (makeObjectUniverse objectCount).reverse 0 2 =
      .ok ([objectCount, objectCount - 1], 2) := by
  have hlength : (makeObjectUniverse objectCount).length = objectCount := List.length_range'
  have hat : ∀ i, i < objectCount →
      objectAt (makeObjectUniverse objectCount).reverse i = .ok (objectCount - i) := by
    intro i hi
    unfold objectAt
    rw [List.length_reverse, hlength, Nat.mod_eq_of_lt hi,
      List.getElem?_reverse (by rw [hlength]; exact hi), hlength]
    unfold makeObjectUniverse
    rw [List.getElem?_range' (by omega)]
    show Except.ok _ = _
    congr 1
    lia
  unfold nextObjects
  rw [show List.range 2 = [0, 1] from rfl, List.mapM_cons, List.mapM_cons, List.mapM_nil,
    hat _ (by omega), hat _ (by omega)]
  rfl

theorem generate_lastTwoObjects {objectCount count : Nat} (hobjects : 2 ≤ objectCount)
    (hvalid : validateSyntheticWorkloadConfig .exact
      ((lastTwoObjects objectCount).withChannels count) = .ok ()) :
    generateSyntheticWorkload .exact reversingSource
      ((lastTwoObjects objectCount).withChannels count) = .ok (lastTwoWorkload objectCount) := by
  have hsizes : ∀ objectId, objectId ≤ objectCount →
      (List.replicate (objectCount + 1) 64).getD objectId 0 = 64 := by
    intro objectId hle
    rw [List.getD_eq_getElem?_getD, List.getElem?_replicate, if_pos (Nat.lt_succ_of_le hle)]
    rfl
  have hfirst := hsizes objectCount (le_refl _)
  have hsecond := hsizes (objectCount - 1) (Nat.sub_le _ _)
  have hlayout : epochLayout ((lastTwoObjects objectCount).withChannels count)
      (makeObjectUniverse objectCount).reverse 0 {} 0 =
        .ok ({ sharedHotObjects := [objectCount, objectCount - 1]
               privateHotObjectsByNode := [[], []] }, 2) := by
    show (nextObjects (makeObjectUniverse objectCount).reverse 0 2 >>= fun _ => _) = _
    rw [nextObjects_reversed hobjects]
    rfl
  unfold generateSyntheticWorkload
  rw [hvalid]
  show generateEpochs .exact reversingSource ((lastTwoObjects objectCount).withChannels count)
    (makeObjectUniverse objectCount).reverse
    (eligibleHotObjects ((lastTwoObjects objectCount).withChannels count)
      (makeObjectUniverse objectCount).reverse)
    (List.replicate (objectCount + 1) 64) 1 0 {} 0 false
    { nodeWorkloads := [{ nodeId := 1, requests := [] }, { nodeId := 3, requests := [] }]
      epochs := [] } = _
  rw [eligibleHotObjects_eq_self rfl]
  -- neither the universe nor the table of sizes needs to be written out
  generalize List.replicate (objectCount + 1) 64 = objectSizes at hfirst hsecond ⊢
  generalize (makeObjectUniverse objectCount).reverse = objects at hlayout ⊢
  have hoffset : ∀ nodeId, scheduledIssueOffset .exact reversingSource
      ((lastTwoObjects objectCount).withChannels count) nodeId 0 0 = 0 := by
    intro nodeId
    simp [scheduledIssueOffset, nodeEpochJitter, lastTwoObjects,
      SyntheticWorkloadConfig.withChannels]
  obtain ⟨workload, hgenerate, hworkload⟩ : ∃ workload, generateEpochs .exact reversingSource
      ((lastTwoObjects objectCount).withChannels count) objects objects objectSizes 1 0 {} 0 false
      { nodeWorkloads := [{ nodeId := 1, requests := [] }, { nodeId := 3, requests := [] }]
        epochs := [] } = .ok workload ∧
      workload =
        { nodeWorkloads :=
            [{ nodeId := 1
               requests :=
                [{ objectId := objectCount
                   sizeBytes := objectSizes.getD objectCount 0 }] },
             { nodeId := 3
               requests :=
                [{ objectId := objectCount - 1
                   sizeBytes := objectSizes.getD (objectCount - 1) 0 }] }]
          epochs := (lastTwoWorkload objectCount).epochs } := by
    simp only [generateEpochs, hlayout]
    refine ⟨_, rfl, ?_⟩
    simp only [hoffset]
    rfl
  rw [hgenerate, hworkload, hfirst, hsecond]
  rfl

/-- Two nodes that read one object each, of the last two of more than 2^32. -/
def truncatedConfig (count : Nat) : SimulationConfig :=
  { memoryChannelCount := count
    syntheticWorkload := some (lastTwoObjects (2 ^ 32 + 2)) }

/-- The simulator of that configuration. -/
def truncated (count : Nat) : Simulator AlwaysRemotePolicy :=
  ofConfig AlwaysRemotePolicy
    { truncatedConfig count with
      syntheticWorkload := some ((lastTwoObjects (2 ^ 32 + 2)).withChannels count)
      computeNodes :=
        [{ nodeId := 1, requests := [{ objectId := 2 ^ 32 + 2, sizeBytes := 64 }] },
         { nodeId := 3, requests := [{ objectId := 2 ^ 32 + 1, sizeBytes := 64 }] }] }
    (some (lastTwoWorkload (2 ^ 32 + 2)))

theorem construct_truncated {count : Nat} (hcount : count = 641 ∨ count = 2 ^ 32 + 1) :
    construct .exact reversingSource (truncatedConfig count) = .ok (truncated count) := by
  have hgenerate := generate_lastTwoObjects (show 2 ≤ 2 ^ 32 + 2 by decide)
    (validate_lastTwoObjects hcount)
  unfold construct prepareConfig
  simp only [truncatedConfig]
  unfold SyntheticWorkloadConfig.withChannels at hgenerate
  rw [hgenerate]
  rcases hcount with rfl | rfl <;> rfl

/-- A run with enough fuel comes to its end. -/
theorem runsTo_of_run {P : CachePolicy} {s : Simulator P} {fuel : Nat}
    {check : Simulator P → Bool}
    (h : (match run .exact fuel s with
      | .ok (some final) => check final
      | _ => false) = true) : ∃ final, RunsTo .exact s final ∧ check final = true := by
  cases hrun : run .exact fuel s with
  | error e => simp [hrun] at h
  | ok result =>
      cases result with
      | none => simp [hrun] at h
      | some final => exact ⟨final, ⟨fuel, hrun⟩, by simpa [hrun] using h⟩

/-- Without a bound on the channels or the objects, more channels can make a request
    wait: the ids of the channels of two objects can be the same after truncation. -/
theorem truncated_splitChannels :
    ¬ ∀ (rng : RandomSource) (config : SimulationConfig) (synthetic : SyntheticWorkloadConfig)
      (count overwritten : Nat) (s s' : Simulator (makeCachePolicy .exact config.localCache)),
      config.syntheticWorkload = some synthetic →
      config.localCache.policyType = .alwaysRemote →
      synthetic.issueMode = .scheduledBursty →
      synthetic.hotObjectChannelCount = 0 →
      config.memoryChannelCount ∣ count →
      construct .exact rng config = .ok s →
      construct .exact rng
        { config with
          memoryChannelCount := count
          syntheticWorkload := some (synthetic.withChannels overwritten) } = .ok s' →
      ∀ final final', RunsTo .exact s final → RunsTo .exact s' final' →
        s.WaitsNoLonger final s' final' := by
  intro hall
  obtain ⟨final, hfinal, hnone⟩ := @runsTo_of_run _ (truncated 641) 100
    (fun final => decide (final.shared.stats.totalMemoryWait = 0)) (by decide +kernel)
  obtain ⟨final', hfinal', hsome⟩ := @runsTo_of_run _ (truncated (2 ^ 32 + 1)) 100
    (fun final => decide (0 < final.shared.stats.totalMemoryWait)) (by decide +kernel)
  have hwaits := hall reversingSource (truncatedConfig 641) (lastTwoObjects (2 ^ 32 + 2))
    (2 ^ 32 + 1) 1 (truncated 641) (truncated (2 ^ 32 + 1)) rfl rfl rfl rfl ⟨6700417, rfl⟩
    (construct_truncated (Or.inl rfl)) (construct_truncated (Or.inr rfl)) final final' hfinal hfinal'
  have htotal := hwaits.total
  rw [of_decide_eq_true hnone] at htotal
  exact Nat.not_le_of_lt (of_decide_eq_true hsome) htotal

end Simulator

end DmSimulator
