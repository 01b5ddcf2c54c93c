/-
  DmSimulator.Runs.Drain

  The memory channels run dry, in either reading of the arithmetic: a channel
  that has requests in its queue has an event that will serve them, unless that
  event was refused.
-/
import DmSimulator.Runs.Drops
import DmSimulator.Runs.Lifecycle

namespace DmSimulator

-- ============================================================================
-- Written channels and requests
-- ============================================================================

theorem sum_map_set {α M : Type} [AddCommMonoid M] (weight : α → M) {l : List α} {i : Nat} {a : α}
    (h : l[i]? = some a) (b : α) :
    ((l.set i b).map weight).sum + weight a = (l.map weight).sum + weight b := by
  induction l generalizing i with
  | nil => simp at h
  | cons first rest ih =>
      cases i with
      | zero =>
          rw [List.getElem?_cons_zero, Option.some.injEq] at h
          rw [List.set_cons_zero, List.map_cons, List.map_cons, List.sum_cons, List.sum_cons, h,
            add_right_comm, add_comm (weight b), add_right_comm]
      | succ i =>
          rw [List.getElem?_cons_succ] at h
          rw [List.set_cons_succ, List.map_cons, List.map_cons, List.sum_cons, List.sum_cons,
            add_assoc, ih h, add_assoc]

theorem Shared.table_of_none (sh : Shared) {effect : Effect} (h : effect.request = none) :
    (sh.apply effect).requestTable = sh.requestTable := by
  unfold Shared.apply
  rw [h]

theorem Shared.table_of_some (sh : Shared) {effect : Effect} {request : Request}
    (h : effect.request = some request) :
    (sh.apply effect).requestTable = sh.requestTable.insert request := by
  unfold Shared.apply
  rw [h]

/-- An effect writes a request of the table anew, under the same ticket, or adds the request
    of the next id. -/
def Effect.Writes (effect : Effect) (sh : Shared) : Prop :=
  ∀ written, effect.request = some written →
    (∃ old, sh.requestTable.find written.requestId = some old ∧
      written.ticket = old.ticket) ∨
      (written.requestId = sh.nextRequestId ∧ effect.issued = 1)

theorem Effect.writes_none {effect : Effect} {sh : Shared} (h : effect.request = none) :
    effect.Writes sh := by
  intro written hwritten
  rw [h] at hwritten
  cases hwritten

theorem Effect.writes_some {effect : Effect} {sh : Shared} {event : Event}
    {old written : Request} (hfind : sh.requestTable.find event.requestId = some old)
    (hrequest : effect.request = some written) (hticket : written.ticket = old.ticket) :
    effect.Writes sh := by
  intro other hother
  rw [hrequest] at hother
  cases hother
  refine Or.inl ⟨old, ?_, hticket⟩
  rw [show written.requestId = old.requestId from congrArg Ticket.requestId hticket,
    KeyedStore.key_of_find hfind]
  exact hfind

theorem ComputeNode.ComputeStep.writes {P : CachePolicy} {A : Arith} {node node' : ComputeNode P}
    {event : Event} {sh : Shared} {effect : Effect}
    (h : ComputeStep A node event sh node' effect) : effect.Writes sh := by
  cases h with
  | drained | complete => exact Effect.writes_none rfl
  | issue =>
      intro written hwritten
      cases hwritten
      exact Or.inr ⟨rfl, rfl⟩
  | hit _ hrequest | miss _ hrequest | hitComplete _ hrequest | returned _ hrequest =>
      exact Effect.writes_some hrequest rfl rfl

theorem MemoryNode.MemoryStep.writes {A : Arith} {m m' : MemoryNode} {event : Event} {sh : Shared}
    {effect : Effect} (h : MemoryStep A m event sh m' effect) : effect.Writes sh := by
  cases h with
  | forwardIdle _ hrequest | forwardBusy _ hrequest | start _ hrequest =>
      exact Effect.writes_some hrequest rfl rfl
  | completeIdle | completeNext => exact Effect.writes_none rfl

/-- Requests keep their tickets. -/
theorem Effect.Writes.ticket {effect : Effect} {sh : Shared} (h : effect.Writes sh)
    (hfresh : ∀ id, sh.nextRequestId ≤ id → sh.requestTable.find id = none) {id : RequestId}
    {request : Request} (hfind : sh.requestTable.find id = some request) :
    ∃ request', (sh.apply effect).requestTable.find id = some request' ∧
      request'.ticket = request.ticket := by
  cases hrequest : effect.request with
  | none =>
      rw [Shared.table_of_none _ hrequest]
      exact ⟨request, hfind, rfl⟩
  | some written =>
      rw [Shared.table_of_some _ hrequest, KeyedStore.find_insert]
      by_cases heq : id = written.requestId
      · rw [if_pos heq]
        rcases h written hrequest with ⟨old, hold, hsame⟩ | ⟨hnext, -⟩
        · rw [← heq, hfind] at hold
          cases hold
          exact ⟨written, rfl, hsame⟩
        · rw [hfresh id (by rw [heq, hnext])] at hfind
          cases hfind
      · rw [if_neg heq]
        exact ⟨request, hfind, rfl⟩

namespace Simulator

variable {P : CachePolicy} {A : Arith} {s s' : Simulator P} {event : Event}
  {scheduler : Scheduler}

-- ============================================================================
-- Channels with work
-- ============================================================================

/-- The channel of a request. -/
def routeOf (s : Simulator P) (id : RequestId) : Option MemoryChannelId :=
  (s.shared.requestTable.find id).map s.memoryNode.channelFor

/-- A start or a completion of service was scheduled for a request of the channel. -/
def Scheduled (s : Simulator P) (c : MemoryChannelId) (type : EventType) : Prop :=
  ∃ e ∈ s.shared.scheduler.raised, e.type = type ∧ s.routeOf e.requestId = some c

/-- The queue holds requests of the channel; a channel with a queue is flagged as busy, and a
    flag stands for a scheduled event. -/
structure Armed (s : Simulator P) (c : MemoryChannelId) (channel : ChannelState) : Prop where
  routed : ∀ id ∈ channel.queuedRequests, s.routeOf id = some c
  driven : channel.queuedRequests ≠ [] →
    channel.serviceStartScheduled = true ∨ channel.serviceInProgress = true
  starting : channel.serviceStartScheduled = true → s.Scheduled c .memoryServiceStart
  serving : channel.serviceInProgress = true → s.Scheduled c .memoryServiceComplete

/-- No id beyond the next one is in use, the channels are armed, and no start of service was
    refused. -/
structure Drains (s : Simulator P) : Prop where
  fresh : ∀ id, s.shared.nextRequestId ≤ id → s.shared.requestTable.find id = none
  armed : ∀ c channel, s.memoryNode.channels[c]? = some channel → s.Armed c channel
  starts : ∀ e ∈ s.shared.scheduler.refused, e.type ≠ .memoryServiceStart

/-- Writing a request changes no route. -/
theorem Drains.route {effect : Effect} (h : s.Drains) (hwrites : effect.Writes s.shared)
    (hshared : s'.shared = (s.popped scheduler).shared.apply effect)
    (hconfig : s'.memoryNode.config = s.memoryNode.config) {id : RequestId} {c : MemoryChannelId}
    (hid : s.routeOf id = some c) : s'.routeOf id = some c := by
  obtain ⟨request, hfind, hchannel⟩ := Option.map_eq_some_iff.mp hid
  obtain ⟨request', hfind', hticket⟩ := hwrites.ticket h.fresh hfind
  have hfor : s'.memoryNode.channelFor request' = s.memoryNode.channelFor request := by
    unfold MemoryNode.channelFor
    rw [hconfig, show request'.objectId = request.objectId from congrArg Ticket.objectId hticket]
  rw [routeOf, hshared]
  exact Option.map_eq_some_iff.mpr ⟨request', hfind', hfor.trans hchannel⟩

/-- Ids stay fresh. -/
theorem Drains.fresh_apply {effect : Effect} (h : s.Drains) (hwrites : effect.Writes s.shared)
    (hshared : s'.shared = (s.popped scheduler).shared.apply effect) :
    ∀ id, s'.shared.nextRequestId ≤ id → s'.shared.requestTable.find id = none := by
  intro id hle
  rw [hshared] at hle ⊢
  have hle' : s.shared.nextRequestId + effect.issued ≤ id := hle
  have hold : s.shared.requestTable.find id = none := h.fresh id (by lia)
  cases hrequest : effect.request with
  | none =>
      rw [Shared.table_of_none _ hrequest]
      exact hold
  | some written =>
      rw [Shared.table_of_some _ hrequest, KeyedStore.find_insert, if_neg]
      · exact hold
      · rintro rfl
        rcases hwrites written hrequest with ⟨old, hfind, -⟩ | ⟨hnext, hissued⟩
        · rw [hold] at hfind
          cases hfind
        · lia

/-- An event that was raised is still raised, unless it is the one that is processed; and so
    are the events of the effect. -/
theorem mem_raised {effect : Effect} (hpop : s.shared.scheduler.popNext = some (event, scheduler))
    (hshared : s'.shared = (s.popped scheduler).shared.apply effect) {e : EventRecord}
    (he : e ∈ effect.events ∨ e ∈ s.shared.scheduler.raised ∧ e ≠ event.record) :
    e ∈ s'.shared.scheduler.raised := by
  rw [hshared]
  show e ∈ (scheduler.scheduleAll effect.events).raised
  rw [Scheduler.scheduleAll_raised, Multiset.mem_add]
  rcases he with hnew | ⟨hold, hne⟩
  · exact Or.inl (Multiset.mem_coe.mpr hnew)
  · rw [Scheduler.popNext_raised hpop] at hold
    exact Or.inr ((Multiset.mem_cons.mp hold).resolve_left hne)

/-- A schedule stays scheduled under another event. -/
theorem Scheduled.keep {effect : Effect} {c : MemoryChannelId} {type : EventType}
    (h : s.Scheduled c type) (hpop : s.shared.scheduler.popNext = some (event, scheduler))
    (hshared : s'.shared = (s.popped scheduler).shared.apply effect)
    (hroute : ∀ id, s.routeOf id = some c → s'.routeOf id = some c)
    (hother : event.type = type → s.routeOf event.requestId ≠ some c) : s'.Scheduled c type := by
  obtain ⟨e, he, htype, hid⟩ := h
  refine ⟨e, mem_raised hpop hshared (Or.inr ⟨he, ?_⟩), htype, hroute _ hid⟩
  rintro rfl
  exact hother htype hid

theorem Armed.keep {effect : Effect} {c : MemoryChannelId} {channel : ChannelState}
    (h : s.Armed c channel) (hpop : s.shared.scheduler.popNext = some (event, scheduler))
    (hshared : s'.shared = (s.popped scheduler).shared.apply effect)
    (hroute : ∀ id, s.routeOf id = some c → s'.routeOf id = some c)
    (hother : event.type = .memoryServiceStart ∨ event.type = .memoryServiceComplete →
      s.routeOf event.requestId ≠ some c) : s'.Armed c channel := by
  refine ⟨fun id hid => hroute id (h.routed id hid), h.driven, fun hflag => ?_, fun hflag => ?_⟩
  · exact (h.starting hflag).keep hpop hshared hroute fun htype => hother (Or.inl htype)
  · exact (h.serving hflag).keep hpop hshared hroute fun htype => hother (Or.inr htype)

/-- The memory node's handlers keep the channel they work on armed. -/
theorem Drains.armed_step {m' : MemoryNode} {effect : Effect} (h : s.Drains)
    (hpop : s.shared.scheduler.popNext = some (event, scheduler))
    (hshared : s'.shared = (s.popped scheduler).shared.apply effect)
    (hconfig : s'.memoryNode.config = s.memoryNode.config)
    (hstep : MemoryNode.MemoryStep A s.memoryNode event (s.popped scheduler).shared m' effect) :
    ∃ c channel', s.routeOf event.requestId = some c ∧ m' = s.memoryNode.setChannel c channel' ∧
      s'.Armed c channel' := by
  have hroute : ∀ c id, s.routeOf id = some c → s'.routeOf id = some c :=
    fun c id => h.route hstep.writes hshared hconfig
  have hroutes : ∀ {request : Request}, s.shared.requestTable.find event.requestId = some request →
      s.routeOf event.requestId = some (s.memoryNode.channelFor request) := by
    intro request hrequest
    rw [routeOf, hrequest]
    rfl
  have hraised : ∀ {e : EventRecord} {c : MemoryChannelId}, e ∈ effect.events →
      s'.routeOf e.requestId = some c → s'.Scheduled c e.type :=
    fun he hid => ⟨_, mem_raised hpop hshared (Or.inl he), rfl, hid⟩
  cases hstep with
  | @forwardIdle request channel htype hrequest hchannel =>
      have hc := hroutes hrequest
      have harmed := h.armed _ channel hchannel
      have hqueue : ∀ id ∈ channel.queuedRequests ++ [event.requestId],
          s'.routeOf id = some (s.memoryNode.channelFor request) := by
        intro id hid
        rcases List.mem_append.mp hid with hold | hnew
        · exact hroute _ id (harmed.routed id hold)
        · rw [List.mem_singleton.mp hnew]
          exact hroute _ _ hc
      refine ⟨_, _, hc, rfl, hqueue, fun _ => Or.inl rfl, fun _ => ?_, fun hflag => absurd hflag Bool.false_ne_true⟩
      -- the new start event is for the head of the queue
      refine hraised List.mem_cons_self (hqueue _ ?_)
      cases channel.queuedRequests with
      | nil => exact List.mem_cons_self
      | cons first rest => exact List.mem_cons_self
  | @forwardBusy request channel htype hrequest hchannel hbusy =>
      have hc := hroutes hrequest
      have harmed := h.armed _ channel hchannel
      refine ⟨_, _, hc, rfl, fun id hid => ?_, fun _ => hbusy.symm, fun hflag => ?_,
        fun hflag => ?_⟩
      · rcases List.mem_append.mp hid with hold | hnew
        · exact hroute _ id (harmed.routed id hold)
        · rw [List.mem_singleton.mp hnew]
          exact hroute _ _ hc
      · exact (harmed.starting hflag).keep hpop hshared (hroute _) fun heq => by
          cases htype.symm.trans heq
      · exact (harmed.serving hflag).keep hpop hshared (hroute _) fun heq => by
          cases htype.symm.trans heq
  | @start request channel rest htype hrequest hchannel hqueue =>
      have hc := hroutes hrequest
      have harmed := h.armed _ channel hchannel
      refine ⟨_, _, hc, rfl, fun id hid => ?_, fun _ => Or.inr rfl, fun hflag => absurd hflag Bool.false_ne_true,
        fun _ => hraised List.mem_cons_self (hroute _ _ ?_)⟩
      · exact hroute _ id (harmed.routed id (hqueue ▸ List.mem_cons_of_mem _ hid))
      · rw [KeyedStore.key_of_find hrequest]
        exact hc
  | @completeIdle request channel htype hrequest hchannel hprogress hqueue =>
      have harmed := h.armed _ channel hchannel
      refine ⟨_, _, hroutes hrequest, rfl, fun id hid => absurd hid List.not_mem_nil, fun hne => absurd rfl hne,
        fun hflag => ?_, fun hflag => absurd hflag Bool.false_ne_true⟩
      exact (harmed.starting hflag).keep hpop hshared (hroute _) fun heq => by
        cases htype.symm.trans heq
  | @completeNext request channel next rest htype hrequest hchannel hprogress hqueue =>
      have harmed := h.armed _ channel hchannel
      have hrouted : ∀ id ∈ next :: rest,
          s'.routeOf id = some (s.memoryNode.channelFor request) :=
        fun id hid => hroute _ id (harmed.routed id (hqueue ▸ hid))
      refine ⟨_, _, hroutes hrequest, rfl, hrouted, fun _ => Or.inl rfl, fun _ => ?_,
        fun hflag => absurd hflag Bool.false_ne_true⟩
      exact hraised (List.mem_cons_of_mem _ List.mem_cons_self) (hrouted next List.mem_cons_self)

/-- Starts of service are scheduled for the present. -/
theorem Dispatched.starts_now (h : Dispatched A s event s') :
    ∃ effect : Effect, s'.shared = s.shared.apply effect ∧
      ∀ e ∈ effect.events, e.type = .memoryServiceStart → e.time = event.time := by
  obtain ⟨effect, hshared, htimes⟩ := h.event_times
  refine ⟨effect, hshared, fun e he htype => ?_⟩
  rcases htimes e he with hdelayed | htime | ⟨hgenerate, -⟩
  · rw [htype] at hdelayed
    cases hdelayed
  · exact htime
  · cases htype.symm.trans hgenerate

theorem Drains.dispatch (h : s.Drains)
    (hpop : s.shared.scheduler.popNext = some (event, scheduler))
    (hdispatched : Dispatched A (s.popped scheduler) event s') : s'.Drains := by
  have hstarts : ∀ e ∈ s'.shared.scheduler.refused, e.type ≠ .memoryServiceStart := by
    obtain ⟨effect, hshared, hnow⟩ := hdispatched.starts_now
    obtain ⟨-, htime, -, hrefused, -⟩ := Scheduler.popNext_eq_some hpop
    rw [hshared]
    show ∀ e ∈ (scheduler.scheduleAll effect.events).refused, _
    rw [Scheduler.scheduleAll_refused, hrefused, htime]
    intro e he htype
    rcases List.mem_append.mp he with hold | hnew
    · exact h.starts e hold htype
    · obtain ⟨record, hin, rfl⟩ := List.mem_map.mp hnew
      obtain ⟨hrecord, hpast⟩ := List.mem_filter.mp hin
      have hlt : record.time < event.time := of_decide_eq_true hpast
      rw [hnow record hrecord htype] at hlt
      exact absurd hlt (Nat.lt_irrefl _)
  cases hdispatched with
  | @compute node node' effect hfind hstep =>
      have hwrites : effect.Writes s.shared := hstep.writes
      have hshared : ((s.popped scheduler).afterCompute event node' effect).shared =
          (s.popped scheduler).shared.apply effect := rfl
      refine ⟨h.fresh_apply hwrites hshared, fun c channel hchannel => ?_, hstarts⟩
      refine (h.armed c channel hchannel).keep hpop hshared
        (fun id hid => h.route hwrites hshared rfl hid) fun htype => ?_
      cases hstep with
      | drained heq | issue heq | hit heq | miss heq | hitComplete heq | returned heq
      | complete heq =>
          rw [heq] at htype
          rcases htype with h | h <;> cases h
  | @memory memoryNode effect hfind htarget hstep =>
      have hwrites : effect.Writes s.shared := hstep.writes
      have hconfig : memoryNode.config = s.memoryNode.config := by cases hstep <;> rfl
      have hshared : ((s.popped scheduler).afterMemory event memoryNode effect).shared =
          (s.popped scheduler).shared.apply effect := rfl
      obtain ⟨c₀, channel₀, hroute, hset, harmed⟩ := h.armed_step hpop hshared hconfig hstep
      refine ⟨h.fresh_apply hwrites hshared, fun c channel hchannel => ?_, hstarts⟩
      have hchannels : memoryNode.channels = s.memoryNode.channels.set c₀ channel₀ := by
        rw [hset]
        rfl
      have hget : (s.memoryNode.channels.set c₀ channel₀)[c]? = some channel := hchannels ▸ hchannel
      rw [List.getElem?_set] at hget
      by_cases heq : c₀ = c
      · rw [if_pos heq] at hget
        split at hget
        · cases hget
          rw [← heq]
          exact harmed
        · cases hget
      · -- the event is for another channel
        rw [if_neg heq] at hget
        refine (h.armed c channel hget).keep hpop hshared
          (fun id hid => h.route hwrites hshared hconfig hid) fun _ hother => ?_
        exact heq (Option.some.inj (hroute.symm.trans hother))

theorem Drains.release (h : s.Drains) : (releaseNextEpochIfReady A s).Drains := by
  obtain ⟨records, htypes, hshared⟩ := release_shared A s
  have hmemory := (release_nodes A s).2
  have hroute : ∀ id, (releaseNextEpochIfReady A s).routeOf id = s.routeOf id := by
    intro id
    rw [routeOf, hshared, hmemory]
    rfl
  have hraised : ∀ {c : MemoryChannelId} {type : EventType}, s.Scheduled c type →
      (releaseNextEpochIfReady A s).Scheduled c type := by
    rintro c type ⟨e, he, htype, hid⟩
    refine ⟨e, ?_, htype, (hroute _).trans hid⟩
    rw [hshared]
    show e ∈ (s.shared.scheduler.scheduleAll records).raised
    rw [Scheduler.scheduleAll_raised]
    exact Multiset.mem_add.mpr (Or.inr he)
  refine ⟨?_, fun c channel hchannel => ?_, ?_⟩
  · rw [hshared]
    exact h.fresh
  · have harmed := h.armed c channel (hmemory ▸ hchannel)
    exact ⟨fun id hid => (hroute id).trans (harmed.routed id hid), harmed.driven,
      fun hflag => hraised (harmed.starting hflag), fun hflag => hraised (harmed.serving hflag)⟩
  · rw [hshared]
    show ∀ e ∈ (s.shared.scheduler.scheduleAll records).refused, _
    rw [Scheduler.scheduleAll_refused]
    intro e he htype
    rcases List.mem_append.mp he with hold | hnew
    · exact h.starts e hold htype
    · obtain ⟨record, hin, rfl⟩ := List.mem_map.mp hnew
      cases (htypes record (List.mem_filter.mp hin).1).symm.trans htype

theorem drains_move {t : Simulator P} (h : s.Drains) (hmove : Run.Moves (step A) s t) :
    t.Drains := by
  obtain ⟨event, scheduler, s', hpop, hdispatched, rfl⟩ := moves_iff.mp hmove
  exact (h.dispatch hpop hdispatched).release

theorem drains_init (P : CachePolicy) (config : SimulationConfig)
    (generatedWorkload : Option GeneratedWorkload) :
    (ofConfig P config generatedWorkload).Drains := by
  refine ⟨fun id _ => rfl, fun c channel hchannel => ?_, fun e he => by cases he⟩
  have hempty : channel = {} := by
    have hin := List.mem_of_getElem? hchannel
    exact List.eq_of_mem_replicate hin
  subst hempty
  exact ⟨fun id hid => absurd hid List.not_mem_nil, fun hne => absurd rfl hne,
    fun hflag => absurd hflag Bool.false_ne_true, fun hflag => absurd hflag Bool.false_ne_true⟩

/-- When nothing is pending and nothing has been lost, no channel has a queue. -/
theorem Drains.queues_empty (h : s.Drains) (hpending : s.shared.scheduler.pending = 0)
    (hlost : s.lost = 0) {c : MemoryChannelId} {channel : ChannelState}
    (hchannel : s.memoryNode.channels[c]? = some channel) : channel.queuedRequests = [] := by
  have harmed := h.armed c channel hchannel
  have hrefused : ∀ e ∈ s.shared.scheduler.raised, ∃ event ∈ s.shared.scheduler.refused,
      event.record = e := by
    intro e he
    rw [Scheduler.raised, hpending, Multiset.zero_add] at he
    exact List.mem_map.mp (Multiset.mem_coe.mp he)
  by_contra hne
  rcases harmed.driven hne with hflag | hflag
  · obtain ⟨e, he, htype, -⟩ := harmed.starting hflag
    obtain ⟨event, hin, rfl⟩ := hrefused e he
    exact h.starts event hin htype
  · obtain ⟨e, he, htype, -⟩ := harmed.serving hflag
    obtain ⟨event, hin, rfl⟩ := hrefused e he
    have hnot := List.countP_eq_zero.mp hlost event hin
    rw [show event.type = _ from htype] at hnot
    exact hnot rfl

end Simulator

end DmSimulator
