/-
  DmSimulator.Runs.Servers

  The memory channels as FIFO servers, with unbounded time.

  `ServerInv` ties the two flags and the queue of a channel to the places of its
  requests: which have been served and when they started, which one is about to
  start or in service, and which wait.  The lemmas are the moves of a server:
  a request joins, begins service, finishes, or nothing happens on the channel.
-/
import DmSimulator.Lib.Fifo
import DmSimulator.Runs.Lifecycle

namespace DmSimulator

/-- The tickets of the issued requests. -/
abbrev Tickets : Type := RequestId → Option Ticket

def View.tickets (v : View) : Tickets := fun id => (v.requestTable.find id).map Request.ticket

/-- Where a request stands as seen from its memory channel. -/
inductive Place
  | away
  | queued
  | starting (start : SimTime)
  | serving (start : SimTime)
  | served (start : SimTime)
deriving DecidableEq

namespace Place

/-- The request is in the queue of its channel. -/
def Waiting : Place → Prop
  | queued | starting _ => True
  | _ => False

/-- When the service of the request started. -/
def start : Place → Option SimTime
  | serving start | served start => some start
  | _ => none

end Place

def Phase.place : Phase → Place
  | .lookup | .hit | .hitDone | .hitEnd | .forward => .away
  | .queued => .queued
  | .starting start => .starting start
  | .serving start => .serving start
  | .returning start | .missDone start | .missEnd start => .served start

section Channels

variable (config : SimulationConfig) (tickets : Tickets)

def channelOf (id : RequestId) : Option MemoryChannelId :=
  (tickets id).map (Ticket.channel config)

def jobOf (id : RequestId) : Fifo.Job :=
  match tickets id with
  | none => { arrival := 0, service := 0 }
  | some t => { arrival := t.arrival config, service := t.serviceTime config }

/-- The requests of a channel in the order their `ForwardToMemory` events were
    processed. -/
def arrivals (log : List EventRecord) (c : MemoryChannelId) : List RequestId :=
  (log.filter (fun e =>
    e.type = .forwardToMemory ∧ channelOf config tickets e.requestId = some c)).map
      EventRecord.requestId

/-- What the flags of a channel say about its server. -/
inductive ServerMode (now : SimTime) (place : RequestId → Place) (c : MemoryChannelId)
    (channel : ChannelState) (free : SimTime) : Prop
  | idle :
      channel.serviceInProgress = false → channel.serviceStartScheduled = false →
      channel.queuedRequests = [] → free ≤ now →
      (∀ id start, channelOf config tickets id = some c → place id ≠ .serving start) →
      ServerMode now place c channel free
  | starting {id : RequestId} {rest : List RequestId} {start : SimTime} :
      channel.serviceInProgress = false → channel.serviceStartScheduled = true →
      channel.queuedRequests = id :: rest → place id = .starting start →
      start = max (jobOf config tickets id).arrival free →
      (∀ other ∈ rest, place other = .queued) →
      (∀ other start, channelOf config tickets other = some c → place other ≠ .serving start) →
      ServerMode now place c channel free
  | serving {id : RequestId} {start : SimTime} :
      channel.serviceInProgress = true → channel.serviceStartScheduled = false →
      channelOf config tickets id = some c → place id = .serving start →
      free = start + (jobOf config tickets id).service →
      (∀ other ∈ channel.queuedRequests, place other = .queued) →
      (∀ other start, channelOf config tickets other = some c →
        place other = .serving start → other = id) →
      ServerMode now place c channel free

/-- The channel is a FIFO server that has served `served` and holds its queue. -/
structure ServerInv (log : List EventRecord) (now : SimTime) (place : RequestId → Place)
    (c : MemoryChannelId) (channel : ChannelState) (served : List RequestId) : Prop where
  arrivals_eq : arrivals config tickets log c = served ++ channel.queuedRequests
  waiting_iff : ∀ id, channelOf config tickets id = some c →
    (id ∈ channel.queuedRequests ↔ (place id).Waiting)
  starts : served.map (fun id => (place id).start) =
    (Fifo.starts (served.map (jobOf config tickets))).map some
  arrived : ∀ id ∈ channel.queuedRequests, (jobOf config tickets id).arrival ≤ now
  nodup : channel.queuedRequests.Nodup
  mode : ServerMode config tickets now place c channel
    (Fifo.free (served.map (jobOf config tickets)))

end Channels

variable {config : SimulationConfig} {tickets tickets' : Tickets}

-- ============================================================================
-- Arrivals
-- ============================================================================

theorem arrivals_snoc (log : List EventRecord) (e : EventRecord) (c : MemoryChannelId) :
    arrivals config tickets (log ++ [e]) c =
      arrivals config tickets log c ++
        if e.type = .forwardToMemory ∧ channelOf config tickets e.requestId = some c then
          [e.requestId] else [] := by
  unfold arrivals
  rw [List.filter_append, List.map_append]
  by_cases h : e.type = .forwardToMemory ∧ channelOf config tickets e.requestId = some c
  · simp [h]
  · simp only [h, if_false]
    rw [List.filter_cons_of_neg (by simpa using h), List.filter_nil, List.map_nil]

theorem mem_arrivals {log : List EventRecord} {c : MemoryChannelId} {id : RequestId}
    (h : id ∈ arrivals config tickets log c) : channelOf config tickets id = some c := by
  unfold arrivals at h
  obtain ⟨e, he, rfl⟩ := List.mem_map.mp h
  have hfilter := (List.mem_filter.mp he).2
  simp only [decide_eq_true_eq] at hfilter
  exact hfilter.2

/-- A fresh ticket does not change the arrivals that are in the log. -/
theorem arrivals_congr {log : List EventRecord}
    (h : ∀ e ∈ log, tickets' e.requestId = tickets e.requestId) (c : MemoryChannelId) :
    arrivals config tickets' log c = arrivals config tickets log c := by
  unfold arrivals channelOf
  congr 1
  apply List.filter_congr
  intro e he
  rw [h e he]

-- ============================================================================
-- Moves of a server
-- ============================================================================

namespace ServerInv

variable {log log' : List EventRecord} {now now' : SimTime} {place place' : RequestId → Place}
  {c : MemoryChannelId} {channel : ChannelState} {served : List RequestId}

theorem channelOf_queue (h : ServerInv config tickets log now place c channel served)
    {id : RequestId} (hid : id ∈ channel.queuedRequests) :
    channelOf config tickets id = some c := by
  refine mem_arrivals (?_ : id ∈ arrivals config tickets log c)
  rw [h.arrivals_eq]
  exact List.mem_append_right served hid

theorem channelOf_served (h : ServerInv config tickets log now place c channel served)
    {id : RequestId} (hid : id ∈ served) : channelOf config tickets id = some c := by
  refine mem_arrivals (?_ : id ∈ arrivals config tickets log c)
  rw [h.arrivals_eq]
  exact List.mem_append_left channel.queuedRequests hid

theorem start_of_served (h : ServerInv config tickets log now place c channel served)
    {id : RequestId} (hid : id ∈ served) : ∃ start, (place id).start = some start := by
  have hmem : (place id).start ∈ served.map (fun id => (place id).start) :=
    List.mem_map_of_mem hid
  rw [h.starts] at hmem
  obtain ⟨start, -, hstart⟩ := List.mem_map.mp hmem
  exact ⟨start, hstart.symm⟩

/-- A request about to start is at the head of its queue. -/
theorem of_starting (h : ServerInv config tickets log now place c channel served)
    {id : RequestId} {start : SimTime} (hc : channelOf config tickets id = some c)
    (hplace : place id = .starting start) :
    ∃ rest, channel.serviceInProgress = false ∧ channel.serviceStartScheduled = true ∧
      channel.queuedRequests = id :: rest ∧
      start = max (jobOf config tickets id).arrival
        (Fifo.free (served.map (jobOf config tickets))) ∧
      (∀ other ∈ rest, place other = .queued) ∧
      (∀ other start, channelOf config tickets other = some c →
        place other ≠ .serving start) := by
  have hmem : id ∈ channel.queuedRequests := by
    rw [h.waiting_iff id hc, hplace]
    trivial
  cases h.mode with
  | idle _ _ hqueue =>
      rw [hqueue] at hmem
      simp at hmem
  | @starting head rest start' hprogress hscheduled hqueue hhead hstart hrest hserving =>
      rw [hqueue] at hmem
      rcases List.mem_cons.mp hmem with rfl | hin
      · obtain rfl : start' = start := by
          rw [hplace] at hhead
          exact (Place.starting.inj hhead).symm
        exact ⟨rest, hprogress, hscheduled, hqueue, hstart, hrest, hserving⟩
      · rw [hrest id hin] at hplace
        cases hplace
  | serving _ _ _ _ _ hqueued =>
      rw [hqueued id hmem] at hplace
      cases hplace

/-- A request in service is the one its channel serves. -/
theorem of_serving (h : ServerInv config tickets log now place c channel served)
    {id : RequestId} {start : SimTime} (hc : channelOf config tickets id = some c)
    (hplace : place id = .serving start) :
    channel.serviceInProgress = true ∧ channel.serviceStartScheduled = false ∧
      Fifo.free (served.map (jobOf config tickets)) =
        start + (jobOf config tickets id).service ∧
      (∀ other ∈ channel.queuedRequests, place other = .queued) ∧
      (∀ other start, channelOf config tickets other = some c →
        place other = .serving start → other = id) := by
  cases h.mode with
  | idle _ _ _ _ hserving => exact absurd hplace (hserving id start hc)
  | starting _ _ _ _ _ _ hserving => exact absurd hplace (hserving id start hc)
  | @serving current start' hprogress hscheduled hcurrent hcurrentPlace hfree hqueued honly =>
      obtain rfl := honly id start hc hplace
      obtain rfl : start' = start := by
        rw [hplace] at hcurrentPlace
        exact (Place.serving.inj hcurrentPlace).symm
      exact ⟨hprogress, hscheduled, hfree, hqueued, honly⟩

/-- Nothing happens on the channel: its requests keep their places. -/
theorem frame (h : ServerInv config tickets log now place c channel served) (hnow : now ≤ now')
    (harrivals : arrivals config tickets' log' c = arrivals config tickets log c)
    (hold : ∀ id, channelOf config tickets id = some c →
      tickets' id = tickets id ∧ place' id = place id)
    (hnew : ∀ id, channelOf config tickets' id = some c →
      channelOf config tickets id = some c ∨ place' id = .away) :
    ServerInv config tickets' log' now' place' c channel served := by
  have hchannel : ∀ id, channelOf config tickets id = some c →
      channelOf config tickets' id = some c := by
    intro id hid
    unfold channelOf at hid ⊢
    rw [(hold id hid).1]
    exact hid
  have hjob : ∀ id, channelOf config tickets id = some c →
      jobOf config tickets' id = jobOf config tickets id := by
    intro id hid
    unfold jobOf
    rw [(hold id hid).1]
  have hjobs : served.map (jobOf config tickets') = served.map (jobOf config tickets) :=
    List.map_congr_left fun id hid => hjob id (h.channelOf_served hid)
  have hnotServing : (∀ id start, channelOf config tickets id = some c →
        place id ≠ .serving start) →
      ∀ id start, channelOf config tickets' id = some c → place' id ≠ .serving start := by
    intro hserving id start hid
    rcases hnew id hid with hid | haway
    · rw [(hold id hid).2]
      exact hserving id start hid
    · rw [haway]
      exact fun heq => by cases heq
  refine ⟨harrivals.trans h.arrivals_eq, ?_, ?_, ?_, h.nodup, ?_⟩
  · intro id hid
    rcases hnew id hid with hid | haway
    · rw [(hold id hid).2]
      exact h.waiting_iff id hid
    · rw [haway]
      refine ⟨fun hmem => ?_, fun hfalse => hfalse.elim⟩
      have hc := h.channelOf_queue hmem
      have hwaiting := (h.waiting_iff id hc).mp hmem
      rw [← (hold id hc).2, haway] at hwaiting
      exact hwaiting
  · rw [hjobs, ← h.starts]
    apply List.map_congr_left
    intro id hid
    rw [(hold id (h.channelOf_served hid)).2]
  · intro id hid
    rw [hjob id (h.channelOf_queue hid)]
    exact le_trans (h.arrived id hid) hnow
  · rw [hjobs]
    cases h.mode with
    | idle hprogress hscheduled hqueue hfree hserving =>
        exact .idle hprogress hscheduled hqueue (le_trans hfree hnow) (hnotServing hserving)
    | @starting id rest start hprogress hscheduled hqueue hplace hstart hrest hserving =>
        have hmem : ∀ other ∈ id :: rest, channelOf config tickets other = some c := by
          rw [← hqueue]
          exact fun other hother => h.channelOf_queue hother
        have hid := hmem id List.mem_cons_self
        refine .starting hprogress hscheduled hqueue ((hold id hid).2.trans hplace) ?_ ?_
          (hnotServing hserving)
        · rw [hjob id hid]
          exact hstart
        · intro other hother
          rw [(hold other (hmem other (List.mem_cons_of_mem id hother))).2]
          exact hrest other hother
    | @serving id start hprogress hscheduled hid hplace hfree hqueued honly =>
        refine .serving hprogress hscheduled (hchannel id hid) ((hold id hid).2.trans hplace)
          ?_ ?_ ?_
        · rw [hjob id hid]
          exact hfree
        · intro other hother
          rw [(hold other (h.channelOf_queue hother)).2]
          exact hqueued other hother
        · intro other start' hother hserving
          rcases hnew other hother with hother | haway
          · rw [(hold other hother).2] at hserving
            exact honly other start' hother hserving
          · rw [haway] at hserving
            cases hserving

theorem update_of_not_mem {ids : List RequestId} {id : RequestId} {new : Place}
    (h : id ∉ ids) {other : RequestId} (hother : other ∈ ids) :
    Function.update place id new other = place other :=
  Function.update_of_ne (show other ≠ id from fun heq => h (heq ▸ hother)) new place

/-- The served requests keep their start times. -/
theorem starts_update (h : ServerInv config tickets log now place c channel served)
    {id : RequestId} {new : Place} (hnot : id ∉ served) :
    served.map (fun id' => (Function.update place id new id').start) =
      (Fifo.starts (served.map (jobOf config tickets))).map some := by
  rw [← h.starts]
  apply List.map_congr_left
  intro other hother
  rw [update_of_not_mem hnot hother]

theorem not_mem_served (h : ServerInv config tickets log now place c channel served)
    {id : RequestId} (hstart : (place id).start = none) : id ∉ served := by
  intro hmem
  obtain ⟨start, heq⟩ := h.start_of_served hmem
  rw [hstart] at heq
  cases heq

/-- A request joins the queue of a busy channel. -/
theorem join_busy (h : ServerInv config tickets log now place c channel served)
    {id : RequestId} (hid : channelOf config tickets id = some c) (haway : place id = .away)
    (harrivals : arrivals config tickets log' c = arrivals config tickets log c ++ [id])
    (hnow : now ≤ now') (harrived : (jobOf config tickets id).arrival ≤ now')
    (hbusy : channel.serviceInProgress = true ∨ channel.serviceStartScheduled = true) :
    ServerInv config tickets log' now' (Function.update place id .queued) c
      { channel with queuedRequests := channel.queuedRequests ++ [id] } served := by
  have hqueue : id ∉ channel.queuedRequests := by
    rw [h.waiting_iff id hid, haway]
    exact fun hfalse => hfalse
  have hserved : id ∉ served := h.not_mem_served (by rw [haway]; rfl)
  have hserving : ∀ other start, Function.update place id .queued other = .serving start →
      place other = .serving start := by
    intro other start hother
    by_cases heq : other = id
    · subst heq
      rw [Function.update_self] at hother
      cases hother
    · rwa [Function.update_of_ne heq] at hother
  have hqueued : ∀ rest : List RequestId, id ∉ rest → (∀ other ∈ rest, place other = .queued) →
      ∀ other ∈ rest ++ [id], Function.update place id .queued other = .queued := by
    intro rest hnot hrest other hother
    rcases List.mem_append.mp hother with hin | hlast
    · rw [update_of_not_mem hnot hin]
      exact hrest other hin
    · rw [List.mem_singleton.mp hlast, Function.update_self]
  refine ⟨?_, ?_, h.starts_update hserved, ?_, ?_, ?_⟩
  · rw [harrivals, h.arrivals_eq, List.append_assoc]
  · intro other hother
    rw [List.mem_append, List.mem_singleton]
    by_cases heq : other = id
    · subst heq
      rw [Function.update_self]
      exact ⟨fun _ => trivial, fun _ => Or.inr rfl⟩
    · rw [Function.update_of_ne heq, ← h.waiting_iff other hother]
      simp [heq]
  · intro other hother
    rcases List.mem_append.mp hother with hin | hlast
    · exact le_trans (h.arrived other hin) hnow
    · rw [List.mem_singleton.mp hlast]
      exact harrived
  · exact List.nodup_append.mpr ⟨h.nodup, List.nodup_singleton id, fun a ha b hb heq => by
      rw [List.mem_singleton.mp hb] at heq
      exact hqueue (heq ▸ ha)⟩
  · cases h.mode with
    | idle hprogress hscheduled =>
        rw [hprogress, hscheduled] at hbusy
        simp at hbusy
    | @starting head rest start hprogress hscheduled hlist hhead hstart hrest hnone =>
        rw [hlist] at hqueue
        have hne : head ≠ id := fun heq => hqueue (heq ▸ List.mem_cons_self)
        have hnot : id ∉ rest := fun hin => hqueue (List.mem_cons_of_mem head hin)
        have hlist' : channel.queuedRequests ++ [id] = head :: (rest ++ [id]) := by
          rw [hlist]
          rfl
        refine .starting hprogress hscheduled hlist' ?_ hstart (hqueued rest hnot hrest) ?_
        · rw [Function.update_of_ne hne]
          exact hhead
        · exact fun other start' hc hother => hnone other start' hc (hserving other start' hother)
    | @serving current start hprogress hscheduled hcurrent hplace hfree hall honly =>
        have hne : current ≠ id := by
          rintro rfl
          rw [haway] at hplace
          cases hplace
        refine .serving hprogress hscheduled hcurrent ?_ hfree (hqueued _ hqueue hall) ?_
        · rw [Function.update_of_ne hne]
          exact hplace
        · exact fun other start' hc hother => honly other start' hc (hserving other start' hother)

/-- A request arrives at an idle channel: its start is scheduled at once. -/
theorem join_idle (h : ServerInv config tickets log now place c channel served)
    {id : RequestId} (hid : channelOf config tickets id = some c) (haway : place id = .away)
    (harrivals : arrivals config tickets log' c = arrivals config tickets log c ++ [id])
    (hnow : now ≤ now') (harrived : (jobOf config tickets id).arrival = now')
    (hprogress : channel.serviceInProgress = false)
    (hscheduled : channel.serviceStartScheduled = false) :
    channel.queuedRequests = [] ∧
      ServerInv config tickets log' now' (Function.update place id (.starting now')) c
        { queuedRequests := channel.queuedRequests ++ [id], serviceInProgress := false,
          serviceStartScheduled := true } served := by
  have hserved : id ∉ served := h.not_mem_served (by rw [haway]; rfl)
  obtain ⟨hqueue, hfree, hnone⟩ : channel.queuedRequests = [] ∧
      Fifo.free (served.map (jobOf config tickets)) ≤ now ∧
      ∀ other start, channelOf config tickets other = some c →
        place other ≠ .serving start := by
    cases h.mode with
    | idle _ _ hqueue hfree hnone => exact ⟨hqueue, hfree, hnone⟩
    | starting _ hs => rw [hscheduled] at hs; cases hs
    | serving hp => rw [hprogress] at hp; cases hp
  refine ⟨hqueue, ?_, ?_, h.starts_update hserved, ?_, by rw [hqueue]; simp, ?_⟩
  · rw [harrivals, h.arrivals_eq, List.append_assoc]
  · intro other hother
    rw [hqueue, List.nil_append, List.mem_singleton]
    by_cases heq : other = id
    · subst heq
      rw [Function.update_self]
      exact ⟨fun _ => trivial, fun _ => rfl⟩
    · rw [Function.update_of_ne heq, ← h.waiting_iff other hother, hqueue]
      simp [heq]
  · intro other hother
    rw [hqueue, List.nil_append, List.mem_singleton] at hother
    rw [hother, harrived]
  · have hqueue' : channel.queuedRequests ++ [id] = id :: [] := by rw [hqueue]; rfl
    refine .starting rfl rfl hqueue' (Function.update_self id _ place) ?_ (by simp) ?_
    · rw [harrived]
      exact (max_eq_left (le_trans hfree hnow)).symm
    · intro other start hc hother
      by_cases heq : other = id
      · subst heq
        rw [Function.update_self] at hother
        cases hother
      · rw [Function.update_of_ne heq] at hother
        exact hnone other start hc hother

/-- The request at the head of the queue begins its service. -/
theorem begin (h : ServerInv config tickets log now place c channel served)
    {id : RequestId} {start : SimTime} (hid : channelOf config tickets id = some c)
    (hplace : place id = .starting start)
    (harrivals : arrivals config tickets log' c = arrivals config tickets log c)
    (hnow : now ≤ now') :
    ∃ rest, channel.queuedRequests = id :: rest ∧
      start = max (jobOf config tickets id).arrival
        (Fifo.free (served.map (jobOf config tickets))) ∧
      ServerInv config tickets log' now' (Function.update place id (.serving start)) c
        { queuedRequests := rest, serviceStartScheduled := false, serviceInProgress := true }
        (served ++ [id]) := by
  obtain ⟨rest, -, -, hqueue, hstart, hrest, hnone⟩ := h.of_starting hid hplace
  have hserved : id ∉ served := h.not_mem_served (by rw [hplace]; rfl)
  have hnot : id ∉ rest := by
    intro hin
    rw [hrest id hin] at hplace
    cases hplace
  have hnodup := h.nodup
  rw [hqueue] at hnodup
  refine ⟨rest, hqueue, hstart, ?_, ?_, ?_, ?_, (List.nodup_cons.mp hnodup).2, ?_⟩
  · rw [harrivals, h.arrivals_eq, hqueue, List.append_assoc]
    rfl
  · intro other hother
    by_cases heq : other = id
    · subst heq
      rw [Function.update_self]
      exact ⟨fun hin => absurd hin hnot, fun hfalse => hfalse.elim⟩
    · rw [Function.update_of_ne heq, ← h.waiting_iff other hother, hqueue]
      simp [heq]
  · rw [List.map_append, h.starts_update hserved, List.map_append, List.map_singleton,
      List.map_singleton, Fifo.starts_snoc, List.map_append, List.map_singleton,
      Function.update_self, ← hstart]
    rfl
  · intro other hother
    exact le_trans (h.arrived other (by rw [hqueue]; exact List.mem_cons_of_mem id hother)) hnow
  · refine .serving rfl rfl hid (Function.update_self id _ place) ?_ ?_ ?_
    · rw [List.map_append, List.map_singleton, Fifo.free_snoc, ← hstart]
    · intro other hother
      rw [update_of_not_mem hnot hother]
      exact hrest other hother
    · intro other start' hc hother
      by_contra hne
      rw [Function.update_of_ne hne] at hother
      exact hnone other start' hc hother

theorem starts_served (h : ServerInv config tickets log now place c channel served)
    {id : RequestId} {start : SimTime} (hplace : place id = .serving start) :
    served.map (fun id' => (Function.update place id (.served start) id').start) =
      (Fifo.starts (served.map (jobOf config tickets))).map some := by
  rw [← h.starts]
  apply List.map_congr_left
  intro other _
  by_cases heq : other = id
  · subst heq
    rw [Function.update_self, hplace]
    rfl
  · rw [Function.update_of_ne heq]

/-- After a service nothing is in service on the channel. -/
theorem none_serving {id : RequestId} {start : SimTime}
    (honly : ∀ other start', channelOf config tickets other = some c →
      place other = .serving start' → other = id) (other : RequestId) (start' : SimTime)
    (hc : channelOf config tickets other = some c) :
    Function.update place id (.served start) other ≠ .serving start' := by
  intro hother
  by_cases heq : other = id
  · subst heq
    rw [Function.update_self] at hother
    cases hother
  · rw [Function.update_of_ne heq] at hother
    exact heq (honly other start' hc hother)

/-- The request in service finishes, and nobody waits. -/
theorem finish_idle (h : ServerInv config tickets log now place c channel served)
    {id : RequestId} {start : SimTime} (hid : channelOf config tickets id = some c)
    (hplace : place id = .serving start)
    (harrivals : arrivals config tickets log' c = arrivals config tickets log c)
    (hnow : now' = start + (jobOf config tickets id).service)
    (hqueue : channel.queuedRequests = []) :
    ServerInv config tickets log' now' (Function.update place id (.served start)) c
      { queuedRequests := [], serviceInProgress := false,
        serviceStartScheduled := channel.serviceStartScheduled } served := by
  obtain ⟨-, hscheduled, hfree, -, honly⟩ := h.of_serving hid hplace
  refine ⟨?_, ?_, h.starts_served hplace, by simp, List.nodup_nil, ?_⟩
  · rw [harrivals, h.arrivals_eq, hqueue]
  · intro other hother
    have hiff := h.waiting_iff other hother
    rw [hqueue] at hiff
    by_cases heq : other = id
    · subst heq
      rw [Function.update_self]
      simp [Place.Waiting]
    · rw [Function.update_of_ne heq]
      exact hiff
  · exact .idle rfl hscheduled rfl (by rw [hfree, hnow]) (none_serving honly)

/-- The request in service finishes, and the next one has its start scheduled. -/
theorem finish_next (h : ServerInv config tickets log now place c channel served)
    {id next : RequestId} {rest : List RequestId} {start : SimTime}
    (hid : channelOf config tickets id = some c) (hplace : place id = .serving start)
    (harrivals : arrivals config tickets log' c = arrivals config tickets log c)
    (hle : now ≤ now') (hnow : now' = start + (jobOf config tickets id).service)
    (hqueue : channel.queuedRequests = next :: rest) :
    place next = .queued ∧ next ≠ id ∧
      ServerInv config tickets log' now'
        (Function.update (Function.update place id (.served start)) next (.starting now')) c
        { queuedRequests := next :: rest, serviceInProgress := false,
          serviceStartScheduled := true } served := by
  obtain ⟨-, hscheduled, hfree, hqueued, honly⟩ := h.of_serving hid hplace
  have hmem : next ∈ channel.queuedRequests := by rw [hqueue]; exact List.mem_cons_self
  have hnext := hqueued next hmem
  have hne : next ≠ id := by
    rintro rfl
    rw [hnext] at hplace
    cases hplace
  have hnextServed : next ∉ served := h.not_mem_served (by rw [hnext]; rfl)
  have hnodup := h.nodup
  rw [hqueue] at hnodup
  have hnot : next ∉ rest := (List.nodup_cons.mp hnodup).1
  have hidNot : id ∉ channel.queuedRequests := by
    intro hin
    rw [hqueued id hin] at hplace
    cases hplace
  have hfreeNow : Fifo.free (served.map (jobOf config tickets)) = now' := by rw [hfree, hnow]
  refine ⟨hnext, hne, ?_, ?_, ?_, ?_, hnodup, ?_⟩
  · rw [harrivals, h.arrivals_eq, hqueue]
  · intro other hother
    rw [← hqueue, h.waiting_iff other hother]
    by_cases heq : other = next
    · subst heq
      rw [Function.update_self, hnext]
      exact Iff.rfl
    · rw [Function.update_of_ne heq]
      by_cases heq' : other = id
      · subst heq'
        rw [Function.update_self, hplace]
        exact Iff.rfl
      · rw [Function.update_of_ne heq']
  · rw [← h.starts_served hplace]
    apply List.map_congr_left
    intro other hother
    rw [update_of_not_mem hnextServed hother]
  · intro other hother
    rw [← hqueue] at hother
    exact le_trans (h.arrived other hother) hle
  · refine .starting rfl rfl rfl (Function.update_self next _ _) ?_ ?_ ?_
    · rw [hfreeNow]
      exact (max_eq_right (le_trans (h.arrived next hmem) hle)).symm
    · intro other hother
      have hin : other ∈ channel.queuedRequests := by
        rw [hqueue]
        exact List.mem_cons_of_mem next hother
      rw [update_of_not_mem hnot hother, update_of_not_mem hidNot hin]
      exact hqueued other hin
    · intro other start' hc hother
      by_cases heq : other = next
      · subst heq
        rw [Function.update_self] at hother
        cases hother
      · rw [Function.update_of_ne heq] at hother
        exact none_serving honly other start' hc hother

end ServerInv

end DmSimulator
