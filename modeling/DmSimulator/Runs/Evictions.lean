/-
  DmSimulator.Runs.Evictions

  Evictions and lookups over a run, in the order of its turns and in either reading of
  the arithmetic.

  A placement that a run has evicted stays evicted, with the time of its eviction.
  Turns take place in time order, so a request that is looked up after an eviction
  was not issued before the time of the eviction.
-/
import DmSimulator.Cache.Closings
import DmSimulator.Runs.Lookups
import DmSimulator.Sim.Diagnostics

namespace DmSimulator

/-- The placements that ended in an eviction. -/
def CacheAdmissionRecord.IsEvictedPlacement (record : CacheAdmissionRecord) : Bool :=
  record.admitted && record.evicted

/-- A lifecycle record and where it is kept. -/
structure Placement where
  nodeId : NodeId
  index : Nat
  record : CacheAdmissionRecord

/-- The operations of a handler take place at the time of its event. -/
theorem ComputeNode.cacheOps_at {P : CachePolicy} {A : Arith} (node : ComputeNode P)
    (event : Event) (sh : Shared) : ∀ op ∈ node.cacheOps A event sh, op.At event.time := by
  unfold cacheOps
  cases event.type with
  | generateRequest =>
      cases node.workload.upcoming with
      | none => exact fun op hop => absurd hop List.not_mem_nil
      | some spec =>
          simp only
          split
          · exact fun op hop => absurd hop List.not_mem_nil
          · cases node.globalReplicaPlan with
            | none =>
                intro op hop
                rw [List.mem_singleton.mp hop]
                exact trivial
            | some plan =>
                intro op hop
                rcases List.mem_pair.mp hop with rfl | rfl
                · exact trivial
                · exact rfl
  | localCacheLookup =>
      cases sh.requestTable.find event.requestId with
      | none => exact fun op hop => absurd hop List.not_mem_nil
      | some request =>
          intro op hop
          rw [List.mem_singleton.mp hop]
          exact rfl
  | returnResponse =>
      cases sh.requestTable.find event.requestId with
      | none => exact fun op hop => absurd hop List.not_mem_nil
      | some request =>
          intro op hop
          rw [List.mem_singleton.mp hop]
          exact rfl
  | _ => exact fun op hop => absurd hop List.not_mem_nil

namespace Simulator

variable {P : CachePolicy}

/-- The lifecycle records of the nodes. -/
def placements (s : Simulator P) : List Placement :=
  s.collect fun node => node.localCache.admissionRecords.zipIdx.map fun entry =>
    { nodeId := node.nodeId, index := entry.2, record := entry.1 }

/-- The node has evicted the placement that it recorded at the index. -/
def HasEvicted (s : Simulator P) (nodeId : NodeId) (index : Nat) : Prop :=
  ∃ node record, s.computeNodes.find nodeId = some node ∧
    node.localCache.admissionRecords[index]? = some record ∧ record.IsEvictedPlacement = true

/-- The node of the request has looked it up in its cache. -/
def HasLookedUp (s : Simulator P) (requestId : RequestId) : Prop :=
  ∃ e ∈ s.eventLog, e.type = .localCacheLookup ∧ e.requestId = requestId

theorem mem_placements {s : Simulator P} {p : Placement} (h : p ∈ s.placements) :
    ∃ node, s.computeNodes.find p.nodeId = some node ∧
      node.localCache.admissionRecords[p.index]? = some p.record := by
  obtain ⟨nodeConfig, -, node, hfind, hmem⟩ := mem_collect.mp h
  obtain ⟨⟨record, index⟩, hentry, rfl⟩ := List.mem_map.mp hmem
  refine ⟨node, ?_, List.mk_mem_zipIdx_iff_getElem?.mp hentry⟩
  rw [show node.nodeId = nodeConfig.nodeId from KeyedStore.key_of_find hfind]
  exact hfind

/-- The reports list the records of the placements. -/
theorem map_record_placements (s : Simulator P) :
    s.placements.map Placement.record = s.cacheRecords := by
  unfold placements cacheRecords collect
  rw [List.map_flatMap]
  congr 1
  funext nodeConfig
  cases s.computeNodes.find nodeConfig.nodeId with
  | none => rfl
  | some node =>
      simp only [List.map_map]
      exact List.zipIdx_map_fst 0 node.localCache.admissionRecords

-- ============================================================================
-- One turn
-- ============================================================================

variable {A : Arith}

/-- A turn takes place at the time of its event. -/
theorem turn_time {s t : Simulator P} (hmove : Run.Moves (step A) s t) :
    ∃ event scheduler, s.shared.scheduler.popNext = some (event, scheduler) ∧
      t.eventLog = s.eventLog ++ [event.record] ∧
        t.shared.scheduler.currentTime = event.time := by
  obtain ⟨event, scheduler, s', hpop, hdispatched, rfl⟩ := moves_iff.mp hmove
  obtain ⟨hlog, hnow⟩ := dispatched_log hdispatched
  obtain ⟨hlog', hnow'⟩ := release_log A s'
  refine ⟨event, scheduler, hpop, hlog'.trans hlog, ?_⟩
  rw [hnow', hnow]
  exact (Scheduler.popNext_eq_some hpop).2.1

/-- The placement index of every cache points at open records. -/
def CachesCredited (s : Simulator P) : Prop :=
  ∀ node ∈ s.computeNodes.items, node.localCache.Credited

/-- The records that a turn closes are stamped with its time. -/
theorem closes_move {s t : Simulator P} (h : s.CachesCredited)
    (hmove : Run.Moves (step A) s t) (nodeId : NodeId) :
    Option.Rel (fun node node' : ComputeNode P =>
        LocalCache.Closes t.shared.scheduler.currentTime node.localCache.admissionRecords
          node'.localCache.admissionRecords)
      (s.computeNodes.find nodeId) (t.computeNodes.find nodeId) := by
  obtain ⟨event, scheduler, hpop, -, hnow⟩ := turn_time hmove
  obtain ⟨event', scheduler', hpop', hcase⟩ := moves_nodes hmove
  rw [hpop] at hpop'
  obtain ⟨rfl, rfl⟩ := Prod.mk.inj (Option.some.inj hpop')
  have hsame : ∀ found : Option (ComputeNode P), Option.Rel (fun node node' : ComputeNode P =>
      LocalCache.Closes t.shared.scheduler.currentTime node.localCache.admissionRecords
        node'.localCache.admissionRecords) found found := by
    intro found
    cases found with
    | none => exact .none
    | some node => exact .some (LocalCache.Closes.refl _ _)
  rcases hcase with ⟨-, hnodes⟩ | ⟨old, new, hold, hid, hinsert, hcache⟩
  · rw [hnodes]
    exact hsame _
  · have hkey : new.nodeId = event.targetId := hid.trans (KeyedStore.key_of_find hold)
    rw [hinsert]
    by_cases heq : nodeId = event.targetId
    · subst heq
      rw [hold, ← hkey, KeyedStore.find_insert_self]
      refine .some ?_
      rw [hcache, hnow]
      exact LocalCache.closes_foldl_applyOp _ (h old (KeyedStore.find_eq_some.mp hold).1)
        (old.cacheOps_at event s.shared)
    · rw [KeyedStore.find_insert_ne _ _ (by rw [hkey]; exact heq)]
      exact hsame _

-- ============================================================================
-- The order of a run
-- ============================================================================

/-- From the one state to the other time goes on, closed records stay as they are, and others
    are closed at the times of the turns. -/
structure Later (s t : Simulator P) : Prop where
  now_le : s.shared.scheduler.currentTime ≤ t.shared.scheduler.currentTime
  log : ∃ later, t.eventLog = s.eventLog ++ later ∧
    ∀ e ∈ later, s.shared.scheduler.currentTime ≤ e.time
  kept : ∀ nodeId node, s.computeNodes.find nodeId = some node →
    ∃ node', t.computeNodes.find nodeId = some node' ∧ ∀ (i : Nat) record,
      node.localCache.admissionRecords[i]? = some record → record.evicted = true →
        node'.localCache.admissionRecords[i]? = some record
  closed : ∀ nodeId node', t.computeNodes.find nodeId = some node' →
    ∃ node, s.computeNodes.find nodeId = some node ∧ ∀ (i : Nat) record,
      node'.localCache.admissionRecords[i]? = some record → record.evicted = true →
        node.localCache.admissionRecords[i]? = some record ∨
          s.shared.scheduler.currentTime ≤ record.evictionTime

theorem Later.refl (s : Simulator P) : Later s s :=
  ⟨le_refl _, ⟨[], (List.append_nil _).symm, fun _ he => absurd he List.not_mem_nil⟩,
    fun _ node hfind => ⟨node, hfind, fun _ _ hrecord _ => hrecord⟩,
    fun _ node hfind => ⟨node, hfind, fun _ _ hrecord _ => Or.inl hrecord⟩⟩

theorem Later.trans {s t u : Simulator P} (h : Later s t) (h' : Later t u) : Later s u := by
  obtain ⟨later, hlog, htimes⟩ := h.log
  obtain ⟨later', hlog', htimes'⟩ := h'.log
  refine ⟨le_trans h.now_le h'.now_le, ⟨later ++ later', ?_, ?_⟩, ?_, ?_⟩
  · rw [hlog', hlog, List.append_assoc]
  · intro e he
    rcases List.mem_append.mp he with hin | hin
    · exact htimes e hin
    · exact le_trans h.now_le (htimes' e hin)
  · intro nodeId node hfind
    obtain ⟨node', hfind', hkept⟩ := h.kept nodeId node hfind
    obtain ⟨node'', hfind'', hkept'⟩ := h'.kept nodeId node' hfind'
    exact ⟨node'', hfind'', fun i record hrecord hevicted =>
      hkept' i record (hkept i record hrecord hevicted) hevicted⟩
  · intro nodeId node'' hfind''
    obtain ⟨node', hfind', hclosed'⟩ := h'.closed nodeId node'' hfind''
    obtain ⟨node, hfind, hclosed⟩ := h.closed nodeId node' hfind'
    refine ⟨node, hfind, fun i record hrecord hevicted => ?_⟩
    rcases hclosed' i record hrecord hevicted with hold | htime
    · exact hclosed i record hold hevicted
    · exact Or.inr (le_trans h.now_le htime)

/-- Nothing was closed later than now. -/
def ClosedInPast (s : Simulator P) : Prop :=
  ∀ nodeId node, s.computeNodes.find nodeId = some node →
    ∀ (i : Nat) record, node.localCache.admissionRecords[i]? = some record →
      record.evicted = true → record.evictionTime ≤ s.shared.scheduler.currentTime

theorem later_move {s t : Simulator P} (hordered : s.shared.scheduler.WellOrdered)
    (h : s.CachesCredited) (hmove : Run.Moves (step A) s t) : Later s t := by
  obtain ⟨event, scheduler, hpop, hlog, hnow⟩ := turn_time hmove
  obtain ⟨-, hle⟩ := hordered.popNext hpop
  refine ⟨hnow ▸ hle, ⟨[event.record], hlog, ?_⟩, ?_, ?_⟩
  · intro e he
    rw [List.mem_singleton.mp he]
    exact hle
  · intro nodeId node hfind
    have hcloses := closes_move h hmove nodeId
    rw [hfind] at hcloses
    generalize t.computeNodes.find nodeId = found at hcloses
    cases hcloses with
    | some hcloses => exact ⟨_, rfl, hcloses.kept⟩
  · intro nodeId node' hfind'
    have hcloses := closes_move h hmove nodeId
    rw [hfind'] at hcloses
    generalize s.computeNodes.find nodeId = found at hcloses
    cases hcloses with
    | some hcloses =>
        refine ⟨_, rfl, fun i record hrecord hevicted => ?_⟩
        rcases hcloses.closed i record hrecord hevicted with hold | htime
        · exact Or.inl hold
        · rw [htime, hnow]
          exact Or.inr hle

theorem closedInPast_move {s t : Simulator P} (hcredited : s.CachesCredited)
    (hlater : Later s t) (h : s.ClosedInPast) (hmove : Run.Moves (step A) s t) :
    t.ClosedInPast := by
  intro nodeId node' hfind' i record hrecord hevicted
  have hcloses := closes_move hcredited hmove nodeId
  rw [hfind'] at hcloses
  cases hfind : s.computeNodes.find nodeId with
  | none =>
      rw [hfind] at hcloses
      cases hcloses
  | some node =>
      rw [hfind] at hcloses
      cases hcloses with
      | some hcloses =>
          rcases hcloses.closed i record hrecord hevicted with hold | htime
          · exact le_trans (h nodeId node hfind i record hold hevicted) hlater.now_le
          · exact le_of_eq htime

section Run

variable {rng : RandomSource} {config : SimulationConfig}
  {s t u : Simulator (makeCachePolicy A config.localCache)}

theorem cachesCredited_of_construct (h : construct A rng config = .ok s) (ht : Reachable A s t) :
    t.CachesCredited := by
  obtain ⟨prepared, generatedWorkload, rfl⟩ := construct_eq_ofConfig h
  exact caches_of_reachable (LocalCache.Credited.init _ _)
    (fun _ op hcredited => hcredited.applyOp op) ht

theorem later_of_construct (h : construct A rng config = .ok s) (ht : Reachable A s t)
    (hmove : Run.Moves (step A) t u) : Later t u :=
  later_move (lookupsInv_of_construct h ht).ordered (cachesCredited_of_construct h ht) hmove

theorem later_of_reaches (h : construct A rng config = .ok s) (ht : Reachable A s t)
    (hu : Run.Reaches (step A) t u) : Later t u :=
  Run.relates_of_reaches (fun _ _ ha hmove => ha.tail hmove) Later.refl
    (fun _ _ _ => Later.trans) (fun _ _ ha hmove => later_of_construct h ha hmove) ht hu

theorem closedInPast_of_construct (h : construct A rng config = .ok s) (ht : Reachable A s t) :
    t.ClosedInPast := by
  have hboth : Reachable A s t ∧ t.ClosedInPast := by
    apply Run.invariant_of_reaches (fun t => Reachable A s t ∧ t.ClosedInPast) _ _ ht
    · rintro a b ⟨ha, hclosed⟩ hmove
      exact ⟨ha.tail hmove, closedInPast_move (cachesCredited_of_construct h ha)
        (later_of_construct h ha hmove) hclosed hmove⟩
    · refine ⟨Relation.ReflTransGen.refl, ?_⟩
      obtain ⟨prepared, generatedWorkload, rfl⟩ := construct_eq_ofConfig h
      obtain ⟨plan, hplan⟩ : ∃ plan, (ofConfig (makeCachePolicy A config.localCache) prepared
          generatedWorkload).computeNodes = emplaceNodes _ prepared plan := ⟨_, rfl⟩
      intro nodeId node hfind i record hrecord
      have hmem := (KeyedStore.find_eq_some.mp hfind).1
      rw [(release_nodes A _).1, hplan] at hmem
      obtain ⟨nodeConfig, -, rfl⟩ := (emplaceNodes_spec _ prepared plan).1 node hmem
      cases hrecord
  exact hboth.2

-- ============================================================================
-- Requests after an eviction
-- ============================================================================

/-- In a finished run every request has been looked up, at the time it was issued. -/
theorem exists_lookup (h : construct A rng config = .ok s) (hu : RunsTo A s u) {request : Request}
    (hrequest : request ∈ u.shared.requestTable.items) :
    ∃ e ∈ u.eventLog, e.type = .localCacheLookup ∧ e.requestId = request.requestId ∧
      e.time = request.issueTime := by
  obtain ⟨e, hin, hnoted⟩ := (lookupsInv_of_construct h hu.reaches).noted request hrequest
  have hnil : u.view.pending = 0 := halted_iff.mp hu.halted
  rw [hnil] at hin
  exact ⟨e, hin.resolve_right (Multiset.notMem_zero e), hnoted⟩

/-- A request that is looked up after an eviction was issued at its time or later. -/
theorem evictionTime_le_issueTime (h : construct A rng config = .ok s) (ht : Reachable A s t)
    (hu : RunsTo A s u) {p : Placement} (hp : p ∈ u.placements)
    (hevicted : t.HasEvicted p.nodeId p.index) {request : Request}
    (hrequest : request ∈ u.shared.requestTable.items)
    (hnot : ¬ t.HasLookedUp request.requestId) :
    p.record.evictionTime ≤ request.issueTime := by
  have hlater := later_of_reaches h ht (hu.reaches_end ht)
  obtain ⟨e, he, htype, hid, htime⟩ := exists_lookup h hu hrequest
  -- the lookup is not on the log of the state in which the placement is evicted
  obtain ⟨later, hlog, htimes⟩ := hlater.log
  have hnow : t.shared.scheduler.currentTime ≤ request.issueTime := by
    rw [hlog] at he
    rcases List.mem_append.mp he with hin | hin
    · exact absurd ⟨e, hin, htype, hid⟩ hnot
    · rw [← htime]
      exact htimes e hin
  obtain ⟨node, record, hfind, hrecord, hplacement⟩ := hevicted
  have hclosed := (Bool.and_eq_true_iff.mp hplacement).2
  obtain ⟨node', hfind', hkept⟩ := hlater.kept p.nodeId node hfind
  obtain ⟨found, hfound, hsome⟩ := mem_placements hp
  obtain rfl := Option.some.inj (hfind'.symm.trans hfound)
  obtain rfl := Option.some.inj ((hkept p.index record hrecord hclosed).symm.trans hsome)
  exact le_trans
    (closedInPast_of_construct h ht p.nodeId node hfind p.index _ hrecord hclosed) hnow

/-- The turn of a lookup is the first to look its request up. -/
theorem not_lookedUp_before (hinv : t.LookupsInv) (hmove : Run.Moves (step A) t u)
    {e : EventRecord} (hlog : u.eventLog = t.eventLog ++ [e])
    (htype : e.type = .localCacheLookup) : ¬ t.HasLookedUp e.requestId := by
  obtain ⟨event, scheduler, hpop, hlog', -⟩ := turn_time hmove
  rw [hlog] at hlog'
  obtain rfl := List.singleton_inj.mp (List.append_cancel_left hlog')
  have hpending : event.record ∈ t.view.pending := by
    show event.record ∈ t.shared.scheduler.pending
    rw [(Scheduler.popNext_eq_some hpop).1]
    exact Multiset.mem_cons_self _ _
  rintro ⟨e', he', htype', hid⟩
  exact hinv.once e' he' htype' _ hpending htype hid.symm

/-- A request that was issued after the time of an eviction is looked up after it. -/
theorem exists_evicted_before_lookup (h : construct A rng config = .ok s) (hu : RunsTo A s u)
    {p : Placement} (hp : p ∈ u.placements) (hplacement : p.record.IsEvictedPlacement = true)
    {request : Request} (hrequest : request ∈ u.shared.requestTable.items)
    (hlt : p.record.evictionTime < request.issueTime) :
    ∃ t, Reachable A s t ∧ t.HasEvicted p.nodeId p.index ∧
      ¬ t.HasLookedUp request.requestId := by
  obtain ⟨e, he, htype, hid, htime⟩ := exists_lookup h hu hrequest
  have hfresh : s.eventLog = [] := by
    obtain ⟨prepared, generatedWorkload, rfl⟩ := construct_eq_ofConfig h
    rfl
  obtain ⟨a, b, ha, hmove, hlog⟩ := exists_turn hu.reaches hfresh he
  have hb : Reachable A s b := ha.tail hmove
  -- the lookup takes place at the time of issue, later than the eviction
  have hnow : b.shared.scheduler.currentTime = request.issueTime := by
    obtain ⟨event, scheduler, -, hlog', hcurrent⟩ := turn_time hmove
    rw [hlog] at hlog'
    obtain rfl := List.singleton_inj.mp (List.append_cancel_left hlog')
    exact hcurrent.trans htime
  have hevicted := (Bool.and_eq_true_iff.mp hplacement).2
  obtain ⟨found, hfound, hrecord⟩ := mem_placements hp
  obtain ⟨node, hnode, hclosed⟩ :=
    (later_of_reaches h hb (hu.reaches_end hb)).closed p.nodeId found hfound
  have hin : node.localCache.admissionRecords[p.index]? = some p.record := by
    rcases hclosed p.index p.record hrecord hevicted with hold | hafter
    · exact hold
    · exact absurd (hnow ▸ hafter) (not_le.mpr hlt)
  have hcloses := closes_move (cachesCredited_of_construct h ha) hmove p.nodeId
  rw [hnode] at hcloses
  have hbefore : a.HasEvicted p.nodeId p.index := by
    cases hfind : a.computeNodes.find p.nodeId with
    | none =>
        rw [hfind] at hcloses
        cases hcloses
    | some node' =>
        rw [hfind] at hcloses
        cases hcloses with
        | some hcloses =>
            rcases hcloses.closed p.index p.record hin hevicted with hold | hafter
            · exact ⟨node', p.record, hfind, hold, hplacement⟩
            · exact absurd (hafter.trans hnow) (ne_of_lt hlt)
  refine ⟨a, ha, hbefore, ?_⟩
  rw [← hid]
  exact not_lookedUp_before (lookupsInv_of_construct h ha) hmove hlog htype

end Run

/-- The record of a placement names the node that keeps it. -/
theorem nodeId_of_placement {t : Simulator P} (h : t.AllLabelled) {p : Placement} (hp : p ∈ t.placements) :
    p.record.nodeId = p.nodeId := by
  obtain ⟨node, hfind, hrecord⟩ := mem_placements hp
  obtain ⟨hmem, hkey⟩ := KeyedStore.find_eq_some.mp hfind
  have hlabel : p.record.label ∈ node.localCache.labels :=
    List.mem_map_of_mem (List.mem_of_getElem? hrecord)
  exact ((h.nodes node hmem).label_of _ hlabel).1.trans hkey

end Simulator

end DmSimulator
