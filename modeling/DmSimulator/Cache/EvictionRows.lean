/-
  DmSimulator.Cache.EvictionRows

  What the eviction columns of the admission diagnostics say, against what the
  admission attempts removed.

  `admitObject` hands one list of planned victims to the eviction loop and to
  the diagnostics.  An attempt that is given up in the middle of planning evicts
  nothing, but the victims planned so far still end up in its row
  (`AbandonsPlan`).  All other rows list what was removed.
-/
import DmSimulator.Cache.Columns
import DmSimulator.Cache.ContentionPolicy
import DmSimulator.Cache.HotnessPolicy

namespace DmSimulator

namespace LocalCache

variable {P : CachePolicy} {A : Arith} {c : LocalCache P}

-- ============================================================================
-- What an attempt removes
-- ============================================================================

/-- The objects an eviction pass removes: those that are resident when their turn
    comes, in order. -/
def removals (A : Arith) (c : LocalCache P) (time : SimTime) : List ObjectId → List ObjectId
  | [] => []
  | victim :: rest =>
      if (c.entries.find victim).isSome then
        victim :: removals A (evict A c victim time) time rest
      else removals A (evict A c victim time) time rest

/-- The objects an admission attempt removes. -/
def admissionRemovals (A : Arith) (c : LocalCache P) (request : Request) (response : Response)
    (time : SimTime) : List ObjectId :=
  match (admitObject A c request response time).2, victimPlan A c request with
  | true, some (.planned victims) => removals A c time victims
  | _, _ => []

/-- What each admission attempt of a sequence of operations removes, in order. -/
def attemptRemovals (A : Arith) (c : LocalCache P) : List CacheOp → List (List ObjectId)
  | [] => []
  | op :: rest =>
      match op with
      | .admitObject request response time =>
          admissionRemovals A c request response time :: attemptRemovals A (applyOp A c op) rest
      | _ => attemptRemovals A (applyOp A c op) rest

/-- The attempt is accepted by the policy and fits, but its victim planning is given
    up after a victim has been planned. -/
def AbandonsPlan (A : Arith) (c : LocalCache P) (request : Request) (response : Response) :
    Prop :=
  (P.admissionDecision c.policy request response).shouldAdmit = true ∧
    request.sizeBytes ≤ c.capacityBytes ∧
    ∃ reason victim victims,
      victimPlan A c request = some (.rejected reason (victim :: victims))

/-- Every admission attempt of the sequence meets `Q` in the state it finds. -/
def EveryAttempt (A : Arith) (Q : LocalCache P → Request → Response → Prop) (c : LocalCache P)
    (ops : List CacheOp) : Prop :=
  ∀ earlier request response time later,
    ops = earlier ++ .admitObject request response time :: later →
      Q (earlier.foldl (applyOp A) c) request response

theorem everyAttempt_nil {Q : LocalCache P → Request → Response → Prop} :
    EveryAttempt A Q c [] := by
  intro earlier request response time later hsplit
  simp at hsplit

theorem everyAttempt_cons {Q : LocalCache P → Request → Response → Prop} {op : CacheOp}
    {ops : List CacheOp} :
    EveryAttempt A Q c (op :: ops) ↔
      (∀ request response time, op = .admitObject request response time →
        Q c request response) ∧ EveryAttempt A Q (applyOp A c op) ops := by
  constructor
  · intro h
    refine ⟨fun request response time hop => h [] request response time ops (by rw [hop]; rfl), ?_⟩
    intro earlier request response time later hsplit
    exact h (op :: earlier) request response time later (by rw [hsplit]; rfl)
  · rintro ⟨hhead, hrest⟩ earlier request response time later hsplit
    cases earlier with
    | nil => exact hhead request response time (List.cons.inj hsplit).1
    | cons first earlier =>
        obtain ⟨rfl, htail⟩ := List.cons.inj hsplit
        exact hrest earlier request response time later htail

/-- Only an admission attempt adds a condition. -/
theorem everyAttempt_cons_attempt {Q : LocalCache P → Request → Response → Prop}
    {request : Request} {response : Response} {time : SimTime} {ops : List CacheOp} :
    EveryAttempt A Q c (.admitObject request response time :: ops) ↔
      Q c request response ∧
        EveryAttempt A Q (applyOp A c (.admitObject request response time)) ops := by
  rw [everyAttempt_cons]
  refine and_congr_left fun _ => ⟨fun h => h request response time rfl, fun h _ _ _ heq => ?_⟩
  cases heq
  exact h

theorem everyAttempt_cons_other {Q : LocalCache P → Request → Response → Prop} {op : CacheOp}
    {ops : List CacheOp} (hop : ∀ request response time, op ≠ .admitObject request response time) :
    EveryAttempt A Q c (op :: ops) ↔ EveryAttempt A Q (applyOp A c op) ops := by
  rw [everyAttempt_cons]
  exact and_iff_right fun request response time heq => absurd heq (hop request response time)

/-- No admission attempt of the sequence abandons its plan. -/
def NoPlanAbandoned (A : Arith) (c : LocalCache P) (ops : List CacheOp) : Prop :=
  ∀ earlier request response time later,
    ops = earlier ++ .admitObject request response time :: later →
      ¬ AbandonsPlan A (earlier.foldl (applyOp A) c) request response

theorem noPlanAbandoned_iff {ops : List CacheOp} :
    NoPlanAbandoned A c ops ↔
      EveryAttempt A (fun c request response => ¬ AbandonsPlan A c request response) c ops :=
  Iff.rfl

/-- The operation replaces the contents by replicas. -/
def CacheOp.Installs : CacheOp → Prop
  | .installReplicas _ _ _ _ => True
  | _ => False

theorem removals_snoc (victims : List ObjectId) (victim : ObjectId) (c : LocalCache P)
    (time : SimTime) :
    removals A c time (victims ++ [victim]) = removals A c time victims ++
      if ((evictAll A c victims time).entries.find victim).isSome then [victim] else [] := by
  induction victims generalizing c with
  | nil => rfl
  | cons first rest ih =>
      rw [List.cons_append, removals, removals, ih, evictAll_cons]
      split <;> rfl

/-- Planned victims are resident when their turn comes. -/
theorem LoopHead.removals_eq {request : Request} {entries : Residents} {occupancy : Nat}
    {victims : List ObjectId} (h : LoopHead A c request entries occupancy victims)
    (time : SimTime) : removals A c time victims = victims := by
  induction h with
  | start => rfl
  | next hhead _ _ hfind ih =>
      rw [removals_snoc, ih, (hhead.evictAll_eq time).1, hfind]
      rfl

-- ============================================================================
-- What the rows say
-- ============================================================================

/-- The eviction column of the admission records. -/
def evictionRows (c : LocalCache P) : List (List ObjectId) :=
  c.admissionRecords.map CacheAdmissionRecord.evictedObjects

theorem evictionRows_lookup (c : LocalCache P) (stats : Stats) (request : Request)
    (time : SimTime) : (lookup stats c request time).1.evictionRows = c.evictionRows :=
  map_lookup (fun _ _ => rfl) c stats request time

theorem evictionRows_evictAll (c : LocalCache P) (victims : List ObjectId) (time : SimTime) :
    (evictAll A c victims time).evictionRows = c.evictionRows :=
  map_evictAll (fun _ _ => rfl) victims c time

theorem evictionRows_recordResult (c : LocalCache P) (request : Request) (response : Response)
    (time : SimTime) (admitted : Bool) (reason : String) (victims : List ObjectId) :
    (c.recordResult request response time admitted reason victims).1.evictionRows =
      c.evictionRows ++ [victims] := by
  unfold recordResult evictionRows
  cases admitted <;> simp [recordSuccessfulPlacement, recordRejectedAdmission]

/-- The row an attempt adds is also what the policy is told, and it lists what the
    attempt removed exactly if no plan was abandoned. -/
theorem admitObject_row (c : LocalCache P) (request : Request) (response : Response)
    (time : SimTime) :
    ∃ admitted reason victims,
      (admitObject A c request response time).1.evictionRows = c.evictionRows ++ [victims] ∧
      (admitObject A c request response time).1.policy =
        P.onAdmissionResult c.policy request response time admitted reason victims ∧
      (victims = admissionRemovals A c request response time ↔
        ¬ AbandonsPlan A c request response) := by
  -- a rejection evicts nothing
  have hrejected : ∀ reason victims, admitObject A c request response time =
      c.recordResult request response time false reason victims →
        admissionRemovals A c request response time = [] := by
    intro reason victims heq
    unfold admissionRemovals
    rw [heq, recordResult_snd]
  unfold AbandonsPlan
  by_cases hdecision : (P.admissionDecision c.policy request response).shouldAdmit = true
  · by_cases hlarge : request.sizeBytes > c.capacityBytes
    · have heq : admitObject A c request response time =
          c.recordResult request response time false "object_too_large" [] := by
        simp [admitObject, hdecision, hlarge]
      refine ⟨false, "object_too_large", [], by rw [heq, evictionRows_recordResult],
        by rw [heq, recordResult_policy], ?_⟩
      rw [hrejected _ _ heq]
      simp [Nat.not_le_of_gt hlarge]
    · obtain ⟨plan, hplan⟩ := Option.isSome_iff_exists.mp (victimPlan_isSome (A := A) c request)
      cases plan with
      | rejected reason victims =>
          have heq : admitObject A c request response time =
              c.recordResult request response time false reason victims := by
            simp [admitObject, hdecision, hlarge, hplan]
          refine ⟨false, reason, victims, by rw [heq, evictionRows_recordResult],
            by rw [heq, recordResult_policy], ?_⟩
          rw [hrejected _ _ heq]
          cases victims with
          | nil => simp [hplan]
          | cons victim rest => simp [hplan, hdecision, Nat.le_of_not_gt hlarge]
      | planned victims =>
          have heq : admitObject A c request response time =
              (place A (evictAll A c victims time) request time).recordResult request response
                time true "admitted" victims := by
            simp [admitObject, hdecision, hlarge, hplan]
          obtain ⟨_, _, hhead, -⟩ := LoopHead.of_planVictims .start hplan
          refine ⟨true, "admitted", victims, ?_, ?_, ?_⟩
          · rw [heq, evictionRows_recordResult]
            exact congrArg (· ++ [victims]) (evictionRows_evictAll c victims time)
          · rw [heq, recordResult_policy]
            show P.onAdmissionResult (evictAll A c victims time).policy _ _ _ _ _ _ = _
            rw [evictAll_policy]
          · unfold admissionRemovals
            rw [heq, recordResult_snd, hplan]
            simp [hhead.removals_eq time]
  · have heq : admitObject A c request response time = c.recordResult request response time false
        (P.admissionDecision c.policy request response).reason [] := by
      simp [admitObject, hdecision]
    refine ⟨false, _, [], by rw [heq, evictionRows_recordResult], by rw [heq, recordResult_policy], ?_⟩
    rw [hrejected _ _ heq]
    simp [hdecision]

/-- The rows of a sequence of lookups and admission attempts: one for each attempt,
    and they list what the attempts removed exactly if no plan was abandoned. -/
theorem evictionRows_foldl {ops : List CacheOp} (hops : ∀ op ∈ ops, ¬ op.Installs)
    (c : LocalCache P) :
    ∃ rows, (ops.foldl (applyOp A) c).evictionRows = c.evictionRows ++ rows ∧
      rows.length = (attemptRemovals A c ops).length ∧
      (rows = attemptRemovals A c ops ↔ NoPlanAbandoned A c ops) := by
  induction ops generalizing c with
  | nil => exact ⟨[], (List.append_nil _).symm, rfl, iff_of_true rfl (noPlanAbandoned_iff.mpr everyAttempt_nil)⟩
  | cons op ops ih =>
      obtain ⟨rows, hrows, hlength, hiff⟩ :=
        ih (fun other hother => hops other (List.mem_cons_of_mem op hother)) (applyOp A c op)
      rw [noPlanAbandoned_iff] at hiff
      rw [List.foldl_cons, hrows, noPlanAbandoned_iff]
      cases op with
      | admitObject request response time =>
          obtain ⟨admitted, reason, victims, hrow, -, hvictims⟩ :=
            admitObject_row (A := A) c request response time
          refine ⟨victims :: rows, ?_, by rw [attemptRemovals, List.length_cons, hlength]; rfl, ?_⟩
          · rw [show (applyOp A c (.admitObject request response time)).evictionRows = _ from hrow]
            simp
          · rw [attemptRemovals, List.cons.injEq, hvictims, hiff, everyAttempt_cons_attempt]
      | lookup stats request time =>
          rw [everyAttempt_cons_other (by simp)]
          exact ⟨rows, congrArg (· ++ rows) (evictionRows_lookup c stats request time), hlength, hiff⟩
      | onEpochStart stats epochId =>
          rw [everyAttempt_cons_other (by simp)]
          exact ⟨rows, rfl, hlength, hiff⟩
      | installReplicas replicas time nodeId epochId =>
          exact absurd trivial (hops _ List.mem_cons_self)

-- ============================================================================
-- The policy's own records
-- ============================================================================

/-- The eviction column of the policy's decision records. -/
def decisionRows (P : CachePolicy) (s : P.State) : List (List ObjectId) :=
  (P.diagnostics s).map PolicyDecisionRecord.evictedObjects

/-- The policy keeps one decision record for every admission attempt. -/
structure RecordsDecisions (P : CachePolicy) : Prop where
  init : decisionRows P P.init = []
  onLookup : ∀ stats s request time hit,
    decisionRows P (P.onLookup stats s request time hit) = decisionRows P s
  onEpochStart : ∀ stats s epochId,
    decisionRows P (P.onEpochStart stats s epochId) = decisionRows P s
  onAdmissionResult : ∀ s request response time admitted reason victims,
    decisionRows P (P.onAdmissionResult s request response time admitted reason victims) =
      decisionRows P s ++ [victims]

/-- The decision records have the same eviction column as the admission records. -/
theorem decisionRows_foldl (hP : RecordsDecisions P) {ops : List CacheOp}
    (hops : ∀ op ∈ ops, ¬ op.Installs) {c : LocalCache P}
    (hc : decisionRows P c.policy = c.evictionRows) :
    decisionRows P (ops.foldl (applyOp A) c).policy =
      (ops.foldl (applyOp A) c).evictionRows := by
  induction ops generalizing c with
  | nil => exact hc
  | cons op ops ih =>
      refine ih (fun other hother => hops other (List.mem_cons_of_mem op hother)) ?_
      cases op with
      | lookup stats request time =>
          show decisionRows P (LocalCache.lookup stats c request time).1.policy =
            (LocalCache.lookup stats c request time).1.evictionRows
          rw [evictionRows_lookup, ← hc]
          unfold LocalCache.lookup
          cases c.entries.find request.objectId with
          | none => exact hP.onLookup _ _ _ _ _
          | some entry =>
              simp only [recordHit_policy]
              exact hP.onLookup _ _ _ _ _
      | admitObject request response time =>
          obtain ⟨admitted, reason, victims, hrow, hpolicy, -⟩ :=
            admitObject_row (A := A) c request response time
          show decisionRows P (admitObject A c request response time).1.policy =
            (admitObject A c request response time).1.evictionRows
          rw [hrow, hpolicy, hP.onAdmissionResult, hc]
      | onEpochStart stats epochId => exact (hP.onEpochStart _ _ _).trans hc
      | installReplicas replicas time nodeId epochId =>
          exact absurd trivial (hops _ List.mem_cons_self)

theorem contentionAware_recordsDecisions (config : ContentionPolicyConfig)
    (cacheCapacityBytes : Nat) :
    RecordsDecisions (ContentionAwarePolicy config cacheCapacityBytes) := by
  refine ⟨rfl, ?_, ?_, ?_⟩
  · intro stats s request time hit
    exact congrArg (List.map PolicyDecisionRecord.evictedObjects)
      (ContentionAwarePolicy.onLookup_diagnostics config stats s request)
  · intro stats s epochId
    exact congrArg (List.map PolicyDecisionRecord.evictedObjects)
      (ContentionAwarePolicy.onEpochStart_diagnostics config stats s epochId)
  · intro s request response time admitted reason victims
    show (s.diagnostics ++ [_]).map PolicyDecisionRecord.evictedObjects = _
    rw [List.map_append]
    rfl

-- ============================================================================
-- The eviction columns
-- ============================================================================

/-- After every sequence of lookups and admission attempts, with every policy, the
    eviction columns of the admission records and of the contention-aware policy's
    decision records list exactly what the attempts removed, if and only if no attempt
    abandoned a plan with victims in it. -/
theorem runOps_rows_truthful_iff (A : Arith) (capacityBytes : Nat) (ops : List CacheOp)
    (hops : ∀ op ∈ ops, ¬ op.Installs) :
    (∀ P : CachePolicy,
      (runOps A P capacityBytes ops).evictionRows =
          attemptRemovals A ({ capacityBytes := capacityBytes } : LocalCache P) ops ↔
        NoPlanAbandoned A ({ capacityBytes := capacityBytes } : LocalCache P) ops) ∧
    ∀ config cacheCapacityBytes, let P := ContentionAwarePolicy config cacheCapacityBytes
      decisionRows P (runOps A P capacityBytes ops).policy =
          attemptRemovals A ({ capacityBytes := capacityBytes } : LocalCache P) ops ↔
        NoPlanAbandoned A ({ capacityBytes := capacityBytes } : LocalCache P) ops := by
  have hrows : ∀ P : CachePolicy, (runOps A P capacityBytes ops).evictionRows =
      attemptRemovals A ({ capacityBytes := capacityBytes } : LocalCache P) ops ↔
        NoPlanAbandoned A ({ capacityBytes := capacityBytes } : LocalCache P) ops := by
    intro P
    obtain ⟨rows, heq, -, hiff⟩ := evictionRows_foldl (A := A) hops
      ({ capacityBytes := capacityBytes } : LocalCache P)
    rw [← hiff, show (runOps A P capacityBytes ops).evictionRows = _ from heq]
    exact Iff.rfl
  refine ⟨hrows, fun config cacheCapacityBytes => ?_⟩
  have hsame := decisionRows_foldl (A := A)
    (contentionAware_recordsDecisions config cacheCapacityBytes) hops
    (c := { capacityBytes := capacityBytes }) rfl
  exact (Eq.congr_left hsame).trans (hrows _)

/-- A cache of 128 bytes with objects 1 and 2, looked up twice and three times, and an
    admission attempt for object 3 that needs the room of both. -/
def abandonedPlan : List CacheOp :=
  let request (objectId sizeBytes : Nat) : Request :=
    { objectId := objectId, sizeBytes := sizeBytes }
  [.lookup {} (request 2 64) 0, .lookup {} (request 2 64) 0, .lookup {} (request 2 64) 0,
    .admitObject (request 2 64) {} 1, .lookup {} (request 1 64) 2, .lookup {} (request 1 64) 2,
    .admitObject (request 1 64) {} 3, .lookup {} (request 3 128) 4,
    .lookup {} (request 3 128) 4, .lookup {} (request 3 128) 4,
    .admitObject (request 3 128) {} 5]

/-- Object 1 was planned, object 2 was refused: the rejected attempt lists object 1. -/
theorem abandonedPlan_row :
    (runOps .word64 (HotnessOnlyPolicy .word64 {}) 128 abandonedPlan).evictionRows ≠
      attemptRemovals .word64
        ({ capacityBytes := 128 } : LocalCache (HotnessOnlyPolicy .word64 {})) abandonedPlan := by
  have hrows : (runOps .word64 (HotnessOnlyPolicy .word64 {}) 128 abandonedPlan).evictionRows =
      [[], [], [1]] := by decide +kernel
  have hremovals : attemptRemovals .word64
      ({ capacityBytes := 128 } : LocalCache (HotnessOnlyPolicy .word64 {})) abandonedPlan =
        [[], [], []] := by decide +kernel
  rw [hrows, hremovals]
  decide

/-- The second of these attempts removes the object that the first has stored. -/
theorem evictingAdmission_rows_iff :
    let ops : List CacheOp :=
      [.admitObject { objectId := 1, sizeBytes := 64 } {} 0,
        .admitObject { objectId := 2, sizeBytes := 64 } {} 1]
    attemptRemovals .word64 ({ capacityBytes := 64 } : LocalCache LruPolicy) ops = [[], [1]] ∧
    (∀ P : CachePolicy,
      (runOps .word64 P 64 ops).evictionRows =
          attemptRemovals .word64 ({ capacityBytes := 64 } : LocalCache P) ops ↔
        NoPlanAbandoned .word64 ({ capacityBytes := 64 } : LocalCache P) ops) ∧
    ∀ config cacheCapacityBytes, let P := ContentionAwarePolicy config cacheCapacityBytes
      decisionRows P (runOps .word64 P 64 ops).policy =
          attemptRemovals .word64 ({ capacityBytes := 64 } : LocalCache P) ops ↔
        NoPlanAbandoned .word64 ({ capacityBytes := 64 } : LocalCache P) ops := by
  intro ops
  refine ⟨by decide +kernel, runOps_rows_truthful_iff .word64 64 ops ?_⟩
  intro op hop
  simp only [ops, List.mem_cons, List.not_mem_nil, or_false] at hop
  rcases hop with rfl | rfl <;> exact not_false

end LocalCache

end DmSimulator
