/-
  DmSimulator.Cache.BypassRows

  What the bypass column of the contention-aware policy's decision records says,
  against what the admission attempts did.

  `on_admission_result` recomputes the bypass condition from the score and the
  confirmation count, whatever became of the attempt.  The column is therefore
  also set for an attempt that qualified for the bypass and was then stopped by
  the minimum score, by its size or for want of a victim; `Placeable` is what
  such an attempt needs beyond the bypass.
-/
import DmSimulator.Cache.AdmissionPlan
import DmSimulator.Cache.EvictionRows

namespace DmSimulator

namespace ContentionAwarePolicy

variable {config : ContentionPolicyConfig} {cacheCapacityBytes : Nat}

-- ============================================================================
-- What an attempt needs
-- ============================================================================

/-- The recent confirmation count of the incoming object is below the gate. -/
def Unconfirmed (config : ContentionPolicyConfig) (s : ContentionState) (request : Request) :
    Prop :=
  confirmationCountFor s request.objectId < config.localReuseGateThreshold

/-- The incoming object is unconfirmed, and its score is high enough to be admitted
    all the same. -/
def QualifiesForBypass (config : ContentionPolicyConfig) (cacheCapacityBytes : Nat)
    (s : ContentionState) (request : Request) : Prop :=
  Unconfirmed config s request ∧
    config.minAdmitScore + config.localConfirmationBypassScoreMargin ≤
      scoreOf config cacheCapacityBytes s request.objectId request.sizeBytes

/-- The residents that the incoming object beats by the margin a victim needs. -/
def yieldingResidents (c : LocalCache (ContentionAwarePolicy config cacheCapacityBytes))
    (request : Request) : List CacheEntry :=
  c.entries.items.filter fun v =>
    scoreOf config cacheCapacityBytes c.policy v.objectId v.sizeBytes + requiredMargin config <
      scoreOf config cacheCapacityBytes c.policy request.objectId request.sizeBytes

/-- Nothing apart from the confirmation gate stops the attempt: the score reaches the
    minimum, the object is not larger than the cache, and there is room for it without
    the residents that yield to it. -/
structure Placeable (c : LocalCache (ContentionAwarePolicy config cacheCapacityBytes))
    (request : Request) : Prop where
  min_score : config.minAdmitScore ≤
    scoreOf config cacheCapacityBytes c.policy request.objectId request.sizeBytes
  fits : request.sizeBytes ≤ c.capacityBytes
  room : c.occupancyBytes - LocalCache.bytesOf (yieldingResidents c request) +
    request.sizeBytes ≤ c.capacityBytes

theorem admissionDecision_shouldAdmit (hvariant : config.variant = .smoothedReuseGated)
    (cacheCapacityBytes : Nat) (s : ContentionState) (request : Request) :
    (admissionDecision config cacheCapacityBytes s request).shouldAdmit = true ↔
      config.minAdmitScore ≤
          scoreOf config cacheCapacityBytes s request.objectId request.sizeBytes ∧
        (¬ Unconfirmed config s request ∨
          config.minAdmitScore + config.localConfirmationBypassScoreMargin ≤
            scoreOf config cacheCapacityBytes s request.objectId request.sizeBytes) := by
  unfold admissionDecision Unconfirmed
  simp only [hvariant, usesLocalConfirmation, reduceCtorEq, decide_false, Bool.false_and,
    decide_true, not_true_eq_false, if_false, Bool.false_eq_true, ge_iff_le, not_lt]
  by_cases hmin : scoreOf config cacheCapacityBytes s request.objectId request.sizeBytes <
      config.minAdmitScore
  · simp [hmin, not_le.mpr hmin]
  · by_cases hconfirmed : config.localReuseGateThreshold ≤ confirmationCountFor s request.objectId
    · simp [hmin, hconfirmed, not_lt.mp hmin]
    · by_cases hbypass : config.minAdmitScore + config.localConfirmationBypassScoreMargin ≤
          scoreOf config cacheCapacityBytes s request.objectId request.sizeBytes
      · simp [hmin, hbypass, not_lt.mp hmin]
      · simp [hmin, hconfirmed, hbypass]

/-- The residents that yield come first in the ranking. -/
theorem yielding_down (config : ContentionPolicyConfig) (cacheCapacityBytes : Nat)
    (s : ContentionState) (bar : Rat) (a b : CacheEntry)
    (hrank : rank config cacheCapacityBytes s a ≤ rank config cacheCapacityBytes s b)
    (hb : scoreOf config cacheCapacityBytes s b.objectId b.sizeBytes + requiredMargin config <
      bar) :
    scoreOf config cacheCapacityBytes s a.objectId a.sizeBytes + requiredMargin config < bar := by
  have hscore : scoreOf config cacheCapacityBytes s a.objectId a.sizeBytes ≤
      scoreOf config cacheCapacityBytes s b.objectId b.sizeBytes :=
    Prod.Lex.monotone_fst _ _ hrank
  exact lt_of_le_of_lt (add_le_add_left hscore _) hb

/-- The bypass column of a new record says whether the attempt qualified for the bypass. -/
theorem onAdmissionResult_bypassed (hvariant : config.variant = .smoothedReuseGated)
    (cacheCapacityBytes : Nat) (s : ContentionState) (request : Request) (admitted : Bool) (reason : String)
    (victims : List ObjectId) :
    ∃ record, (onAdmissionResult config cacheCapacityBytes s request admitted reason
        victims).diagnostics = s.diagnostics ++ [record] ∧
      (record.localConfirmationBypassed = true ↔
        QualifiesForBypass config cacheCapacityBytes s request) := by
  have hconfirm : usesLocalConfirmation config = true := by
    rw [usesLocalConfirmation, hvariant]
    rfl
  refine ⟨_, rfl, ?_⟩
  simp only [hconfirm, if_true, Bool.and_eq_true, decide_eq_true_iff]
  exact Iff.rfl

end ContentionAwarePolicy

namespace LocalCache

open ContentionAwarePolicy

variable {config : ContentionPolicyConfig} {cacheCapacityBytes : Nat}
  {c : LocalCache (ContentionAwarePolicy config cacheCapacityBytes)}

theorem admitObject_admitted_iff {P : CachePolicy} {A : Arith} (c : LocalCache P)
    (request : Request) (response : Response) (time : SimTime) :
    (admitObject A c request response time).2 = true ↔
      (P.admissionDecision c.policy request response).shouldAdmit = true ∧
        request.sizeBytes ≤ c.capacityBytes ∧
          ∃ victims, victimPlan A c request = some (.planned victims) := by
  unfold admitObject
  by_cases hdecision : (P.admissionDecision c.policy request response).shouldAdmit = true
  · by_cases hlarge : request.sizeBytes > c.capacityBytes
    · simp [hdecision, hlarge]
    · obtain ⟨plan, hplan⟩ := Option.isSome_iff_exists.mp (victimPlan_isSome (A := A) c request)
      cases plan <;> simp [hdecision, hlarge, hplan, Nat.le_of_not_gt hlarge]
  · simp [hdecision]

/-- An unconfirmed object is placed exactly if it qualifies for the bypass and nothing
    else stops it. -/
theorem admitObject_unconfirmed_iff (hvariant : config.variant = .smoothedReuseGated)
    (request : Request) (response : Response) (time : SimTime) :
    (Unconfirmed config c.policy request ∧
        (admitObject .exact c request response time).2 = true) ↔
      QualifiesForBypass config cacheCapacityBytes c.policy request ∧ Placeable c request := by
  have hdecision := admissionDecision_shouldAdmit hvariant cacheCapacityBytes c.policy request
  have hplan := planVictims_planned_iff
    (ContentionAwarePolicy.rankedBy config cacheCapacityBytes c.policy request)
    (fun a b => yielding_down config cacheCapacityBytes c.policy _ a b)
    c.capacityBytes _ c.entries c.occupancyBytes []
    (Nat.lt_succ_self c.entries.items.length)
  rw [admitObject_admitted_iff]
  constructor
  · rintro ⟨hcount, haccepts, hfits, hroom⟩
    obtain ⟨hmin, hbypass⟩ := hdecision.mp haccepts
    refine ⟨⟨hcount, ?_⟩, hmin, hfits, hplan.mp hroom⟩
    rcases hbypass with hconfirmed | hbypass
    · exact absurd hcount hconfirmed
    · exact hbypass
  · rintro ⟨⟨hcount, hbypass⟩, hplaceable⟩
    exact ⟨hcount, hdecision.mpr ⟨hplaceable.min_score, Or.inr hbypass⟩, hplaceable.fits,
      hplan.mpr hplaceable.room⟩

-- ============================================================================
-- The bypass column
-- ============================================================================

/-- The bypass column of the policy's decision records. -/
def bypassRows {P : CachePolicy} (c : LocalCache P) : List Bool :=
  (P.diagnostics c.policy).map PolicyDecisionRecord.localConfirmationBypassed

/-- For each admission attempt of a sequence of operations, whether it placed its object
    while the object was unconfirmed. -/
def attemptBypasses (c : LocalCache (ContentionAwarePolicy config cacheCapacityBytes)) :
    List CacheOp → List Bool
  | [] => []
  | op :: rest =>
      match op with
      | .admitObject request response time =>
          (decide (confirmationCountFor c.policy request.objectId <
              config.localReuseGateThreshold) &&
            (admitObject .exact c request response time).2) ::
              attemptBypasses (applyOp .exact c op) rest
      | _ => attemptBypasses (applyOp .exact c op) rest

/-- An attempt that qualifies for the bypass is not stopped by anything else. -/
def BypassSucceeds (c : LocalCache (ContentionAwarePolicy config cacheCapacityBytes))
    (request : Request) (_ : Response) : Prop :=
  QualifiesForBypass config cacheCapacityBytes c.policy request → Placeable c request

theorem bypassRows_lookup (stats : Stats) (request : Request) (time : SimTime) :
    bypassRows (LocalCache.lookup stats c request time).1 = bypassRows c := by
  have hdiagnostics := congrArg (List.map PolicyDecisionRecord.localConfirmationBypassed)
    (onLookup_diagnostics config stats c.policy request)
  unfold LocalCache.lookup
  cases c.entries.find request.objectId with
  | none => exact hdiagnostics
  | some entry =>
      simp only [bypassRows, recordHit_policy]
      exact hdiagnostics

theorem bypassRows_admitObject (hvariant : config.variant = .smoothedReuseGated)
    (request : Request) (response : Response) (time : SimTime) :
    ∃ bypassed, bypassRows (admitObject .exact c request response time).1 = bypassRows c ++ [bypassed] ∧
      (bypassed = true ↔ QualifiesForBypass config cacheCapacityBytes c.policy request) := by
  obtain ⟨admitted, reason, victims, -, hpolicy, -⟩ :=
    admitObject_row (A := .exact) c request response time
  obtain ⟨record, hrecord, hbypassed⟩ :=
    onAdmissionResult_bypassed hvariant cacheCapacityBytes c.policy request
      admitted reason victims
  refine ⟨record.localConfirmationBypassed, ?_, hbypassed⟩
  have hrows := congrArg (List.map PolicyDecisionRecord.localConfirmationBypassed) hrecord
  rw [List.map_append] at hrows
  rw [bypassRows, hpolicy]
  exact hrows

/-- The rows of a sequence of operations: one for each attempt, and they tell the attempts
    that placed an unconfirmed object exactly if every bypass succeeds. -/
theorem bypassRows_foldl (hvariant : config.variant = .smoothedReuseGated) {ops : List CacheOp}
    (hops : ∀ op ∈ ops, ¬ op.Installs)
    (c : LocalCache (ContentionAwarePolicy config cacheCapacityBytes)) :
    ∃ rows, bypassRows (ops.foldl (applyOp .exact) c) = bypassRows c ++ rows ∧
      rows.length = (attemptBypasses c ops).length ∧
      (rows = attemptBypasses c ops ↔ EveryAttempt .exact BypassSucceeds c ops) := by
  induction ops generalizing c with
  | nil => exact ⟨[], (List.append_nil _).symm, rfl, iff_of_true rfl everyAttempt_nil⟩
  | cons op ops ih =>
      obtain ⟨rows, hrows, hlength, hiff⟩ :=
        ih (fun other hother => hops other (List.mem_cons_of_mem op hother)) (applyOp .exact c op)
      rw [List.foldl_cons, hrows]
      cases op with
      | admitObject request response time =>
          obtain ⟨bypassed, hrow, hqualifies⟩ :=
            bypassRows_admitObject (c := c) hvariant request response time
          have hplaced := admitObject_unconfirmed_iff (c := c) hvariant request response time
          refine ⟨bypassed :: rows, ?_, by rw [attemptBypasses, List.length_cons, hlength]; rfl, ?_⟩
          · rw [show bypassRows (applyOp .exact c (.admitObject request response time)) = _ from hrow]
            simp
          · rw [attemptBypasses, List.cons.injEq, hiff, everyAttempt_cons_attempt]
            refine and_congr_left fun _ => ?_
            rw [Bool.eq_iff_iff, hqualifies, Bool.and_eq_true, decide_eq_true_iff]
            exact ⟨fun h hbypass => (hplaced.mp (h.mp hbypass)).2,
              fun h => ⟨fun hbypass => hplaced.mpr ⟨hbypass, h hbypass⟩,
                fun hboth => (hplaced.mp hboth).1⟩⟩
      | lookup stats request time =>
          rw [everyAttempt_cons_other (by simp)]
          exact ⟨rows, congrArg (· ++ rows) (bypassRows_lookup stats request time), hlength, hiff⟩
      | onEpochStart stats epochId =>
          rw [everyAttempt_cons_other (by simp)]
          refine ⟨rows, congrArg (· ++ rows) ?_, hlength, hiff⟩
          exact congrArg (List.map PolicyDecisionRecord.localConfirmationBypassed)
            (onEpochStart_diagnostics config stats c.policy epochId)
      | installReplicas replicas time nodeId epochId =>
          exact absurd trivial (hops _ List.mem_cons_self)

/-- After every sequence of lookups, epoch starts and admission attempts, the bypass column
    of the decision records says which attempts placed an object that was unconfirmed, if
    and only if every attempt that qualified for the bypass was placeable. -/
theorem runOps_bypassRows_iff (config : ContentionPolicyConfig) (cacheCapacityBytes : Nat)
    (hvariant : config.variant = .smoothedReuseGated) (capacityBytes : Nat) (ops : List CacheOp)
    (hops : ∀ op ∈ ops, ¬ op.Installs) :
    let P := ContentionAwarePolicy config cacheCapacityBytes
    bypassRows (runOps .exact P capacityBytes ops) =
        attemptBypasses ({ capacityBytes := capacityBytes } : LocalCache P) ops ↔
      EveryAttempt .exact BypassSucceeds ({ capacityBytes := capacityBytes } : LocalCache P)
        ops := by
  intro P
  obtain ⟨rows, heq, -, hiff⟩ := bypassRows_foldl hvariant hops
    ({ capacityBytes := capacityBytes } : LocalCache P)
  rw [← hiff, show bypassRows (runOps .exact P capacityBytes ops) = _ from heq]
  exact Iff.rfl

/-- A policy that weighs local accesses heavily. -/
def localAccessesFirst : ContentionPolicyConfig :=
  { variant := .smoothedReuseGated, weights := { localHotnessWeight := 8 } }

/-- One lookup of an object of 256 bytes and its admission attempt. -/
def largeObject : List CacheOp :=
  [.lookup {} { objectId := 1, sizeBytes := 256 } 0,
    .admitObject { objectId := 1, sizeBytes := 256 } {} 1]

/-- A cache of 128 bytes never holds the object, and its record reports a bypass. -/
theorem largeObject_bypassRows :
    bypassRows (runOps .exact (ContentionAwarePolicy localAccessesFirst 128) 128 largeObject) ≠
      attemptBypasses ({ capacityBytes := 128 } :
        LocalCache (ContentionAwarePolicy localAccessesFirst 128)) largeObject := by
  have hrows : bypassRows (runOps .exact (ContentionAwarePolicy localAccessesFirst 128) 128
      largeObject) = [true] := by decide +kernel
  have hbypasses : attemptBypasses ({ capacityBytes := 128 } :
      LocalCache (ContentionAwarePolicy localAccessesFirst 128)) largeObject = [false] := by
    decide +kernel
  rw [hrows, hbypasses]
  decide

theorem largeObject_bypassRows_iff :
    let P := ContentionAwarePolicy localAccessesFirst 128
    bypassRows (runOps .exact P 128 largeObject) =
        attemptBypasses ({ capacityBytes := 128 } : LocalCache P) largeObject ↔
      EveryAttempt .exact BypassSucceeds ({ capacityBytes := 128 } : LocalCache P)
        largeObject := by
  refine runOps_bypassRows_iff localAccessesFirst 128 rfl 128 largeObject ?_
  intro op hop
  simp only [largeObject, List.mem_cons, List.not_mem_nil, or_false] at hop
  rcases hop with rfl | rfl <;> exact not_false

end LocalCache

end DmSimulator
