/-
  DmSimulator.Cache.Visits

  The life of a private cache as its node sees it: one request after the other
  enters its epoch, is looked up, and if it misses is offered for admission when
  its response is back.

  `Visited` says that a cache has been through a sequence of visits; statistics
  and responses are whatever they were.  Under a private policy two caches that
  have been through the same demands, at times that compare alike, gave the same
  answers (`Visited.alike`).
-/
import DmSimulator.Cache.Noninterference

namespace DmSimulator

open Recency

def RequestSpec.demand (spec : RequestSpec) : Demand :=
  { objectId := spec.objectId, sizeBytes := spec.sizeBytes, epochId := spec.epochId }

/-- A request of a node that has been answered. -/
structure Visit where
  demand : Demand
  issueTime : SimTime
  completionTime : SimTime
  tier : ServedFromTier
deriving DecidableEq, Repr

/-- When the request used the cache: a hit at its lookup, a miss when its response was
    offered for admission. -/
def Visit.useTime (v : Visit) : SimTime :=
  match v.tier with
  | .localCache => v.issueTime
  | .memory => v.completionTime

/-- The epoch that the visits lead to. -/
def epochAfter (visits : List Visit) : Option EpochId :=
  visits.getLast?.map fun v => v.demand.epochId

@[simp] theorem epochAfter_snoc (visits : List Visit) (v : Visit) :
    epochAfter (visits ++ [v]) = some v.demand.epochId := by
  simp [epochAfter]

namespace LocalCache

variable {P : CachePolicy} {A : Arith}

/-- The cache of a node that goes on to a request of an epoch. -/
def enter (stats : Stats) (c : LocalCache P) (current : Option EpochId) (epochId : EpochId) :
    LocalCache P :=
  if current = some epochId then c else c.onEpochStart stats epochId

/-- The cache after a lookup in the epoch of the request, and its answer. -/
def enterAndLookup (stats stats' : Stats) (c : LocalCache P) (current : Option EpochId)
    (request : Request) (time : SimTime) : LocalCache P × Bool :=
  lookup stats' (c.enter stats current request.epochId) request time

/-- One visit to a cache. -/
inductive VisitStep (A : Arith) (current : Option EpochId) (c : LocalCache P) (v : Visit) :
    LocalCache P → Prop
  | hit (stats stats' : Stats) (request : Request) :
      request.demand = v.demand → v.tier = .localCache →
      (c.enterAndLookup stats stats' current request v.issueTime).2 = true →
      VisitStep A current c v (c.enterAndLookup stats stats' current request v.issueTime).1
  | miss (stats stats' : Stats) (request request' : Request) (response : Response) :
      request.demand = v.demand → request'.demand = v.demand → v.tier = .memory →
      (c.enterAndLookup stats stats' current request v.issueTime).2 = false →
      VisitStep A current c v
        (admitObject A (c.enterAndLookup stats stats' current request v.issueTime).1 request'
          response v.completionTime).1

/-- A cache that was empty has been through the visits. -/
inductive Visited (P : CachePolicy) (A : Arith) (capacityBytes : Nat) :
    List Visit → LocalCache P → Prop
  | start : Visited P A capacityBytes [] { capacityBytes := capacityBytes }
  | visit {visits : List Visit} {c d : LocalCache P} {v : Visit} :
      Visited P A capacityBytes visits c → VisitStep A (epochAfter visits) c v d →
      Visited P A capacityBytes (visits ++ [v]) d

theorem Visited.of_nil {capacityBytes : Nat} {c : LocalCache P}
    (h : Visited P A capacityBytes [] c) : c = { capacityBytes := capacityBytes } := by
  generalize hnil : ([] : List Visit) = visits at h
  cases h with
  | start => rfl
  | visit => exact absurd hnil (by simp)

theorem Visited.of_snoc {capacityBytes : Nat} {visits : List Visit} {v : Visit}
    {d : LocalCache P} (h : Visited P A capacityBytes (visits ++ [v]) d) :
    ∃ c, Visited P A capacityBytes visits c ∧ VisitStep A (epochAfter visits) c v d := by
  generalize hsnoc : visits ++ [v] = all at h
  cases h with
  | start => exact absurd hsnoc (by simp)
  | @visit visits' c d v' hvisited hstep =>
      obtain ⟨rfl, hv⟩ := List.append_inj' hsnoc rfl
      obtain rfl : v = v' := List.singleton_inj.mp hv
      exact ⟨c, hvisited, hstep⟩

-- ============================================================================
-- Two caches
-- ============================================================================

variable {pairs : List (SimTime × SimTime)} {c c' : LocalCache P}

theorem Alike.enter (hP : P.Private) (h : Alike pairs c c') (stats stats' : Stats)
    (current : Option EpochId) (epochId : EpochId) :
    Alike pairs (c.enter stats current epochId) (c'.enter stats' current epochId) := by
  unfold LocalCache.enter
  split
  · exact h
  · exact h.onEpochStart hP stats stats' epochId

/-- Whatever the times, alike caches answer the same lookup alike. -/
theorem Alike.lookup_snd (hP : P.Private) (h : Alike pairs c c') {request request' : Request}
    (hdemand : request.demand = request'.demand) (stats stats' : Stats) (time time' : SimTime) :
    (c.lookup stats request time).2 = (c'.lookup stats' request' time').2 :=
  (h.lookup hP hdemand stats stats' time time'
    (fun _ hp => List.mem_append_left [(time, time')] hp)
    fun _ => List.mem_append_right _ (List.mem_singleton_self _)).1

/-- One visit gets the same answer from alike caches.  The caches stay alike if the times at
    which it used them compare alike with those before. -/
theorem VisitStep.alike (hP : P.Private) {current : Option EpochId} {v v' : Visit}
    {d d' : LocalCache P} (hstep : VisitStep A current c v d)
    (hstep' : VisitStep A current c' v' d') (hdemand : v.demand = v'.demand)
    (h : Alike pairs c c')
    (hpairs : v.tier = v'.tier → TiedAlike (pairs ++ [(v.useTime, v'.useTime)])) :
    v.tier = v'.tier ∧ Alike (pairs ++ [(v.useTime, v'.useTime)]) d d' := by
  have hsub : ∀ p ∈ pairs, p ∈ pairs ++ [(v.useTime, v'.useTime)] := fun p hp =>
    List.mem_append_left _ hp
  have huse : (v.useTime, v'.useTime) ∈ pairs ++ [(v.useTime, v'.useTime)] :=
    List.mem_append_right _ (List.mem_singleton_self _)
  -- both caches enter the epoch of the request and look it up
  have hepoch : ∀ {request : Request} {w : Visit}, request.demand = w.demand →
      request.epochId = w.demand.epochId := fun heq => congrArg Demand.epochId heq
  have hentered : ∀ (stats stats' : Stats) {request request' : Request},
      request.demand = v.demand → request'.demand = v'.demand →
      Alike pairs (c.enter stats current request.epochId)
        (c'.enter stats' current request'.epochId) := by
    intro stats stats' request request' hasks hasks'
    rw [hepoch hasks, hepoch hasks', ← hdemand]
    exact h.enter hP stats stats' current v.demand.epochId
  have hlooked : ∀ (stats stats' stats₁ stats₁' : Stats) {request request' : Request},
      request.demand = v.demand → request'.demand = v'.demand →
      ((c.enterAndLookup stats stats' current request v.issueTime).2 = true →
        (v.issueTime, v'.issueTime) ∈ pairs ++ [(v.useTime, v'.useTime)]) →
      Alike (pairs ++ [(v.useTime, v'.useTime)])
        (c.enterAndLookup stats stats' current request v.issueTime).1
        (c'.enterAndLookup stats₁ stats₁' current request' v'.issueTime).1 := by
    intro stats stats' stats₁ stats₁' request request' hasks hasks' hhit
    exact ((hentered stats stats₁ hasks hasks').lookup hP
      ((hasks.trans hdemand).trans hasks'.symm) stats' stats₁' v.issueTime v'.issueTime hsub hhit).2
  have hanswer : ∀ (stats stats' stats₁ stats₁' : Stats) {request request' : Request},
      request.demand = v.demand → request'.demand = v'.demand →
      (c.enterAndLookup stats stats' current request v.issueTime).2 =
        (c'.enterAndLookup stats₁ stats₁' current request' v'.issueTime).2 := by
    intro stats stats' stats₁ stats₁' request request' hasks hasks'
    exact (hentered stats stats₁ hasks hasks').lookup_snd hP
      ((hasks.trans hdemand).trans hasks'.symm) stats' stats₁' v.issueTime v'.issueTime
  cases hstep with
  | hit stats stats' request hasks htier hhit =>
      cases hstep' with
      | hit stats₁ stats₁' request' hasks' htier' hhit' =>
          have htimes : (v.issueTime, v'.issueTime) = (v.useTime, v'.useTime) := by
            simp only [Visit.useTime, htier, htier']
          refine ⟨htier.trans htier'.symm, ?_⟩
          exact hlooked stats stats' stats₁ stats₁' hasks hasks' fun _ => htimes ▸ huse
      | miss stats₁ stats₁' request' _ _ hasks' _ htier' hmiss' =>
          have hsame := hanswer stats stats' stats₁ stats₁' hasks hasks'
          cases hhit.symm.trans (hsame.trans hmiss')
  | miss stats stats' request admitted response hasks hadmitted htier hmiss =>
      cases hstep' with
      | hit stats₁ stats₁' request' hasks' htier' hhit' =>
          have hsame := hanswer stats stats' stats₁ stats₁' hasks hasks'
          cases hhit'.symm.trans (hsame.symm.trans hmiss)
      | miss stats₁ stats₁' request' admitted' response' hasks' hadmitted' htier' hmiss' =>
          have htier_eq := htier.trans htier'.symm
          have htimes : (v.completionTime, v'.completionTime) = (v.useTime, v'.useTime) := by
            simp only [Visit.useTime, htier, htier']
          refine ⟨htier_eq, ?_⟩
          have hmissed := hlooked stats stats' stats₁ stats₁' hasks hasks' fun hhit =>
            absurd (hmiss.symm.trans hhit) Bool.false_ne_true
          exact hmissed.admitObject hP (hpairs htier_eq)
            ((hadmitted.trans hdemand).trans hadmitted'.symm) response response' (htimes ▸ huse)

/-- The times at which the visits of two caches used them. -/
def usePairs (visits visits' : List Visit) : List (SimTime × SimTime) :=
  (visits.map Visit.useTime).zip (visits'.map Visit.useTime)

theorem usePairs_snoc {visits visits' : List Visit} (hlength : visits.length = visits'.length)
    (v v' : Visit) :
    usePairs (visits ++ [v]) (visits' ++ [v']) =
      usePairs visits visits' ++ [(v.useTime, v'.useTime)] := by
  unfold usePairs
  rw [List.map_append, List.map_append, List.zip_append (by simpa using hlength)]
  rfl

/-- Consecutive visits follow each other alike in the two caches, where their answers are the
    same. -/
def FollowAlike (visits visits' : List Visit) : Prop :=
  ∀ i v w v' w', visits[i]? = some v → visits[i + 1]? = some w → visits'[i]? = some v' →
    visits'[i + 1]? = some w' → v.tier = v'.tier → w.tier = w'.tier →
    FollowsAlike (v.useTime, v'.useTime) (w.useTime, w'.useTime)

theorem FollowAlike.front {visits visits' : List Visit} {v v' : Visit}
    (h : FollowAlike (visits ++ [v]) (visits' ++ [v'])) : FollowAlike visits visits' := by
  have hkeep : ∀ {l : List Visit} {u w : Visit} {i : Nat}, l[i]? = some u →
      (l ++ [w])[i]? = some u := by
    intro l u w i hi
    rw [List.getElem?_append_left (List.getElem?_eq_some_iff.mp hi).1]
    exact hi
  exact fun i v w v' w' hv hw hv' hw' => h i v w v' w' (hkeep hv) (hkeep hw) (hkeep hv') (hkeep hw')

/-- The last visits before and after. -/
theorem FollowAlike.last {visits visits' : List Visit} {v v' w w' : Visit}
    (h : FollowAlike (visits ++ [v] ++ [w]) (visits' ++ [v'] ++ [w']))
    (hlength : visits.length = visits'.length) (hv : v.tier = v'.tier) (hw : w.tier = w'.tier) :
    FollowsAlike (v.useTime, v'.useTime) (w.useTime, w'.useTime) := by
  refine h visits.length v w v' w' ?_ ?_ ?_ ?_ hv hw
  · simp
  · simp
  · simp [hlength]
  · simp [hlength]

/-- Two caches under a private policy that have been through the same demands, where the times
    follow each other alike, gave the same answers and are alike. -/
theorem Visited.alike (hP : P.Private) {capacityBytes : Nat} {visits visits' : List Visit}
    (h : Visited P A capacityBytes visits c) (h' : Visited P A capacityBytes visits' c')
    (hdemand : visits.map Visit.demand = visits'.map Visit.demand)
    (hfollow : FollowAlike visits visits') :
    visits.map Visit.tier = visits'.map Visit.tier ∧ TiedAlike (usePairs visits visits') ∧
      Alike (usePairs visits visits') c c' := by
  induction h generalizing visits' c' with
  | start =>
      obtain rfl : visits' = [] := by simpa using hdemand.symm
      rw [h'.of_nil]
      exact ⟨rfl, tiedAlike_nil, alike_init P capacityBytes⟩
  | @visit visits c d v _ hstep ih =>
      rcases List.eq_nil_or_concat' visits' with rfl | ⟨front, v', rfl⟩
      · simp at hdemand
      obtain ⟨c₀, hfront, hstep'⟩ := h'.of_snoc
      rw [List.map_append, List.map_append] at hdemand
      obtain ⟨hdemands, hlast⟩ := List.append_inj' hdemand rfl
      obtain hdemand_v : v.demand = v'.demand := List.singleton_inj.mp hlast
      have hlength : visits.length = front.length := by
        simpa using congrArg List.length hdemands
      obtain ⟨htiers, htied, halike⟩ := ih hfront hdemands hfollow.front
      -- the two nodes are in the same epoch
      have hepoch : epochAfter visits = epochAfter front := by
        have hlast? := congrArg List.getLast? hdemands
        rw [List.getLast?_map, List.getLast?_map] at hlast?
        have hmap := congrArg (Option.map Demand.epochId) hlast?
        rw [Option.map_map, Option.map_map] at hmap
        exact hmap
      rw [← hepoch] at hstep'
      -- this use follows the last one alike
      have hpairs : v.tier = v'.tier →
          TiedAlike (usePairs visits front ++ [(v.useTime, v'.useTime)]) := by
        intro htier
        refine htied.snoc fun p hp => ?_
        rcases List.eq_nil_or_concat' visits with rfl | ⟨before, u, rfl⟩
        · cases hp
        · rcases List.eq_nil_or_concat' front with rfl | ⟨before', u', rfl⟩
          · simp at hlength
          · have hlength' : before.length = before'.length := by simpa using hlength
            rw [usePairs_snoc hlength', List.getLast?_append, List.getLast?_singleton,
              Option.some_or, Option.mem_some_iff] at hp
            rw [List.map_append, List.map_append] at htiers
            have hu := List.singleton_inj.mp (List.append_inj' htiers rfl).2
            rw [← hp]
            exact hfollow.last hlength' hu htier
      obtain ⟨htier, hcaches⟩ := hstep.alike hP hstep' hdemand_v halike hpairs
      rw [usePairs_snoc hlength, List.map_append, List.map_append, htiers]
      exact ⟨by rw [List.map_singleton, List.map_singleton, htier], hpairs htier, hcaches⟩

/-- The same for two names of one policy. -/
theorem Visited.tiers_eq {P' : CachePolicy} {cache : LocalCache P} {cache' : LocalCache P'}
    {capacityBytes : Nat} {visits visits' : List Visit}
    (h : Visited P A capacityBytes visits cache) (hpolicy : P = P') (hP : P.Private)
    (h' : Visited P' A capacityBytes visits' cache')
    (hdemand : visits.map Visit.demand = visits'.map Visit.demand)
    (hfollow : FollowAlike visits visits') :
    visits.map Visit.tier = visits'.map Visit.tier := by
  subst hpolicy
  exact (h.alike hP h' hdemand hfollow).1

end LocalCache

end DmSimulator
