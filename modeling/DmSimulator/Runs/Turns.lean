/-
  DmSimulator.Runs.Turns

  One turn of the run loop: what dispatching an event and releasing an epoch
  can do to the simulator.
-/
import DmSimulator.Runs.Handlers
import DmSimulator.Sim.EventQueue
import DmSimulator.Sim.Simulator

namespace DmSimulator

namespace Simulator

variable {P : CachePolicy} (A : Arith)

-- ============================================================================
-- Dispatch
-- ============================================================================

/-- The state after a compute node has handled an event. -/
def afterCompute (s : Simulator P) (event : Event) (node : ComputeNode P) (effect : Effect) :
    Simulator P :=
  { s with
    eventLog := s.eventLog ++ [event.record]
    computeNodes := s.computeNodes.insert node
    shared := s.shared.apply effect }

/-- The state after the memory node has handled an event. -/
def afterMemory (s : Simulator P) (event : Event) (memoryNode : MemoryNode) (effect : Effect) :
    Simulator P :=
  { s with
    eventLog := s.eventLog ++ [event.record]
    memoryNode := memoryNode
    shared := s.shared.apply effect }

/-- The paths through `dispatch_event`. -/
inductive Dispatched (s : Simulator P) (event : Event) : Simulator P → Prop
  | compute {node node' : ComputeNode P} {effect : Effect} :
      s.computeNodes.find event.targetId = some node →
      ComputeNode.ComputeStep A node event s.shared node' effect →
      Dispatched s event (s.afterCompute event node' effect)
  | memory {memoryNode : MemoryNode} {effect : Effect} :
      s.computeNodes.find event.targetId = none → event.targetId = s.config.memoryNodeId →
      MemoryNode.MemoryStep A s.memoryNode event s.shared memoryNode effect →
      Dispatched s event (s.afterMemory event memoryNode effect)

variable {A}

theorem Dispatched.dispatchEvent_eq {s s' : Simulator P} {event : Event}
    (h : Dispatched A s event s') : dispatchEvent A s event = .ok s' := by
  unfold dispatchEvent
  cases h with
  | compute hfind hstep =>
      simp only [hfind, ComputeNode.handleEvent_of_step A hstep, bind, Except.bind]
      rfl
  | memory hfind htarget hstep =>
      simp only [hfind]
      rw [if_pos htarget]
      simp only [MemoryNode.handleEvent_of_step A hstep, bind, Except.bind]
      rfl

theorem dispatched_of_eq {s s' : Simulator P} {event : Event}
    (h : dispatchEvent A s event = .ok s') : Dispatched A s event s' := by
  unfold dispatchEvent at h
  cases hfind : s.computeNodes.find event.targetId with
  | some node =>
      simp only [hfind, bind, Except.bind] at h
      split at h
      · cases h
      · rename_i result hhandle
        obtain ⟨effect, hstep, hshared⟩ := ComputeNode.step_of_handleEvent A hhandle
        simp only [pure, Except.pure, Except.ok.injEq] at h
        subst h
        rw [hshared]
        exact .compute hfind hstep
  | none =>
      simp only [hfind] at h
      by_cases htarget : event.targetId = s.config.memoryNodeId
      · rw [if_pos htarget] at h
        simp only [bind, Except.bind] at h
        split at h
        · cases h
        · rename_i result hhandle
          obtain ⟨effect, hstep, hshared⟩ := MemoryNode.step_of_handleEvent A hhandle
          simp only [pure, Except.pure, Except.ok.injEq] at h
          subst h
          rw [hshared]
          exact .memory hfind htarget hstep
      · rw [if_neg htarget] at h
        cases h

-- ============================================================================
-- Release
-- ============================================================================

/-- The event that starts the released epoch on one configured node, if any. -/
def releaseEvent (A : Arith) (s : Simulator P) (epoch : EpochId) (now : SimTime)
    (nodeConfig : ComputeNodeConfig) : Option EventRecord :=
  match s.computeNodes.find nodeConfig.nodeId with
  | none => none
  | some node =>
      if node.nextRequestEpoch = some epoch then
        some
          { time := A.add now node.nextRequestIssueOffset
            type := .generateRequest
            targetId := nodeConfig.nodeId }
      else none

/-- The event that starts a node is a `GenerateRequest` event for it. -/
theorem releaseEvent_generates {s : Simulator P} {epoch : EpochId} {now : SimTime}
    {nodeConfig : ComputeNodeConfig} {r : EventRecord}
    (h : s.releaseEvent A epoch now nodeConfig = some r) :
    r.type = .generateRequest ∧ r.targetId = nodeConfig.nodeId ∧ r.requestId = 0 := by
  unfold releaseEvent at h
  split at h
  · cases h
  · split at h
    · rw [← Option.some.inj h]
      exact ⟨rfl, rfl, rfl⟩
    · cases h

/-- It starts a node that waits for the epoch, after the offset of its next request. -/
theorem releaseEvent_time {s : Simulator P} {epoch : EpochId} {now : SimTime}
    {nodeConfig : ComputeNodeConfig} {r : EventRecord}
    (h : s.releaseEvent A epoch now nodeConfig = some r) :
    ∃ node, s.computeNodes.find nodeConfig.nodeId = some node ∧
      node.nextRequestEpoch = some epoch ∧ r.time = A.add now node.nextRequestIssueOffset := by
  unfold releaseEvent at h
  cases hfind : s.computeNodes.find nodeConfig.nodeId with
  | none =>
      rw [hfind] at h
      cases h
  | some node =>
      simp only [hfind] at h
      split at h
      · next hepoch =>
          rw [← Option.some.inj h]
          exact ⟨node, rfl, hepoch, rfl⟩
      · cases h

/-- The state after the release of an epoch. -/
def afterRelease (A : Arith) (s : Simulator P) (epoch : EpochId) : Simulator P :=
  { s with
    releasedEpoch := some epoch
    shared :=
      { s.shared with
        scheduler := s.shared.scheduler.scheduleAll
          (s.config.computeNodes.filterMap
            (s.releaseEvent A epoch s.shared.scheduler.currentTime)) } }

theorem foldl_releaseNode_eq (s : Simulator P) (epoch : EpochId)
    (nodeConfigs : List ComputeNodeConfig) (sh : Shared) :
    nodeConfigs.foldl (s.releaseNode A epoch) sh =
      { sh with
        scheduler := sh.scheduler.scheduleAll
          (nodeConfigs.filterMap (s.releaseEvent A epoch sh.scheduler.currentTime)) } := by
  induction nodeConfigs generalizing sh with
  | nil => rfl
  | cons nodeConfig rest ih =>
      rw [List.foldl_cons, ih, List.filterMap_cons]
      unfold releaseNode releaseEvent
      cases s.computeNodes.find nodeConfig.nodeId with
      | none => rfl
      | some node =>
          by_cases hepoch : node.nextRequestEpoch = some epoch
          · simp [hepoch, Shared.schedule, Scheduler.now, Scheduler.scheduleAll]
          · simp [hepoch]

/-- The release gate is open: nothing is pending and every node is idle. -/
def Drained (s : Simulator P) : Prop :=
  s.shared.scheduler.pending = 0 ∧ ∀ node ∈ s.computeNodes.items, node.outstandingRequests = 0

theorem gate_iff_drained (s : Simulator P) :
    (¬ s.shared.scheduler.empty || ¬ s.allComputeNodesIdle) = false ↔ s.Drained := by
  rw [Drained, ← Scheduler.empty_iff_pending]
  simp [allComputeNodesIdle]

/-- `release_next_epoch_if_ready` waits, finds no further epoch, or releases one. -/
theorem release_cases (A : Arith) (s : Simulator P) :
    (¬ s.Drained ∧ releaseNextEpochIfReady A s = s) ∨
      (s.Drained ∧ s.nextUnreleasedEpoch = none ∧ releaseNextEpochIfReady A s = s) ∨
      (∃ epoch, s.Drained ∧ s.nextUnreleasedEpoch = some epoch ∧
        releaseNextEpochIfReady A s = s.afterRelease A epoch) := by
  unfold releaseNextEpochIfReady
  by_cases hdrained : s.Drained
  · right
    have hgate := (gate_iff_drained s).mpr hdrained
    rw [hgate]
    cases hnext : s.nextUnreleasedEpoch with
    | none => exact Or.inl ⟨hdrained, rfl, by simp⟩
    | some epoch =>
        refine Or.inr ⟨epoch, hdrained, rfl, ?_⟩
        simp only [Bool.false_eq_true, if_false, foldl_releaseNode_eq]
        rfl
  · left
    refine ⟨hdrained, ?_⟩
    have hgate : (¬ s.shared.scheduler.empty || ¬ s.allComputeNodesIdle) = true := by
      rw [← Bool.not_eq_false, gate_iff_drained]
      exact hdrained
    rw [if_pos hgate]

theorem afterRelease_eq {s : Simulator P} {epoch : EpochId} (hdrained : s.Drained)
    (hnext : s.nextUnreleasedEpoch = some epoch) :
    releaseNextEpochIfReady A s = s.afterRelease A epoch := by
  rcases release_cases A s with ⟨hnot, -⟩ | ⟨-, hnone, -⟩ | ⟨epoch', -, hnext', heq⟩
  · exact absurd hdrained hnot
  · cases hnext.symm.trans hnone
  · cases hnext.symm.trans hnext'
    exact heq

/-- What holds of a state and of what each release makes of it. -/
theorem release_preserves {p : Simulator P → Prop} {s : Simulator P} (h : p s)
    (hrelease : ∀ epoch, s.Drained → s.nextUnreleasedEpoch = some epoch →
      p (s.afterRelease A epoch)) : p (releaseNextEpochIfReady A s) := by
  rcases release_cases A s with ⟨-, heq⟩ | ⟨-, -, heq⟩ | ⟨epoch, hdrained, hnext, heq⟩
  · rw [heq]
    exact h
  · rw [heq]
    exact h
  · rw [heq]
    exact hrelease epoch hdrained hnext

/-- A release changes nothing but the scheduler and the released epoch. -/
theorem release_keeps {α : Type} (f : Simulator P → α) (A : Arith) (s : Simulator P)
    (hf : ∀ epoch, f (s.afterRelease A epoch) = f s) : f (releaseNextEpochIfReady A s) = f s :=
  release_preserves (p := fun t => f t = f s) rfl fun epoch _ _ => hf epoch

/-- A release leaves the nodes alone. -/
theorem release_nodes (A : Arith) (s : Simulator P) :
    (releaseNextEpochIfReady A s).computeNodes = s.computeNodes ∧
      (releaseNextEpochIfReady A s).memoryNode = s.memoryNode :=
  release_preserves (p := fun t => t.computeNodes = s.computeNodes ∧ t.memoryNode = s.memoryNode)
    ⟨rfl, rfl⟩ fun _ _ _ => ⟨rfl, rfl⟩

/-- The epoch has not been released yet. -/
def Unreleased (s : Simulator P) (epoch : EpochId) : Prop :=
  ∀ released, s.releasedEpoch = some released → released < epoch

/-- `least` is the least element of a set of epochs, if it has one. -/
structure LeastEpoch (epochs : EpochId → Prop) (least : Option EpochId) : Prop where
  mem : ∀ epoch, least = some epoch → epochs epoch
  le : ∀ epoch, epochs epoch → ∃ first, least = some first ∧ first ≤ epoch

theorem LeastEpoch.unique {epochs : EpochId → Prop} {least least' : Option EpochId}
    (h : LeastEpoch epochs least) (h' : LeastEpoch epochs least') : least = least' := by
  apply Option.ext
  have hle : ∀ {a b : Option EpochId}, LeastEpoch epochs a → LeastEpoch epochs b →
      ∀ epoch, a = some epoch → b = some epoch := by
    intro a b ha hb epoch hepoch
    obtain ⟨first, hfirst, hfirst_le⟩ := hb.le epoch (ha.mem epoch hepoch)
    obtain ⟨second, hsecond, hsecond_le⟩ := ha.le first (hb.mem first hfirst)
    obtain rfl : epoch = second := Option.some.inj (hepoch.symm.trans hsecond)
    rw [hfirst, le_antisymm hfirst_le hsecond_le]
  exact fun epoch => ⟨hle h h' epoch, hle h' h epoch⟩

/-- Some node of the list waits for the unreleased epoch. -/
def Awaited (s : Simulator P) (nodes : List (ComputeNode P)) (epoch : EpochId) : Prop :=
  ∃ node ∈ nodes, node.nextRequestEpoch = some epoch ∧ s.Unreleased epoch

theorem considerNode_spec (s : Simulator P) {epochs : EpochId → Prop}
    {nextEpoch : Option EpochId} (h : LeastEpoch epochs nextEpoch) (node : ComputeNode P) :
    LeastEpoch (fun epoch => epochs epoch ∨ s.Awaited [node] epoch)
      (considerNode s.releasedEpoch nextEpoch node) := by
  have hskip : (∀ epoch, ¬ s.Awaited [node] epoch) →
      LeastEpoch (fun epoch => epochs epoch ∨ s.Awaited [node] epoch) nextEpoch := by
    intro hnone
    refine ⟨fun epoch heq => Or.inl (h.mem epoch heq), ?_⟩
    rintro epoch (hepoch | hepoch)
    · exact h.le epoch hepoch
    · exact absurd hepoch (hnone epoch)
  unfold considerNode
  cases hnode : node.nextRequestEpoch with
  | none =>
      apply hskip
      rintro epoch ⟨other, hmem, hother, -⟩
      rw [List.mem_singleton.mp hmem, hnode] at hother
      cases hother
  | some nodeEpoch =>
      have hself : ∀ epoch, s.Awaited [node] epoch → epoch = nodeEpoch := by
        rintro epoch ⟨other, hmem, hother, -⟩
        rw [List.mem_singleton.mp hmem, hnode] at hother
        exact (Option.some.inj hother).symm
      by_cases hpast : s.releasedEpoch.any (fun released => decide (nodeEpoch ≤ released)) = true
      · simp only [hpast, if_true]
        apply hskip
        rintro epoch ⟨other, hmem, hother, hun⟩
        rw [List.mem_singleton.mp hmem, hnode] at hother
        have heq := Option.some.inj hother
        cases hreleased : s.releasedEpoch with
        | none => simp [hreleased] at hpast
        | some released =>
            have hlt := hun released hreleased
            simp only [hreleased, Option.any_some, decide_eq_true_eq] at hpast
            lia
      · have hawaited : s.Awaited [node] nodeEpoch := by
          refine ⟨node, List.mem_singleton_self node, hnode, ?_⟩
          intro released hreleased
          simp only [hreleased, Option.any_some, decide_eq_true_eq] at hpast
          lia
        simp only [hpast]
        cases nextEpoch with
        | none =>
            refine ⟨?_, ?_⟩
            · rintro epoch heq
              rw [← Option.some.inj heq]
              exact Or.inr hawaited
            · rintro epoch (hepoch | hepoch)
              · obtain ⟨first, hfirst, -⟩ := h.le epoch hepoch
                cases hfirst
              · exact ⟨nodeEpoch, rfl, by rw [hself epoch hepoch]⟩
        | some best =>
            have hbest := h.mem best rfl
            by_cases hlt : nodeEpoch < best
            · simp only [hlt, if_true]
              refine ⟨?_, ?_⟩
              · rintro epoch heq
                rw [← Option.some.inj heq]
                exact Or.inr hawaited
              · rintro epoch (hepoch | hepoch)
                · obtain ⟨first, hfirst, hle⟩ := h.le epoch hepoch
                  have heq := Option.some.inj hfirst
                  exact ⟨nodeEpoch, rfl, by lia⟩
                · exact ⟨nodeEpoch, rfl, by rw [hself epoch hepoch]⟩
            · simp only [hlt, if_false]
              refine ⟨fun epoch heq => Or.inl (h.mem epoch heq), ?_⟩
              rintro epoch (hepoch | hepoch)
              · exact h.le epoch hepoch
              · exact ⟨best, rfl, by rw [hself epoch hepoch]; lia⟩

theorem foldl_considerNode_spec (s : Simulator P) (nodes : List (ComputeNode P)) :
    ∀ {epochs : EpochId → Prop} {nextEpoch : Option EpochId}, LeastEpoch epochs nextEpoch →
      LeastEpoch (fun epoch => epochs epoch ∨ s.Awaited nodes epoch)
        (nodes.foldl (considerNode s.releasedEpoch) nextEpoch) := by
  induction nodes with
  | nil =>
      intro epochs nextEpoch h
      refine ⟨fun epoch heq => Or.inl (h.mem epoch heq), ?_⟩
      rintro epoch (hepoch | ⟨node, hmem, -⟩)
      · exact h.le epoch hepoch
      · simp at hmem
  | cons node rest ih =>
      intro epochs nextEpoch h
      have hrest := ih (considerNode_spec s h node)
      have hsplit : ∀ epoch, ((epochs epoch ∨ s.Awaited [node] epoch) ∨ s.Awaited rest epoch) ↔
          (epochs epoch ∨ s.Awaited (node :: rest) epoch) := by
        intro epoch
        simp [Awaited, or_assoc]
      exact ⟨fun epoch heq => (hsplit epoch).mp (hrest.mem epoch heq),
        fun epoch hepoch => hrest.le epoch ((hsplit epoch).mpr hepoch)⟩

/-- The epoch released next is the least unreleased epoch any node waits for. -/
theorem nextUnreleasedEpoch_spec (s : Simulator P) :
    LeastEpoch (s.Awaited s.computeNodes.items) s.nextUnreleasedEpoch := by
  have hnone : LeastEpoch (fun _ => False) none := by
    refine ⟨fun epoch h => ?_, fun epoch h => h.elim⟩
    cases h
  have h := foldl_considerNode_spec s s.computeNodes.items hnone
  exact ⟨fun epoch heq => (h.mem epoch heq).resolve_left id, fun epoch hep => h.le epoch (Or.inr hep)⟩

-- ============================================================================
-- Turns
-- ============================================================================

/-- The state with the next event taken out of the queue. -/
def popped (s : Simulator P) (scheduler : Scheduler) : Simulator P :=
  { s with shared := { s.shared with scheduler := scheduler } }

/-- A turn pops an event, dispatches it, and releases the next epoch if it can. -/
theorem moves_iff {s t : Simulator P} :
    Run.Moves (step A) s t ↔
      ∃ event scheduler s', s.shared.scheduler.popNext = some (event, scheduler) ∧
        Dispatched A (s.popped scheduler) event s' ∧ t = releaseNextEpochIfReady A s' := by
  unfold Run.Moves step
  cases hpop : s.shared.scheduler.popNext with
  | none => simp [pure, Except.pure]
  | some popped =>
      obtain ⟨event, scheduler⟩ := popped
      constructor
      · intro h
        simp only [bind, Except.bind] at h
        split at h
        · cases h
        · rename_i s' hdispatch
          simp only [pure, Except.pure, Except.ok.injEq, Option.some.injEq] at h
          exact ⟨event, scheduler, s', rfl, dispatched_of_eq hdispatch, h.symm⟩
      · rintro ⟨event', scheduler', s', hsome, hdispatch, rfl⟩
        simp only [Option.some.injEq, Prod.mk.injEq] at hsome
        obtain ⟨rfl, rfl⟩ := hsome
        have heq := hdispatch.dispatchEvent_eq
        unfold Simulator.popped at heq
        simp only [heq, bind, Except.bind]
        rfl

theorem halted_iff {s : Simulator P} :
    Run.Halted (step A) s ↔ s.shared.scheduler.pending = 0 := by
  unfold Run.Halted step
  rw [← Scheduler.popNext_eq_none]
  cases hpop : s.shared.scheduler.popNext with
  | none => simp [pure, Except.pure]
  | some popped =>
      simp only [bind, Except.bind]
      split
      · simp
      · simp [pure, Except.pure]

-- ============================================================================
-- Running a configuration
-- ============================================================================

/-- Construct, run, and test the final state. -/
def endsWith (A : Arith) (rng : RandomSource) (config : SimulationConfig) (fuel : Nat)
    (check : Simulator (makeCachePolicy A config.localCache) → Bool) : Bool :=
  match construct A rng config with
  | .error _ => false
  | .ok s =>
      match run A fuel s with
      | .ok (some final) => check final
      | _ => false

theorem runsTo_of_endsWith {rng : RandomSource} {config : SimulationConfig} {fuel : Nat}
    {check : Simulator (makeCachePolicy A config.localCache) → Bool}
    (h : endsWith A rng config fuel check = true) :
    ∃ s final, construct A rng config = .ok s ∧ RunsTo A s final ∧ check final = true := by
  unfold endsWith at h
  cases hs : construct A rng config with
  | error e => simp [hs] at h
  | ok s =>
      cases hrun : run A fuel s with
      | error e => simp [hs, hrun] at h
      | ok result =>
          cases result with
          | none => simp [hs, hrun] at h
          | some final => exact ⟨s, final, rfl, ⟨fuel, hrun⟩, by simpa [hs, hrun] using h⟩

/-- Construct, make a number of moves, and test the state. -/
def comesTo (A : Arith) (rng : RandomSource) (config : SimulationConfig) (moves : Nat)
    (check : Simulator (makeCachePolicy A config.localCache) → Bool) : Bool :=
  match construct A rng config with
  | .error _ => false
  | .ok s => check (Run.advance (step A) moves (releaseNextEpochIfReady A s))

theorem reachable_of_comesTo {rng : RandomSource} {config : SimulationConfig} {moves : Nat}
    {check : Simulator (makeCachePolicy A config.localCache) → Bool}
    (h : comesTo A rng config moves check = true) :
    ∃ s t, construct A rng config = .ok s ∧ Reachable A s t ∧ check t = true := by
  unfold comesTo at h
  cases hs : construct A rng config with
  | error e => simp [hs] at h
  | ok s =>
      rw [hs] at h
      exact ⟨s, _, rfl, Run.reaches_advance moves _, h⟩

/-- Construct, run out of states that pass a test, and test the final state. -/
def endsWhile (A : Arith) (rng : RandomSource) (config : SimulationConfig) (fuel : Nat)
    (test check : Simulator (makeCachePolicy A config.localCache) → Bool) : Bool :=
  match construct A rng config with
  | .error _ => false
  | .ok s =>
      (Run.iterateWhile (step A) test fuel (releaseNextEpochIfReady A s)).any check

theorem reachesWhile_of_endsWhile {rng : RandomSource} {config : SimulationConfig} {fuel : Nat}
    {test check : Simulator (makeCachePolicy A config.localCache) → Bool}
    (h : endsWhile A rng config fuel test check = true) :
    ∃ s final, construct A rng config = .ok s ∧ RunsTo A s final ∧
      Run.ReachesWhile (step A) (fun u => test u = true) (releaseNextEpochIfReady A s) final ∧
        check final = true := by
  unfold endsWhile at h
  cases hs : construct A rng config with
  | error e => simp [hs] at h
  | ok s =>
      simp only [hs, Option.any_eq_true] at h
      obtain ⟨final, hfinal, hcheck⟩ := h
      obtain ⟨hreach, hhalt⟩ := Run.reachesWhile_of_iterateWhile hfinal
      exact ⟨s, final, rfl, Run.endsIn_of_reaches hreach.reaches hhalt, hreach, hcheck⟩

end Simulator

end DmSimulator
