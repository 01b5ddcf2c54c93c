/-
  DmSimulator.Runs.Frontend

  The issuing side of a bursty run in which every lookup misses, as a machine of
  its own.

  A `Frontend` issues requests and sends them to the memory node; it knows
  nothing of memory channels.  Its clock starts anew with every epoch, so it does
  not see how long earlier epochs took to drain.  The machine never branches:
  configurations with the same streams and the same link go through the same
  states, to the same end.
-/
import DmSimulator.Lib.TimedQueue
import DmSimulator.Runs.Pacing

namespace DmSimulator

/-- The record as seen with the clock set back. -/
def EventRecord.delay (base : SimTime) (e : EventRecord) : EventRecord :=
  { e with time := base + e.time }

/-- The events of the issuing side. -/
def EventRecord.isFrontend (e : EventRecord) : Bool :=
  e.type = .generateRequest ∨ e.type = .localCacheLookup ∨ e.type = .forwardToMemory

/-- The ticket as seen with the clock of its epoch set back. -/
def Ticket.delay (bases : EpochId → SimTime) (t : Ticket) : Ticket :=
  { t with issueTime := bases t.epochId + t.issueTime }

/-- The state of the issuing side.  The times of the pending events and of the
    tickets count from the release of their epoch. -/
structure Frontend where
  streams : NodeId → List RequestSpec
  queue : List EventRecord := []
  releasedEpoch : Option EpochId := none
  nextRequestId : RequestId := 1
  tickets : Tickets := fun _ => none
  arrived : List RequestId := []

namespace Frontend

/-- The event that issues the next request of a stream, if it is one of the epoch. -/
def nextIssue (nodeId : NodeId) (stream : List RequestSpec) (epoch : EpochId) :
    Option EventRecord :=
  match stream with
  | [] => none
  | spec :: _ =>
      if spec.epochId = epoch then some (generateEvent nodeId spec.scheduledIssueOffset) else none

/-- Some stream waits for the unreleased epoch. -/
def Awaits (f : Frontend) (epoch : EpochId) : Prop :=
  (∃ nodeId spec rest, f.streams nodeId = spec :: rest ∧ spec.epochId = epoch) ∧
    ∀ released, f.releasedEpoch = some released → released < epoch

/-- The node of the event issues the first request of its stream. -/
def afterIssue (f : Frontend) (e : EventRecord) (rest : List EventRecord) (spec : RequestSpec)
    (stream : List RequestSpec) : Frontend :=
  { f with
    streams := Function.update f.streams e.targetId stream
    queue := TimedQueue.enqueueAll EventRecord.time
      ({ time := e.time
         type := .localCacheLookup
         targetId := e.targetId
         requestId := f.nextRequestId } ::
        (nextIssue e.targetId stream spec.epochId).toList) rest
    nextRequestId := f.nextRequestId + 1
    tickets := Function.update f.tickets f.nextRequestId
      (some
        { requestId := f.nextRequestId
          sourceNodeId := e.targetId
          objectId := spec.objectId
          issueTime := e.time
          sizeBytes := spec.sizeBytes
          epochId := spec.epochId }) }

inductive Step (config : SimulationConfig) (f : Frontend) : Frontend → Prop
  | issue {e : EventRecord} {rest : List EventRecord} {spec : RequestSpec}
      {stream : List RequestSpec} :
      f.queue = e :: rest → e.type = .generateRequest → f.streams e.targetId = spec :: stream →
      Step config f (f.afterIssue e rest spec stream)
  | lookup {e : EventRecord} {rest : List EventRecord} :
      f.queue = e :: rest → e.type = .localCacheLookup →
      Step config f
        { f with
          queue := TimedQueue.enqueue EventRecord.time
            { time := e.time + config.oneWayLinkLatency
              type := .forwardToMemory
              targetId := config.memoryNodeId
              requestId := e.requestId } rest }
  | arrive {e : EventRecord} {rest : List EventRecord} :
      f.queue = e :: rest → e.type = .forwardToMemory →
      Step config f { f with queue := rest, arrived := f.arrived ++ [e.requestId] }
  | release {epoch : EpochId} :
      f.queue = [] → Simulator.LeastEpoch f.Awaits (some epoch) →
      Step config f
        { f with
          releasedEpoch := some epoch
          queue := TimedQueue.enqueueAll EventRecord.time
            (config.computeNodes.filterMap fun nodeConfig =>
              nextIssue nodeConfig.nodeId (f.streams nodeConfig.nodeId) epoch) [] }

variable {config config' : SimulationConfig} {f g : Frontend}

/-- The machine never branches. -/
theorem step_rightUnique (config : SimulationConfig) : Relator.RightUnique (Step config) := by
  intro f g g' h h'
  cases h with
  | issue hqueue htype hstream =>
      cases h' with
      | issue hqueue' _ hstream' =>
          obtain ⟨rfl, rfl⟩ := List.cons.inj (hqueue.symm.trans hqueue')
          obtain ⟨rfl, rfl⟩ := List.cons.inj (hstream.symm.trans hstream')
          rfl
      | lookup hqueue' htype' | arrive hqueue' htype' =>
          obtain ⟨rfl, rfl⟩ := List.cons.inj (hqueue.symm.trans hqueue')
          exact EventType.noConfusion (htype.symm.trans htype')
      | release hqueue' => cases hqueue.symm.trans hqueue'
  | lookup hqueue htype =>
      cases h' with
      | lookup hqueue' =>
          obtain ⟨rfl, rfl⟩ := List.cons.inj (hqueue.symm.trans hqueue')
          rfl
      | issue hqueue' htype' | arrive hqueue' htype' =>
          obtain ⟨rfl, rfl⟩ := List.cons.inj (hqueue.symm.trans hqueue')
          exact EventType.noConfusion (htype.symm.trans htype')
      | release hqueue' => cases hqueue.symm.trans hqueue'
  | arrive hqueue htype =>
      cases h' with
      | arrive hqueue' =>
          obtain ⟨rfl, rfl⟩ := List.cons.inj (hqueue.symm.trans hqueue')
          rfl
      | issue hqueue' htype' | lookup hqueue' htype' =>
          obtain ⟨rfl, rfl⟩ := List.cons.inj (hqueue.symm.trans hqueue')
          exact EventType.noConfusion (htype.symm.trans htype')
      | release hqueue' => cases hqueue.symm.trans hqueue'
  | release hqueue hleast =>
      cases h' with
      | issue hqueue' | lookup hqueue' | arrive hqueue' => cases hqueue.symm.trans hqueue'
      | release _ hleast' =>
          -- two least epochs are the same
          obtain ⟨first, hfirst, hle⟩ := hleast.le _ (hleast'.mem _ rfl)
          obtain ⟨second, hsecond, hle'⟩ := hleast'.le _ (hleast.mem _ rfl)
          obtain rfl := Option.some.inj hfirst
          obtain rfl := Option.some.inj hsecond
          obtain rfl := le_antisymm hle hle'
          rfl

/-- The machine depends on the nodes, the memory node and the link only. -/
theorem Step.congr (h : Step config f g) (hnodes : config'.computeNodes = config.computeNodes)
    (hmemory : config'.memoryNodeId = config.memoryNodeId)
    (hlink : config'.oneWayLinkLatency = config.oneWayLinkLatency) : Step config' f g := by
  cases h with
  | issue hqueue htype hstream => exact .issue hqueue htype hstream
  | lookup hqueue htype =>
      rw [← hmemory, ← hlink]
      exact .lookup hqueue htype
  | arrive hqueue htype => exact .arrive hqueue htype
  | release hqueue hleast =>
      rw [← hnodes]
      exact .release hqueue hleast

/-- With nothing pending and nothing left to issue the machine has come to its end. -/
theorem not_step_of_done (hqueue : f.queue = []) (hstreams : ∀ nodeId, f.streams nodeId = []) :
    ∀ g, ¬ Step config f g := by
  intro g h
  cases h with
  | issue hqueue' | lookup hqueue' | arrive hqueue' => cases hqueue.symm.trans hqueue'
  | release _ hleast =>
      obtain ⟨⟨nodeId, spec, rest, hstream, -⟩, -⟩ := hleast.mem _ rfl
      cases (hstreams nodeId).symm.trans hstream

end Frontend

end DmSimulator
