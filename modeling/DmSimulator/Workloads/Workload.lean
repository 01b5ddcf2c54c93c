/-
  DmSimulator.Workloads.Workload

  Generated workloads and the cursor a compute node reads its request stream
  with (`workloads/workload.hpp`, `workloads/workload.cpp`).
-/
import DmSimulator.Lib.UnorderedMap
import DmSimulator.Model.Request

namespace DmSimulator

structure NodeWorkload where
  nodeId : NodeId := 0
  requests : List RequestSpec := []
deriving DecidableEq, Repr

structure EpochHotSetMetadata where
  epochId : EpochId := 0
  hotSetsByNode : UnorderedMap NodeId (List ObjectId) := ∅

structure GeneratedWorkload where
  nodeWorkloads : List NodeWorkload := []
  epochs : List EpochHotSetMetadata := []

structure WorkloadCursor where
  requests : List RequestSpec := []
  nextIndex : Nat := 0
deriving DecidableEq, Repr

namespace WorkloadCursor

def hasNext (w : WorkloadCursor) : Bool := w.nextIndex < w.requests.length

def next (w : WorkloadCursor) : Except String (RequestSpec × WorkloadCursor) :=
  match w.requests[w.nextIndex]? with
  | none => .error "WorkloadCursor has no remaining requests"
  | some spec => .ok (spec, { w with nextIndex := w.nextIndex + 1 })

def peekNext (w : WorkloadCursor) : Except String RequestSpec :=
  match w.requests[w.nextIndex]? with
  | none => .error "WorkloadCursor has no remaining requests"
  | some spec => .ok spec

/-- The next request spec, if there is one. -/
def upcoming (w : WorkloadCursor) : Option RequestSpec := w.requests[w.nextIndex]?

end WorkloadCursor

end DmSimulator
