/-
  DmSimulator.Sim.Diagnostics

  The diagnostics of a simulator (`sim/simulator.cpp`): the decision records of
  the policies and the lifecycle records of the caches, collected node by node
  and ranked.
-/
import DmSimulator.Lib.Ranking
import DmSimulator.Sim.Simulator

namespace DmSimulator

open Ranking

def policyDecisionLess (lhs rhs : PolicyDecisionRecord) : Bool :=
  if lhs.epochId ≠ rhs.epochId then lhs.epochId < rhs.epochId
  else if lhs.requestId ≠ rhs.requestId then lhs.requestId < rhs.requestId
  else if lhs.nodeId ≠ rhs.nodeId then lhs.nodeId < rhs.nodeId
  else lhs.objectId < rhs.objectId

def cacheAdmissionLess (lhs rhs : CacheAdmissionRecord) : Bool :=
  if lhs.time ≠ rhs.time then lhs.time < rhs.time
  else if lhs.epochId ≠ rhs.epochId then lhs.epochId < rhs.epochId
  else if lhs.nodeId ≠ rhs.nodeId then lhs.nodeId < rhs.nodeId
  else if lhs.requestId ≠ rhs.requestId then lhs.requestId < rhs.requestId
  else lhs.objectId < rhs.objectId

theorem ranksBy_policyDecisionLess :
    RanksBy
      (fun record : PolicyDecisionRecord =>
        toLex (record.epochId, toLex (record.requestId, toLex (record.nodeId, record.objectId))))
      policyDecisionLess :=
  (((ranksBy_key PolicyDecisionRecord.objectId).lex PolicyDecisionRecord.nodeId).lex
    PolicyDecisionRecord.requestId).lex PolicyDecisionRecord.epochId

theorem ranksBy_cacheAdmissionLess :
    RanksBy
      (fun record : CacheAdmissionRecord =>
        toLex (record.time, toLex (record.epochId,
          toLex (record.nodeId, toLex (record.requestId, record.objectId)))))
      cacheAdmissionLess :=
  ((((ranksBy_key CacheAdmissionRecord.objectId).lex CacheAdmissionRecord.requestId).lex
    CacheAdmissionRecord.nodeId).lex CacheAdmissionRecord.epochId).lex CacheAdmissionRecord.time

namespace Simulator

variable {P : CachePolicy}

/-- The records of the configured nodes, in configured order. -/
def collect {ρ : Type} (s : Simulator P) (recordsOf : ComputeNode P → List ρ) : List ρ :=
  s.config.computeNodes.flatMap (fun nodeConfig =>
    match s.computeNodes.find nodeConfig.nodeId with
    | none => []
    | some node => recordsOf node)

/-- The decision records before they are sorted. -/
def policyRecords (s : Simulator P) : List PolicyDecisionRecord :=
  s.collect (fun node => P.diagnostics node.localCache.policy)

/-- The lifecycle records before they are sorted. -/
def cacheRecords (s : Simulator P) : List CacheAdmissionRecord :=
  s.collect (fun node => node.localCache.admissionRecords)

def policyDiagnostics (s : Simulator P) : List PolicyDecisionRecord :=
  sortBy policyDecisionLess s.policyRecords

def cacheAdmissionDiagnostics (s : Simulator P) : List CacheAdmissionRecord :=
  sortBy cacheAdmissionLess s.cacheRecords

theorem mem_collect {ρ : Type} {s : Simulator P} {recordsOf : ComputeNode P → List ρ}
    {record : ρ} :
    record ∈ s.collect recordsOf ↔
      ∃ nodeConfig ∈ s.config.computeNodes, ∃ node,
        s.computeNodes.find nodeConfig.nodeId = some node ∧ record ∈ recordsOf node := by
  unfold collect
  rw [List.mem_flatMap]
  apply exists_congr
  intro nodeConfig
  apply and_congr_right
  intro _
  cases s.computeNodes.find nodeConfig.nodeId with
  | none => simp
  | some node => simp

end Simulator

end DmSimulator
