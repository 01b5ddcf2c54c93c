/-
  DmSimulator.Sim.Scheduler

  The event scheduler (`sim/scheduler.cpp`).  The priority queue is the list of
  its events in the order the comparator pops them; pushing inserts an event
  behind everything the comparator puts before it.

  `refused` is ghost state: the source returns `false` for an event in the past
  and no caller looks at the flag, so the model remembers the refused events
  for statements about them.  Nothing else reads it.
-/
import DmSimulator.Model.Request
import Mathlib.Data.List.Sort

namespace DmSimulator

structure Scheduler where
  currentTime : SimTime := 0
  nextSequence : Nat := 0
  events : List Event := []
  refused : List Event := []
deriving DecidableEq, Repr

namespace Scheduler

/-- `EventCompare`: does `rhs` come out of the queue before `lhs`? -/
def eventCompare (lhs rhs : Event) : Bool :=
  if lhs.time ≠ rhs.time then
    lhs.time > rhs.time
  else
    lhs.sequence > rhs.sequence

def now (s : Scheduler) : SimTime := s.currentTime

def empty (s : Scheduler) : Bool := s.events.isEmpty

def size (s : Scheduler) : Nat := s.events.length

/-- Insert an event into a queue kept in pop order. -/
def push (event : Event) (events : List Event) : List Event :=
  events.orderedInsert (fun a b => ¬ eventCompare a b = true) event

/-- Schedule an event.  The flag is `false` if the event time is in the past. -/
def schedule (s : Scheduler) (event : Event) : Scheduler × Bool :=
  if event.time < s.currentTime then
    ({ s with refused := s.refused ++ [event] }, false)
  else
    ({ s with
        nextSequence := s.nextSequence + 1
        events := push { event with sequence := s.nextSequence } s.events }, true)

def popNext (s : Scheduler) : Option (Event × Scheduler) :=
  match s.events with
  | [] => none
  | next :: rest => some (next, { s with events := rest, currentTime := next.time })

end Scheduler

end DmSimulator
