import ConnectionPool.Failure

/-!
# The wait queue

Requests wait in line for a resource, and a run loop attends to the first one at each tick. The
queue holds no resources: it orders the requests and says which of them gets which answer. A
request whose waiter went away is no longer listening; it stays in line until its turn and is
then dropped.

An operation's outcome lists the answers it gives, each to a listening member, and the timers it
aborts.
-/

namespace ConnectionPool

/-- A request in line. `timer` is the timer that is to end its wait. -/
structure Member (τ : Type) where
  id : Nat
  listening : Bool
  timer : Option τ
  deriving DecidableEq, Repr

/-- A line of requests. A greatest size of 0 is no limit; `running` says that a run loop is
live. -/
structure WaitQueue (τ : Type) where
  members : List (Member τ)
  maxSize : Nat
  destroyed : Bool
  running : Bool
  lastMember : Nat
  poolId : UInt32
  address : Address
  deriving DecidableEq, Repr

/-- What a request gets that is let into the line. -/
structure Admission where
  member : Nat
  startRunLoop : Bool
  deriving DecidableEq, Repr

/-- What one tick of the run loop comes to. -/
inductive Tick (α : Type) where
  | stopped
  | requeued
  | discarded
  | served
  | unclaimed (resource : α)
  deriving Repr

namespace WaitQueue

/-- The queue after an operation, the answers it gave by member and the timers it aborted. -/
structure Outcome (τ α : Type) where
  queue : WaitQueue τ
  answers : List (Nat × Except PoolError α)
  aborted : List τ

variable {τ α : Type}

/-- A queue that nobody is in. -/
def empty (maxSize : Nat) (poolId : UInt32) (address : Address) : WaitQueue τ where
  members := []
  maxSize := maxSize
  destroyed := false
  running := false
  lastMember := 0
  poolId := poolId
  address := address

/-- The error for those who come to, or wait in, a destroyed queue. -/
def closedError (queue : WaitQueue τ) : PoolError :=
  .poolClosed queue.poolId queue.address

/-- The error for those who find the queue full. -/
def fullError (queue : WaitQueue τ) : PoolError :=
  .waitQueueFull queue.poolId queue.address

/-- The error for those who have waited too long. -/
def timeoutError (queue : WaitQueue τ) : PoolError :=
  .waitQueueTimeout queue.poolId queue.address

/-- The members have reached the limit. -/
def isFull (queue : WaitQueue τ) : Bool :=
  0 < queue.maxSize && queue.maxSize ≤ queue.members.length

/-- Let a request in, first or last in line. -/
def letIn (queue : WaitQueue τ) (front : Bool) : Except PoolError (Admission × WaitQueue τ) :=
  if queue.destroyed then .error queue.closedError
  else
    let member : Member τ := ⟨queue.lastMember + 1, true, none⟩
    let members := if front then member :: queue.members else queue.members ++ [member]
    .ok (⟨member.id, !queue.running⟩,
      { queue with members := members, running := true, lastMember := member.id })

/-- Let a new request in at the end of the line, unless it is full. -/
def enter (queue : WaitQueue τ) : Except PoolError (Admission × WaitQueue τ) :=
  if queue.isFull && !queue.destroyed then .error queue.fullError else queue.letIn false

/-- Let a request in again that was served before: at the head of the line, whatever its size. -/
def enterFront (queue : WaitQueue τ) : Except PoolError (Admission × WaitQueue τ) :=
  queue.letIn true

/-- The member is in line. -/
def isQueued (queue : WaitQueue τ) (member : Nat) : Bool :=
  queue.members.any fun m => m.id == member

/-- Attach a timer to a member. One for a member that is not in line is aborted. -/
def arm (queue : WaitQueue τ) (member : Nat) (timer : τ) : WaitQueue τ × List τ :=
  if queue.isQueued member then
    ({ queue with
        members := queue.members.map fun m =>
          if m.id = member then { m with timer := some timer } else m }, [])
  else (queue, [timer])

/-- The waiter of the member goes away. -/
def abandon (queue : WaitQueue τ) (member : Nat) : WaitQueue τ :=
  { queue with
    members := queue.members.map fun m =>
      if m.id = member then { m with listening := false } else m }

/-- End the wait of a member with a timeout; `none` if it is not in line. Its own timer is what
ends it and is not aborted. -/
def expire (queue : WaitQueue τ) (member : Nat) : Option (Outcome τ α) :=
  (queue.members.find? fun m => m.id == member).map fun m =>
    { queue := { queue with members := queue.members.filter fun m => m.id != member }
      answers := if m.listening then [(member, .error queue.timeoutError)] else []
      aborted := [] }

/-- Answer everyone in line that the pool is closed. -/
def drain (queue : WaitQueue τ) : Outcome τ α where
  queue := { queue with members := [] }
  answers := queue.members.filterMap fun m =>
    if m.listening then some (m.id, .error queue.closedError) else none
  aborted := queue.members.filterMap Member.timer

/-- Answer everyone in line that the pool is closed and let nobody in any more. -/
def destroy (queue : WaitQueue τ) : Outcome τ α :=
  { queue with destroyed := true }.drain

/-- Note that the run loop is gone. -/
def markStopped (queue : WaitQueue τ) : WaitQueue τ :=
  { queue with running := false }

/-- The next tick asks for a resource: the first in line is listening. -/
def asks (queue : WaitQueue τ) : Bool :=
  match queue.members with
  | [] => false
  | head :: _ => !queue.destroyed && head.listening

/-- A tick that asks for no resource: it stops the run loop when the queue is destroyed or
empty, and drops a head that is not listening. -/
def pass (queue : WaitQueue τ) : Tick α × Outcome τ α :=
  if queue.destroyed then
    let outcome : Outcome τ α := queue.drain
    (.stopped, { outcome with queue := outcome.queue.markStopped })
  else
    match queue.members with
    | [] => (.stopped, ⟨queue.markStopped, [], []⟩)
    | head :: rest =>
        (.discarded, ⟨{ queue with members := rest }, [], head.timer.toList⟩)

/-- Give the head the resource that was found for it. Without a resource it stays first in line. A
head that stopped listening meanwhile leaves the line too, and the resource is unclaimed. -/
def serve (queue : WaitQueue τ) (resource : Option α) : Tick α × Outcome τ α :=
  match queue.members, resource with
  | [], _ => (.stopped, ⟨queue, [], []⟩)
  | _ :: _, none => (.requeued, ⟨queue, [], []⟩)
  | head :: rest, some resource =>
      let queue := { queue with members := rest }
      if head.listening then
        (.served, ⟨queue, [(head.id, .ok resource)], head.timer.toList⟩)
      else (.unclaimed resource, ⟨queue, [], head.timer.toList⟩)

/-- One tick. If it asks for a resource it gets `resource`, and the members in `lost` stop
listening while it asks. -/
def runOnce (queue : WaitQueue τ) (lost : List Nat) (resource : Option α) :
    Tick α × Outcome τ α :=
  if queue.asks then (lost.foldl abandon queue).serve resource else queue.pass

/-- The timers of the members in line; they are aborted when the queue itself goes. -/
def timers (queue : WaitQueue τ) : List τ :=
  queue.members.filterMap Member.timer

end WaitQueue

end ConnectionPool
