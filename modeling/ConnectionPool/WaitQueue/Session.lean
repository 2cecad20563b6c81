import ConnectionPool.WaitQueue.Basic

/-!
# Sessions with a wait queue

A session is a queue together with the receivers that its members' answers go to. A receiver
takes its answer once. Resources are numbers here, and timers have names.
-/

namespace ConnectionPool.WaitQueue

/-- Where the answer to one member arrives. -/
inductive Receiver where
  | waiting
  | answered (answer : Except PoolError Nat)
  | taken

/-- A queue, the receivers that are still held and the timers aborted so far. -/
structure Session where
  queue : WaitQueue String
  receivers : List (Nat × Receiver)
  aborted : List String

/-- An operation on the queue or on a receiver. -/
inductive Operation where
  | enter
  | enterFront
  | tick (give : Option Nat) (lost : Option Nat)
  | drop (member : Nat)
  | expire (member : Nat)
  | arm (member : Nat) (timer : String)
  | destroy
  | markStopped
  | receive (member : Nat)

/-- What a look at a receiver finds. -/
inductive Receipt where
  | answer (answer : Except PoolError Nat)
  | empty
  | closed
  | noReceiver

/-- What an operation reports. -/
inductive Reply where
  | admitted (admission : Admission)
  | refused (error : PoolError)
  | ticked (tick : Tick Nat) (asked : Bool)
  | flag (value : Bool)
  | received (receipt : Receipt)
  | done

namespace Session

/-- A session with an empty queue. -/
def start (maxSize : Nat) (poolId : UInt32) (address : Address) : Session :=
  ⟨WaitQueue.empty maxSize poolId address, [], []⟩

/-- Put the answer into the member's receiver. -/
def deliver (receivers : List (Nat × Receiver)) (answer : Nat × Except PoolError Nat) :
    List (Nat × Receiver) :=
  receivers.map fun entry =>
    if entry.1 = answer.1 then (entry.1, .answered answer.2) else entry

/-- Take over the outcome of an operation. -/
def settle (session : Session) (outcome : Outcome String Nat) : Session where
  queue := outcome.queue
  receivers := outcome.answers.foldl deliver session.receivers
  aborted := session.aborted ++ outcome.aborted

/-- Take over an admission, whose receiver the session holds from now on. -/
def admitted (session : Session) (result : Except PoolError (Admission × WaitQueue String)) :
    Reply × Session :=
  match result with
  | .error error => (.refused error, session)
  | .ok (admission, queue) =>
      (.admitted admission,
        { session with
          queue := queue, receivers := session.receivers ++ [(admission.member, .waiting)] })

/-- The session still holds the member's receiver. -/
def holds (session : Session) (member : Nat) : Bool :=
  session.receivers.any fun entry => entry.1 == member

/-- Let go of the member's receiver. -/
def drop (session : Session) (member : Nat) : Session :=
  { session with
    queue := session.queue.abandon member
    receivers := session.receivers.filter fun entry => entry.1 != member }

/-- Look for an answer; one that is there is taken. -/
def receive (session : Session) (member : Nat) : Receipt × Session :=
  match (session.receivers.find? fun entry => entry.1 == member).map Prod.snd with
  | none => (.noReceiver, session)
  | some .waiting => (.empty, session)
  | some .taken => (.closed, session)
  | some (.answered answer) =>
      (.answer answer,
        { session with
          receivers := session.receivers.map fun entry =>
            if entry.1 = member then (member, .taken) else entry })

/-- Perform one operation. A tick lets go of the receiver in `lost` only while it asks. -/
def perform (session : Session) : Operation → Reply × Session
  | .enter => session.admitted session.queue.enter
  | .enterFront => session.admitted session.queue.enterFront
  | .tick give lost =>
      let asked := session.queue.asks
      let lost := if asked then lost.toList else []
      let (tick, outcome) := session.queue.runOnce lost give
      (.ticked tick asked, (lost.foldl drop session).settle outcome)
  | .drop member => (.flag (session.holds member), session.drop member)
  | .expire member =>
      match session.queue.expire member with
      | none => (.flag false, session)
      | some outcome => (.flag true, session.settle outcome)
  | .arm member timer =>
      let (queue, aborted) := session.queue.arm member timer
      (.done, { session with queue := queue, aborted := session.aborted ++ aborted })
  | .destroy => (.done, session.settle session.queue.destroy)
  | .markStopped => (.done, { session with queue := session.queue.markStopped })
  | .receive member =>
      let (receipt, session) := session.receive member
      (.received receipt, session)

/-- The timers aborted once the queue itself is gone. -/
def abortedAtEnd (session : Session) : List String :=
  session.aborted ++ session.queue.timers

end Session

end ConnectionPool.WaitQueue
