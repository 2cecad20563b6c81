import ConnectionPool.Conformance.Verdict
import ConnectionPool.Pool.Action
import ConnectionPool.Recorder

/-!
# Runs of a test

A run has a pool, an observer that records its events, the main sequence of operations and the
workers that the main sequence starts. A thread name stands for the worker that was last started
under it. Commands come from the main sequence and from workers alike, and all of them share the
labels of connections.
-/

namespace ConnectionPool.Conformance

/-- A worker. `waiting` is the ticket of the acquisition that it waits for and the label for the
connection; `failure` is its first error. -/
structure Worker where
  inbox : List Command := []
  isOpen : Bool := true
  waiting : Option (Nat × Option String) := none
  failure : Option RunError := none
  ended : Bool := false
  joined : Bool := false
  aborted : Bool := false
  deriving Repr

/-- What the main sequence does. -/
inductive MainPhase where
  | opening
  | ready
  | sleeping (wakeAt : Instant)
  | acquiring (ticket : Nat) (label : Option String)
  | watching (watcher : Watcher) (deadline : Instant)
  | joining (worker : Nat) (suppressError : Bool)
  | finished (result : Except RunError Unit)

/-- A run. Workers are known by their place in `workers` and acquisitions by their ticket, the
count of those before. `connections` are the labelled connections that are out. -/
structure Run where
  pool : Pool
  recorder : Recorder := {}
  connections : List (String × Nat) := []
  workers : List Worker := []
  threads : List (String × Nat) := []
  tickets : Nat := 0
  main : MainPhase := .opening
  operations : List Operation

/-- The entry of the name. -/
def entry? (name : String) (entries : List (String × Nat)) : Option Nat :=
  (entries.find? fun entry => entry.1 == name).map Prod.snd

/-- The entries without the name. -/
def without (name : String) (entries : List (String × Nat)) : List (String × Nat) :=
  entries.filter fun entry => entry.1 != name

namespace Run

/-- The end of the run, if it is over. -/
def result? (run : Run) : Option (Except RunError Unit) :=
  match run.main with
  | .finished result => some result
  | _ => none

/-- Put the pool's new events on record. Notice was given once for each event on record. -/
def observe (run : Run) : Run :=
  { run with
    recorder := (run.pool.log.drop run.recorder.notices).foldl Recorder.record run.recorder }

/-- Take an action at the pool. -/
def act (run : Run) (action : Action) : Run :=
  observe { run with pool := run.pool.after action }

/-- The end of an acquisition, if it is over. -/
def answer? (run : Run) (ticket : Nat) : Option CallResult :=
  (run.pool.results.find? fun completion => completion.call == ticket).map Completion.result

/-- Change a worker. -/
def change (run : Run) (id : Nat) (change : Worker → Worker) : Run :=
  { run with workers := run.workers.modify id change }

/-- Know a connection by its label. The connection that had the label goes back to the pool; one
without a label stays out. -/
def keep (run : Run) (label : Option String) (connection : Nat) : Run :=
  match label with
  | none => run
  | some label =>
      let next := { run with
        connections := (label, connection) :: without label run.connections }
      match entry? label run.connections with
      | some previous => next.act (.drop previous)
      | none => next

/-- What a command comes to at once: it is done, or its connection has to be waited for. -/
inductive Progress where
  | done (result : Except RunError Unit)
  | waiting (ticket : Nat) (label : Option String)

/-- Start a command. -/
def execute (run : Run) : Command → Progress × Run
  | .checkOut label =>
      (.waiting run.tickets label,
        { run with tickets := run.tickets + 1 }.act (.acquire run.tickets))
  | .checkIn label force =>
      match entry? label run.connections with
      | none => (.done (.error (.unknownConnection label)), run)
      | some connection =>
          (.done (.ok ()),
            { run with connections := without label run.connections }.act
              (.release connection force))
  | .clear => (.done (.ok ()), run.act .clear)
  | .close => (.done (.ok ()), run.act .close)

/-- Take the connection that an acquisition ended with. -/
def collect (run : Run) (label : Option String) : CallResult → Except RunError Unit × Run
  | .acquired connection => (.ok (), run.keep label connection.id)
  | .failed error => (.error (.pool error), run)
  | .populated _ => (.ok (), run)

end Run

end ConnectionPool.Conformance
