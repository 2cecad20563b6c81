import ConnectionPool.Conformance.Run.Basic

/-!
# Turns

A run goes on by turns: an action of the pool, one turn of a worker or one of the main sequence.
Any sequence of turns is a history of the run; a turn of one who has to wait changes nothing.

A worker takes the commands of its inbox one after the other. After its first error it only
empties the inbox, and it ends once the inbox is empty and closed. The main sequence ends with
its first error.

`ready?` names the turn that is to be taken next at this instant. The main sequence is the last
to have its turn, so that everything an operation sets off happens before the next operation.
-/

namespace ConnectionPool.Conformance

/-- One turn of a run. -/
inductive Turn where
  | pool (action : Action)
  | worker (id : Nat)
  | main
  deriving DecidableEq, Repr

/-- How long the main sequence waits for events. -/
def watchLimit : Duration := Duration.ofMilliseconds 5000

namespace Run

/-! ## Workers -/

/-- The worker has a turn: the answer that it waits for is there, or a command, or the end. -/
def workerIsReady (run : Run) (worker : Worker) : Bool :=
  !worker.ended && !worker.aborted &&
    match worker.waiting with
    | some (ticket, _) => (run.answer? ticket).isSome
    | none => !worker.inbox.isEmpty || !worker.isOpen

/-- The worker's turn. -/
def work (run : Run) (id : Nat) : Run :=
  match run.workers[id]? with
  | none => run
  | some worker =>
      if !run.workerIsReady worker then run
      else
        match worker.waiting, worker.inbox with
        | some (ticket, label), _ =>
            match run.answer? ticket with
            | none => run
            | some answer =>
                let (result, run) := run.collect label answer
                run.change id fun worker =>
                  { worker with waiting := none, failure := errorOf result }
        | none, [] => run.change id fun worker => { worker with ended := true }
        | none, command :: inbox =>
            let run := run.change id fun worker => { worker with inbox := inbox }
            if worker.failure.isSome then run
            else
              match run.execute command with
              | (.waiting ticket label, run) =>
                  run.change id fun worker => { worker with waiting := some (ticket, label) }
              | (.done result, run) =>
                  run.change id fun worker => { worker with failure := errorOf result }
where
  /-- The error of a result. -/
  errorOf : Except RunError Unit → Option RunError
    | .error error => some error
    | .ok () => none

/-! ## The main sequence -/

/-- End the run. The threads that were not waited for are aborted. -/
def finish (run : Run) (result : Except RunError Unit) : Run :=
  { run with
    main := .finished result
    workers := run.workers.zipIdx.map fun (worker, id) =>
      if run.threads.any (fun thread => thread.2 == id) then { worker with aborted := true }
      else worker
    threads := [] }

/-- Go on to the next operation, or end the run with an error. -/
def proceed (run : Run) : Except RunError Unit → Run
  | .ok () => { run with main := .ready }
  | .error error => run.finish (.error error)

/-- Start a worker under a name. The worker that had the name gets no further command. -/
def start (run : Run) (name : String) : Run :=
  let run := match entry? name run.threads with
    | some id => run.change id fun worker => { worker with isOpen := false }
    | none => run
  { run with
    workers := run.workers ++ [({} : Worker)]
    threads := (name, run.workers.length) :: without name run.threads }

/-- Begin an operation. -/
def begin (run : Run) : Operation → Run
  | .start target => run.start target
  | .wait milliseconds =>
      { run with main := .sleeping (run.pool.now + Duration.ofMilliseconds milliseconds) }
  | .waitForThread target suppressError =>
      match entry? target run.threads with
      | none => run.finish (.error (.unknownThread target))
      | some id =>
          { run with
            threads := without target run.threads
            main := .joining id suppressError }.change id fun worker =>
              { worker with isOpen := false }
  | .waitForEvent event count =>
      { run with
        main := .watching { typeName := event, count := count } (run.pool.now + watchLimit) }
  | .command (some name) command =>
      match entry? name run.threads with
      | none => run.finish (.error (.unknownThread name))
      | some id => run.change id fun worker => { worker with inbox := worker.inbox ++ [command] }
  | .command none command =>
      match run.execute command with
      | (.waiting ticket label, run) => { run with main := .acquiring ticket label }
      | (.done result, run) => run.proceed result

/-- The main sequence has a turn. -/
def mainIsReady (run : Run) : Bool :=
  match run.main with
  | .opening => run.pool.isOpen
  | .ready => true
  | .sleeping wakeAt => wakeAt ≤ run.pool.now
  | .acquiring ticket _ => (run.answer? ticket).isSome
  | .watching watcher deadline =>
      (watcher.poll run.recorder).isDone || deadline ≤ run.pool.now
  | .joining id _ => (run.workers[id]?).any Worker.ended
  | .finished _ => false

/-- The turn of the main sequence. -/
def advance (run : Run) : Run :=
  if !run.mainIsReady then run
  else
    match run.main with
    | .opening => { run with main := .ready }
    | .ready =>
        match run.operations with
        | [] => run.finish (.ok ())
        | operation :: rest => { run with operations := rest }.begin operation
    | .sleeping _ => { run with main := .ready }
    | .acquiring ticket label =>
        match run.answer? ticket with
        | none => run
        | some answer =>
            let (result, run) := run.collect label answer
            run.proceed result
    | .watching watcher _ =>
        if (watcher.poll run.recorder).isDone then { run with main := .ready }
        else run.finish (.error (.eventTimeout watcher.typeName watcher.count))
    | .joining id suppressError =>
        let run := run.change id fun worker => { worker with joined := true }
        match (run.workers[id]?).bind Worker.failure with
        | some error => run.proceed (if suppressError then .ok () else .error error)
        | none => run.proceed (.ok ())
    | .finished _ => run

/-! ## Whose turn it is -/

/-- Take a turn. -/
def take (run : Run) : Turn → Run
  | .pool action => run.act action
  | .worker id => run.work id
  | .main => run.advance

/-- The turn that is to be taken next at this instant. -/
def ready? (run : Run) : Option Turn :=
  (run.pool.ready?.map .pool) <|>
  ((run.workers.findIdx? run.workerIsReady).map .worker) <|>
  (if run.mainIsReady then some .main else none)

/-- The next instant at which somebody has a turn, when nobody has one now. -/
def nextDue? (run : Run) : Option Instant :=
  (run.pool.nextDue?.toList ++
    match run.main with
    | .sleeping wakeAt => [wakeAt]
    | .watching _ deadline => [deadline]
    | _ => []).min?

end Run

end ConnectionPool.Conformance
