import ConnectionPool.Conformance.Run.Perform
import Mathlib.Logic.Relation

/-!
# What a turn does about threads

The plan of a run is the part of it in which the pool has no part: the workers, the thread
names, the main sequence and the operations that it has not begun. `Plan.Step` lists what can
happen to a plan, and `take_steps` says that every turn of a run comes to such steps; what every
step keeps holds after any history of turns. The first such thing is that no worker is lost and
each keeps its first error, `Plan.Steps.retains`.
-/

namespace ConnectionPool.Conformance

/-! ## Workers -/

/-- A worker that waits has had no error. -/
def Worker.Sound (worker : Worker) : Prop :=
  worker.waiting.isSome = true → worker.failure = none

/-- The worker stays sound and keeps its first error. -/
structure Worker.Remembers (worker next : Worker) : Prop where
  sound : worker.Sound → next.Sound
  failure : worker.Sound → ∀ error, worker.failure = some error → next.failure = some error

/-- What a turn of its own does to a worker. One that has ended or was aborted has no turn, and
one ends only after it was told that no command will come. -/
structure Worker.Goes (worker next : Worker) : Prop extends worker.Remembers next where
  isOpen : next.isOpen = worker.isOpen
  joined : next.joined = worker.joined
  aborted : next.aborted = worker.aborted
  gone : worker.ended = true ∨ worker.aborted = true → next = worker
  ended : next.ended = true → worker.ended = true ∨ worker.isOpen = false

namespace Worker

variable {worker next : Worker}

/-- A worker that waits for the same and has the same error as before remembers. -/
theorem Remembers.of_same (hwaiting : next.waiting = worker.waiting)
    (hfailure : next.failure = worker.failure) :
    worker.Remembers next := by
  refine ⟨fun hsound hwaits => ?_, fun _ error herror => hfailure.trans herror⟩
  rw [hfailure]
  exact hsound (hwaiting ▸ hwaits)

/-- So does a sound one that has had no error, if it does not wait any more or still has none. -/
theorem Remembers.of_none (hnone : worker.Sound → worker.failure = none) (hsound : next.Sound) :
    worker.Remembers next :=
  ⟨fun _ => hsound, fun hbefore error herror => by rw [hnone hbefore] at herror; cases herror⟩

/-- A turn of a worker that is not gone. -/
theorem Remembers.goes (h : worker.Remembers next) (hlasts : worker.ended = false)
    (hkept : worker.aborted = false)
    (hisOpen : next.isOpen = worker.isOpen) (hjoined : next.joined = worker.joined)
    (haborted : next.aborted = worker.aborted) (hended : next.ended = true →
      worker.isOpen = false) :
    worker.Goes next :=
  { h with
    isOpen := hisOpen
    joined := hjoined
    aborted := haborted
    gone := by simp [hlasts, hkept]
    ended := fun h => .inr (hended h) }

end Worker

/-! ## Plans -/

/-- The main sequence neither waits for a worker nor is over. -/
def MainPhase.IsFree : MainPhase → Prop
  | .joining .. | .finished _ => False
  | .opening | .ready | .sleeping _ | .acquiring .. | .watching .. => True

/-- The operation starts no thread and waits for none that is there. -/
def Operation.Spares (operation : Operation) (threads : List (String × Nat)) : Prop :=
  match operation with
  | .start _ => False
  | .waitForThread target _ => entry? target threads = none
  | .wait _ | .waitForEvent .. | .command .. => True

/-- The part of a run in which the pool has no part. -/
structure Plan where
  workers : List Worker
  threads : List (String × Nat)
  main : MainPhase
  operations : List Operation

/-- A run's plan. -/
def Run.plan (run : Run) : Plan :=
  ⟨run.workers, run.threads, run.main, run.operations⟩

namespace Plan

/-- Change a worker. -/
def change (plan : Plan) (id : Nat) (change : Worker → Worker) : Plan :=
  { plan with workers := plan.workers.modify id change }

/-- End the main sequence and abort the threads that were not waited for. -/
def finish (plan : Plan) (result : Except RunError Unit) : Plan :=
  { plan with
    main := .finished result
    workers := plan.workers.zipIdx.map fun (worker, id) =>
      if plan.threads.any (fun thread => thread.2 == id) then { worker with aborted := true }
        else worker
    threads := [] }

/-- The workers when the one that has the name is told that no command will come. -/
def close (plan : Plan) (name : String) : List Worker :=
  match entry? name plan.threads with
  | some id => plan.workers.modify id fun worker => { worker with isOpen := false }
  | none => plan.workers

/-- What can happen to a plan: a worker has a turn; the main sequence begins to wait, or has
waited; it passes on to the next operation, sends a worker a command, starts a worker, waits for
one, has waited for one and goes on or ends with its error; or it ends. -/
inductive Step (plan : Plan) : Plan → Prop where
  | work {id : Nat} {change : Worker → Worker}
      (hgoes : ∀ worker, plan.workers[id]? = some worker → worker.Goes (change worker)) :
      Step plan (plan.change id change)
  | rest {phase : MainPhase} (hfree : plan.main.IsFree) (hphase : phase.IsFree) :
      Step plan { plan with main := phase }
  | pass {operation : Operation} {rest : List Operation} (hfree : plan.main.IsFree)
      (hoperations : plan.operations = operation :: rest)
      (hspares : operation.Spares plan.threads) :
      Step plan { plan with operations := rest }
  | send {id : Nat} {command : Command} (hfree : plan.main.IsFree) :
      Step plan (plan.change id fun worker => { worker with inbox := worker.inbox ++ [command] })
  | start {name : String} {rest : List Operation} (hfree : plan.main.IsFree)
      (hoperations : plan.operations = .start name :: rest) :
      Step plan
        { workers := plan.close name ++ [({} : Worker)]
          threads := (name, plan.workers.length) :: without name plan.threads
          main := plan.main
          operations := rest }
  | await {name : String} {id : Nat} {suppressError : Bool} {rest : List Operation}
      (hfree : plan.main.IsFree)
      (hoperations : plan.operations = .waitForThread name suppressError :: rest)
      (hentry : entry? name plan.threads = some id) :
      Step plan
        { workers := plan.close name
          threads := without name plan.threads
          main := .joining id suppressError
          operations := rest }
  | join {id : Nat} {suppressError : Bool} {worker : Worker}
      (hmain : plan.main = .joining id suppressError)
      (hworker : plan.workers[id]? = some worker) (hended : worker.ended = true)
      (hquiet : ∀ error, worker.failure = some error → suppressError = true) :
      Step plan { plan.change id fun worker => { worker with joined := true } with
        main := .ready }
  | fail {id : Nat} {worker : Worker} {error : RunError} (hmain : plan.main = .joining id false)
      (hworker : plan.workers[id]? = some worker) (hended : worker.ended = true)
      (herror : worker.failure = some error) :
      Step plan
        ((plan.change id fun worker => { worker with joined := true }).finish (.error error))
  | finish {result : Except RunError Unit} (hfree : plan.main.IsFree) :
      Step plan (plan.finish result)

/-- A turn of one worker. -/
theorem Step.turn {plan : Plan} {id : Nat} {worker : Worker} {change : Worker → Worker}
    (hworker : plan.workers[id]? = some worker) (hgoes : worker.Goes (change worker)) :
    plan.Step (plan.change id change) :=
  .work fun other hother => by
    obtain rfl : worker = other := Option.some.inj (hworker.symm.trans hother)
    exact hgoes

/-- Any number of steps. -/
def Steps : Plan → Plan → Prop :=
  Relation.ReflTransGen Step

/-! ## Workers of a plan -/

/-- A worker that was changed, and the others. -/
theorem change_worker (plan : Plan) (id : Nat) (change : Worker → Worker) (other : Nat) :
    (plan.change id change).workers[other]? =
      plan.workers[other]?.map fun worker => if id = other then change worker else worker :=
  List.getElem?_modify ..

/-- The worker that is told that no command will come, and the others. -/
theorem close_worker (plan : Plan) (name : String) (id : Nat) :
    (plan.close name)[id]? =
      plan.workers[id]?.map fun worker =>
        if entry? name plan.threads = some id then { worker with isOpen := false }
          else worker := by
  unfold close
  cases entry? name plan.threads with
  | none => simp
  | some other =>
      simpa [change] using plan.change_worker other
        (fun worker => { worker with isOpen := false }) id

/-- The workers that are aborted at the end, and the others. -/
theorem finish_worker (plan : Plan) (result : Except RunError Unit) (id : Nat) :
    (plan.finish result).workers[id]? =
      plan.workers[id]?.map fun worker =>
        if plan.threads.any (fun thread => thread.2 == id) then { worker with aborted := true }
          else worker := by
  simp only [finish, List.getElem?_map, List.getElem?_zipIdx, Option.map_map, Nat.zero_add]
  rfl

/-- No worker is lost, each keeps its first error, and those that are new are sound. -/
structure Retains (plan next : Plan) : Prop where
  kept : ∀ {id : Nat} {worker : Worker}, plan.workers[id]? = some worker →
    ∃ later, next.workers[id]? = some later ∧ worker.Remembers later
  fresh : ∀ {id : Nat} {later : Worker}, plan.workers[id]? = none →
    next.workers[id]? = some later → later.Sound

variable {plan next last : Plan}

/-- So it is when each worker remembers and there are no others. -/
theorem Retains.of_map {turn : Nat → Worker → Worker}
    (hworkers : ∀ id : Nat, next.workers[id]? = plan.workers[id]?.map (turn id))
    (hremembers : ∀ (id : Nat) (worker : Worker), plan.workers[id]? = some worker →
      worker.Remembers (turn id worker)) :
    plan.Retains next where
  kept {id worker} hworker := ⟨turn id worker, by rw [hworkers, hworker]; rfl,
    hremembers id worker hworker⟩
  fresh {id later} hnone hlater := by
    rw [hworkers, hnone] at hlater
    cases hlater

/-- Or when all are as they were, and the others are sound. -/
theorem Retains.of_append {fresh : List Worker} (hworkers : next.workers = plan.workers ++ fresh)
    (hfresh : ∀ worker ∈ fresh, worker.Sound) : plan.Retains next where
  kept {id worker} hworker := by
    have hlt := (List.getElem?_eq_some_iff.1 hworker).1
    exact ⟨worker, by rw [hworkers, List.getElem?_append_left hlt, hworker], .of_same rfl rfl⟩
  fresh {id later} hnone hlater := by
    rw [hworkers, List.getElem?_append_right (List.getElem?_eq_none_iff.1 hnone)] at hlater
    exact hfresh later (List.mem_of_getElem? hlater)

/-- Or when there are just the workers that there were. -/
theorem Retains.of_same (hworkers : next.workers = plan.workers) : plan.Retains next :=
  .of_append (hworkers.trans (List.append_nil _).symm) (by simp)

/-- One thing after another. -/
theorem Retains.trans (h : plan.Retains next) (hnext : next.Retains last) :
    plan.Retains last where
  kept hworker := by
    obtain ⟨later, hlater, hremembers⟩ := h.kept hworker
    obtain ⟨latest, hlatest, hstill⟩ := hnext.kept hlater
    exact ⟨latest, hlatest, fun hsound => hstill.sound (hremembers.sound hsound),
      fun hsound error herror =>
      hstill.failure (hremembers.sound hsound) error (hremembers.failure hsound error herror)⟩
  fresh {id _} hnone hlatest := by
    cases hlater : next.workers[id]? with
    | none => exact hnext.fresh hlater hlatest
    | some later =>
        obtain ⟨_, hsame, hstill⟩ := hnext.kept hlater
        obtain rfl := Option.some.inj (hsame.symm.trans hlatest)
        exact hstill.sound (h.fresh hnone hlater)

/-- Changing one worker. -/
theorem change_retains {id : Nat} {change : Worker → Worker}
    (hremembers : ∀ worker, plan.workers[id]? = some worker → worker.Remembers (change worker)) :
    plan.Retains (plan.change id change) := by
  refine .of_map (plan.change_worker id change) fun other worker hworker => ?_
  split
  · next hsame => exact hremembers worker (hsame ▸ hworker)
  · exact .of_same rfl rfl

/-- Ending. -/
theorem finish_retains (plan : Plan) (result : Except RunError Unit) :
    plan.Retains (plan.finish result) := by
  refine .of_map (plan.finish_worker result) fun id worker _ => ?_
  split <;> exact .of_same rfl rfl

/-- Telling one worker that no command will come. -/
theorem close_retains {name : String} (hworkers : next.workers = plan.close name) :
    plan.Retains next := by
  refine .of_map (fun id => (congrArg (·[id]?) hworkers).trans (plan.close_worker name id))
    fun id worker _ => ?_
  split <;> exact .of_same rfl rfl

/-- Every step keeps the workers and their errors. -/
theorem Step.retains (h : plan.Step next) : plan.Retains next := by
  have hjoined (id : Nat) : plan.Retains (plan.change id fun worker =>
      { worker with joined := true }) :=
    change_retains fun _ _ => .of_same rfl rfl
  cases h with
  | work hgoes => exact change_retains fun worker hworker => (hgoes worker hworker).toRemembers
  | rest | pass => exact .of_same rfl
  | send => exact change_retains fun _ _ => .of_same rfl rfl
  | await => exact close_retains rfl
  | join => exact (hjoined _).trans (.of_same rfl)
  | fail => exact (hjoined _).trans (finish_retains _ _)
  | finish => exact finish_retains _ _
  | @start name _ _ _ =>
      have hclosed : plan.Retains { plan with workers := plan.close name } := close_retains rfl
      refine hclosed.trans (.of_append rfl fun worker hworker => ?_)
      rw [List.mem_singleton.1 hworker]
      exact nofun

/-- So does any number of steps. -/
theorem Steps.retains (h : Steps plan next) : plan.Retains next := by
  induction h with
  | refl => exact .of_same rfl
  | tail _ hstep ih => exact ih.trans hstep.retains

end Plan

/-! ## Turns -/

namespace Run

open Plan (Steps)

/-- The label of a connection is no matter of the plan. -/
theorem keep_plan (run : Run) (label : Option String) (connection : Nat) :
    (run.keep label connection).plan = run.plan := by
  cases label with
  | none => rfl
  | some label =>
      rw [keep]
      split
      · rfl
      · rfl

/-- Commands are started at the pool. -/
theorem execute_plan (run : Run) (command : Command) :
    (run.execute command).2.plan = run.plan := by
  cases command with
  | checkIn label force =>
      rw [execute]
      split
      · rfl
      · rfl
  | checkOut | clear | close => rfl

/-- Answers are taken from the pool. -/
theorem collect_plan (run : Run) (label : Option String) (answer : CallResult) :
    (run.collect label answer).2.plan = run.plan := by
  cases answer with
  | acquired connection => exact run.keep_plan label connection.id
  | failed | populated => rfl

/-- Changing a worker is a matter of the plan. -/
theorem change_plan (run : Run) (id : Nat) (change : Worker → Worker) :
    (run.change id change).plan = run.plan.change id change :=
  rfl

/-- A worker that has its turn has neither ended nor been aborted, and it is told when no
command will come. -/
theorem ready_worker {run : Run} {worker : Worker} (hready : run.workerIsReady worker = true) :
    worker.ended = false ∧ worker.aborted = false ∧
      (worker.waiting = none → worker.inbox = [] → worker.isOpen = false) := by
  simp only [workerIsReady, Bool.and_eq_true, Bool.not_eq_true'] at hready
  obtain ⟨⟨hended, haborted⟩, hturn⟩ := hready
  refine ⟨hended, haborted, fun hwaiting hinbox => ?_⟩
  rw [hwaiting, hinbox] at hturn
  simpa using hturn

/-- A worker that has had no error starts a command. -/
theorem serve_steps (run : Run) {id : Nat} {worker : Worker}
    (hworker : run.workers[id]? = some worker)
    (hlasts : worker.ended = false) (hkept : worker.aborted = false)
    (hwaiting : worker.waiting = none)
    (hfailure : worker.failure = none) (command : Command) :
    Steps run.plan
      (match run.execute command with
        | (.waiting ticket label, run) =>
            run.change id fun worker => { worker with waiting := some (ticket, label) }
        | (.done result, run) =>
            run.change id fun worker => { worker with failure := work.errorOf result }).plan := by
  have hplan := run.execute_plan command
  split
  next ticket label asked hexecute =>
    have hasked : worker.Remembers { worker with waiting := some (ticket, label) } :=
      .of_none (fun _ => hfailure) fun _ => hfailure
    rw [hexecute] at hplan
    rw [change_plan, hplan]
    exact .single (.turn hworker (hasked.goes hlasts hkept rfl rfl rfl (by simp [hlasts])))
  next result asked hexecute =>
    have hdone : worker.Remembers { worker with failure := work.errorOf result } :=
      .of_none (fun _ => hfailure) fun hwaits => by simp [hwaiting] at hwaits
    rw [hexecute] at hplan
    rw [change_plan, hplan]
    exact .single (.turn hworker (hdone.goes hlasts hkept rfl rfl rfl (by simp [hlasts])))

/-- The turn of a worker. -/
theorem work_steps (run : Run) (id : Nat) : Steps run.plan (run.work id).plan := by
  unfold work
  split
  · exact .refl
  next worker hworker =>
    split
    · exact .refl
    next hready =>
      obtain ⟨hlasts, hkept, hlast⟩ := ready_worker (by simpa using hready)
      split
      next ticket label hwaiting =>
        split
        · exact .refl
        next answer _ =>
          -- A sound worker that waits has had no error.
          have hanswered : worker.Remembers
              { worker with
              waiting := none, failure := work.errorOf (run.collect label answer).1 } :=
            .of_none (fun hsound => hsound (by rw [hwaiting]; rfl)) nofun
          rw [change_plan, collect_plan]
          exact .single (.turn hworker (hanswered.goes hlasts hkept rfl rfl rfl
            (by simp [hlasts])))
      next hwaiting hinbox =>
        have hends : worker.Remembers { worker with ended := true } := .of_same rfl rfl
        exact .single (.turn hworker (hends.goes hlasts hkept rfl rfl rfl fun _ =>
          hlast hwaiting hinbox))
      next command inbox hwaiting hinbox =>
        have hreads : worker.Remembers { worker with inbox := inbox } := .of_same rfl rfl
        have hread : run.plan.Step (run.change id fun worker =>
            { worker with inbox := inbox }).plan :=
          .turn hworker (hreads.goes hlasts hkept rfl rfl rfl (by simp [hlasts]))
        refine .head hread ?_
        split
        · exact .refl
        next hfailure =>
          have hserves : (run.change id fun worker =>
              { worker with inbox := inbox }).workers[id]? =
                some { worker with inbox := inbox } := by
            simp [change, hworker]
          exact serve_steps _ hserves hlasts hkept hwaiting (by simpa using hfailure) command

/-- Starting a worker under a name. -/
theorem start_plan (run : Run) (name : String) :
    (run.start name).plan =
      { workers := run.plan.close name ++ [({} : Worker)]
        threads := (name, run.workers.length) :: without name run.threads
        main := run.main
        operations := run.operations } := by
  have hthreads : run.plan.threads = run.threads := rfl
  unfold start Plan.close
  rw [hthreads]
  cases entry? name run.threads with
  | none => rfl
  | some id => simp [plan, change]

/-- Going on, or ending with an error. -/
theorem proceed_steps (run : Run) (hfree : run.main.IsFree) (result : Except RunError Unit) :
    Steps run.plan (run.proceed result).plan := by
  cases result with
  | ok _ => exact .single (.rest hfree trivial)
  | error error => exact .single (.finish hfree)

/-- Starting a command on the main sequence. -/
theorem ask_steps (run : Run) (hfree : run.main.IsFree) (command : Command) :
    Steps run.plan (run.begin (.command none command)).plan := by
  have hplan := run.execute_plan command
  rw [begin]
  split
  next ticket label asked hexecute =>
    rw [hexecute] at hplan
    have hmain : asked.main = run.main := congrArg Plan.main hplan
    rw [← hplan]
    exact .single (.rest (hmain.symm ▸ hfree : asked.main.IsFree) trivial)
  next result asked hexecute =>
    rw [hexecute] at hplan
    have hmain : asked.main = run.main := congrArg Plan.main hplan
    rw [← hplan]
    exact proceed_steps asked (hmain.symm ▸ hfree) result

/-- Beginning an operation. -/
theorem begin_steps {run : Run} {operation : Operation} {rest : List Operation}
    (hmain : run.main = .ready)
    (hoperations : run.operations = operation :: rest) :
    Steps run.plan ({ run with operations := rest }.begin operation).plan := by
  have hfree : run.plan.main.IsFree := by rw [plan, hmain]; trivial
  have hpass (hspares : operation.Spares run.threads) :
      run.plan.Step { run with operations := rest }.plan :=
    .pass hfree hoperations hspares
  cases operation with
  | start target =>
      rw [begin, start_plan]
      exact .single (.start hfree hoperations)
  | wait milliseconds => exact .head (hpass trivial) (.single (.rest hfree trivial))
  | waitForEvent event count => exact .head (hpass trivial) (.single (.rest hfree trivial))
  | waitForThread target suppressError =>
      rw [begin]
      cases hentry : entry? target run.threads with
      | none => exact .head (hpass hentry) (.single (.finish hfree))
      | some id =>
          have hstep := Plan.Step.await hfree hoperations hentry
          rw [Plan.close, show entry? target run.plan.threads = some id from hentry] at hstep
          exact .single hstep
  | command thread command =>
      refine .head (hpass trivial) ?_
      cases thread with
      | some name =>
          rw [begin]
          cases hentry : entry? name run.threads with
          | none => exact .single (.finish hfree)
          | some id => exact .single (.send hfree)
      | none => exact ask_steps { run with operations := rest } hfree command

/-- Having waited for a worker, the main sequence goes on, or ends with the worker's error. -/
theorem join_steps (run : Run) {id : Nat} {suppressError : Bool} {worker : Worker}
    (hmain : run.main = .joining id suppressError) (hworker : run.workers[id]? = some worker)
    (hended : worker.ended = true) :
    Steps run.plan
      (match worker.failure with
        | some error =>
            (run.change id fun worker => { worker with joined := true }).proceed
              (if suppressError then .ok () else .error error)
        | none =>
            (run.change id fun worker => { worker with joined := true }).proceed
            (.ok ())).plan := by
  cases hfailure : worker.failure with
  | none => exact .single (.join hmain hworker hended (by simp [hfailure]))
  | some error =>
      cases suppressError with
      | true => exact .single (.join hmain hworker hended fun _ _ => rfl)
      | false => exact .single (.fail hmain hworker hended hfailure)

/-- The turn of the main sequence. -/
theorem advance_steps (run : Run) : Steps run.plan run.advance.plan := by
  have hfree (hmain : run.main.IsFree) : run.plan.main.IsFree := hmain
  unfold advance
  split
  · exact .refl
  next hready =>
    have hready : run.mainIsReady = true := by simpa using hready
    split
    case h_1 hmain => exact .single (.rest (hfree (by rw [hmain]; trivial)) trivial)
    case h_2 hmain =>
      split
      · exact .single (.finish (hfree (by rw [hmain]; trivial)))
      next operation rest hoperations => exact begin_steps hmain hoperations
    case h_3 hmain => exact .single (.rest (hfree (by rw [hmain]; trivial)) trivial)
    case h_4 ticket label hmain =>
      split
      · exact .refl
      next answer _ =>
        have hplan := run.collect_plan label answer
        have hstill : (run.collect label answer).2.main = .acquiring ticket label :=
          (congrArg Plan.main hplan).trans hmain
        rw [← hplan]
        exact proceed_steps _ (by rw [hstill]; trivial) _
    case h_5 watcher deadline hmain =>
      split
      · exact .single (.rest (hfree (by rw [hmain]; trivial)) trivial)
      · exact .single (.finish (hfree (by rw [hmain]; trivial)))
    case h_6 id suppressError hmain =>
      rw [mainIsReady, hmain] at hready
      dsimp only at hready
      cases hworker : run.workers[id]? with
      | none => simp [hworker] at hready
      | some worker =>
          have hended : worker.ended = true := by simpa [hworker] using hready
          have hsteps := run.join_steps hmain hworker hended
          have hjoined : (run.change id fun worker =>
              { worker with joined := true }).workers[id]? =
                some { worker with joined := true } := by
            simp [change, hworker]
          dsimp only
          rw [hjoined]
          exact hsteps
    case h_7 => exact .refl

/-- Every turn comes to steps of the plan. -/
theorem take_steps (run : Run) (turn : Turn) : Steps run.plan (run.take turn).plan := by
  cases turn with
  | pool action => exact .refl
  | worker id => exact run.work_steps id
  | main => exact run.advance_steps

/-! ## Histories -/

/-- The run after the turns. -/
def after (run : Run) (turns : List Turn) : Run :=
  turns.foldl take run

/-- One history after another. -/
theorem after_append (run : Run) (turns later : List Turn) :
    run.after (turns ++ later) = (run.after turns).after later :=
  List.foldl_append

/-- A history comes to steps of the plan. -/
theorem after_steps (run : Run) (turns : List Turn) : Steps run.plan (run.after turns).plan := by
  induction turns generalizing run with
  | nil => exact .refl
  | cons turn turns ih => exact (run.take_steps turn).trans (ih (run.take turn))

/-- Playing a run to its end is a history. -/
theorem play_after (fuel : Nat) (run : Run) : ∃ turns, run.play fuel = run.after turns := by
  induction fuel generalizing run with
  | zero => exact ⟨[], rfl⟩
  | succ fuel ih =>
      rw [play]
      split
      · exact ⟨[], rfl⟩
      · split
        next turn _ =>
          obtain ⟨turns, hturns⟩ := ih (run.take turn)
          exact ⟨turn :: turns, hturns⟩
        · split
          · exact ⟨[], rfl⟩
          next due _ =>
            split
            · obtain ⟨turns, hturns⟩ := ih (run.elapseTo due)
              exact ⟨.pool (.elapse (due - run.pool.now)) :: turns, hturns⟩
            · exact ⟨[.pool (.elapse (runLimit - run.pool.now)), .main], rfl⟩

end Run

end ConnectionPool.Conformance
