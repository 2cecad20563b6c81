import ConnectionPool.Pool.Action

/-!
# What does not depend on the tasks

The run loops and the maintenance task act for a pool, and only their own turns look at what the
pool notes of them. So the same action does the same to two pools that differ in these notes
alone, and leaves them so: `step_tasks` says it of every action that is no turn of a task, as
long as the pool is closed and starts no run loop any more.
-/

namespace ConnectionPool

/-- The action looks at the tasks or stops them. -/
def Action.mindsTasks : Action → Bool
  | .tick .. | .maintain | .abandonMaintenance | .close | .destroy => true
  | _ => false

/-- What a pool notes of its tasks: the run loops that are live, the one that it knows of,
whether the line has one, and the next tick of the maintenance task. -/
structure Tasks where
  runLoops : List RunLoop
  runLoop : Option Nat
  running : Bool
  maintenance : Option Instant

namespace Pool

/-- The notes of the pool's tasks. -/
def tasks (pool : Pool) : Tasks :=
  ⟨pool.runLoops, pool.runLoop, pool.queue.running, pool.maintenance⟩

/-- The pool with other notes of its tasks. -/
def withTasks (pool : Pool) (tasks : Tasks) : Pool :=
  { pool with
    queue := { pool.queue with running := tasks.running }
    runLoops := tasks.runLoops
    runLoop := tasks.runLoop
    maintenance := tasks.maintenance }

section Frame

variable (pool : Pool) (tasks : Tasks) (id : Nat)

@[simp] theorem withTasks_stock : (pool.withTasks tasks).stock = pool.stock := rfl
@[simp] theorem withTasks_call : (pool.withTasks tasks).call? id = pool.call? id := rfl
@[simp] theorem withTasks_loan : (pool.withTasks tasks).loan? id = pool.loan? id := rfl
@[simp] theorem withTasks_population (owner : Owner) :
    (pool.withTasks tasks).population? owner = pool.population? owner := rfl

/-- The notes of one of two pools are those of one of two. -/
theorem withTasks_ite (condition : Prop) [Decidable condition] (yes no : Pool) :
    (if condition then yes else no).withTasks tasks =
      if condition then yes.withTasks tasks else no.withTasks tasks :=
  apply_ite (Pool.withTasks · tasks) condition yes no

end Frame

variable (pool : Pool) (tasks : Tasks) (id : Nat)

/-! ## Calls -/

/-- Starting an acquisition does not depend on the tasks. -/
theorem start_acquire_tasks :
    (pool.withTasks tasks).startAcquire id = (pool.startAcquire id).withTasks tasks := by
  rw [startAcquire, startAcquire, withTasks_ite]
  rfl

/-- A call that comes to a closed pool fails, whatever the tasks. -/
theorem enter_tasks (hclosed : pool.isClosed = true) :
    (pool.withTasks tasks).enter id = (pool.enter id).withTasks tasks := by
  have hsame : (pool.withTasks tasks).isClosed = true := hclosed
  simp only [enter, withTasks_call, if_pos hclosed, if_pos hsame]
  split <;> rfl

/-- Announcing a connection does not depend on the tasks. -/
theorem announce_tasks (connection : Connection) :
    (pool.withTasks tasks).announce id connection =
      (pool.announce id connection).withTasks tasks := by
  simp only [announce, withTasks_stock]
  split
  · rw [withTasks_ite]
    rfl
  · rfl

/-- A look at an answer does not depend on the tasks. -/
theorem resume_tasks : (pool.withTasks tasks).resume id = (pool.resume id).withTasks tasks := by
  simp only [resume, withTasks_call]
  split
  · rfl
  · split
    · exact announce_tasks pool tasks id _
    · rfl
    · rfl
  · rfl

/-- The end of a connect does not depend on the tasks. -/
theorem finish_connect_tasks :
    (pool.withTasks tasks).finishConnect id = (pool.finishConnect id).withTasks tasks := by
  simp only [finishConnect, withTasks_call]
  split
  · rw [withTasks_ite]
    rfl
  · rfl

/-- Registering the outcome of a connect does not depend on the tasks. -/
theorem register_tasks :
    (pool.withTasks tasks).register id = (pool.register id).withTasks tasks := by
  simp only [register, withTasks_call]
  split
  · exact announce_tasks { pool with stock := pool.stock.emit _ } tasks id _
  · rfl
  · rfl

/-- Giving up a call does not depend on the tasks. -/
theorem cancel_acquire_tasks :
    (pool.withTasks tasks).cancelAcquire id = (pool.cancelAcquire id).withTasks tasks := by
  simp only [cancelAcquire, withTasks_call]
  split <;> rfl

/-! ## Populations -/

/-- Starting a population does not depend on the tasks. -/
theorem start_population_tasks :
    (pool.withTasks tasks).startPopulation id = (pool.startPopulation id).withTasks tasks := by
  rw [startPopulation, startPopulation, withTasks_ite]
  rfl

/-- Dropping a population does not depend on the tasks. -/
theorem abandon_population_tasks (owner : Owner) :
    (pool.withTasks tasks).abandonPopulation owner =
      (pool.abandonPopulation owner).withTasks tasks := by
  simp only [abandonPopulation, withTasks_population]
  split
  · rfl
  · split <;> rfl

/-- Giving up the opening of a pool does not depend on the tasks. -/
theorem abandon_opening_tasks :
    (pool.withTasks tasks).abandonOpening = pool.abandonOpening.withTasks tasks := by
  have hopen : (pool.withTasks tasks).isOpen = pool.isOpen := rfl
  rw [abandonOpening, abandonOpening, withTasks_ite, hopen, abandon_population_tasks]
  rfl

/-- The end of a population does not depend on the tasks; that of the opening starts the
maintenance task. -/
theorem finish_population_tasks (owner : Owner) (result : CallResult) :
    ∃ later, (pool.withTasks tasks).finishPopulation owner result =
      (pool.finishPopulation owner result).withTasks later := by
  cases owner with
  | opening =>
      exact ⟨{ tasks with maintenance := pool.config.maintenanceInterval.bind pool.now.add? },
        rfl⟩
  | call id => exact ⟨tasks, rfl⟩
  | maintenance => exact ⟨tasks, rfl⟩

/-- A population of a closed pool ends instead of making the next connection, whatever the
tasks. -/
theorem reserve_tasks (hclosed : pool.isClosed = true) (owner : Owner) :
    ∃ later, (pool.withTasks tasks).reserve owner = (pool.reserve owner).withTasks later := by
  have hshut : pool.stock.closed = true := hclosed
  have hfilled : isFilled pool.stock = true := by simp [isFilled, hshut]
  have hsame : isFilled (pool.withTasks tasks).stock = true := hfilled
  simp only [reserve, withTasks_population, if_pos hfilled, if_pos hsame]
  split
  · exact finish_population_tasks pool tasks owner _
  · exact ⟨tasks, rfl⟩

/-- The end of a population's connect does not depend on the tasks. -/
theorem finish_reserved_tasks (owner : Owner) :
    (pool.withTasks tasks).finishReserved owner =
      (pool.finishReserved owner).withTasks tasks := by
  simp only [finishReserved, withTasks_population]
  split
  · rw [withTasks_ite]
    rfl
  · rfl

/-- Registering the outcome of a population's connect does not depend on the tasks. -/
theorem settle_reserved_tasks (owner : Owner) :
    ∃ later, (pool.withTasks tasks).settleReserved owner =
      (pool.settleReserved owner).withTasks later := by
  simp only [settleReserved, withTasks_population, withTasks_stock]
  split
  · split
    · split <;> exact ⟨tasks, rfl⟩
    · exact finish_population_tasks { pool with stock := _ } tasks owner _
  · exact ⟨tasks, rfl⟩

/-! ## Connections on loan and timers -/

/-- What comes of a release does not depend on the tasks. -/
theorem release_loan_tasks (force : Bool) :
    (pool.withTasks tasks).releaseLoan id force =
      ((pool.releaseLoan id force).1, (pool.releaseLoan id force).2.withTasks tasks) := by
  simp only [releaseLoan, withTasks_loan]
  split <;> rfl

/-- What comes of a write does not depend on the tasks. -/
theorem write_loan_tasks (bytes : Nat) :
    (pool.withTasks tasks).writeLoan id bytes =
      ((pool.writeLoan id bytes).1, (pool.writeLoan id bytes).2.withTasks tasks) := by
  simp only [writeLoan, withTasks_loan]
  split <;> rfl

/-- What comes of establishing a connection on loan does not depend on the tasks. -/
theorem establish_loan_tasks :
    (pool.withTasks tasks).establishLoan id =
      ((pool.establishLoan id).1, (pool.establishLoan id).2.withTasks tasks) := by
  simp only [establishLoan, withTasks_loan]
  split <;> rfl

/-- Destroying a connection on loan does not depend on the tasks. -/
theorem destroy_loan_tasks :
    (pool.withTasks tasks).destroyLoan id = (pool.destroyLoan id).withTasks tasks := by
  simp only [destroyLoan, withTasks_loan]
  split <;> rfl

/-- A closed pool refuses an acquisition that does not wait, whatever the tasks. -/
theorem try_acquire_tasks (hclosed : pool.isClosed = true) :
    (pool.withTasks tasks).tryAcquire =
      (pool.tryAcquire.1, pool.tryAcquire.2.withTasks tasks) := by
  have hsame : (pool.withTasks tasks).isClosed = true := hclosed
  rw [tryAcquire, tryAcquire, if_pos hclosed, if_pos hsame]
  rfl

/-- A timer that is due ends no wait when nobody is in line, whatever the tasks. -/
theorem expire_tasks (hnobody : pool.queue.members = []) :
    (pool.withTasks tasks).expire id = (pool.expire id).withTasks tasks := by
  have hnone : ∀ queue : WaitQueue Nat, queue.members = [] →
      (queue.expire id : Option (WaitQueue.Outcome Nat Connection)) = none := by
    intro queue hmembers
    rw [WaitQueue.expire, hmembers]
    rfl
  rw [expire, expire, hnone _ hnobody, hnone (pool.withTasks tasks).queue hnobody, withTasks_ite]
  rfl

/-! ## What events set off -/

/-- A tripwire that goes off does not depend on the tasks. -/
theorem send_away_tasks (place : Nat) :
    (pool.withTasks tasks).sendAway id place = (pool.sendAway id place).withTasks tasks := by
  have hlost : (pool.withTasks tasks).loseWaiter id = (pool.loseWaiter id).withTasks tasks := by
    simp only [loseWaiter, withTasks_call]
    split <;> rfl
  rw [sendAway, sendAway, hlost, withTasks_ite]
  rfl

/-- What one event sets off does not depend on the tasks. -/
theorem fire_at_tasks (event : Event) (place : Nat) :
    (pool.withTasks tasks).fireAt event place = (pool.fireAt event place).withTasks tasks := by
  have hhom : ∀ (hit : List Tripwire) (next : Pool),
      hit.foldl (fun pool wire => pool.sendAway wire.call place) (next.withTasks tasks) =
        (hit.foldl (fun pool wire => pool.sendAway wire.call place) next).withTasks tasks :=
    fun hit next => List.foldl_hom (fun pool : Pool => pool.withTasks tasks)
      fun pool wire => send_away_tasks pool tasks wire.call place
  exact hhom _ { pool with
    tripwires := (pool.tripwires.partition fun wire => event.type == wire.type).2 }

/-- What events set off does not depend on the tasks. -/
theorem fire_tasks (place : Nat) :
    (pool.withTasks tasks).fire place = (pool.fire place).withTasks tasks :=
  List.foldl_hom (fun pool : Pool => pool.withTasks tasks) fun pool seen =>
    fire_at_tasks pool tasks seen.1 seen.2

/-- The end of a pool does not depend on the tasks, which end with it. -/
theorem collect_tasks :
    ∃ later, (pool.withTasks tasks).collect = pool.collect.withTasks later := by
  have hsame : (pool.withTasks tasks).isAlive = pool.isAlive := rfl
  unfold collect
  rw [hsame]
  cases pool.isAlive with
  | true => exact ⟨tasks, rfl⟩
  | false => exact ⟨⟨[], none, tasks.running, none⟩, rfl⟩

/-! ## Any action -/

variable {pool}

/-- An action that does not mind the tasks gets the same reply in a closed pool, and does the
same to it, whatever the tasks. -/
theorem step_tasks (hclosed : pool.isClosed = true) (hnobody : pool.queue.members = [])
    {action : Action} (hminds : action.mindsTasks = false) :
    ((pool.withTasks tasks).step action).1 = (pool.step action).1 ∧
      ∃ later, ((pool.withTasks tasks).step action).2 = (pool.step action).2.withTasks later := by
  cases action with
  | tick | maintain | abandonMaintenance | close | destroy => cases hminds
  | acquire call => exact ⟨rfl, tasks, start_acquire_tasks pool tasks call⟩
  | tryAcquire =>
      have hsame : (pool.withTasks tasks).held = pool.held := rfl
      simp only [step, hsame, try_acquire_tasks pool tasks hclosed]
      cases pool.held with
      | true => exact ⟨rfl, tasks, rfl⟩
      | false => exact ⟨rfl, tasks, rfl⟩
  | cancel call =>
      refine ⟨rfl, tasks, ?_⟩
      simp only [step, cancel_acquire_tasks, abandon_population_tasks]
  | populate call => exact ⟨rfl, tasks, start_population_tasks pool tasks call⟩
  | release connection force =>
      have hsame : (pool.withTasks tasks).held = pool.held := rfl
      simp only [step, hsame, release_loan_tasks]
      cases pool.held with
      | false => exact ⟨rfl, tasks, rfl⟩
      | true =>
          obtain ⟨result, next⟩ := pool.releaseLoan connection force
          cases result with
          | none => exact ⟨rfl, tasks, rfl⟩
          | some result => exact ⟨rfl, tasks, rfl⟩
  | drop connection =>
      refine ⟨rfl, tasks, ?_⟩
      simp only [step, dropLoan, release_loan_tasks]
  | write connection bytes =>
      simp only [step, write_loan_tasks]
      obtain ⟨result, next⟩ := pool.writeLoan connection bytes
      cases result with
      | none => exact ⟨rfl, tasks, rfl⟩
      | some result => exact ⟨rfl, tasks, rfl⟩
  | establish connection =>
      simp only [step, establish_loan_tasks]
      obtain ⟨result, next⟩ := pool.establishLoan connection
      cases result with
      | none => exact ⟨rfl, tasks, rfl⟩
      | some result => exact ⟨rfl, tasks, rfl⟩
  | destroyConnection connection => exact ⟨rfl, tasks, destroy_loan_tasks pool tasks connection⟩
  | clear =>
      refine ⟨rfl, tasks, ?_⟩
      simp only [step]
      rw [withTasks_ite]
      rfl
  | watch | dropHandle | failNext | failAll | connectDelay | elapse => exact ⟨rfl, tasks, rfl⟩
  | abandonOpening => exact ⟨rfl, tasks, abandon_opening_tasks pool tasks⟩
  | enter call => exact ⟨rfl, tasks, enter_tasks pool tasks call hclosed⟩
  | resume call => exact ⟨rfl, tasks, resume_tasks pool tasks call⟩
  | finishConnect call => exact ⟨rfl, tasks, finish_connect_tasks pool tasks call⟩
  | register call => exact ⟨rfl, tasks, register_tasks pool tasks call⟩
  | expire member => exact ⟨rfl, tasks, expire_tasks pool tasks member hnobody⟩
  | reserve owner => exact ⟨rfl, reserve_tasks pool tasks hclosed owner⟩
  | finishReserved owner => exact ⟨rfl, tasks, finish_reserved_tasks pool tasks owner⟩
  | settleReserved owner => exact ⟨rfl, settle_reserved_tasks pool tasks owner⟩

end Pool

end ConnectionPool
