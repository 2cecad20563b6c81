import ConnectionPool.Proofs.Maintenance
import ConnectionPool.Proofs.Pool.Tasks

/-!
# Closing a closed pool

Closing or destroying a pool that is closed changes at most its tasks, and nobody can tell. Two
pools are `Twin` if they differ in nothing but the notes of their tasks. A closed pool starts no
run loop and no run of its maintenance task, so the turns of its tasks do nothing that anybody
sees, and every other action does the same to both twins: `Twin.after`. From this follows, by
induction over the actions, that no course of actions tells twins apart, even if the tasks of
the two take their turns at different moments: `SameCourse.twins`.
-/

namespace ConnectionPool

/-- The action is a turn of a task. -/
def Action.isTaskTurn : Action → Bool
  | .tick .. | .maintain => true
  | _ => false

/-- Nobody takes the action: it is a turn of a task, or time passes. -/
def Action.isUnasked : Action → Bool
  | .tick .. | .maintain | .elapse _ => true
  | _ => false

namespace Pool

variable {pool other last : Pool} {action closing : Action} {tasks : Tasks}

/-- The pools differ at most in the notes of their tasks. -/
def Twin (pool other : Pool) : Prop :=
  ∃ tasks, other = pool.withTasks tasks

/-- A pool is its own twin. -/
theorem Twin.refl (pool : Pool) : pool.Twin pool :=
  ⟨pool.tasks, rfl⟩

/-- Each of two twins is the other's twin. -/
theorem Twin.symm (h : pool.Twin other) : other.Twin pool := by
  obtain ⟨tasks, rfl⟩ := h
  exact ⟨pool.tasks, rfl⟩

/-- The twin of a twin is a twin. -/
theorem Twin.trans (first : pool.Twin other) (second : other.Twin last) : pool.Twin last := by
  obtain ⟨tasks, rfl⟩ := first
  obtain ⟨later, rfl⟩ := second
  exact ⟨later, rfl⟩

/-! ## Turns of tasks in a closed pool -/

/-- Nothing comes of draining a line that nobody is in. -/
theorem drain_nobody {queue : WaitQueue Nat} (hnobody : queue.members = []) :
    (queue.drain : WaitQueue.Outcome Nat Connection) = ⟨queue, [], []⟩ := by
  cases queue
  subst hnobody
  rfl

/-- Taking over that nothing came of an operation changes nothing but the line. -/
theorem settle_nothing (pool : Pool) (queue : WaitQueue Nat) :
    pool.settle ⟨queue, [], []⟩ = { pool with queue := queue } := by
  have htimers : (pool.timers.filter fun timer => timer.member ∉ ([] : List Nat)) = pool.timers :=
    List.filter_eq_self.2 fun _ _ => by simp
  show { pool with
    queue := queue
    timers := pool.timers.filter fun timer => timer.member ∉ ([] : List Nat) } = _
  rw [htimers]

/-- A run loop that attends to the line of a closed pool stops. -/
theorem Over.attend (h : pool.Over) (lost : List Nat) :
    pool.attend lost = (false, { pool with queue := pool.queue.markStopped }) := by
  have hasks : pool.queue.asks = false := by rw [WaitQueue.asks, h.nobody]
  rw [Pool.attend, if_neg (by simp [hasks]), WaitQueue.pass, if_pos h.destroyed,
    drain_nobody h.nobody]
  exact congrArg (Prod.mk false) (settle_nothing pool _)

/-- A tick of a run loop comes to nothing in a closed pool. -/
theorem Over.tick (h : pool.Over) (id : Nat) (lost : List Nat) :
    pool.Twin (pool.tick id lost) := by
  unfold Pool.tick
  split
  · exact .refl pool
  · split
    · rw [h.attend]
      exact ⟨⟨_, none, false, pool.maintenance⟩, rfl⟩
    · exact .refl pool

/-- A tick of the maintenance task comes to nothing in a closed pool. -/
theorem Over.maintain (h : pool.Over) : pool.Twin pool.maintain := by
  unfold Pool.maintain
  split
  · split
    · rw [if_pos h.closed]
      exact ⟨{ pool.tasks with maintenance := none }, rfl⟩
    · exact .refl pool
  · exact .refl pool

/-- Nothing is left of a closed pool that destroying it would give up. -/
theorem Over.scrap_idle (h : pool.Over) :
    { pool.stock with closed := true }.scrapIdle = pool.stock := by
  have hclosed : pool.stock.closed = true := h.closed
  have hidle := h.noneIdle
  generalize pool.stock = stock at hclosed hidle ⊢
  cases stock
  subst hclosed hidle
  rfl

/-- Destroying a closed pool stops its tasks and does nothing else. -/
theorem Over.destroy (h : pool.Over) : pool.Twin pool.destroy := by
  have hqueue : { pool.queue with destroyed := true } = pool.queue := by
    rw [← h.destroyed]
  have hshut : pool.stopped.shut =
      { pool.stopped with stock := { pool.stock with closed := true } } := by
    have hdestroy : (pool.stopped.queue.destroy : WaitQueue.Outcome Nat Connection) =
        ⟨pool.queue, [], []⟩ :=
      (congrArg WaitQueue.drain hqueue).trans (drain_nobody h.nobody)
    rw [shut, hdestroy, settle_nothing]
    rfl
  refine ⟨⟨pool.stopped.runLoops, none, false, none⟩, ?_⟩
  rw [destroy_eq, hshut]
  show { pool.stopped with
      queue := pool.queue.markStopped
      stock := { pool.stock with closed := true }.scrapIdle } = _
  rw [h.scrap_idle]
  rfl

/-- The turns of tasks, closing and destroying come to nothing in a closed pool. -/
theorem Over.step (h : pool.Over)
    (haction : action.isTaskTurn = true ∨ action = .close ∨ action = .destroy) :
    pool.Twin (pool.step action).2 := by
  have hclose : pool.close = pool := by rw [Pool.close, if_pos h.closed]
  cases action with
  | tick runLoop lost => exact h.tick runLoop lost
  | maintain => exact h.maintain
  | close =>
      simp only [Pool.step, hclose, ite_self]
      exact .refl pool
  | destroy =>
      simp only [Pool.step]
      split
      · exact h.destroy
      · exact .refl pool
  | _ => simp [Action.isTaskTurn] at haction

/-- Twins are closed the same. -/
theorem Over.twin (h : pool.Over) (htwin : pool.Twin other) : other.Over := by
  obtain ⟨tasks, rfl⟩ := htwin
  exact ⟨h.closed, h.destroyed, h.noneIdle, h.nobody⟩

/-! ## One action at twins -/

/-- A run of the maintenance task is dropped in a closed pool, whatever is noted of the task: if
there is a task then no run is under way. -/
theorem Orderly.abandon_maintenance (h : pool.Orderly) (hclosed : pool.isClosed = true) :
    pool.abandonMaintenance = pool.abandonPopulation .maintenance := by
  unfold abandonMaintenance
  split
  · rfl
  · next due hmaintenance =>
      have hnone : pool.population? .maintenance = none := by
        rw [← Option.isNone_iff_eq_none, ← Option.not_isSome, Bool.not_eq_true',
          ← Bool.not_eq_true, population_isSome]
        exact h.closed hclosed (by simp [hmaintenance])
      rw [abandonPopulation, hnone]

/-- An action gets the same reply from closed twins, and leaves them twins. -/
theorem Twin.step (htwin : pool.Twin other) (hover : pool.Over) (hpool : pool.Orderly)
    (hother : other.Orderly) (action : Action) :
    (other.step action).1 = (pool.step action).1 ∧
      (pool.step action).2.Twin (other.step action).2 := by
  by_cases hnothing : action.isTaskTurn = true ∨ action = .close ∨ action = .destroy
  · have hreply : (other.step action).1 = (pool.step action).1 := by
      rcases hnothing with hturn | rfl | rfl
      · cases action with
        | tick | maintain => rfl
        | _ => cases hturn
      · rfl
      · rfl
    exact ⟨hreply, ((hover.step hnothing).symm.trans htwin).trans
      ((hover.twin htwin).step hnothing)⟩
  · obtain ⟨tasks, rfl⟩ := htwin
    cases hminds : action.mindsTasks with
    | false => exact step_tasks tasks hover.closed hover.nobody hminds
    | true =>
        cases action with
        | abandonMaintenance =>
            have hsame : (pool.withTasks tasks).isClosed = true := hover.closed
            refine ⟨rfl, tasks, ?_⟩
            show (pool.withTasks tasks).abandonMaintenance =
              pool.abandonMaintenance.withTasks tasks
            rw [hother.abandon_maintenance hsame, hpool.abandon_maintenance hover.closed]
            exact abandon_population_tasks pool tasks .maintenance
        | tick | maintain | close | destroy => simp [Action.isTaskTurn] at hnothing
        | _ => cases hminds

/-- What the events of an action set off and the end of the pool leave twins twins. -/
theorem Twin.after (htwin : pool.Twin other) (hover : pool.Over) (hpool : pool.Orderly)
    (hother : other.Orderly) (action : Action) :
    (other.perform action).1 = (pool.perform action).1 ∧
      (pool.after action).Twin (other.after action) := by
  obtain ⟨hreply, later, hstep⟩ := htwin.step hover hpool hother action
  have hlog : other.log.length = pool.log.length := by
    obtain ⟨tasks, rfl⟩ := htwin
    rfl
  refine ⟨hreply, ?_⟩
  obtain ⟨last, hcollect⟩ :=
    collect_tasks ((pool.step action).2.fire pool.log.length) later
  refine ⟨last, ?_⟩
  show ((other.step action).2.fire other.log.length).collect = _
  rw [hstep, hlog, fire_tasks, hcollect]
  rfl

/-- A pool that is closed and that can be reached stays closed. -/
theorem Reachable.stays_closed (h : pool.Reachable) (hclosed : pool.isClosed = true)
    (action : Action) : (pool.after action).isClosed = true := by
  obtain ⟨kinds, hdwindles⟩ := (h.step action).dwindles ⟨hclosed, h.shut_empty hclosed⟩
  exact hdwindles.stock.closed.trans hclosed

/-! ## Actions that come to nothing -/

/-- The end of a closed pool is no end that anybody sees. -/
theorem Over.collect (h : pool.Over) (hgone : pool.isAlive = false → pool.timers = []) :
    pool.Twin pool.collect := by
  unfold Pool.collect
  split
  · exact .refl pool
  · next hdead =>
      have htimers := hgone (by simpa using hdead)
      have hscrap : pool.stock.scrapIdle = pool.stock := by
        have hclosed : pool.stock.closed = true := h.closed
        have hsame : { pool.stock with closed := true } = pool.stock := by rw [← hclosed]
        exact (congrArg Inventory.scrapIdle hsame).symm.trans h.scrap_idle
      refine ⟨⟨[], none, pool.queue.running, none⟩, ?_⟩
      rw [hscrap, ← htimers, ← h.nobody]
      rfl

/-- The turns of tasks, closing and destroying do nothing to a closed pool that anybody sees. -/
theorem Reachable.after_twin (h : pool.Reachable) (hclosed : pool.isClosed = true)
    (haction : action.isTaskTurn = true ∨ action = .close ∨ action = .destroy) :
    pool.Twin (pool.after action) := by
  obtain ⟨later, hstep⟩ := (h.over hclosed).step haction
  have hgone : (pool.withTasks later).isAlive = false → (pool.withTasks later).timers = [] :=
    fun hdead => (h.gone hdead).timers
  have hover := (h.over hclosed).twin ⟨later, rfl⟩
  show pool.Twin ((pool.step action).2.fire pool.log.length).collect
  have hlog : (pool.withTasks later).log = pool.log := rfl
  rw [hstep, fire_silent hlog]
  exact Twin.trans ⟨later, rfl⟩ (hover.collect hgone)

/-- The pool some time later. -/
def later (pool : Pool) (span : Duration) : Pool :=
  { pool with stock := { pool.stock with now := pool.now + span } }

/-- Time that passes does nothing else to a closed pool that anybody sees. -/
theorem Reachable.after_elapse (h : pool.Reachable) (hclosed : pool.isClosed = true)
    (span : Duration) : (pool.later span).Twin (pool.after (.elapse span)) := by
  have hover := h.over hclosed
  have hlater : (pool.later span).Over :=
    ⟨hover.closed, hover.destroyed, hover.noneIdle, hover.nobody⟩
  show (pool.later span).Twin ((pool.later span).fire pool.log.length).collect
  have hlog : (pool.later span).log = pool.log := rfl
  rw [fire_silent hlog]
  exact hlater.collect fun hdead => (h.gone hdead).timers

/-- A pause may be divided. -/
theorem Reachable.after_pause (h : pool.Reachable) (hclosed : pool.isClosed = true)
    (first second : Duration) :
    (pool.after (.elapse (first + second))).Twin
      ((pool.after (.elapse first)).after (.elapse second)) := by
  have hwhole := h.after_elapse hclosed (first + second)
  have hfirst := h.after_elapse hclosed first
  have hsecond := (h.after (.elapse first)).after_elapse (h.stays_closed hclosed _) second
  have hboth : pool.later (first + second) = (pool.later first).later second := by
    simp only [later, now, Nat.add_assoc]
  have hlater : ((pool.later first).later second).Twin
      ((pool.after (.elapse first)).later second) := by
    obtain ⟨tasks, hfirst⟩ := hfirst
    exact ⟨tasks, by rw [hfirst]; rfl⟩
  rw [hboth] at hwhole
  exact hwhole.symm.trans (hlater.trans hsecond)

/-! ## Courses of actions -/

/-- What is replied to those who take actions in this course, oldest first. -/
def replies (pool : Pool) : List Action → List Reply
  | [] => []
  | action :: rest =>
      if action.isUnasked then (pool.after action).replies rest
      else (pool.perform action).1 :: (pool.after action).replies rest

/-- The same course of actions, except that the tasks take their turns at other moments, which
may divide the pauses between the actions in other ways. -/
inductive SameCourse : List Action → List Action → Prop where
  | done : SameCourse [] []
  | both (action : Action) {mine yours : List Action} (h : SameCourse mine yours) :
      SameCourse (action :: mine) (action :: yours)
  | myTurn {action : Action} (turn : action.isTaskTurn = true) {mine yours : List Action}
      (h : SameCourse mine yours) : SameCourse (action :: mine) yours
  | yourTurn {action : Action} (turn : action.isTaskTurn = true) {mine yours : List Action}
      (h : SameCourse mine yours) : SameCourse mine (action :: yours)
  | myPause (first second : Duration) {mine yours : List Action}
      (h : SameCourse (.elapse first :: .elapse second :: mine) yours) :
      SameCourse (.elapse (first + second) :: mine) yours
  | yourPause (first second : Duration) {mine yours : List Action}
      (h : SameCourse mine (.elapse first :: .elapse second :: yours)) :
      SameCourse mine (.elapse (first + second) :: yours)

/-- Every course is the same as itself. -/
theorem SameCourse.refl (actions : List Action) : SameCourse actions actions := by
  induction actions with
  | nil => exact .done
  | cons action rest ih => exact .both action ih

/-- The turn of a task is asked for by nobody. -/
theorem unasked_of_turn (h : action.isTaskTurn = true) : action.isUnasked = true := by
  cases action with
  | tick | maintain => rfl
  | _ => cases h

/-- The same actions get the same replies from closed twins, and leave them twins. -/
theorem Twin.run (htwin : pool.Twin other) (hpool : pool.Reachable) (hother : other.Reachable)
    (hclosed : pool.isClosed = true) (actions : List Action) :
    other.replies actions = pool.replies actions ∧
      (pool.run actions).Twin (other.run actions) := by
  induction actions generalizing pool other with
  | nil => exact ⟨rfl, htwin⟩
  | cons action rest ih =>
      obtain ⟨hreply, hafter⟩ :=
        htwin.after (hpool.over hclosed) hpool.orderly hother.orderly action
      obtain ⟨hreplies, hrun⟩ := ih hafter (hpool.after action) (hother.after action)
        (hpool.stays_closed hclosed action)
      refine ⟨?_, hrun⟩
      rw [replies, replies, hreplies, hreply]

/-- The same course of actions gets the same replies from closed twins, and leaves them twins. -/
theorem SameCourse.twins {mine yours : List Action} (hsame : SameCourse mine yours)
    (htwin : pool.Twin other) (hpool : pool.Reachable) (hother : other.Reachable)
    (hclosed : pool.isClosed = true) :
    other.replies yours = pool.replies mine ∧ (pool.run mine).Twin (other.run yours) := by
  have hshut : other.isClosed = true := by
    obtain ⟨tasks, rfl⟩ := htwin
    exact hclosed
  induction hsame generalizing pool other with
  | done => exact ⟨rfl, htwin⟩
  | both action _ ih =>
      obtain ⟨hreply, hafter⟩ :=
        htwin.after (hpool.over hclosed) hpool.orderly hother.orderly action
      obtain ⟨hreplies, hrun⟩ := ih hafter (hpool.after action) (hother.after action)
        (hpool.stays_closed hclosed action) (hother.stays_closed hshut action)
      refine ⟨?_, hrun⟩
      rw [replies, replies, hreplies, hreply]
  | myTurn turn _ ih =>
      obtain ⟨hreplies, hrun⟩ := ih ((hpool.after_twin hclosed (.inl turn)).symm.trans htwin)
        (hpool.after _) hother (hpool.stays_closed hclosed _) hshut
      exact ⟨by rw [replies, if_pos (unasked_of_turn turn), hreplies], hrun⟩
  | yourTurn turn _ ih =>
      obtain ⟨hreplies, hrun⟩ := ih (htwin.trans (hother.after_twin hshut (.inl turn)))
        hpool (hother.after _) hclosed (hother.stays_closed hshut _)
      exact ⟨by rw [replies, if_pos (unasked_of_turn turn), hreplies], hrun⟩
  | @myPause first second mine yours _ ih =>
      -- The whole pause and its parts leave twins, which the rest of the course does not tell
      -- apart.
      obtain ⟨hrest, hrun⟩ := (hpool.after_pause hclosed first second).run (hpool.after _)
        ((hpool.after _).after _) (hpool.stays_closed hclosed _) mine
      obtain ⟨hreplies, hdivided⟩ := ih htwin hpool hother hclosed hshut
      refine ⟨hreplies.trans ?_, hrun.trans hdivided⟩
      rw [replies, replies, replies]
      exact hrest
  | @yourPause first second mine yours _ ih =>
      obtain ⟨hrest, hrun⟩ := (hother.after_pause hshut first second).run (hother.after _)
        ((hother.after _).after _) (hother.stays_closed hshut _) yours
      obtain ⟨hreplies, hdivided⟩ := ih htwin hpool hother hclosed hshut
      refine ⟨Eq.trans ?_ hreplies, hdivided.trans hrun.symm⟩
      rw [replies, replies, replies]
      exact hrest.symm

/-- What can be seen of a pool from outside: the events with the counts at their moment, how
calls ended, which calls of other pools its observers gave up, the status, the metrics, the
counters of its links, the connections on loan, and whether anybody has a part in it. -/
structure Alike (pool other : Pool) : Prop where
  log : other.log = pool.log
  results : other.results = pool.results
  departures : other.departures = pool.departures
  status : other.status = pool.status
  metrics : other.stock.metrics = pool.stock.metrics
  network : other.stock.network = pool.stock.network
  loans : other.loans = pool.loans
  closed : other.isClosed = pool.isClosed
  alive : other.isAlive = pool.isAlive

/-- Twins look alike. -/
theorem Twin.alike (h : pool.Twin other) : pool.Alike other := by
  obtain ⟨tasks, rfl⟩ := h
  exact ⟨rfl, rfl, rfl, rfl, rfl, rfl, rfl, rfl, rfl⟩

/-- Closing or destroying a pool that is closed is not seen. Whatever happens next, those who
take the actions get the same replies as without it, and the pool looks alike at each moment,
even though its tasks may not take the same turns any more. -/
theorem closing_unseen (h : pool.Reachable) (hclosed : pool.isClosed = true)
    (hclosing : closing = .close ∨ closing = .destroy) {mine yours : List Action}
    (hsame : SameCourse mine yours) :
    (pool.after closing).replies yours = pool.replies mine ∧
      (pool.run mine).Alike ((pool.after closing).run yours) := by
  have htwin : pool.Twin (pool.after closing) := h.after_twin hclosed (.inr hclosing)
  obtain ⟨hreplies, hrun⟩ := hsame.twins htwin h (h.after closing) hclosed
  exact ⟨hreplies, hrun.alike⟩

/-- The busy small pool is closed while a call has not looked at its answer and the run loop is
live. Destroying it then stops the run loop, which would have taken one more turn; whoever lets
time pass, looks at the answer and tries to acquire again cannot tell. -/
theorem busy_closing_unseen :
    ((small.run getBusy).after .close).runLoops.map RunLoop.id = [0] ∧
      (((small.run getBusy).after .close).after .destroy).runLoops = [] ∧
      (((small.run getBusy).after .close).run
          [.elapse 5000000, .tick 0, .elapse 5000000, .resume 2, .tryAcquire]).Alike
        ((((small.run getBusy).after .close).after .destroy).run
          [.elapse 10000000, .resume 2, .tryAcquire]) := by
  have hreachable : ((small.run getBusy).after .close).Reachable :=
    ((Reachable.opened small_opened).run getBusy).after .close
  have hclosed : ((small.run getBusy).after .close).isClosed = true := by decide +kernel
  have hsame : SameCourse [.elapse 5000000, .tick 0, .elapse 5000000, .resume 2, .tryAcquire]
      [.elapse (5000000 + 5000000), .resume 2, .tryAcquire] :=
    .yourPause _ _ (.both _ (.myTurn rfl (.refl _)))
  obtain ⟨-, halike⟩ := closing_unseen hreachable hclosed (.inr rfl) hsame
  exact ⟨by decide +kernel, by decide +kernel, halike⟩

end Pool

end ConnectionPool
