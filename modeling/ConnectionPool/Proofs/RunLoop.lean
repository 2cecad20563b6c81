import ConnectionPool.Proofs.Pool.Queueing
import ConnectionPool.Proofs.Pool.Gone
import ConnectionPool.Proofs.HandOut

/-!
# One run loop while anybody waits

The line says whether a run loop is live, the pool knows its id, and the run loop itself is a
task: three notes of one thing. `Tended` says that they agree and that somebody who waits has a
run loop. Each action leaves the run loops as they are, or stops the only one when nobody waits,
or lets a call in and starts one if there is none: this is `Serviced`, and from it every pool
that can be reached is tended.

Where the period is so long that the clock does not have the instant of the first tick, the run
loop breaks off as it starts. The pool and the line still take it for live, and this is the one
way in which the three notes come to disagree.
-/

namespace ConnectionPool.Pool

variable {pool middle next : Pool} {id : Nat} {action : Action}

/-- The run loop that the pool knows broke off as it started, since the clock does not have the
instant of its first tick. -/
structure BrokeOff (pool : Pool) : Prop where
  known : pool.runLoop.isSome = true
  gone : pool.runLoops = []
  beyond : pool.now.add? pool.config.waitQueuePeriod = none

/-- The line has a run loop if the pool knows one, and that one is the only one there is, unless
it broke off. While anybody is in line there is one. -/
structure Tended (pool : Pool) : Prop where
  running : pool.isAlive = true → pool.queue.running = pool.runLoop.isSome
  loops : pool.runLoops.map RunLoop.id = pool.runLoop.toList ∨ pool.BrokeOff
  waited : pool.queue.members ≠ [] → pool.runLoop.isSome = true

/-- Every run loop that there is is the one that the pool knows. -/
theorem Tended.known {loop : RunLoop} (h : pool.Tended) (hloop : loop ∈ pool.runLoops) :
    pool.runLoop = some loop.id := by
  rcases h.loops with hloops | hbroke
  · have hid : loop.id ∈ pool.runLoop.toList := hloops ▸ List.mem_map_of_mem hloop
    exact Option.mem_toList.1 hid
  · rw [hbroke.gone] at hloop
    cases hloop

/-- The run loops that there are have one id. -/
theorem Tended.only {loop other : RunLoop} (h : pool.Tended) (hloop : loop ∈ pool.runLoops)
    (hother : other ∈ pool.runLoops) : loop.id = other.id :=
  Option.some.inj ((h.known hloop).symm.trans (h.known hother))

/-- There is no run loop if the pool knows none or the one that it knows broke off. -/
theorem Tended.none_iff (h : pool.Tended) :
    pool.runLoops = [] ↔ pool.runLoop = none ∨ pool.BrokeOff := by
  constructor
  · intro hnil
    refine h.loops.imp_left fun hloops => ?_
    rwa [hnil, List.map_nil, eq_comm, Option.toList_eq_nil_iff] at hloops
  · rintro (hnone | hbroke)
    · rcases h.loops with hloops | hbroke
      · rwa [hnone, Option.toList_none, List.map_eq_nil_iff] at hloops
      · exact hbroke.gone
    · exact hbroke.gone

/-- A run loop that the pool knows is there, and is the only one, unless it broke off. -/
theorem Tended.live_iff (h : pool.Tended) :
    pool.runLoop.isSome = true ↔
      (∃ loop, pool.runLoops = [loop] ∧ pool.runLoop = some loop.id) ∨ pool.BrokeOff := by
  constructor
  · intro hsome
    refine h.loops.imp_left fun hloops => ?_
    obtain ⟨id, hid⟩ := Option.isSome_iff_exists.1 hsome
    rw [hid, Option.toList_some] at hloops
    obtain ⟨loop, hloop, rfl⟩ := List.map_eq_singleton_iff.1 hloops
    exact ⟨loop, hloop, hid⟩
  · rintro (⟨loop, -, hknown⟩ | hbroke)
    · rw [hknown, Option.isSome_some]
    · exact hbroke.known

/-! ## What happens to run loops -/

/-- The run loops go on, and nobody joins the line. -/
structure GoesOn (pool next : Pool) : Prop where
  line : next.queue.ids.Sublist pool.queue.ids
  last : next.queue.lastMember = pool.queue.lastMember
  running : next.queue.running = pool.queue.running
  loops : next.runLoops.map RunLoop.id = pool.runLoops.map RunLoop.id
  runLoop : next.runLoop = pool.runLoop
  nextRunLoop : next.nextRunLoop = pool.nextRunLoop

/-- No run loop is left, and nobody is in line. -/
structure Stops (pool next : Pool) : Prop where
  empty : next.queue.members = []
  last : next.queue.lastMember = pool.queue.lastMember
  running : next.queue.running = false
  loops : next.runLoops = []
  runLoop : next.runLoop = none
  nextRunLoop : next.nextRunLoop = pool.nextRunLoop

/-- A call is let in. A run loop starts unless the line has one; its first tick is one period
from now. -/
structure Admits (pool next : Pool) : Prop where
  alive : pool.isAlive = true
  last : next.queue.lastMember = pool.queue.lastMember + 1
  running : next.queue.running = true
  loops : next.runLoops =
    pool.runLoops ++ if pool.queue.running then [] else pool.firstTick?.toList
  runLoop : next.runLoop = if pool.queue.running then pool.runLoop else some pool.nextRunLoop

/-- What happens to the run loops of a pool. -/
inductive Serviced (pool next : Pool) : Prop where
  | goesOn (h : pool.GoesOn next)
  | stops (h : pool.Stops next)
  | admits (h : pool.Admits next)

/-- Where calls just go away the run loops go on. -/
theorem Thins.goesOn (h : pool.Thins next) : pool.GoesOn next where
  line := by rw [h.ids]
  last := h.last
  running := h.running
  loops := by rw [h.runLoops]
  runLoop := h.runLoop
  nextRunLoop := h.nextRunLoop

/-- Nothing happens to the run loops when nothing happens. -/
theorem GoesOn.refl (pool : Pool) : pool.GoesOn pool :=
  (Thins.refl pool).goesOn

/-- What the calls, the connections and the timers do is no matter of the run loops. -/
theorem GoesOn.of_same (hqueue : next.queue = pool.queue) (hloops : next.runLoops = pool.runLoops)
    (hloop : next.runLoop = pool.runLoop) (hnext : next.nextRunLoop = pool.nextRunLoop) :
    pool.GoesOn next where
  line := by rw [hqueue]
  last := by rw [hqueue]
  running := by rw [hqueue]
  loops := by rw [hloops]
  runLoop := hloop
  nextRunLoop := hnext

/-- Calls may go away first. -/
theorem Thins.then_goesOn (first : pool.Thins middle) (second : middle.GoesOn next) :
    pool.GoesOn next where
  line := first.ids ▸ second.line
  last := second.last.trans first.last
  running := second.running.trans first.running
  loops := second.loops.trans (congrArg _ first.runLoops)
  runLoop := second.runLoop.trans first.runLoop
  nextRunLoop := second.nextRunLoop.trans first.nextRunLoop

/-- Taking over an outcome in which nobody joins the line is no matter of the run loops. -/
theorem settle_goes_on {outcome : WaitQueue.Outcome Nat Connection}
    (hline : outcome.queue.ids.Sublist pool.queue.ids)
    (hlast : outcome.queue.lastMember = pool.queue.lastMember)
    (hrunning : outcome.queue.running = pool.queue.running) :
    pool.GoesOn (pool.settle outcome) := by
  obtain ⟨hframe, -⟩ := deliver_frame outcome.answers pool
  unfold settle
  rw [hframe]
  exact ⟨hline, hlast, hrunning, rfl, rfl, rfl⟩

/-! ## Turns of calls -/

/-- A call that announces its connection leaves the run loops alone. -/
theorem announce_goes_on (pool : Pool) (id : Nat) (connection : Connection) :
    pool.GoesOn (pool.announce id connection) := by
  unfold announce
  split
  · dsimp only
    split <;> exact .of_same rfl rfl rfl rfl
  · exact .of_same rfl rfl rfl rfl

/-- A call that looks at its answer leaves the run loops alone. -/
theorem resume_goes_on (pool : Pool) (id : Nat) : pool.GoesOn (pool.resume id) := by
  unfold resume
  split
  · exact .of_same rfl rfl rfl rfl
  · split
    · exact announce_goes_on pool id _
    · exact .of_same rfl rfl rfl rfl
    · exact .of_same rfl rfl rfl rfl
  · exact .refl pool

/-- A call whose connect comes to an end leaves the run loops alone. -/
theorem finish_connect_goes_on (pool : Pool) (id : Nat) :
    pool.GoesOn (pool.finishConnect id) := by
  unfold finishConnect
  split
  · split
    · exact .of_same rfl rfl rfl rfl
    · exact .refl pool
  · exact .refl pool

/-- A call that registers its connection leaves the run loops alone. -/
theorem register_goes_on (pool : Pool) (id : Nat) : pool.GoesOn (pool.register id) := by
  unfold register
  split
  · next connection _ =>
      have hready : pool.Thins { pool with stock := pool.stock.emit (.ready connection.info) } :=
        ⟨fun _ hcall => hcall, rfl, rfl, rfl, rfl, rfl, rfl⟩
      exact hready.then_goesOn (announce_goes_on _ id connection)
  · exact .of_same rfl rfl rfl rfl
  · exact .refl pool

/-- A request that is let in starts a run loop unless one is live. -/
theorem let_in_starts {queue next : WaitQueue Nat} {front : Bool} {admission : Admission}
    (hin : queue.letIn front = .ok (admission, next)) :
    admission.startRunLoop = !queue.running ∧ next.running = true := by
  unfold WaitQueue.letIn at hin
  split at hin
  · cases hin
  · cases hin
    exact ⟨rfl, rfl⟩

/-- The pool after a call was let in, with a run loop of its own if the admission says so. -/
theorem admits_of_let_in {admission : Admission} {queue : WaitQueue Nat} {front : Bool}
    (joined : Pool) (halive : pool.isAlive = true)
    (hin : pool.queue.letIn front = .ok (admission, queue))
    (hlast : joined.queue.lastMember = queue.lastMember)
    (hrunning : joined.queue.running = queue.running) (hstock : joined.stock = pool.stock)
    (hloops : joined.runLoops = pool.runLoops) (hloop : joined.runLoop = pool.runLoop)
    (hnext : joined.nextRunLoop = pool.nextRunLoop) (phase : Phase) :
    pool.Admits ((if admission.startRunLoop then joined.startRunLoop else joined).setPhase id
      phase) := by
  obtain ⟨hmember, -, hnew, -⟩ := WaitQueue.let_in_ok hin
  obtain ⟨hstarts, hruns⟩ := let_in_starts hin
  have hlast := hlast.trans (hnew.trans hmember)
  have hrunning := hrunning.trans hruns
  cases hlive : pool.queue.running with
  | true =>
      rw [hstarts, hlive, Bool.not_true, if_neg Bool.false_ne_true]
      refine ⟨halive, hlast, hrunning, ?_, ?_⟩
      · rw [hlive, if_pos rfl, List.append_nil]
        exact hloops
      · rw [hlive, if_pos rfl]
        exact hloop
  | false =>
      rw [hstarts, hlive, Bool.not_false, if_pos rfl]
      refine ⟨halive, hlast, hrunning, ?_, ?_⟩
      · rw [hlive, if_neg Bool.false_ne_true]
        simp only [startRunLoop, firstTick?, setPhase, now, config, hloops, hnext, hstock]
      · rw [hlive, if_neg Bool.false_ne_true]
        simp only [startRunLoop, setPhase, hnext]

/-- A call that comes to the line is let in, or it ends. -/
theorem enter_serviced (pool : Pool) (id : Nat) : pool.Serviced (pool.enter id) := by
  unfold enter
  split
  · next deadline readmitted hfind =>
      split
      · exact .goesOn (.of_same rfl rfl rfl rfl)
      · split
        · exact .goesOn (.of_same rfl rfl rfl rfl)
        · next admission queue hin =>
            have halive : pool.isAlive = true := by
              have hcalls : pool.calls ≠ [] := List.ne_nil_of_mem (Coherent.call_mem hfind)
              simp [isAlive, hcalls]
            have hletIn := WaitQueue.admitted_ok hin
            cases deadline with
            | none =>
                exact .admits (admits_of_let_in { pool with queue := queue } halive
                  hletIn rfl rfl rfl
                  rfl rfl rfl _)
            | some deadline =>
                obtain ⟨hlast, hrunning⟩ :=
                  WaitQueue.arm_kept queue admission.member admission.member
                exact .admits (admits_of_let_in
                  ({ pool with queue := queue }.armTimer admission.member deadline) halive hletIn
                  hlast hrunning rfl rfl rfl rfl _)
  · exact .goesOn (.refl pool)

/-! ## Turns of run loops -/

/-- A tick that asks for nothing stops the run loop if nobody is in line any more, and it alone
does. -/
theorem pass_goes_on {α : Type} (queue : WaitQueue Nat) :
    match (queue.pass : Tick α × WaitQueue.Outcome Nat α) with
    | (.stopped, outcome) => outcome.queue.members = [] ∧ outcome.queue.running = false
    | (_, outcome) => outcome.queue.running = queue.running := by
  unfold WaitQueue.pass
  cases queue.destroyed with
  | true => exact ⟨rfl, rfl⟩
  | false =>
      cases hmembers : queue.members with
      | nil => exact ⟨hmembers, rfl⟩
      | cons head rest => rfl

/-- A tick that asks does not stop the run loop of a line that somebody is in. -/
theorem serve_goes_on {α : Type} {queue : WaitQueue Nat} (resource : Option α)
    (hmembers : queue.ids ≠ []) :
    (queue.serve resource).1 ≠ .stopped ∧
      (queue.serve resource).2.queue.running = queue.running := by
  unfold WaitQueue.serve
  split
  · next hnil => exact absurd (by rw [WaitQueue.ids, hnil, List.map_nil]) hmembers
  · exact ⟨by simp, rfl⟩
  · split <;> exact ⟨by simp, rfl⟩

/-- A run loop has attended to the line. It goes on, or nobody is in line any more and it is to
stop. -/
def Attended (pool : Pool) : Bool × Pool → Prop
  | (true, next) => pool.GoesOn next
  | (false, next) =>
      next.runLoops = pool.runLoops ∧ pool.Stops { next with runLoop := none, runLoops := [] }

/-- A run loop attends to the line. -/
theorem attend_attended (pool : Pool) (lost : List Nat) : pool.Attended (pool.attend lost) := by
  unfold attend
  cases hasks : pool.queue.asks with
  | false =>
      obtain ⟨gone, hout⟩ := WaitQueue.pass_releases (α := Connection) hasks
      have hline := WaitQueue.pass_ids (α := Connection) pool.queue
      have hgoes := pass_goes_on (α := Connection) pool.queue
      rw [if_neg Bool.false_ne_true]
      generalize (pool.queue.pass : Tick Connection × _) = passed at hout hline hgoes ⊢
      obtain ⟨tick, outcome⟩ := passed
      obtain ⟨hframe, -⟩ := deliver_frame outcome.answers pool
      cases tick with
      | stopped =>
          have hloops : (pool.settle outcome).runLoops = pool.runLoops ∧
              (pool.settle outcome).nextRunLoop = pool.nextRunLoop := by
            rw [settle, hframe]
            exact ⟨rfl, rfl⟩
          exact ⟨hloops.1, hgoes.1, hout.last, hgoes.2, rfl, rfl, hloops.2⟩
      | requeued | discarded | served | unclaimed =>
          exact settle_goes_on hline hout.last hgoes
  | true =>
      have hmembers : pool.queue.ids ≠ [] := by
        intro hnil
        rw [WaitQueue.ids, List.map_eq_nil_iff] at hnil
        simp [WaitQueue.asks, hnil] at hasks
      rw [if_pos rfl]
      cases pool.stock.lend with
      | mk resource stock =>
          dsimp only
          have hfired := searched_thins pool stock pool.log.length lost
          generalize ({ pool with stock := stock }.fire pool.log.length).loseAll lost = fired
            at hfired ⊢
          obtain ⟨gone, hout⟩ := WaitQueue.serve_releases fired.queue resource
          have hline := WaitQueue.serve_ids fired.queue resource
          have hgoes := serve_goes_on resource (hfired.ids ▸ hmembers)
          generalize fired.queue.serve resource = served at hout hline hgoes ⊢
          obtain ⟨tick, outcome⟩ := served
          have hsettled := hfired.then_goesOn (settle_goes_on hline hout.last hgoes.2)
          cases tick with
          | stopped => exact absurd rfl hgoes.1
          | requeued | discarded | served => exact hsettled
          | unclaimed connection =>
              exact ⟨hsettled.line, hsettled.last, hsettled.running, hsettled.loops,
                hsettled.runLoop, hsettled.nextRunLoop⟩

/-- A tick that is due attends to the line. If the run loop stops, there is none any more. -/
theorem tick_serviced (h : pool.Tended) (id : Nat) (lost : List Nat) :
    pool.Serviced (pool.tick id lost) := by
  unfold tick
  split
  · exact .goesOn (.refl pool)
  · next loop hfind =>
      split
      · have hattended := attend_attended pool lost
        split
        · next next hattend =>
            rw [hattend] at hattended
            have hids : ∀ due : Instant, (next.runLoops.map fun other : RunLoop =>
                if other.id = id then { other with due := due } else other).map RunLoop.id =
                  next.runLoops.map RunLoop.id := by
              intro due
              refine Keyed.map_keys fun other => ?_
              split <;> rfl
            exact .goesOn ⟨hattended.line, hattended.last, hattended.running,
              (hids _).trans hattended.loops, hattended.runLoop, hattended.nextRunLoop⟩
        · next next hattend =>
            rw [hattend] at hattended
            obtain ⟨hloops, hstops⟩ := hattended
            -- The run loop that stops is the only one there is.
            have hnone : (next.runLoops.filter fun other => other.id != id) = [] := by
              rw [hloops]
              refine List.filter_eq_nil_iff.2 fun other hother => ?_
              have hid : loop.id = id := by simpa using List.find?_some hfind
              simp [h.only hother (List.mem_of_find?_eq_some hfind), hid]
            refine .stops ⟨hstops.empty, hstops.last, hstops.running, hnone, rfl,
              hstops.nextRunLoop⟩
      · exact .goesOn (.refl pool)

/-- A timer that ends a wait leaves the run loops alone. -/
theorem expire_goes_on (h : pool.Coherent) (member : Nat) : pool.GoesOn (pool.expire member) := by
  unfold expire
  split
  · have hrest : pool.Thins { pool with
        timers := pool.timers.filter fun timer => timer.member != member } :=
      ⟨fun _ hcall => hcall, rfl, rfl, rfl, rfl, rfl, rfl⟩
    dsimp only
    split
    · next outcome hexpire =>
        obtain ⟨gone, hout⟩ := WaitQueue.expire_releases h.line.ids hexpire
        have hrunning : outcome.queue.running = pool.queue.running := by
          unfold WaitQueue.expire at hexpire
          obtain ⟨m, -, rfl⟩ := Option.map_eq_some_iff.1 hexpire
          rfl
        exact hrest.then_goesOn (settle_goes_on (WaitQueue.expire_ids hexpire) hout.last hrunning)
    · exact hrest.goesOn
  · exact .refl pool

/-- Closing a pool empties the line and leaves its run loop to stop by itself. -/
theorem close_goes_on (pool : Pool) : pool.GoesOn pool.close := by
  unfold close
  split
  · exact .refl pool
  · have hclosed : pool.Thins { pool with stock := { pool.stock with closed := true } } :=
      ⟨fun _ hcall => hcall, rfl, rfl, rfl, rfl, rfl, rfl⟩
    have hsettled := hclosed.then_goesOn
      (settle_goes_on (WaitQueue.destroy_ids (α := Connection) pool.queue) rfl rfl)
    exact ⟨hsettled.line, hsettled.last, hsettled.running, hsettled.loops, hsettled.runLoop,
      hsettled.nextRunLoop⟩

/-- Destroying a pool empties the line and stops its run loop. -/
theorem destroy_stops (h : pool.Tended) : pool.Stops pool.destroy := by
  obtain ⟨hframe, -⟩ :=
    deliver_frame (pool.queue.destroy : WaitQueue.Outcome Nat Connection).answers pool.stopped
  have hdestroy : pool.destroy.runLoops = pool.stopped.runLoops ∧
      pool.destroy.runLoop = none ∧ pool.destroy.nextRunLoop = pool.nextRunLoop := by
    show (pool.stopped.settle pool.queue.destroy).runLoops = pool.stopped.runLoops ∧
      (pool.stopped.settle pool.queue.destroy).runLoop = none ∧
        (pool.stopped.settle pool.queue.destroy).nextRunLoop = pool.nextRunLoop
    rw [settle, hframe]
    exact ⟨rfl, rfl, rfl⟩
  have hnone : pool.stopped.runLoops = [] := by
    refine List.filter_eq_nil_iff.2 fun loop hloop => ?_
    simp [h.known hloop]
  exact ⟨rfl, rfl, rfl, hdestroy.1.trans hnone, hdestroy.2.1, hdestroy.2.2⟩

/-! ## Any action -/

/-- What an action does to the run loops by itself. -/
theorem step_serviced (hcoherent : pool.Coherent) (h : pool.Tended) (action : Action) :
    pool.Serviced (pool.step action).2 := by
  cases hapart : action.isApart with
  | true => exact .goesOn (step_apart pool hapart).thins.goesOn
  | false =>
      cases action with
      | acquire id =>
          simp only [step, startAcquire]
          split
          · exact .goesOn (.of_same rfl rfl rfl rfl)
          · exact .goesOn (.refl pool)
      | cancel id =>
          have habandoned := (abandon_population_apart (pool.cancelAcquire id) (.call id)).thins
          exact .goesOn ((cancel_acquire_thins pool id).trans habandoned).goesOn
      | close =>
          simp only [step]
          split
          · exact .goesOn (close_goes_on pool)
          · exact .goesOn (.refl pool)
      | destroy =>
          simp only [step]
          split
          · exact .stops (destroy_stops h)
          · exact .goesOn (.refl pool)
      | enter id => exact enter_serviced pool id
      | resume id => exact .goesOn (resume_goes_on pool id)
      | finishConnect id => exact .goesOn (finish_connect_goes_on pool id)
      | register id => exact .goesOn (register_goes_on pool id)
      | tick runLoop lost => exact tick_serviced h runLoop lost
      | expire member => exact .goesOn (expire_goes_on hcoherent member)
      | _ => cases hapart

/-- A pool that can be reached is gone once nobody has a part in it. -/
theorem Reachable.gone (h : Reachable pool) (hdead : pool.isAlive = false) : pool.Gone := by
  cases h with
  | opened hcreate =>
      unfold create at hcreate
      split at hcreate
      · cases hcreate
      · cases hcreate
        cases hdead
  | after _ action => exact after_gone hdead

/-- Somebody had a part in a pool in which somebody has one after an action. -/
theorem Reachable.alive_before (h : Reachable pool)
    (halive : (pool.after action).isAlive = true) :
    pool.isAlive = true := by
  cases hdead : pool.isAlive with
  | true => rfl
  | false =>
      have hgone := (h.gone hdead).after action
      rw [not_alive.2 hgone.toDeserted] at halive
      cases halive

/-- What the events of an action set off leaves the run loops as the action left them. -/
theorem Serviced.thins (h : pool.Serviced middle) (hthins : middle.Thins next) :
    pool.Serviced next := by
  cases h with
  | goesOn h =>
      exact .goesOn ⟨hthins.ids ▸ h.line, hthins.last.trans h.last,
        hthins.running.trans h.running,
        (congrArg _ hthins.runLoops).trans h.loops, hthins.runLoop.trans h.runLoop,
        hthins.nextRunLoop.trans h.nextRunLoop⟩
  | stops h =>
      have hempty : next.queue.members = [] := by
        have hids := hthins.ids
        rw [WaitQueue.ids, WaitQueue.ids, h.empty, List.map_nil, List.map_eq_nil_iff] at hids
        exact hids
      exact .stops ⟨hempty, hthins.last.trans h.last, hthins.running.trans h.running,
        hthins.runLoops.trans h.loops, hthins.runLoop.trans h.runLoop,
        hthins.nextRunLoop.trans h.nextRunLoop⟩
  | admits h =>
      exact .admits ⟨h.alive, hthins.last.trans h.last, hthins.running.trans h.running,
        hthins.runLoops.trans h.loops, hthins.runLoop.trans h.runLoop⟩

/-- A pool has no run loop and nobody is in line. -/
structure Vacant (pool : Pool) : Prop where
  loops : pool.runLoops = []
  loop : pool.runLoop = none
  empty : pool.queue.members = []

/-- A pool that is taken down is vacant. -/
theorem collect_vacant (hdead : pool.isAlive = false) : pool.collect.Vacant := by
  rw [collect, hdead, if_neg Bool.false_ne_true]
  exact ⟨rfl, rfl, rfl⟩

/-- A pool that can be reached is vacant once nobody has a part in it. -/
theorem Reachable.vacant (h : Reachable pool) (hdead : pool.isAlive = false) : pool.Vacant := by
  cases h with
  | opened hcreate =>
      unfold create at hcreate
      split at hcreate
      · cases hcreate
      · cases hcreate
        cases hdead
  | @after before _ action =>
      refine collect_vacant ?_
      exact (collect_alive ((before.step action).2.fire before.log.length)).symm.trans hdead

/-- What an action does to the run loops, whatever its events set off. A pool that nobody has a
part in any more has none. -/
theorem after_serviced (hcoherent : pool.Coherent) (h : pool.Tended) (action : Action) :
    pool.Serviced (pool.after action) ∨
      (pool.after action).isAlive = false ∧ (pool.after action).Vacant := by
  have hfired := (step_serviced hcoherent h action).thins
    (fire_thins (pool.step action).2 pool.log.length)
  have hafter : pool.after action = ((pool.step action).2.fire pool.log.length).collect := rfl
  cases halive : ((pool.step action).2.fire pool.log.length).isAlive with
  | true =>
      rw [hafter, collect, if_pos halive]
      exact .inl hfired
  | false =>
      rw [hafter]
      exact .inr ⟨(collect_alive _).trans halive, collect_vacant halive⟩

/-- A run loop that broke off is taken for live until the line is emptied for good. -/
theorem Serviced.broke_off (h : pool.Serviced next) (hlater : pool.stock.Later next.stock)
    (htended : pool.Tended) (hbroke : pool.BrokeOff) : next.BrokeOff ∨ next.Vacant := by
  have hbeyond : next.now.add? next.config.waitQueuePeriod = none := by
    rw [show next.config = pool.config from hlater.config]
    exact Instant.add_none_later hlater.now hbroke.beyond
  cases h with
  | goesOn h =>
      refine .inl ⟨h.runLoop ▸ hbroke.known, ?_, hbeyond⟩
      rw [← List.map_eq_nil_iff (f := RunLoop.id), h.loops, hbroke.gone, List.map_nil]
  | stops h => exact .inr ⟨h.loops, h.runLoop, h.empty⟩
  | admits h =>
      have hrunning : pool.queue.running = true := (htended.running h.alive).trans hbroke.known
      refine .inl ⟨?_, ?_, hbeyond⟩
      · rw [h.runLoop, if_pos hrunning]
        exact hbroke.known
      · rw [h.loops, if_pos hrunning, hbroke.gone, List.append_nil]

/-- A vacant pool is tended if its line says so. -/
theorem Vacant.tended (h : next.Vacant) (hrunning : next.isAlive = true →
    next.queue.running = false) :
    next.Tended where
  running := fun halive => by rw [hrunning halive, h.loop, Option.isSome_none]
  loops := .inl (by rw [h.loops, h.loop, List.map_nil, Option.toList_none])
  waited := fun hmembers => absurd h.empty hmembers

/-- What happens to the run loops of a tended pool leaves it tended. -/
theorem Serviced.tended (h : pool.Serviced next) (hlater : pool.stock.Later next.stock)
    (htended : pool.Tended) (halive : next.isAlive = true → pool.isAlive = true) :
    next.Tended := by
  have hbroke := fun hbroke => h.broke_off hlater htended hbroke
  cases h with
  | goesOn h =>
      refine ⟨fun hnext => ?_, ?_, fun hmembers => ?_⟩
      · rw [h.running, h.runLoop, htended.running (halive hnext)]
      · rcases htended.loops with hloops | hbefore
        · exact .inl (by rw [h.loops, h.runLoop, hloops])
        · refine (hbroke hbefore).symm.imp_left fun hvacant => ?_
          rw [hvacant.loops, hvacant.loop, List.map_nil, Option.toList_none]
      · rw [h.runLoop]
        refine htended.waited fun hnil => hmembers ?_
        have hline := h.line
        rw [WaitQueue.ids, WaitQueue.ids, hnil, List.map_nil, List.sublist_nil,
          List.map_eq_nil_iff] at hline
        exact hline
  | stops h => exact Vacant.tended ⟨h.loops, h.runLoop, h.empty⟩ fun _ => h.running
  | admits h =>
      have hrunning := htended.running h.alive
      have hloop := h.runLoop
      have hloops := h.loops
      cases hlive : pool.queue.running with
      | true =>
          rw [hlive, if_pos rfl] at hloop
          rw [hlive, if_pos rfl, List.append_nil] at hloops
          have hsome : next.runLoop.isSome = true := by rw [hloop, ← hrunning, hlive]
          refine ⟨fun _ => h.running.trans hsome.symm, ?_, fun _ => hsome⟩
          rcases htended.loops with hsame | hbefore
          · exact .inl (by rw [hloops, hloop, hsame])
          · refine (hbroke hbefore).symm.imp_left fun hvacant => ?_
            rw [hvacant.loops, hvacant.loop, List.map_nil, Option.toList_none]
      | false =>
          rw [hlive, if_neg Bool.false_ne_true] at hloop hloops
          have hnone : pool.runLoops = [] := by
            rw [htended.none_iff, ← Option.isNone_iff_eq_none, ← Option.isSome_eq_false_iff,
              ← hrunning, hlive]
            exact .inl rfl
          have hsome : next.runLoop.isSome = true := by rw [hloop, Option.isSome_some]
          refine ⟨fun _ => h.running.trans hsome.symm, ?_, fun _ => hsome⟩
          rw [hnone, List.nil_append] at hloops
          cases hfirst : pool.now.add? pool.config.waitQueuePeriod with
          | some due =>
              rw [firstTick?, hfirst] at hloops
              exact .inl (by rw [hloops, hloop]; rfl)
          | none =>
              rw [firstTick?, hfirst] at hloops
              refine .inr ⟨hsome, hloops, ?_⟩
              rw [show next.config = pool.config from hlater.config]
              exact Instant.add_none_later hlater.now hfirst

/-- A pool that can be reached is tended. -/
theorem Reachable.tended (h : Reachable pool) : pool.Tended := by
  induction h with
  | opened hcreate =>
      unfold create at hcreate
      split at hcreate
      · cases hcreate
      · cases hcreate
        exact Vacant.tended ⟨rfl, rfl, rfl⟩ fun _ => rfl
  | after h action ih =>
      rcases after_serviced h.sound.1 ih action with hserviced | ⟨hdead, hvacant⟩
      · exact hserviced.tended (h.step action).later ih h.alive_before
      · refine hvacant.tended fun halive => ?_
        rw [hdead] at halive
        cases halive

/-! ## Who starts and who stops a run loop -/

/-- The action lets a call into the line. -/
def LetsIn (pool : Pool) (action : Action) : Prop :=
  pool.queue.lastMember < (pool.after action).queue.lastMember

instance (pool : Pool) (action : Action) : Decidable (pool.LetsIn action) :=
  inferInstanceAs (Decidable (_ < _))

/-- Somebody has a part in a pool into whose line a call was let. -/
theorem LetsIn.alive (hin : pool.LetsIn action) (hcoherent : pool.Coherent) :
    (pool.after action).isAlive = true := by
  have harranged := after_arranged hcoherent action
  unfold LetsIn at hin
  generalize pool.after action = next at harranged hin ⊢
  cases harranged with
  | recedes hrecedes => exact absurd hrecedes.last hin.ne'
  | begins hbegins => exact absurd hbegins.last hin.ne'
  | joins hjoins => exact hjoins.alive

/-- An action that lets a call into the line starts a run loop if the pool knows none, and
leaves the one that there is alone. -/
theorem started (hcoherent : pool.Coherent) (h : pool.Tended) (hin : pool.LetsIn action) :
    (pool.after action).runLoops =
      if pool.runLoop = none then pool.firstTick?.toList else pool.runLoops := by
  rcases after_serviced hcoherent h action with hserviced | ⟨hdead, -⟩
  · cases hserviced with
    | goesOn hgoes => exact absurd hgoes.last (Nat.ne_of_gt hin)
    | stops hstops => exact absurd hstops.last (Nat.ne_of_gt hin)
    | admits hadmits =>
        have hrunning := h.running hadmits.alive
        rw [hadmits.loops, hrunning]
        cases hloop : pool.runLoop with
        | none =>
            rw [h.none_iff.2 (.inl hloop)]
            rfl
        | some id => rw [if_neg (Option.some_ne_none id), Option.isSome_some, if_pos rfl,
            List.append_nil]
  · rw [hin.alive hcoherent] at hdead
    cases hdead

/-- An action that lets no call into the line starts no run loop. -/
theorem not_started (hcoherent : pool.Coherent) (h : pool.Tended) (hin : ¬ pool.LetsIn action)
    {loop : RunLoop} (hloop : loop ∈ (pool.after action).runLoops) :
    ∃ before ∈ pool.runLoops, before.id = loop.id := by
  rcases after_serviced hcoherent h action with hserviced | ⟨-, hvacant⟩
  · cases hserviced with
    | goesOn hgoes => exact List.mem_map.1 (hgoes.loops ▸ List.mem_map_of_mem hloop)
    | stops hstops =>
        rw [hstops.loops] at hloop
        cases hloop
    | admits hadmits =>
        refine absurd ?_ hin
        rw [LetsIn, hadmits.last]
        exact Nat.lt_succ_self _
  · rw [hvacant.loops] at hloop
    cases hloop

/-- When a run loop has stopped nobody is in line. -/
theorem stopped_empty (hcoherent : pool.Coherent) (h : pool.Tended) {loop : RunLoop}
    (hloop : loop ∈ pool.runLoops)
    (hgone : loop.id ∉ (pool.after action).runLoops.map RunLoop.id) :
    (pool.after action).queue.members = [] := by
  rcases after_serviced hcoherent h action with hserviced | ⟨-, hvacant⟩
  · cases hserviced with
    | goesOn hgoes => exact absurd (hgoes.loops ▸ List.mem_map_of_mem hloop) hgone
    | stops hstops => exact hstops.empty
    | admits hadmits =>
        refine absurd ?_ hgone
        rw [hadmits.loops, List.map_append]
        exact List.mem_append_left _ (List.mem_map_of_mem hloop)
  · exact hvacant.empty

/-! ## One run loop while anybody waits -/

/-- While anybody is in line there is exactly one run loop, unless it broke off. In every pool
that can be reached the line says that it has a run loop just when the pool knows one, and that
is just when there is one, the only one, which will tick, or when it broke off; otherwise there
is none. An action starts a run loop just when it lets a call into the line and the pool knows
none. It breaks off just when the clock does not have the instant of its first tick, and the
pool takes it for live until the line is emptied for good. When a run loop has stopped nobody is
in line. So whoever is in line later has one, or the one it had broke off. A pool that nobody
has a part in is gone with its run loops; only what is left of its line may still say that it
has one. -/
theorem one_run_loop (h : Reachable pool) :
    (pool.isAlive = true → (pool.queue.running = true ↔ pool.runLoop.isSome = true)) ∧
      (pool.runLoop.isSome = true ↔
        (∃ loop, pool.runLoops = [loop] ∧ pool.runLoop = some loop.id ∧ loop.due ∈ pool.dues) ∨
          pool.BrokeOff) ∧
      (pool.runLoops = [] ↔ pool.runLoop = none ∨ pool.BrokeOff) ∧
      (pool.queue.members ≠ [] → pool.queue.running = true) ∧
      (∀ action, if pool.LetsIn action then
          (pool.after action).runLoops =
            if pool.runLoop = none then pool.firstTick?.toList else pool.runLoops
        else ∀ loop ∈ (pool.after action).runLoops, ∃ before ∈ pool.runLoops,
          before.id = loop.id) ∧
      (pool.BrokeOff → ∀ action, (pool.after action).BrokeOff ∨ (pool.after action).Vacant) ∧
      (∀ action, ∀ loop ∈ pool.runLoops,
        loop.id ∉ (pool.after action).runLoops.map RunLoop.id →
          (pool.after action).queue.members = []) ∧
      ∀ later, (pool.run later).queue.members ≠ [] →
        (∃ loop, (pool.run later).runLoops = [loop] ∧ loop.due ∈ (pool.run later).dues) ∨
          (pool.run later).BrokeOff := by
  have hcoherent := h.sound.1
  have htended := h.tended
  have hdue : ∀ {pool : Pool} {loop : RunLoop}, pool.runLoops = [loop] →
      loop.due ∈ pool.dues := by
    intro pool loop hloops
    simp [dues, hloops]
  refine ⟨?_, ?_, htended.none_iff, ?_, ?_, ?_, ?_, ?_⟩
  · exact fun halive => by rw [htended.running halive]
  · rw [htended.live_iff]
    refine or_congr_left ⟨?_, ?_⟩
    · rintro ⟨loop, hloops, hknown⟩
      exact ⟨loop, hloops, hknown, hdue hloops⟩
    · rintro ⟨loop, hloops, hknown, -⟩
      exact ⟨loop, hloops, hknown⟩
  · intro hmembers
    have hsome := htended.waited hmembers
    refine (htended.running ?_).trans hsome
    cases halive : pool.isAlive with
    | true => rfl
    | false => exact absurd (h.vacant halive).empty hmembers
  · intro action
    split
    · next hin => exact started hcoherent htended hin
    · next hin => exact fun loop hloop => not_started hcoherent htended hin hloop
  · intro hbroke action
    rcases after_serviced hcoherent htended action with hserviced | ⟨-, hvacant⟩
    · exact hserviced.broke_off (h.step action).later htended hbroke
    · exact .inr hvacant
  · exact fun action loop hloop hgone => stopped_empty hcoherent htended hloop hgone
  · intro later hmembers
    have hlater := (h.run later).tended
    refine (hlater.live_iff.1 (hlater.waited hmembers)).imp_left ?_
    rintro ⟨loop, hloops, -⟩
    exact ⟨loop, hloops, hdue hloops⟩

/-- The small pool is opened and a call comes to its line. -/
def comeFirst : List Action :=
  openEmpty ++ [.acquire 1, .enter 1]

/-- A call is served and the run loop stops when nobody is in line any more. Then another call
comes. -/
def serveAndStop : List Action :=
  [.elapse 10000000, .tick 0, .elapse 10000000, .tick 0, .acquire 2, .enter 2]

/-- The first call has a run loop. It stops, and the second call has another one. -/
theorem small_one_run_loop :
    (small.run comeFirst).queue.running = true ∧
      (∃ loop, ((small.run comeFirst).run serveAndStop).runLoops = [loop] ∧
        loop.due ∈ ((small.run comeFirst).run serveAndStop).dues) ∧
      ((small.run comeFirst).run serveAndStop).nextRunLoop = 2 := by
  have hreachable := (Reachable.opened small_opened).run comeFirst
  obtain ⟨-, -, -, hwaited, -, -, -, hlater⟩ := one_run_loop hreachable
  refine ⟨hwaited (by decide +kernel), ?_, by decide +kernel⟩
  refine (hlater serveAndStop (by decide +kernel)).resolve_right fun hbroke => ?_
  have hlive : ((small.run comeFirst).run serveAndStop).runLoops ≠ [] := by decide +kernel
  exact hlive hbroke.gone

/-- A configuration whose run loops tick after the longest duration that there is, of 64-bit
seconds. -/
def farPeriod : Config :=
  { waitQueuePeriod := Duration.ofParts (UInt64.size - 1) 999999999 }

/-- A pool that was opened with it. -/
def sluggish : Pool where
  stock :=
    ({ config := farPeriod, source := .simulated, network := {}, now := 0 } : Inventory).emit
      (.poolCreated farPeriod.options)
  queue := .empty 0 0 .localhost
  populations := [⟨.opening, 0, .reserving⟩]
  openedAt := 0

/-- Such a configuration is accepted. A call waits in line and the pool takes its run loop for
live, but there is none. -/
theorem far_period_breaks_off :
    create farPeriod .simulated {} 0 = .ok sluggish ∧
      (sluggish.run [.reserve .opening, .acquire 1, .enter 1]).queue.members ≠ [] ∧
      (sluggish.run [.reserve .opening, .acquire 1, .enter 1]).queue.running = true ∧
      (sluggish.run [.reserve .opening, .acquire 1, .enter 1]).runLoop.isSome = true ∧
      (sluggish.run [.reserve .opening, .acquire 1, .enter 1]).runLoops = [] :=
  ⟨rfl, by decide +kernel, by decide +kernel, by decide +kernel, by decide +kernel⟩

end ConnectionPool.Pool
