import ConnectionPool.Proofs.Pool.Progress
import ConnectionPool.Proofs.Precedence

/-!
# What actions do for those in line

Most actions are apart from the line. What the others do to it and to the calls that wait in it
is said once, by `after_arranged`: an acquisition begins, or a call joins the line, or nobody
joins it and the calls get on as `Phase.Proceeds` says. Only the first in line is served.
-/

namespace ConnectionPool

/-- A call in this phase was served: it has a connection, or had one and enters again. -/
def Phase.Served : Phase → Prop
  | .answered (.ok _) | .connecting .. | .connected .. | .entering true => True
  | _ => False

/-- How a call gets on when the line is this: not at all, or it is served as the first in line,
or it is refused, though not because of a connect, or it goes on after it was served. -/
inductive Phase.Proceeds (line : List Nat) : Phase → Phase → Prop where
  | still {phase : Phase} : Proceeds line phase phase
  | served {member : Nat} {rest : List Nat} {connection : Connection}
      (first : line = member :: rest) :
      Proceeds line (.queued member) (.answered (.ok connection))
  | refused {member : Nat} {error : PoolError} (reason : error.reason? ≠ some .connectionError) :
      Proceeds line (.queued member) (.answered (.error error))
  | onward {phase next : Phase} (before : phase.Served) (after : next.Served) :
      Proceeds line phase next

/-- Who waits in line has waited there as the same member. -/
theorem Phase.Proceeds.of_queued {line : List Nat} {phase : Phase} {member : Nat}
    (h : phase.Proceeds line (.queued member)) : phase = .queued member := by
  cases h with
  | still => rfl
  | onward _ after => cases after

/-- The action is apart from the line and from those who wait in it. -/
def Action.isApart : Action → Bool
  | .acquire _ | .cancel _ | .close | .destroy | .enter _ | .resume _ | .finishConnect _
  | .register _ | .tick .. | .expire _ => false
  | _ => true

namespace Pool

variable {pool middle next : Pool} {id : Nat} {call : Call} {action : Action}

/-! ## What is apart from the line -/

/-- Neither the calls nor the line nor its timers and run loops change. -/
structure Apart (pool next : Pool) : Prop where
  calls : next.calls = pool.calls
  queue : next.queue = pool.queue
  timers : next.timers = pool.timers
  runLoops : next.runLoops = pool.runLoops
  runLoop : next.runLoop = pool.runLoop
  nextRunLoop : next.nextRunLoop = pool.nextRunLoop

/-- Nothing happens. -/
theorem Apart.refl (pool : Pool) : pool.Apart pool :=
  ⟨rfl, rfl, rfl, rfl, rfl, rfl⟩

/-- A population that is dropped is apart from the line. -/
theorem abandon_population_apart (pool : Pool) (owner : Owner) :
    pool.Apart (pool.abandonPopulation owner) := by
  unfold abandonPopulation
  split
  · exact .refl pool
  · dsimp only
    split <;> exact ⟨rfl, rfl, rfl, rfl, rfl, rfl⟩

/-- Giving up the opening of a pool is apart from the line. -/
theorem abandon_opening_apart (pool : Pool) : pool.Apart pool.abandonOpening := by
  unfold abandonOpening
  split
  · exact .refl pool
  · obtain ⟨hcalls, hqueue, htimers, hloops, hloop, hnext⟩ :=
      abandon_population_apart pool .opening
    exact ⟨hcalls, hqueue, htimers, hloops, hloop, hnext⟩

/-- A population that ends is apart from the line. -/
theorem finish_population_apart (pool : Pool) (owner : Owner) (result : CallResult) :
    pool.Apart (pool.finishPopulation owner result) := by
  cases owner <;> exact ⟨rfl, rfl, rfl, rfl, rfl, rfl⟩

/-- A connection on loan that comes back is apart from the line. -/
theorem release_loan_apart (pool : Pool) (connection : Nat) (force : Bool) :
    pool.Apart (pool.releaseLoan connection force).2 := by
  unfold releaseLoan
  split <;> exact ⟨rfl, rfl, rfl, rfl, rfl, rfl⟩

/-- Trying to acquire without waiting is apart from the line. -/
theorem try_acquire_apart (pool : Pool) : pool.Apart pool.tryAcquire.2 := by
  unfold tryAcquire
  split
  · exact ⟨rfl, rfl, rfl, rfl, rfl, rfl⟩
  · split
    · split <;> exact ⟨rfl, rfl, rfl, rfl, rfl, rfl⟩
    · exact .refl pool

/-- A population that makes the next connection is apart from the line. -/
theorem reserve_apart (pool : Pool) (owner : Owner) : pool.Apart (pool.reserve owner) := by
  unfold reserve
  split
  · split
    · exact finish_population_apart _ _ _
    · exact ⟨rfl, rfl, rfl, rfl, rfl, rfl⟩
  · exact .refl pool

/-- A population whose connect comes to an end is apart from the line. -/
theorem finish_reserved_apart (pool : Pool) (owner : Owner) :
    pool.Apart (pool.finishReserved owner) := by
  unfold finishReserved
  split
  · split <;> exact ⟨rfl, rfl, rfl, rfl, rfl, rfl⟩
  · exact .refl pool

/-- A population that registers the outcome of its connect is apart from the line. -/
theorem settle_reserved_apart (pool : Pool) (owner : Owner) :
    pool.Apart (pool.settleReserved owner) := by
  unfold settleReserved
  split
  · dsimp only
    split
    · split <;> exact ⟨rfl, rfl, rfl, rfl, rfl, rfl⟩
    · cases owner <;> exact ⟨rfl, rfl, rfl, rfl, rfl, rfl⟩
  · exact .refl pool

/-- A tick of the maintenance task is apart from the line. -/
theorem maintain_apart (pool : Pool) : pool.Apart pool.maintain := by
  unfold maintain
  split
  · split
    · split <;> exact ⟨rfl, rfl, rfl, rfl, rfl, rfl⟩
    · exact .refl pool
  · exact .refl pool

/-- What is apart from the line leaves it, its run loops and the calls alone. -/
theorem step_apart (pool : Pool) (hapart : action.isApart = true) :
    pool.Apart (pool.step action).2 := by
  cases action with
  | acquire | cancel | close | destroy | enter | resume | finishConnect | register
      | tick | expire =>
      cases hapart
  | tryAcquire =>
      simp only [step]
      split
      · exact try_acquire_apart pool
      · exact .refl pool
  | populate call =>
      simp only [step, startPopulation]
      split <;> exact ⟨rfl, rfl, rfl, rfl, rfl, rfl⟩
  | release connection force =>
      rw [step_release]
      split
      · exact release_loan_apart pool connection force
      · exact .refl pool
  | drop connection => exact release_loan_apart pool connection false
  | write connection bytes =>
      rw [step_write, writeLoan]
      split <;> exact ⟨rfl, rfl, rfl, rfl, rfl, rfl⟩
  | establish connection =>
      rw [step_establish, establishLoan]
      split <;> exact ⟨rfl, rfl, rfl, rfl, rfl, rfl⟩
  | destroyConnection connection =>
      simp only [step, destroyLoan]
      split <;> exact ⟨rfl, rfl, rfl, rfl, rfl, rfl⟩
  | clear =>
      simp only [step]
      split <;> exact ⟨rfl, rfl, rfl, rfl, rfl, rfl⟩
  | watch | dropHandle | failNext | failAll | connectDelay | elapse =>
      exact ⟨rfl, rfl, rfl, rfl, rfl, rfl⟩
  | abandonOpening => exact abandon_opening_apart pool
  | reserve owner => exact reserve_apart pool owner
  | finishReserved owner => exact finish_reserved_apart pool owner
  | settleReserved owner => exact settle_reserved_apart pool owner
  | maintain => exact maintain_apart pool
  | abandonMaintenance =>
      simp only [step, abandonMaintenance]
      split
      · exact abandon_population_apart pool .maintenance
      · exact .refl pool

/-! ## Callers that go away -/

/-- Calls may have gone away. The line has the same order, and its run loops go on. -/
structure Thins (pool next : Pool) : Prop where
  calls : ∀ call ∈ next.calls, call ∈ pool.calls
  ids : next.queue.ids = pool.queue.ids
  last : next.queue.lastMember = pool.queue.lastMember
  running : next.queue.running = pool.queue.running
  runLoops : next.runLoops = pool.runLoops
  runLoop : next.runLoop = pool.runLoop
  nextRunLoop : next.nextRunLoop = pool.nextRunLoop

/-- What is apart from the line makes nobody go away. -/
theorem Apart.thins (h : pool.Apart next) : pool.Thins next where
  calls := fun _ hcall => h.calls ▸ hcall
  ids := by rw [h.queue]
  last := by rw [h.queue]
  running := by rw [h.queue]
  runLoops := h.runLoops
  runLoop := h.runLoop
  nextRunLoop := h.nextRunLoop

/-- Nobody goes away. -/
theorem Thins.refl (pool : Pool) : pool.Thins pool :=
  (Apart.refl pool).thins

/-- First some calls go away and then some more. -/
theorem Thins.trans (first : pool.Thins middle) (second : middle.Thins next) :
    pool.Thins next where
  calls := fun call hcall => first.calls call (second.calls call hcall)
  ids := second.ids.trans first.ids
  last := second.last.trans first.last
  running := second.running.trans first.running
  runLoops := second.runLoops.trans first.runLoops
  runLoop := second.runLoop.trans first.runLoop
  nextRunLoop := second.nextRunLoop.trans first.nextRunLoop

/-- A call is taken off the list, and the member that it was stays in line. -/
theorem remove_call_thins (pool : Pool) (id : Nat) (stock : Inventory) :
    pool.Thins { pool.removeCall id with stock := stock } where
  calls := fun _ hcall => List.mem_of_mem_filter hcall
  ids := rfl
  last := rfl
  running := rfl
  runLoops := rfl
  runLoop := rfl
  nextRunLoop := rfl

/-- A call in line is taken off the list, and its member is abandoned. -/
theorem abandon_thins (pool : Pool) (id member : Nat) :
    pool.Thins { pool.removeCall id with queue := pool.queue.abandon member } where
  calls := fun _ hcall => List.mem_of_mem_filter hcall
  ids := WaitQueue.abandon_ids pool.queue member
  last := rfl
  running := rfl
  runLoops := rfl
  runLoop := rfl
  nextRunLoop := rfl

/-- A caller in line goes away. -/
theorem lose_waiter_thins (pool : Pool) (id : Nat) : pool.Thins (pool.loseWaiter id) := by
  unfold loseWaiter
  split
  · exact abandon_thins pool id _
  · exact remove_call_thins pool id pool.stock
  · exact .refl pool

/-- Callers in line go away. -/
theorem lose_all_thins (pool : Pool) (ids : List Nat) : pool.Thins (pool.loseAll ids) :=
  List.foldlRecOn _ _ (.refl pool) fun _ hpool id _ => hpool.trans (lose_waiter_thins _ id)

/-- Events may make callers go away. -/
theorem fire_thins (pool : Pool) (place : Nat) : pool.Thins (pool.fire place) := by
  refine List.foldlRecOn _ _ (.refl pool) fun _ hpool seen _ => hpool.trans ?_
  refine List.foldlRecOn _ _ ⟨fun _ hcall => hcall, rfl, rfl, rfl, rfl, rfl, rfl⟩ ?_
  intro _ hpool wire _
  refine hpool.trans ?_
  unfold sendAway
  split
  · exact lose_waiter_thins _ _
  · exact ⟨fun _ hcall => hcall, rfl, rfl, rfl, rfl, rfl, rfl⟩

/-- Callers may go away while a connection is searched for, because of its events and of
themselves. -/
theorem searched_thins (pool : Pool) (stock : Inventory) (place : Nat) (lost : List Nat) :
    pool.Thins (({ pool with stock := stock }.fire place).loseAll lost) := by
  have hlent : pool.Thins { pool with stock := stock } :=
    ⟨fun _ hcall => hcall, rfl, rfl, rfl, rfl, rfl, rfl⟩
  exact (hlent.trans (fire_thins _ place)).trans (lose_all_thins _ lost)

/-- A caller gives up its own call. -/
theorem cancel_acquire_thins (pool : Pool) (id : Nat) : pool.Thins (pool.cancelAcquire id) := by
  unfold cancelAcquire
  split
  · exact abandon_thins pool id _
  · exact remove_call_thins pool id pool.stock
  · exact remove_call_thins pool id _
  · exact remove_call_thins pool id _
  · exact .refl pool

/-! ## Calls that get on -/

/-- Nobody joins the line, and the calls get on. -/
structure Recedes (pool next : Pool) : Prop where
  line : next.queue.ids.Sublist pool.queue.ids
  last : next.queue.lastMember = pool.queue.lastMember
  calls : ∀ call ∈ next.calls, ∃ before ∈ pool.calls, before.id = call.id ∧
    before.phase.Proceeds pool.queue.ids call.phase

/-- Where calls just go away, nobody joins the line. -/
theorem Thins.recedes (h : pool.Thins next) : pool.Recedes next where
  line := by rw [h.ids]
  last := h.last
  calls := fun call hcall => ⟨call, h.calls call hcall, rfl, .still⟩

/-- Calls may go away first. -/
theorem Thins.then_recedes (first : pool.Thins middle) (second : middle.Recedes next) :
    pool.Recedes next where
  line := first.ids ▸ second.line
  last := second.last.trans first.last
  calls := by
    intro call hcall
    obtain ⟨before, hbefore, hid, hproceeds⟩ := second.calls call hcall
    exact ⟨before, first.calls before hbefore, hid, first.ids ▸ hproceeds⟩

/-- Calls and members may go away afterwards. -/
theorem Recedes.leave (first : pool.Recedes middle)
    (hcalls : ∀ call ∈ next.calls, call ∈ middle.calls)
    (hline : next.queue.ids.Sublist middle.queue.ids)
    (hlast : next.queue.lastMember = middle.queue.lastMember) : pool.Recedes next where
  line := hline.trans first.line
  last := hlast.trans first.last
  calls := fun call hcall => first.calls call (hcalls call hcall)

/-- The call of an id is the one that is found. -/
theorem Coherent.call_eq (h : pool.Coherent) (hfind : pool.call? id = some call) {other : Call}
    (hother : other ∈ pool.calls) (hid : other.id = id) : other = call := by
  have hcall : call.id = id := by simpa using List.find?_some hfind
  exact List.inj_on_of_nodup_map h.callIds hother (Coherent.call_mem hfind) (hid.trans hcall.symm)

/-- A call moves on after it was served. -/
theorem set_phase_recedes {phase : Phase} (h : pool.Coherent) (stock : Inventory)
    (hfind : pool.call? id = some call) (hbefore : call.phase.Served) (hafter : phase.Served) :
    pool.Recedes ({ pool with stock := stock }.setPhase id phase) where
  line := .refl _
  last := rfl
  calls := by
    intro other hother
    obtain ⟨before, hmem, rfl⟩ := List.mem_map.1 hother
    by_cases hid : before.id = id
    · rw [if_pos hid]
      have hsame : before = call := h.call_eq hfind hmem hid
      exact ⟨before, hmem, rfl, .onward (hsame ▸ hbefore) hafter⟩
    · rw [if_neg hid]
      exact ⟨before, hmem, rfl, .still⟩

/-- A call ends with an error. -/
theorem fail_call_recedes (pool : Pool) (stock : Inventory) (id : Nat) (error : PoolError) :
    pool.Recedes ({ pool with stock := stock }.failCall id error) :=
  Thins.recedes ⟨fun _ hcall => List.mem_of_mem_filter hcall, rfl, rfl, rfl, rfl, rfl, rfl⟩

/-- A call with an established connection ends, or enters again. -/
theorem announce_recedes {connection : Connection} (h : pool.Coherent) (stock : Inventory)
    (hfind : pool.call? id = some call) (hserved : call.phase.Served) :
    pool.Recedes ({ pool with stock := stock }.announce id connection) := by
  unfold announce
  split
  · dsimp only
    split
    · exact fail_call_recedes pool _ id _
    · exact set_phase_recedes h _ hfind hserved trivial
  · exact Thins.recedes ⟨fun _ hcall => List.mem_of_mem_filter hcall, rfl, rfl, rfl,
      rfl, rfl, rfl⟩

/-- A call looks at its answer. -/
theorem resume_recedes (h : pool.Coherent) (id : Nat) : pool.Recedes (pool.resume id) := by
  unfold resume
  split
  · exact fail_call_recedes pool pool.stock id _
  · next hfind =>
      split
      · exact announce_recedes h pool.stock hfind trivial
      · exact fail_call_recedes pool _ id _
      · exact set_phase_recedes h pool.stock hfind trivial trivial
  · exact (Thins.refl pool).recedes

/-- The connect of a call comes to an end. -/
theorem finish_connect_recedes (h : pool.Coherent) (id : Nat) :
    pool.Recedes (pool.finishConnect id) := by
  unfold finishConnect
  split
  · next hfind =>
      split
      · exact set_phase_recedes h _ hfind trivial trivial
      · exact (Thins.refl pool).recedes
  · exact (Thins.refl pool).recedes

/-- A call registers the outcome of its connect. -/
theorem register_recedes (h : pool.Coherent) (id : Nat) : pool.Recedes (pool.register id) := by
  unfold register
  split
  · next hfind => exact announce_recedes h _ hfind trivial
  · exact fail_call_recedes pool _ id _
  · exact (Thins.refl pool).recedes

/-! ## Answers -/

/-- An answer finds a call that waits as the member, or leaves it as it is. -/
theorem answer_phase (given : Nat × Except PoolError Connection) (call : Call) :
    answer given call = call ∨
      call.phase = .queued given.1 ∧ (answer given call).phase = .answered given.2 := by
  unfold answer
  split
  · next member hphase =>
      split
      · next hmember => exact .inr ⟨hmember ▸ hphase, rfl⟩
      · exact .inl rfl
  · exact .inl rfl

/-- An answer leaves the deadline of a call as it is. -/
theorem answer_deadline (given : Nat × Except PoolError Connection) (call : Call) :
    (answer given call).deadline = call.deadline := by
  unfold answer
  split
  · split <;> rfl
  · rfl

/-- After the answers a call is as it was, or it waited as a member that was answered. -/
theorem deliver_calls (answers : List (Nat × Except PoolError Connection)) (pool : Pool) :
    ∀ call ∈ (answers.foldl deliver pool).calls, ∃ before ∈ pool.calls, before.id = call.id ∧
      before.deadline = call.deadline ∧
      (before = call ∨ ∃ given ∈ answers, before.phase = .queued given.1 ∧
        call.phase = .answered given.2) := by
  induction answers generalizing pool with
  | nil => exact fun call hcall => ⟨call, hcall, rfl, rfl, .inl rfl⟩
  | cons given rest ih =>
      intro call hcall
      obtain ⟨middle, hmiddle, hid, hdeadline, hlater⟩ := ih (pool.deliver given) call hcall
      obtain ⟨before, hbefore, rfl⟩ := List.mem_map.1 hmiddle
      refine ⟨before, hbefore, (answer_id given before).symm.trans hid,
        (answer_deadline given before).symm.trans hdeadline, ?_⟩
      change answer given before = call ∨ ∃ given' ∈ rest,
        (answer given before).phase = .queued given'.1 ∧ call.phase = .answered given'.2 at hlater
      rcases answer_phase given before with hsame | ⟨hqueued, hanswered⟩
      · rw [hsame] at hlater
        refine hlater.imp_right ?_
        rintro ⟨other, hother, hphases⟩
        exact ⟨other, List.mem_cons_of_mem _ hother, hphases⟩
      · -- Whoever was answered is not answered again.
        rw [hanswered] at hlater
        rcases hlater with rfl | ⟨_, _, hphase, _⟩
        · exact .inr ⟨given, List.mem_cons_self, hqueued, hanswered⟩
        · cases hphase

/-- Taking over an outcome, nobody joins the line, and the first in line is served at most. -/
theorem settle_recedes {start : Pool} {outcome : WaitQueue.Outcome Nat Connection}
    (hcalls : start.calls = pool.calls) (hline : outcome.queue.ids.Sublist pool.queue.ids)
    (hlast : outcome.queue.lastMember = pool.queue.lastMember)
    (hfirst : ∀ member connection, (member, .ok connection) ∈ outcome.answers →
      ∃ rest, pool.queue.ids = member :: rest)
    (hreason : ∀ member error, (member, .error error) ∈ outcome.answers →
      error.reason? ≠ some .connectionError) : pool.Recedes (start.settle outcome) where
  line := hline
  last := hlast
  calls := by
    intro call hcall
    obtain ⟨before, hbefore, hid, -, rfl | ⟨⟨member, answer⟩, hgiven, hqueued, hanswered⟩⟩ :=
      deliver_calls outcome.answers start call hcall
    · exact ⟨before, hcalls ▸ hbefore, hid, .still⟩
    · refine ⟨before, hcalls ▸ hbefore, hid, ?_⟩
      rw [hqueued, hanswered]
      cases answer with
      | error error => exact .refused (hreason member error hgiven)
      | ok connection =>
          obtain ⟨rest, hids⟩ := hfirst member connection hgiven
          exact .served hids

/-- Taking over errors, nobody joins the line and nobody is served. -/
theorem settle_errors_recedes {start : Pool} {outcome : WaitQueue.Outcome Nat Connection}
    {error : PoolError} (hcalls : start.calls = pool.calls)
    (hline : outcome.queue.ids.Sublist pool.queue.ids)
    (hlast : outcome.queue.lastMember = pool.queue.lastMember)
    (herrors : ∀ given ∈ outcome.answers, given.2 = .error error)
    (hreason : error.reason? ≠ some .connectionError) : pool.Recedes (start.settle outcome) := by
  refine settle_recedes hcalls hline hlast ?_ ?_
  · intro member connection hgiven
    cases herrors _ hgiven
  · intro member other hgiven
    cases herrors _ hgiven
    exact hreason

/-- When the line is shut, everyone in it is refused. -/
theorem shut_recedes {start : Pool} (hcalls : start.calls = pool.calls) :
    pool.Recedes (start.settle pool.queue.destroy) :=
  settle_errors_recedes hcalls (WaitQueue.destroy_ids pool.queue) rfl (WaitQueue.drain_errors _)
    (by simp [WaitQueue.closedError, PoolError.reason?])

/-- A timer that ends a wait lets nobody join the line. -/
theorem expire_recedes (h : pool.Coherent) (member : Nat) :
    pool.Recedes (pool.expire member) := by
  unfold expire
  split
  · have hrest : pool.Thins { pool with
        timers := pool.timers.filter fun timer => timer.member != member } :=
      ⟨fun _ hcall => hcall, rfl, rfl, rfl, rfl, rfl, rfl⟩
    dsimp only
    split
    · next outcome hexpire =>
        obtain ⟨gone, hout⟩ := WaitQueue.expire_releases h.line.ids hexpire
        exact hrest.then_recedes (settle_errors_recedes rfl
          (WaitQueue.expire_ids hexpire) hout.last
          (WaitQueue.expire_errors hexpire) (by simp [WaitQueue.timeoutError, PoolError.reason?]))
    · exact hrest.recedes
  · exact (Thins.refl pool).recedes

/-- Attending to the head of the line serves it at most. -/
theorem attend_recedes (pool : Pool) (lost : List Nat) :
    pool.Recedes (pool.attend lost).2 := by
  unfold attend
  cases hasks : pool.queue.asks with
  | false =>
      obtain ⟨gone, hout⟩ := WaitQueue.pass_releases (α := Connection) hasks
      have hsettled : pool.Recedes (pool.settle (pool.queue.pass : Tick Connection × _).2) :=
        settle_errors_recedes rfl (WaitQueue.pass_ids pool.queue) hout.last
          (WaitQueue.pass_errors pool.queue) (by simp [WaitQueue.closedError, PoolError.reason?])
      rw [if_neg (by simp)]
      generalize (pool.queue.pass : Tick Connection × _) = passed at hsettled ⊢
      obtain ⟨tick, outcome⟩ := passed
      cases tick <;> exact hsettled
  | true =>
      rw [if_pos rfl]
      cases pool.stock.lend with
      | mk resource stock =>
          dsimp only
          have hleft := searched_thins pool stock pool.log.length lost
          generalize ({ pool with stock := stock }.fire pool.log.length).loseAll lost = left
            at hleft ⊢
          have hsettled : left.Recedes (left.settle (left.queue.serve resource).2) := by
            obtain ⟨gone, hout⟩ := WaitQueue.serve_releases left.queue resource
            refine settle_recedes rfl (WaitQueue.serve_ids _ _) hout.last ?_ ?_
            · intro member connection hgiven
              exact ⟨_, (WaitQueue.serve_first hgiven).2⟩
            · intro member error hgiven
              obtain ⟨found, hfound⟩ := WaitQueue.serve_ok _ hgiven
              cases hfound
          have hrecedes := hleft.then_recedes hsettled
          generalize left.queue.serve resource = served at hrecedes ⊢
          obtain ⟨tick, outcome⟩ := served
          cases tick with
          | unclaimed connection =>
              exact hrecedes.leave (fun _ hcall => hcall) (.refl _) rfl
          | stopped | requeued | discarded | served => exact hrecedes

/-- A tick serves the first in line at most. -/
theorem tick_recedes (pool : Pool) (runLoop : Nat) (lost : List Nat) :
    pool.Recedes (pool.tick runLoop lost) := by
  unfold tick
  split
  · exact (Thins.refl pool).recedes
  · split
    · have hattend := attend_recedes pool lost
      split
      · next heq =>
          rw [heq] at hattend
          exact hattend.leave (fun _ hcall => hcall) (.refl _) rfl
      · next heq =>
          rw [heq] at hattend
          exact hattend.leave (fun _ hcall => hcall) (.refl _) rfl
    · exact (Thins.refl pool).recedes

/-- Closing a pool refuses everyone in line. -/
theorem close_recedes (pool : Pool) : pool.Recedes pool.close := by
  unfold close
  split
  · exact (Thins.refl pool).recedes
  · have hshut : pool.Recedes
        ({ pool with stock := { pool.stock with closed := true } }.settle pool.queue.destroy) :=
      shut_recedes rfl
    exact hshut.leave (fun _ hcall => hcall) (.refl _) rfl

/-- Destroying a pool refuses everyone in line. -/
theorem destroy_recedes (pool : Pool) : pool.Recedes pool.destroy := by
  have hshut : pool.Recedes (pool.stopped.settle pool.queue.destroy) := shut_recedes rfl
  exact hshut.leave (fun _ hcall => hcall) (.refl _) rfl

/-! ## Who comes to the line -/

/-- An acquisition begins, under an id that is not in use. -/
structure Begins (pool next : Pool) (id : Nat) : Prop where
  fresh : id ∉ pool.callIds
  line : next.queue.ids.Sublist pool.queue.ids
  last : next.queue.lastMember = pool.queue.lastMember
  calls : ∀ call ∈ next.calls, call ∈ pool.calls ∨ call.id = id ∧ call.phase = .entering false

/-- A call joins the line under a new id: at its head if it was served before, and at its end
otherwise. Nothing is told of it. -/
structure Joins (pool next : Pool) (id : Nat) (readmitted : Bool) : Prop where
  call : (pool.call? id).map Call.phase = some (.entering readmitted)
  last : next.queue.lastMember = pool.queue.lastMember + 1
  line : next.queue.ids = if readmitted then next.queue.lastMember :: pool.queue.ids
    else pool.queue.ids ++ [next.queue.lastMember]
  calls : next.calls = (pool.setPhase id (.queued next.queue.lastMember)).calls
  stock : next.stock = pool.stock

/-- What an action does to the line. -/
inductive Arranged (pool : Pool) : Action → Pool → Prop where
  | recedes {action : Action} {next : Pool} (h : pool.Recedes next) : Arranged pool action next
  | begins {id : Nat} {next : Pool} (h : pool.Begins next id) : Arranged pool (.acquire id) next
  | joins {id : Nat} {readmitted : Bool} {next : Pool} (h : pool.Joins next id readmitted) :
      Arranged pool (.enter id) next

/-- A call that was let in joins the line, also when a timer was armed and a run loop started
for it. -/
theorem joins_of_let_in {joined : Pool} {admission : Admission} {queue : WaitQueue Nat}
    {readmitted : Bool} (hphase : (pool.call? id).map Call.phase = some (.entering readmitted))
    (hin : pool.queue.letIn readmitted = .ok (admission, queue))
    (hids : joined.queue.ids = queue.ids) (hlast : joined.queue.lastMember = queue.lastMember)
    (hcalls : joined.calls = pool.calls) (hstock : joined.stock = pool.stock) :
    pool.Joins (joined.setPhase id (.queued admission.member)) id readmitted := by
  obtain ⟨hmember, -, hnew, -⟩ := WaitQueue.let_in_ok hin
  have hnext : (joined.setPhase id (.queued admission.member)).queue.lastMember =
      admission.member := hlast.trans hnew
  refine ⟨hphase, hnext.trans hmember, ?_, ?_, hstock⟩
  · rw [hnext]
    exact hids.trans (WaitQueue.let_in_ids hin)
  · rw [hnext, setPhase, setPhase, hcalls]

/-- A call enters the line, or ends because it cannot. -/
theorem enter_arranged (pool : Pool) (id : Nat) : pool.Arranged (.enter id) (pool.enter id) := by
  unfold enter
  split
  · next deadline readmitted hfind =>
      split
      · exact .recedes (fail_call_recedes pool pool.stock id _)
      · split
        · exact .recedes (fail_call_recedes pool pool.stock id _)
        · next admission queue hin =>
            have hphase : (pool.call? id).map Call.phase = some (.entering readmitted) := by
              rw [hfind, Option.map_some]
            have hletIn := WaitQueue.admitted_ok hin
            refine @Arranged.joins pool id readmitted _ ?_
            cases deadline with
            | none =>
                dsimp only
                split <;> exact joins_of_let_in hphase hletIn rfl rfl rfl rfl
            | some deadline =>
                have hids := WaitQueue.arm_ids queue admission.member admission.member
                have hlast := (WaitQueue.arm_kept queue admission.member admission.member).1
                dsimp only
                split <;> exact joins_of_let_in hphase hletIn hids hlast rfl rfl
  · exact .recedes (Thins.refl pool).recedes

/-- What an action does to the line by itself. -/
theorem step_arranged (h : pool.Coherent) (action : Action) :
    pool.Arranged action (pool.step action).2 := by
  cases hapart : action.isApart with
  | true => exact .recedes (step_apart pool hapart).thins.recedes
  | false =>
      have hnothing : pool.Recedes pool := (Thins.refl pool).recedes
      cases action with
      | acquire id =>
          simp only [step]
          cases hmade : pool.held && !pool.isPending id with
          | true =>
              have hcalls : ∀ call ∈ (pool.startAcquire id).calls,
                  call ∈ pool.calls ∨ call.id = id ∧ call.phase = .entering false :=
                fun call hcall => (mem_start_acquire hcall).imp_right
                  (by rintro rfl; exact ⟨rfl, rfl⟩)
              rw [startAcquire, if_pos hmade] at hcalls ⊢
              exact .begins ⟨fresh_of_made hmade, .refl _, rfl, hcalls⟩
          | false =>
              rw [startAcquire, if_neg (by simp [hmade])]
              exact .recedes hnothing
      | cancel id =>
          have habandoned := (abandon_population_apart (pool.cancelAcquire id) (.call id)).thins
          exact .recedes ((cancel_acquire_thins pool id).trans habandoned).recedes
      | close =>
          simp only [step]
          split
          · exact .recedes (close_recedes pool)
          · exact .recedes hnothing
      | destroy =>
          simp only [step]
          split
          · exact .recedes (destroy_recedes pool)
          · exact .recedes hnothing
      | enter id => exact enter_arranged pool id
      | resume id => exact .recedes (resume_recedes h id)
      | finishConnect id => exact .recedes (finish_connect_recedes h id)
      | register id => exact .recedes (register_recedes h id)
      | tick runLoop lost => exact .recedes (tick_recedes pool runLoop lost)
      | expire member => exact .recedes (expire_recedes h member)
      | _ => cases hapart

/-- The end of a pool that nobody has a part in lets nobody join the line. -/
theorem collect_leaves (pool : Pool) :
    pool.collect.calls = pool.calls ∧ pool.collect.queue.ids.Sublist pool.queue.ids ∧
      pool.collect.queue.lastMember = pool.queue.lastMember := by
  unfold collect
  split
  · exact ⟨rfl, .refl _, rfl⟩
  · exact ⟨rfl, List.nil_sublist _, rfl⟩

/-- Where nothing was told, nobody notices. -/
theorem fire_nothing (pool : Pool) : pool.fire pool.log.length = pool := by
  rw [fire, List.drop_length]
  rfl

/-- A step that tells nothing sets nothing off. -/
theorem fire_silent (hlog : next.log = pool.log) : next.fire pool.log.length = next := by
  rw [← hlog, fire_nothing]

/-- A call that joins the line has a part in the pool. -/
theorem Joins.alive {readmitted : Bool} (h : pool.Joins next id readmitted) :
    next.isAlive = true := by
  obtain ⟨call, hfind, -⟩ := Option.map_eq_some_iff.1 h.call
  have hcalls : next.calls ≠ [] := by
    rw [h.calls, setPhase, Ne, List.map_eq_nil_iff]
    exact List.ne_nil_of_mem (Coherent.call_mem hfind)
  simp [isAlive, hcalls]

/-- Nothing else happens when a call joins the line. -/
theorem Joins.after {readmitted : Bool} (h : pool.Joins (pool.step (.enter id)).2 id readmitted) :
    pool.after (.enter id) = (pool.step (.enter id)).2 := by
  have hfire : (pool.step (.enter id)).2.fire pool.log.length = (pool.step (.enter id)).2 :=
    fire_silent (by rw [log, log, h.stock])
  simp only [Pool.after, perform, hfire, collect, h.alive, if_true]

/-- What an action does to the line, whatever its events set off. -/
theorem after_arranged (h : pool.Coherent) (action : Action) :
    pool.Arranged action (pool.after action) := by
  have hfire := fire_thins (pool.step action).2 pool.log.length
  obtain ⟨hcalls, hline, hlast⟩ := collect_leaves ((pool.step action).2.fire pool.log.length)
  have hleft : ∀ call ∈ (pool.after action).calls, call ∈ (pool.step action).2.calls :=
    fun call hcall => hfire.calls call (hcalls ▸ hcall)
  have hshorter : (pool.after action).queue.ids.Sublist (pool.step action).2.queue.ids :=
    hfire.ids ▸ hline
  have hsame : (pool.after action).queue.lastMember = (pool.step action).2.queue.lastMember :=
    hlast.trans hfire.last
  have harranged := step_arranged h action
  generalize hnext : (pool.step action).2 = stepped at harranged hleft hshorter hsame
  cases harranged with
  | recedes hrecedes => exact .recedes (hrecedes.leave hleft hshorter hsame)
  | begins hbegins =>
      refine .begins ⟨hbegins.fresh, hshorter.trans hbegins.line, hsame.trans hbegins.last, ?_⟩
      exact fun call hcall => hbegins.calls call (hleft call hcall)
  | joins hjoins =>
      subst hnext
      rw [hjoins.after]
      exact .joins hjoins

/-! ## Who waits in line -/

section Waits

variable {member : Nat} {readmitted : Bool}

/-- The call waits in line as the member. -/
def WaitsAs (pool : Pool) (id member : Nat) : Prop :=
  ∃ call ∈ pool.calls, call.id = id ∧ call.phase = .queued member

/-- Who waits as which member is to be seen at the phases. -/
theorem waits_as_iff : pool.WaitsAs id member ↔
    (id, some member) ∈ pool.calls.map fun call => (call.id, call.phase.member?) := by
  rw [List.mem_map]
  refine exists_congr fun call => and_congr_right fun _ => ?_
  rw [Prod.mk.injEq]
  refine and_congr_right fun _ => ?_
  cases call.phase <;> simp [Phase.member?]

instance (pool : Pool) (id member : Nat) : Decidable (pool.WaitsAs id member) :=
  decidable_of_iff _ waits_as_iff.symm

/-- Those who wait are those who wait as a member. -/
theorem mem_waiting : member ∈ pool.waiting ↔ ∃ id, pool.WaitsAs id member := by
  rw [waiting, Multiset.mem_filterMap]
  constructor
  · rintro ⟨call, hcall, hmember⟩
    refine ⟨call.id, call, hcall, rfl, ?_⟩
    cases hcase : call.phase <;> simp_all [Phase.member?]
  · rintro ⟨id, call, hcall, -, hphase⟩
    exact ⟨call, hcall, by rw [hphase]; rfl⟩

/-- Who waits as a member is in line. -/
theorem WaitsAs.queued (h : pool.WaitsAs id member) (hpool : pool.Coherent) :
    member ∈ pool.queue.ids ∧ member ≤ pool.queue.lastMember := by
  obtain ⟨m, hm, rfl, -⟩ := (hpool.line.listening member).1 (mem_waiting.2 ⟨id, h⟩)
  exact ⟨List.mem_map_of_mem hm, hpool.line.below m hm⟩

/-- No two calls wait as one member. -/
theorem WaitsAs.unique {other : Nat} (h : pool.WaitsAs id member)
    (hother : pool.WaitsAs other member) (hpool : pool.Coherent) : id = other := by
  obtain ⟨call, hcall, rfl, hphase⟩ := h
  obtain ⟨second, hsecond, rfl, hqueued⟩ := hother
  obtain ⟨rest, hcalls, -⟩ := hpool.calls_split (Keyed.find_of_mem hpool.callIds hcall)
  by_contra hne
  have hrest : second ∈ rest := by
    rw [← Multiset.mem_coe, hcalls] at hsecond
    exact (Multiset.mem_cons.1 hsecond).resolve_left fun hsame => hne (hsame ▸ rfl)
  have honce := hpool.line.once
  rw [waiting, hcalls, Multiset.filterMap_cons_some _ _ _ (by rw [hphase]; rfl)] at honce
  exact (Multiset.nodup_cons.1 honce).1
    ((Multiset.mem_filterMap _ _).2 ⟨second, hrest, by rw [hqueued]; rfl⟩)

/-- A call after the action is one that got on, or it has just begun. -/
def Ages (pool next : Pool) : Prop :=
  ∀ call ∈ next.calls,
    (∃ before ∈ pool.calls, before.id = call.id ∧
      before.phase.Proceeds pool.queue.ids call.phase) ∨
      call.id ∉ pool.callIds ∧ call.phase = .entering false

/-- Who waits in line when nobody has joined it has waited there before. -/
theorem Ages.waits (h : pool.Ages next) (hwaits : next.WaitsAs id member) :
    pool.WaitsAs id member := by
  obtain ⟨call, hcall, hid, hphase⟩ := hwaits
  rcases h call hcall with ⟨before, hbefore, hsame, hproceeds⟩ | ⟨-, hnew⟩
  · exact ⟨before, hbefore, hsame.trans hid, (hphase ▸ hproceeds).of_queued⟩
  · rw [hphase] at hnew
    cases hnew

/-- A call is the one that joins the line, or it was there before and is another one. -/
theorem Joins.mem_calls (h : pool.Joins next id readmitted) (hcall : call ∈ next.calls) :
    call.id = id ∧ call.phase = .queued next.queue.lastMember ∨
      call ∈ pool.calls ∧ call.id ≠ id := by
  rw [h.calls] at hcall
  obtain ⟨before, hbefore, rfl⟩ := List.mem_map.1 hcall
  by_cases hid : before.id = id
  · rw [if_pos hid]
    exact .inl ⟨hid, rfl⟩
  · rw [if_neg hid]
    exact .inr ⟨hbefore, hid⟩

/-- Who waits in line is the one that joins it, or it waited there before. -/
theorem Joins.waits {other : Nat} (h : pool.Joins next id readmitted)
    (hwaits : next.WaitsAs other member) :
    other = id ∧ member = next.queue.lastMember ∨ other ≠ id ∧ pool.WaitsAs other member := by
  obtain ⟨call, hcall, rfl, hphase⟩ := hwaits
  rcases h.mem_calls hcall with ⟨hid, hqueued⟩ | ⟨hbefore, hid⟩
  · rw [hphase] at hqueued
    exact .inl ⟨hid, Phase.queued.inj hqueued⟩
  · exact .inr ⟨hid, call, hbefore, rfl, hphase⟩

/-- Nobody joins the line, or a call does. -/
theorem Arranged.ages_or_joins (h : pool.Arranged action next) :
    (pool.Ages next ∧ next.queue.ids.Sublist pool.queue.ids ∧
        next.queue.lastMember = pool.queue.lastMember) ∨
      ∃ id readmitted, action = .enter id ∧ pool.Joins next id readmitted := by
  cases h with
  | recedes h => exact .inl ⟨fun call hcall => .inl (h.calls call hcall), h.line, h.last⟩
  | begins h =>
      refine .inl ⟨fun call hcall => ?_, h.line, h.last⟩
      rcases h.calls call hcall with hbefore | ⟨rfl, hnew⟩
      · exact .inl ⟨call, hbefore, rfl, .still⟩
      · exact .inr ⟨h.fresh, hnew⟩
  | joins h => exact .inr ⟨_, _, rfl, h⟩

end Waits

end Pool

end ConnectionPool
