import ConnectionPool.Proofs.Pool.Acquisition
import ConnectionPool.Proofs.Pool.Lifecycle
import ConnectionPool.Proofs.Pool.Loan
import ConnectionPool.Proofs.Pool.Population

/-!
# Every action is a step

`perform_step` puts together what the other modules of this folder prove: whatever action is
taken, the pool stays coherent and its holdings take one step, together with what the events of
the action set off and the end of a pool that nobody has a part in any more. Idle connections
are given up without a word only when the pool is destroyed or goes: `scraps` says how many.
-/

namespace ConnectionPool.Pool

variable {pool : Pool}

/-- What releasing a connection does, whatever is replied. -/
theorem step_release (pool : Pool) (connection : Nat) (force : Bool) :
    (pool.step (.release connection force)).2 =
      if pool.held then (pool.releaseLoan connection force).2 else pool := by
  simp only [step]
  split
  · split
    · next heq => rw [heq]
    · next heq => rw [heq]
  · rfl

/-- What writing to a connection does, whatever is replied. -/
theorem step_write (pool : Pool) (connection bytes : Nat) :
    (pool.step (.write connection bytes)).2 = (pool.writeLoan connection bytes).2 := by
  simp only [step]
  split
  · next heq => rw [heq]
  · next heq => rw [heq]

/-- What establishing a connection does, whatever is replied. -/
theorem step_establish (pool : Pool) (connection : Nat) :
    (pool.step (.establish connection)).2 = (pool.establishLoan connection).2 := by
  simp only [step]
  split
  · next heq => rw [heq]
  · next heq => rw [heq]

/-- Every action but the closing and destroying of the pool advances it. -/
theorem step_advances (h : pool.Coherent) (hbooked : pool.Booked) {action : Action}
    (hclose : action ≠ .close) (hdestroy : action ≠ .destroy) :
    pool.Advances (pool.step action).2 := by
  have hstill := Advances.refl h
  cases action with
  | acquire call => exact start_acquire_advances h call
  | tryAcquire =>
      simp only [step]
      split
      · exact try_acquire_advances h
      · exact hstill
  | cancel call =>
      obtain ⟨hcancelled, hfirst⟩ := cancel_acquire_moves h call
      obtain ⟨hcoherent, hsecond⟩ := abandon_population_moves hcancelled (.call call)
      exact ⟨hcoherent, .moves (hfirst.trans hsecond)⟩
  | populate call => exact start_population_advances h call
  | release connection force =>
      rw [step_release]
      split
      · exact release_loan_advances h hbooked connection force
      · exact hstill
  | drop connection => exact release_loan_advances h hbooked connection false
  | write connection bytes =>
      rw [step_write]
      exact write_loan_advances h hbooked connection bytes
  | establish connection =>
      rw [step_establish]
      exact establish_loan_advances h hbooked connection
  | destroyConnection connection => exact destroy_loan_advances h hbooked connection
  | clear =>
      simp only [step]
      split
      · exact clear_advances h
      · exact hstill
  | close => exact absurd rfl hclose
  | destroy => exact absurd rfl hdestroy
  | watch type call => exact ⟨h.congr rfl rfl rfl rfl, .moves .refl⟩
  | dropHandle => exact drop_handle_advances h
  | abandonOpening => exact abandon_opening_advances h
  | failNext count =>
      exact ⟨h.congr rfl rfl rfl rfl, .moves (.single (.scripted pool.holdings count
        pool.stock.network.failAll pool.stock.network.connectDelay))⟩
  | failAll on =>
      exact ⟨h.congr rfl rfl rfl rfl, .moves (.single (.scripted pool.holdings
        pool.stock.network.failNext on pool.stock.network.connectDelay))⟩
  | connectDelay delay =>
      exact ⟨h.congr rfl rfl rfl rfl, .moves (.single (.scripted pool.holdings
        pool.stock.network.failNext pool.stock.network.failAll delay))⟩
  | enter call => exact enter_advances h call
  | resume call => exact resume_advances h call
  | finishConnect call => exact finish_connect_advances h call
  | register call => exact register_advances h call
  | tick runLoop lost => exact tick_advances h runLoop lost
  | expire member => exact expire_advances h member
  | reserve owner => exact reserve_advances h owner
  | finishReserved owner => exact finish_reserved_advances h owner
  | settleReserved owner => exact settle_reserved_advances h owner
  | maintain => exact maintain_advances h
  | abandonMaintenance => exact abandon_maintenance_advances h
  | elapse span =>
      exact ⟨h.congr rfl rfl rfl rfl, .moves (.single (.elapsed pool.holdings span))⟩

/-- The idle connections that go with the pool, if nobody has a part in it after the action. -/
def forsaken (pool : Pool) (action : Action) : Nat :=
  let next := (pool.step action).2.fire pool.log.length
  if next.isAlive then 0 else next.stock.available.length

/-- The idle connections that the action gives up without a word. -/
def scraps (pool : Pool) (action : Action) : Nat :=
  match action with
  | .destroy => if pool.held then pool.stock.available.length else pool.forsaken .destroy
  | action => pool.forsaken action

/-- A pool that advances takes a step, also when it is given up because nobody has a part in it.
Whoever is told of a connection then has a part in it. -/
theorem Advances.collect_step {next : Pool} (h : pool.Advances next) :
    next.collect.Coherent ∧
      Step pool.holdings (if next.isAlive then 0 else next.stock.available.length)
        next.collect.holdings := by
  cases halive : next.isAlive with
  | true =>
      rw [collect, if_pos halive]
      exact ⟨h.coherent, .turn h.turn⟩
  | false =>
      obtain ⟨hcoherent, hcollect⟩ := collect_frame h.coherent halive
      refine ⟨hcoherent, ?_⟩
      have hturn := h.turn
      rw [hcollect, if_neg Bool.false_ne_true]
      show Step _ next.holdings.stock.available.length _
      generalize hfinal : next.holdings = final at hturn
      cases hturn with
      | moves moves => exact .forsaken moves
      | announced moves last =>
          obtain ⟨connection, rest, hloans⟩ : ∃ connection rest,
              (next.loans : Multiset Connection) = connection ::ₘ rest := by
            cases last with
            | mk middle held wanted established =>
                exact ⟨_, _, congrArg Holdings.borrowed hfinal⟩
          have hnone : next.loans = [] := by
            simp only [isAlive, Bool.or_eq_false_iff] at halive
            simpa using halive.2
          rw [hnone] at hloans
          exact absurd hloans (Multiset.zero_ne_cons)

/-- What the events of an action set off and the end of the pool leave a pool that advances with
a step. -/
theorem Advances.perform_step {action : Action} (h : pool.Advances (pool.step action).2) :
    (pool.after action).Coherent ∧
      Step pool.holdings (pool.forsaken action) (pool.after action).holdings := by
  have hfire := fire_undisturbed h.coherent pool.log.length
  exact Advances.collect_step ⟨hfire.coherent, hfire.holdings ▸ h.turn⟩

/-- A pool whose handle is there is not given up, whatever the events of an action set off. -/
theorem after_held (action : Action) (h : (pool.step action).2.Coherent)
    (hheld : (pool.step action).2.held = true) :
    (pool.after action).Coherent ∧ (pool.after action).holdings =
      (pool.step action).2.holdings := by
  have hfire := fire_undisturbed h pool.log.length
  have halive : ((pool.step action).2.fire pool.log.length).isAlive = true := by
    simp [isAlive, hfire.held, hheld]
  have hafter : pool.after action = (pool.step action).2.fire pool.log.length := by
    simp [after, perform, collect, halive]
  rw [hafter]
  exact ⟨hfire.coherent, hfire.holdings⟩

/-- No idle connection goes with a pool whose handle is there. -/
theorem forsaken_held (action : Action) (h : (pool.step action).2.Coherent)
    (hheld : (pool.step action).2.held = true) : pool.forsaken action = 0 := by
  have hfire := fire_undisturbed h pool.log.length
  simp [forsaken, isAlive, hfire.held, hheld]

/-- Closing a pool comes to what its closing does. -/
theorem after_close (h : pool.Coherent) (hheld : pool.held = true) :
    (pool.after .close).Coherent ∧ (pool.after .close).holdings = pool.close.holdings ∧
      pool.forsaken .close = 0 := by
  have hstep : (pool.step .close).2 = pool.close := by simp [step, hheld]
  obtain ⟨hcoherent, -, hkept⟩ := close_step h
  rw [← hstep] at hcoherent hkept ⊢
  have hstill := hkept.trans hheld
  obtain ⟨hafter, hholdings⟩ := after_held .close hcoherent hstill
  exact ⟨hafter, hholdings, forsaken_held .close hcoherent hstill⟩

/-- Destroying a pool shuts it and gives up its idle connections. -/
theorem after_destroy (h : pool.Coherent) (hheld : pool.held = true) :
    (pool.after .destroy).Coherent ∧ (pool.after .destroy).holdings = pool.holdings.shut.scrap ∧
      pool.forsaken .destroy = 0 := by
  have hstep : (pool.step .destroy).2 = pool.destroy := by simp [step, hheld]
  obtain ⟨hcoherent, hdestroyed, hkept⟩ := destroy_frame h
  rw [← hstep] at hcoherent hdestroyed hkept
  have hstill := hkept.trans hheld
  obtain ⟨hafter, hholdings⟩ := after_held .destroy hcoherent hstill
  exact ⟨hafter, hholdings.trans hdestroyed, forsaken_held .destroy hcoherent hstill⟩

/-- Every action keeps the pool coherent, and its holdings take a step. -/
theorem perform_step (h : pool.Coherent) (hbooked : pool.Booked)
    (action : Action) :
    (pool.after action).Coherent ∧
      Step pool.holdings (pool.scraps action) (pool.after action).holdings := by
  -- Closing and destroying are apart from the other actions, as long as there is a handle to do
  -- it with.
  by_cases hclose : action = .close
  · subst hclose
    cases hheld : pool.held with
    | false =>
        have hstep : (pool.step .close).2 = pool := by simp [step, hheld]
        exact Advances.perform_step (by rw [hstep]; exact .refl h)
    | true =>
        obtain ⟨hafter, hholdings, hforsaken⟩ := after_close h hheld
        have hnone : pool.scraps .close = 0 := hforsaken
        rw [hnone, hholdings]
        exact ⟨hafter, (close_step h).2.1⟩
  · by_cases hdestroy : action = .destroy
    · subst hdestroy
      cases hheld : pool.held with
      | false =>
          have hstep : (pool.step .destroy).2 = pool := by simp [step, hheld]
          have hscraps : pool.scraps .destroy = pool.forsaken .destroy := by simp [scraps, hheld]
          rw [hscraps]
          exact Advances.perform_step (by rw [hstep]; exact .refl h)
      | true =>
          have hscraps : pool.scraps .destroy = pool.stock.available.length := by
            simp [scraps, hheld]
          obtain ⟨hafter, hholdings, -⟩ := after_destroy h hheld
          rw [hscraps, hholdings]
          exact ⟨hafter, .destroyed pool.holdings⟩
    · have hscraps : pool.scraps action = pool.forsaken action := by
        cases action with
        | destroy => exact absurd rfl hdestroy
        | _ => rfl
      rw [hscraps]
      exact (step_advances h hbooked hclose hdestroy).perform_step

end ConnectionPool.Pool
