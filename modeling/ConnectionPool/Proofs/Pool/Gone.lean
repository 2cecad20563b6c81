import ConnectionPool.Proofs.Pool.Steps

/-!
# Pools that nobody has a part in

Once nobody has a part in a pool any more, it has neither tasks nor timers, and no action gives
anybody a part in it again: there is no handle to begin with, and no call, population or loan to
go on with. So a pool in which somebody has a part now was never given up.
-/

namespace ConnectionPool.Pool

/-- Nobody has a part in the pool. -/
structure Deserted (pool : Pool) : Prop where
  held : pool.held = false
  calls : pool.calls = []
  populations : pool.populations = []
  loans : pool.loans = []

/-- Nobody has a part in the pool, and it has neither tasks nor timers. -/
structure Gone (pool : Pool) : Prop extends pool.Deserted where
  maintenance : pool.maintenance = none
  runLoops : pool.runLoops = []
  timers : pool.timers = []

variable {pool next : Pool}

/-- A pool is deserted if it is not alive. -/
theorem not_alive : pool.isAlive = false ↔ pool.Deserted := by
  simp only [isAlive, Bool.or_eq_false_iff, Bool.not_eq_false', List.isEmpty_iff]
  exact ⟨fun h => ⟨h.1.1.1, h.1.1.2, h.1.2, h.2⟩,
    fun h => ⟨⟨⟨h.held, h.calls⟩, h.populations⟩, h.loans⟩⟩

/-- A pool that nobody has a part in is taken down. -/
theorem Deserted.collect (h : pool.Deserted) : pool.collect.Gone := by
  rw [Pool.collect, if_neg (by simp [not_alive.2 h])]
  exact ⟨⟨h.held, h.calls, h.populations, h.loans⟩, rfl, rfl, rfl⟩

/-- Taking down a pool gives nobody a part in it. -/
theorem collect_alive (pool : Pool) : pool.collect.isAlive = pool.isAlive := by
  unfold collect
  split <;> rfl

/-! ## Events in a deserted pool -/

/-- A tripwire that goes off in a deserted pool is for a call of another pool. -/
theorem Deserted.sendAway (h : pool.Deserted) (id place : Nat) :
    (pool.sendAway id place).Deserted := by
  have hpending : pool.isPending id = false := by
    simp [isPending, call?, population?, h.calls, h.populations]
  rw [Pool.sendAway, if_neg (by simp [hpending])]
  exact ⟨h.held, h.calls, h.populations, h.loans⟩

/-- An event gives nobody a part in a deserted pool. -/
theorem Deserted.fireAt (h : pool.Deserted) (event : Event) (place : Nat) :
    (pool.fireAt event place).Deserted := by
  refine List.foldlRecOn _ _ ?_ fun _ hpool wire _ => hpool.sendAway wire.call place
  exact ⟨h.held, h.calls, h.populations, h.loans⟩

/-- No events give anybody a part in a deserted pool. -/
theorem Deserted.fire (h : pool.Deserted) (place : Nat) : (pool.fire place).Deserted :=
  List.foldlRecOn _ _ h fun _ hpool seen _ => hpool.fireAt seen.1 seen.2

/-! ## Actions at a pool that is gone -/

/-- Only the parts that people have in the pool matter. -/
theorem Deserted.congr (h : pool.Deserted) (hheld : next.held = pool.held)
    (hcalls : next.calls = pool.calls) (hpopulations : next.populations = pool.populations)
    (hloans : next.loans = pool.loans) : next.Deserted :=
  ⟨hheld.trans h.held, hcalls.trans h.calls, hpopulations.trans h.populations,
    hloans.trans h.loans⟩

/-- No action gives anybody a part in a pool that is gone. -/
theorem Gone.step (h : pool.Gone) (action : Action) : (pool.step action).2.Deserted := by
  have hstill := h.toDeserted
  have hcall : ∀ id, pool.call? id = none := fun id => by rw [call?, h.calls, List.find?_nil]
  have hpopulation : ∀ owner, pool.population? owner = none :=
    fun owner => by rw [population?, h.populations, List.find?_nil]
  have hloan : ∀ id, pool.loan? id = none := fun id => by rw [loan?, h.loans, List.find?_nil]
  cases action with
  -- There is no handle.
  | acquire => simpa [Pool.step, startAcquire, h.held] using hstill
  | tryAcquire => simpa [Pool.step, h.held] using hstill
  | populate => simpa [Pool.step, startPopulation, h.held] using hstill
  | release => simpa [Pool.step, h.held] using hstill
  | clear => simpa [Pool.step, h.held] using hstill
  | close => simpa [Pool.step, h.held] using hstill
  | destroy => simpa [Pool.step, h.held] using hstill
  -- There is no call, no population and no loan.
  | cancel => simpa [Pool.step, cancelAcquire, abandonPopulation, hcall, hpopulation] using hstill
  | enter => simpa [Pool.step, Pool.enter, hcall] using hstill
  | resume => simpa [Pool.step, Pool.resume, hcall] using hstill
  | finishConnect => simpa [Pool.step, Pool.finishConnect, hcall] using hstill
  | register => simpa [Pool.step, Pool.register, hcall] using hstill
  | reserve => simpa [Pool.step, Pool.reserve, hpopulation] using hstill
  | finishReserved => simpa [Pool.step, Pool.finishReserved, hpopulation] using hstill
  | settleReserved => simpa [Pool.step, Pool.settleReserved, hpopulation] using hstill
  | drop => simpa [Pool.step, dropLoan, releaseLoan, hloan] using hstill
  | write => simpa [Pool.step, writeLoan, hloan] using hstill
  | establish => simpa [Pool.step, establishLoan, hloan] using hstill
  | destroyConnection => simpa [Pool.step, destroyLoan, hloan] using hstill
  -- There is no task and no timer.
  | tick => simpa [Pool.step, Pool.tick, h.runLoops] using hstill
  | expire => simpa [Pool.step, Pool.expire, h.timers] using hstill
  | maintain => simpa [Pool.step, Pool.maintain, h.maintenance] using hstill
  | abandonMaintenance =>
      simpa [Pool.step, Pool.abandonMaintenance, abandonPopulation, h.maintenance, hpopulation]
        using hstill
  | abandonOpening => simpa [Pool.step, abandonOpening, isOpen, hpopulation] using hstill
  | dropHandle => exact ⟨rfl, h.calls, h.populations, h.loans⟩
  | watch | failNext | failAll | connectDelay | elapse => exact hstill.congr rfl rfl rfl rfl

/-- A pool that is gone stays gone. -/
theorem Gone.after (h : pool.Gone) (action : Action) : (pool.after action).Gone :=
  ((h.step action).fire pool.log.length).collect

/-- A pool that is gone stays gone, whatever happens to it. -/
theorem Gone.run (h : pool.Gone) (history : List Action) : (pool.run history).Gone := by
  induction history generalizing pool with
  | nil => exact h
  | cons action rest ih => exact ih (h.after action)

/-- A pool in which nobody has a part after an action is gone. -/
theorem after_gone {action : Action} (h : (pool.after action).isAlive = false) :
    (pool.after action).Gone := by
  have hdeserted : ((pool.step action).2.fire pool.log.length).Deserted := by
    rw [← not_alive, ← collect_alive]
    exact h
  exact hdeserted.collect

/-- A pool in which somebody has a part gives no idle connection up. -/
theorem forsaken_alive {action : Action} (h : (pool.after action).isAlive = true) :
    pool.forsaken action = 0 := by
  have halive : ((pool.step action).2.fire pool.log.length).isAlive = true := by
    rw [← collect_alive]
    exact h
  rw [forsaken]
  exact if_pos halive

end ConnectionPool.Pool
