import ConnectionPool.Proofs.Pool.Aside

/-!
# Who connects links

A successful connect is counted by the network. Only three actions finish a connect: that of a
call, that of a population, and that of a borrower who establishes a connection on loan. All
other actions leave the count as it is: `after_connects`.
-/

namespace ConnectionPool

/-- The action may finish a connect. -/
def Action.isDial : Action → Bool
  | .finishConnect _ | .finishReserved _ | .establish _ => true
  | _ => false

namespace Pool

variable {pool : Pool} {action : Action}

/-- A population that ends connects nothing. -/
theorem finish_population_connects (pool : Pool) (owner : Owner) (result : CallResult) :
    (pool.finishPopulation owner result).connects = pool.connects := by
  cases owner <;> rfl

/-- Giving a connection back connects nothing. -/
theorem release_loan_connects (pool : Pool) (id : Nat) (force : Bool) :
    (pool.releaseLoan id force).2.connects = pool.connects := by
  unfold releaseLoan
  split
  · rfl
  · exact Inventory.release_connects _ _ _

/-- Closing a pool connects nothing. -/
theorem close_connects (pool : Pool) : pool.close.connects = pool.connects := by
  unfold close
  split
  · rfl
  · exact (Inventory.close_idle_connects _ _).trans (settle_aside _ _).connects

/-- Destroying a pool connects nothing. -/
theorem destroy_connects (pool : Pool) : pool.destroy.connects = pool.connects :=
  (Inventory.scrap_idle_connects _).trans (settle_aside pool.stopped _).connects

/-- A population that makes the next connection does not connect it yet. -/
theorem reserve_connects (pool : Pool) (owner : Owner) :
    (pool.reserve owner).connects = pool.connects := by
  unfold reserve
  split
  · split
    · exact finish_population_connects pool owner _
    · exact Inventory.create_connects { pool.stock with pending := pool.stock.pending + 1 }
  · rfl

/-- A population that registers the outcome of its connect connects nothing. -/
theorem settle_reserved_connects (pool : Pool) (owner : Owner) :
    (pool.settleReserved owner).connects = pool.connects := by
  unfold settleReserved
  split
  · dsimp only
    split
    · split
      · exact Inventory.discard_connects _ _ _
      · rfl
    · refine (finish_population_connects _ owner _).trans ?_
      exact Inventory.discard_connects _ _ _
  · rfl

/-- An action that finishes no connect leaves the count of connects as it is. -/
theorem step_connects (hdial : action.isDial = false) :
    (pool.step action).2.connects = pool.connects := by
  cases haside : action.isAside with
  | true => exact (step_aside haside).connects
  | false =>
      cases action with
      | finishConnect | finishReserved | establish => cases hdial
      | populate call =>
          simp only [step, startPopulation]
          split <;> rfl
      | release connection force =>
          rw [step_release]
          split
          · exact release_loan_connects pool connection force
          · rfl
      | drop connection => exact release_loan_connects pool connection false
      | write connection bytes =>
          rw [step_write, writeLoan]
          split
          · rfl
          · exact Connection.write_connects _ bytes _ _
      | destroyConnection connection =>
          simp only [step, destroyLoan]
          split
          · rfl
          · exact Connection.destroy_connects _ _
      | close =>
          simp only [step]
          split
          · exact close_connects pool
          · rfl
      | destroy =>
          simp only [step]
          split
          · exact destroy_connects pool
          · rfl
      | reserve owner => exact reserve_connects pool owner
      | settleReserved owner => exact settle_reserved_connects pool owner
      | maintain =>
          simp only [step, maintain]
          split
          · split
            · split <;> rfl
            · rfl
          · rfl
      | _ => cases haside

/-- What events set off and the end of a pool leave the count of connects as it is. -/
theorem after_connects_step (pool : Pool) (action : Action) :
    (pool.after action).connects = (pool.step action).2.connects := by
  obtain ⟨calls, queue, wires, departures, hafter⟩ := after_frame pool action
  rw [hafter, collect]
  split
  · rfl
  · exact Inventory.scrap_idle_connects _

/-- An action that finishes no connect leaves the count of connects as it is, whatever its
events set off. -/
theorem after_connects (hdial : action.isDial = false) :
    (pool.after action).connects = pool.connects :=
  (after_connects_step pool action).trans (step_connects hdial)

end Pool

end ConnectionPool
