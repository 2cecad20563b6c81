import ConnectionPool.Proofs.Pool.Aside

/-!
# Who has a connection on loan

A connection on loan is its borrower's. Only what the borrower does to it, and its coming back,
change it or take it off the loans; all other actions leave the loans as they are and may add
one at the end: `after_lends`.
-/

namespace ConnectionPool

/-- The action is done by the borrower of a connection on loan. -/
def Action.isBorrowers : Action → Bool
  | .release .. | .drop _ | .write .. | .establish _ | .destroyConnection _ => true
  | _ => false

namespace Pool

variable {pool : Pool} {action : Action}

/-- A population that ends borrowed nothing. -/
theorem finish_population_loans (pool : Pool) (owner : Owner) (result : CallResult) :
    (pool.finishPopulation owner result).loans = pool.loans := by
  cases owner <;> rfl

/-- A population that registers the outcome of its connect lends nothing. -/
theorem settle_reserved_loans (pool : Pool) (owner : Owner) :
    (pool.settleReserved owner).loans = pool.loans := by
  unfold settleReserved
  split
  · dsimp only
    split
    · split <;> rfl
    · exact finish_population_loans _ owner _
  · rfl

/-- An action that is not a borrower's leaves the loans as they are, but for new ones. -/
theorem step_lends (haction : action.isBorrowers = false) : pool.Lends (pool.step action).2 := by
  cases haside : action.isAside with
  | true => exact (step_aside haside).lends
  | false =>
      cases action with
      | release | drop | write | establish | destroyConnection => cases haction
      | populate call =>
          simp only [step, startPopulation]
          split <;> exact .nothing rfl
      | close =>
          simp only [step, close]
          split
          · split
            · exact .nothing rfl
            · exact (settle_aside { pool with stock := { pool.stock with closed := true } }
                _).lends
          · exact .nothing rfl
      | destroy =>
          simp only [step]
          split
          · exact (settle_aside pool.stopped _).lends
          · exact .nothing rfl
      | finishConnect call =>
          simp only [step, finishConnect]
          split
          · split <;> exact .nothing rfl
          · exact .nothing rfl
      | reserve owner =>
          simp only [step, reserve]
          split
          · split
            · exact .nothing (finish_population_loans pool owner _)
            · exact .nothing rfl
          · exact .nothing rfl
      | finishReserved owner =>
          simp only [step, finishReserved]
          split
          · split <;> exact .nothing rfl
          · exact .nothing rfl
      | settleReserved owner => exact .nothing (settle_reserved_loans pool owner)
      | maintain =>
          simp only [step, maintain]
          split
          · split
            · split <;> exact .nothing rfl
            · exact .nothing rfl
          · exact .nothing rfl
      | _ => cases haside

/-- What events set off and the end of a pool leave the loans as they are. -/
theorem after_loans_step (pool : Pool) (action : Action) :
    (pool.after action).loans = (pool.step action).2.loans := by
  obtain ⟨calls, queue, wires, departures, hafter⟩ := after_frame pool action
  rw [hafter, collect]
  split <;> rfl

/-- An action that is not a borrower's leaves the loans as they are, but for new ones, whatever
its events set off. -/
theorem after_lends (haction : action.isBorrowers = false) : pool.Lends (pool.after action) := by
  obtain ⟨new, hnew⟩ : pool.Lends (pool.step action).2 := step_lends haction
  exact ⟨new, (after_loans_step pool action).trans hnew⟩

end Pool

end ConnectionPool
