import ConnectionPool.Proofs.Maintenance

/-!
# What actions do to the population of an owner

An owner runs one population at a time. `Fills` lists what may become of it at an action: it
starts, makes a connection, connects it, registers it, returns, or is dropped. `after_fills`
proves that of all actions; those that are not about populations leave them alone.
-/

namespace ConnectionPool

/-- The action may start, move on or end a population. -/
def Action.isFilling : Action → Bool
  | .cancel _ | .populate _ | .abandonOpening | .reserve _ | .finishReserved _ | .settleReserved _
  | .maintain | .abandonMaintenance => true
  | _ => false

/-- The action drops the population of the owner where it is. -/
def Action.Drops (action : Action) (owner : Owner) : Prop :=
  (∃ id, action = .cancel id ∧ owner = .call id) ∨
    action = .abandonOpening ∧ owner = .opening ∨
    action = .abandonMaintenance ∧ owner = .maintenance

namespace Pool

variable {pool : Pool} {owner other : Owner} {action : Action}

/-! ## Actions that are not about populations -/

/-- A call that enters the line is no population. -/
theorem enter_populations (pool : Pool) (id : Nat) :
    (pool.enter id).populations = pool.populations := by
  unfold enter
  split
  · split
    · rfl
    · split
      · rfl
      · dsimp only
        split <;> split <;> rfl
  · rfl

/-- A call that announces its connection is no population. -/
theorem announce_populations (pool : Pool) (id : Nat) (connection : Connection) :
    (pool.announce id connection).populations = pool.populations := by
  unfold announce
  split
  · dsimp only
    split <;> rfl
  · rfl

/-- A call that is given up is no population. -/
theorem cancel_acquire_populations (pool : Pool) (id : Nat) :
    (pool.cancelAcquire id).populations = pool.populations := by
  unfold cancelAcquire
  split <;> rfl

/-- Taking over an outcome of the line is no matter of populations. -/
theorem settle_populations (pool : Pool) (outcome : WaitQueue.Outcome Nat Connection) :
    (pool.settle outcome).populations = pool.populations := by
  obtain ⟨_, _, hframe⟩ := settle_frame pool outcome
  rw [hframe]

/-- A connection that comes back is no matter of populations. -/
theorem release_loan_populations (pool : Pool) (connection : Nat) (force : Bool) :
    (pool.releaseLoan connection force).2.populations = pool.populations := by
  unfold releaseLoan
  split <;> rfl

/-- Attending to the head of the line is no matter of populations. -/
theorem attend_populations (pool : Pool) (lost : List Nat) :
    (pool.attend lost).2.populations = pool.populations := by
  unfold attend
  split
  · generalize pool.stock.lend = lent
    obtain ⟨resource, stock⟩ := lent
    obtain ⟨_, _, _, _, hfire⟩ := fire_frame { pool with stock := stock } pool.log.length
    obtain ⟨_, _, hlost⟩ := lose_all_frame ({ pool with stock := stock }.fire pool.log.length)
      lost
    have hsame : (({ pool with stock := stock }.fire pool.log.length).loseAll lost).populations =
        pool.populations := by rw [hlost, hfire]
    dsimp only
    split
    · exact (settle_populations _ _).trans hsame
    · exact (settle_populations _ _).trans hsame
    · exact (settle_populations _ _).trans hsame
  · split <;> exact settle_populations pool _

/-- An action that is not about populations leaves them alone. -/
theorem step_populations (h : action.isFilling = false) :
    (pool.step action).2.populations = pool.populations := by
  cases action with
  | cancel | populate | abandonOpening | reserve | finishReserved | settleReserved | maintain
  | abandonMaintenance => cases h
  | acquire call =>
      simp only [step, startAcquire]
      split <;> rfl
  | tryAcquire =>
      simp only [step, tryAcquire]
      split
      · split
        · rfl
        · split
          · split <;> rfl
          · rfl
      · rfl
  | release connection force =>
      rw [step_release]
      split
      · exact release_loan_populations pool connection force
      · rfl
  | drop connection => exact release_loan_populations pool connection false
  | write connection bytes =>
      rw [step_write, writeLoan]
      split <;> rfl
  | establish connection =>
      rw [step_establish, establishLoan]
      split <;> rfl
  | destroyConnection connection =>
      simp only [step, destroyLoan]
      split <;> rfl
  | clear =>
      simp only [step]
      split <;> rfl
  | close =>
      simp only [step, close]
      split
      · split
        · rfl
        · exact settle_populations { pool with stock := { pool.stock with closed := true } } _
      · rfl
  | destroy =>
      simp only [step]
      split
      · exact settle_populations pool.stopped _
      · rfl
  | watch | dropHandle | failNext | failAll | connectDelay | elapse => rfl
  | enter call => exact enter_populations pool call
  | resume call =>
      simp only [step, resume]
      split
      · rfl
      · split
        · exact announce_populations pool call _
        · rfl
        · rfl
      · rfl
  | finishConnect call =>
      simp only [step, finishConnect]
      split
      · split <;> rfl
      · rfl
  | register call =>
      simp only [step, register]
      split
      · exact announce_populations _ call _
      · rfl
      · rfl
  | tick runLoop lost =>
      have hattend := attend_populations pool lost
      simp only [step, tick]
      generalize pool.attend lost = attended at hattend
      split
      · rfl
      · split
        · split <;> exact hattend
        · rfl
  | expire member =>
      simp only [step, expire]
      split
      · split
        · exact settle_populations _ _
        · rfl
      · rfl

/-- What an action sets off is no matter of populations. -/
theorem after_populations (pool : Pool) (action : Action) :
    (pool.after action).populations = (pool.step action).2.populations := by
  obtain ⟨calls, queue, wires, departures, hafter⟩ := after_frame pool action
  rw [hafter, collect]
  split <;> rfl

/-! ## Looking up a population -/

/-- Who looks up a population after one moved on finds that one as it is now. -/
theorem population_set (pool : Pool) (stock : Inventory) (owner other : Owner) (added : Nat)
    (phase : PopulationPhase) :
    ({ pool with stock := stock }.setPopulation owner added phase).population? other =
      (pool.population? other).map fun population =>
        if population.owner = owner then ⟨owner, added, phase⟩ else population := by
  have hkeeps : ∀ population : Population,
      (if population.owner = owner then (⟨owner, added, phase⟩ : Population)
        else population).owner = population.owner := by
    intro population
    split
    · next howner => exact howner.symm
    · rfl
  simp only [population?, setPopulation, List.find?_map, Function.comp_def, hkeeps]

/-- Who looks up a population after one was taken off the list finds the others. -/
theorem population_removed (pool : Pool) (owner other : Owner) :
    (pool.removePopulation owner).population? other =
      if other = owner then none else pool.population? other := by
  simp only [population?, removePopulation, List.find?_filter]
  split
  · next hsame =>
      subst hsame
      refine List.find?_eq_none.2 fun population _ hfound => ?_
      simp at hfound
  · next hne =>
      refine congrArg (fun test => pool.populations.find? test) (funext fun population => ?_)
      by_cases howner : population.owner = other
      · simp [howner, hne]
      · simp [howner]

/-- Who looks up a population after one was started finds it unless there was one. -/
theorem population_enlisted (pool : Pool) (population : Population) (other : Owner) :
    { pool with populations := pool.populations ++ [population] }.population? other =
      (pool.population? other).or (if population.owner = other then some population
        else none) := by
  simp only [population?, List.find?_append, List.find?_singleton, beq_iff_eq]

/-- A population bears the name of its owner. -/
theorem population_owner {population : Population}
    (hfind : pool.population? owner = some population) : population.owner = owner := by
  simpa using List.find?_some hfind

/-- The end of a population tells its caller or starts a task, and takes it off the list. -/
theorem finish_population_removed (pool : Pool) (owner : Owner) (result : CallResult) :
    (pool.finishPopulation owner result).populations =
      (pool.removePopulation owner).populations := by
  cases owner <;> rfl

/-! ## What becomes of a population -/

/-- What becomes of the population of the owner at an action: before it and after it. -/
inductive Fills (pool : Pool) (owner : Owner) :
    Action → Option Population → Option Population → Prop where
  | still {action : Action} {population : Option Population} :
      Fills pool owner action population population
  | starts {action : Action} : Fills pool owner action none (some ⟨owner, 0, .reserving⟩)
  | creates {added : Nat} {due : Instant} (wanted : isFilled pool.stock = false) :
      Fills pool owner (.reserve owner) (some ⟨owner, added, .reserving⟩)
        (some ⟨owner, added, .connecting pool.stock.newborn due⟩)
  | returns {added : Nat} (filled : isFilled pool.stock = true) :
      Fills pool owner (.reserve owner) (some ⟨owner, added, .reserving⟩) none
  | connects {added : Nat} {connection dialled : Connection} {due : Instant}
      {outcome : Except LinkError Unit} (same : dialled.info = connection.info) :
      Fills pool owner (.finishReserved owner) (some ⟨owner, added, .connecting connection due⟩)
        (some ⟨owner, added, .connected dialled outcome⟩)
  | stocks {added : Nat} {connection : Connection}
      (wanted : pool.stock.returnReason? connection = none) :
      Fills pool owner (.settleReserved owner)
        (some ⟨owner, added, .connected connection (.ok ())⟩)
        (some ⟨owner, added + 1, .reserving⟩)
  | refuses {added : Nat} {connection : Connection}
      (unwanted : pool.stock.returnReason? connection ≠ none) :
      Fills pool owner (.settleReserved owner)
        (some ⟨owner, added, .connected connection (.ok ())⟩) (some ⟨owner, added, .reserving⟩)
  | fails {added : Nat} {connection : Connection} {error : LinkError} :
      Fills pool owner (.settleReserved owner)
        (some ⟨owner, added, .connected connection (.error error)⟩) none
  | dropped {action : Action} {population : Option Population} (drops : action.Drops owner) :
      Fills pool owner action population none

/-- Another population moves on, or this one does. -/
theorem fills_set {population : Population} {stock : Inventory} {added : Nat}
    {phase : PopulationPhase} (hfind : pool.population? owner = some population)
    (hown : pool.Fills owner action (some population) (some ⟨owner, added, phase⟩))
    (other : Owner) :
    pool.Fills other action (pool.population? other)
      (({ pool with stock := stock }.setPopulation owner added phase).population? other) := by
  rw [population_set]
  by_cases hsame : other = owner
  · subst hsame
    rw [hfind, Option.map_some, if_pos (population_owner hfind)]
    exact hown
  · cases hother : pool.population? other with
    | none => exact .still
    | some found =>
        rw [Option.map_some, if_neg fun howner =>
          hsame ((population_owner hother).symm.trans howner)]
        exact .still

/-- Another population ends, or this one does. -/
theorem fills_removed {next : Pool} (hnext : next.populations =
    (pool.removePopulation owner).populations)
    (hown : pool.Fills owner action (pool.population? owner) none) (other : Owner) :
    pool.Fills other action (pool.population? other) (next.population? other) := by
  have hlookup : next.population? other = (pool.removePopulation owner).population? other := by
    rw [population?, hnext, ← population?]
  rw [hlookup, population_removed]
  split
  · next hsame => exact hsame ▸ hown
  · exact .still

/-- Another population starts, or this one does. -/
theorem fills_enlisted {next : Pool}
    (hnext : next.populations = pool.populations ++ [⟨owner, 0, .reserving⟩])
    (hfresh : pool.population? owner = none) (other : Owner) :
    pool.Fills other action (pool.population? other) (next.population? other) := by
  have hlookup : next.population? other =
      ({ pool with populations := pool.populations ++ [⟨owner, 0, .reserving⟩] } :
        Pool).population?
        other := by
    rw [population?, hnext]
    rfl
  rw [hlookup, population_enlisted]
  by_cases hsame : owner = other
  · subst hsame
    rw [hfresh, if_pos rfl]
    exact .starts
  · rw [if_neg hsame, Option.or_none]
    exact .still

/-- A population that is dropped is taken off the list. -/
theorem fills_abandoned (howner : action.Drops owner) (other : Owner) :
    pool.Fills other action (pool.population? other)
      ((pool.abandonPopulation owner).population? other) := by
  unfold abandonPopulation
  split
  · exact .still
  · dsimp only
    split <;> exact fills_removed rfl (.dropped howner) other

/-- What an action by itself does to the population of an owner. -/
theorem step_fills (pool : Pool) (action : Action) (other : Owner) :
    pool.Fills other action (pool.population? other)
      ((pool.step action).2.population? other) := by
  cases hfilling : action.isFilling with
  | false =>
      have hsame : (pool.step action).2.population? other = pool.population? other := by
        rw [population?, step_populations hfilling, ← population?]
      rw [hsame]
      exact .still
  | true =>
      cases action with
      | cancel id =>
          have hsame : pool.population? other = (pool.cancelAcquire id).population? other := by
            rw [population?, population?, cancel_acquire_populations]
          have hdrops : (Action.cancel id).Drops (.call id) := .inl ⟨id, rfl, rfl⟩
          have hdropped := @fills_abandoned (pool.cancelAcquire id) _ _ hdrops other
          rw [hsame]
          show pool.Fills other (.cancel id) _
            (((pool.cancelAcquire id).abandonPopulation (.call id)).population? other)
          generalize ((pool.cancelAcquire id).abandonPopulation (.call id)).population? other =
            after
            at hdropped ⊢
          generalize (pool.cancelAcquire id).population? other = before at hdropped ⊢
          cases hdropped with
          | still => exact .still
          | starts => exact .starts
          | dropped drops => exact .dropped drops
      | populate id =>
          simp only [step, startPopulation]
          split
          · next hfree =>
              rw [Bool.and_eq_true, Bool.and_eq_true, Option.isNone_iff_eq_none] at hfree
              exact fills_enlisted rfl hfree.1.2 other
          · exact .still
      | abandonOpening =>
          simp only [step, abandonOpening]
          split
          · exact .still
          · have hdrops : Action.abandonOpening.Drops .opening := .inr (.inl ⟨rfl, rfl⟩)
            exact fills_abandoned hdrops other
      | reserve owner =>
          simp only [step, reserve]
          split
          · next hfind =>
              obtain rfl := population_owner hfind
              split
              · next hfilled =>
                  refine fills_removed (finish_population_removed pool _ _) ?_ other
                  rw [hfind]
                  exact .returns hfilled
              · next hwanted =>
                  exact fills_set hfind (.creates (Bool.not_eq_true _ ▸ hwanted)) other
          · exact .still
      | finishReserved owner =>
          simp only [step, finishReserved]
          split
          · next hfind =>
              obtain rfl := population_owner hfind
              split
              · exact fills_set hfind (.connects (Connection.connect_info _ _ _)) other
              · exact .still
          · exact .still
      | settleReserved owner =>
          simp only [step, settleReserved]
          split
          · next named added connection outcome hfind =>
              obtain rfl : named = owner := population_owner hfind
              have hreason : ({ pool.stock with pending := pool.stock.pending - 1 }.emit
                  (.ready connection.info)).returnReason? connection =
                    pool.stock.returnReason? connection := rfl
              cases outcome with
              | ok done =>
                  dsimp only
                  rw [hreason]
                  split
                  · next reason hunwanted =>
                      exact fills_set hfind (.refuses (by simp [hunwanted])) other
                  · next hwanted => exact fills_set hfind (.stocks hwanted) other
              | error error =>
                  dsimp only
                  refine @fills_removed pool named _ _ ?_ ?_ other
                  · exact finish_population_removed _ _ _
                  · rw [hfind]
                    exact .fails
          · exact .still
      | maintain =>
          simp only [step, maintain]
          split
          · split
            · next hdue =>
                split
                · exact .still
                · rw [Bool.and_eq_true, Bool.not_eq_true'] at hdue
                  have hfresh : pool.population? .maintenance = none := by
                    simpa [isMaintaining] using hdue.2
                  exact fills_enlisted rfl hfresh other
            · exact .still
          · exact .still
      | abandonMaintenance =>
          simp only [step, abandonMaintenance]
          split
          · have hdrops : Action.abandonMaintenance.Drops .maintenance := .inr (.inr ⟨rfl, rfl⟩)
            exact fills_abandoned hdrops other
          · exact .still
      | _ => cases hfilling

/-- What becomes of the population of an owner at an action, whatever its events set off. -/
theorem after_fills (pool : Pool) (action : Action) (owner : Owner) :
    pool.Fills owner action (pool.population? owner) ((pool.after action).population? owner) := by
  have hlookup : (pool.after action).population? owner =
      (pool.step action).2.population? owner := by
    rw [population?, after_populations, ← population?]
  rw [hlookup]
  exact step_fills pool action owner

end Pool

end ConnectionPool
