import ConnectionPool.Proofs.Closed
import ConnectionPool.Proofs.Pool.Aside
import ConnectionPool.Proofs.RunLoop

/-!
# The maintenance task

The maintenance task starts when the opening of the pool is over, and only its own ticks start
runs of it, never in a closed pool. So as long as the pool is being opened there is neither a
task nor a run; and if there is a task in a closed pool, because it was closed before its
opening was over, then no run is under way: `Reachable.orderly`.
-/

namespace ConnectionPool.Pool

variable {pool middle next : Pool} {action : Action}

/-- A population is found just if its owner is one of those who run populations. -/
theorem population_isSome (pool : Pool) (owner : Owner) :
    (pool.population? owner).isSome = true ↔ owner ∈ pool.owners := by
  simp [population?, owners, List.find?_isSome]

/-- What happens to the populations and the maintenance task. Only callers and the ticks of a
maintenance task start populations, and the task starts when the opening is over, if there is to
be one. -/
structure Staffs (pool next : Pool) : Prop where
  staff : ∀ owner ∈ next.owners, owner ∈ pool.owners ∨ (∃ id, owner = .call id) ∨
    owner = .maintenance ∧ pool.maintenance ≠ none ∧ pool.isClosed = false
  maintenance : next.maintenance ≠ none →
    pool.maintenance ≠ none ∨
      (.opening ∈ pool.owners ∧ .opening ∉ next.owners) ∧ pool.config.maintenanceInterval ≠ none

/-- A steady pool starts nothing. -/
theorem Steady.staffs (h : pool.Steady next) : pool.Staffs next where
  staff := fun owner howner => .inl (h.staff owner howner)
  maintenance := fun hnext => .inl (h.maintenance ▸ hnext)

/-- A pool that stops its maintenance task starts nothing. -/
theorem Staffs.of_stopped (hstaff : ∀ owner ∈ next.owners, owner ∈ pool.owners)
    (hmaintenance : next.maintenance = none) : pool.Staffs next where
  staff := fun owner howner => .inl (hstaff owner howner)
  maintenance := fun hnext => absurd hmaintenance hnext

/-- A pool may end or drop populations or its maintenance task after it is staffed. -/
theorem Staffs.then_kept (first : pool.Staffs middle)
    (hpopulations : next.populations = middle.populations)
    (hmaintenance : next.maintenance = middle.maintenance ∨ next.maintenance = none) :
    pool.Staffs next := by
  have howners : next.owners = middle.owners := by rw [Pool.owners, Pool.owners, hpopulations]
  refine ⟨fun owner howner => first.staff owner (howners ▸ howner), fun hnext => ?_⟩
  rcases hmaintenance with hsame | hnone
  · rw [howners]
    exact first.maintenance (hsame ▸ hnext)
  · exact absurd hnone hnext

/-! ## What starts and stops -/

/-- A population that moves on has the owner that it had. -/
theorem set_population_steady (pool : Pool) (stock : Inventory) (owner : Owner) (added : Nat)
    (phase : PopulationPhase) :
    pool.Steady ({ pool with stock := stock }.setPopulation owner added phase) where
  staff := by
    intro other hother
    obtain ⟨population, hpopulation, rfl⟩ := List.mem_map.1 hother
    obtain ⟨before, hbefore, rfl⟩ := List.mem_map.1 hpopulation
    have hmem : before.owner ∈ pool.owners := List.mem_map_of_mem hbefore
    split
    · next howner => exact howner ▸ hmem
    · exact hmem
  maintenance := rfl

/-- The end of a population starts the maintenance task if it was that of the opening. -/
theorem finish_population_staffs {stock : Inventory} (hconfig : stock.config = pool.config)
    {owner : Owner} (howner : owner ∈ pool.owners) (result : CallResult) :
    pool.Staffs ({ pool with stock := stock }.finishPopulation owner result) := by
  have hremoved := (remove_population_steady pool stock owner).staffs
  cases owner with
  | opening =>
      refine ⟨hremoved.staff, fun hstarted => .inr ⟨⟨howner, ?_⟩, ?_⟩⟩
      · intro hleft
        obtain ⟨population, hpopulation, hopening⟩ := List.mem_map.1 hleft
        have hother := (List.mem_filter.1 hpopulation).2
        simp [hopening] at hother
      · intro hnone
        refine hstarted ?_
        show stock.config.maintenanceInterval.bind _ = none
        rw [hconfig, hnone, Option.bind_none]
  | call id => exact ⟨hremoved.staff, hremoved.maintenance⟩
  | maintenance => exact ⟨hremoved.staff, hremoved.maintenance⟩

/-- The owner of a population that is found runs one. -/
theorem owner_of_found {owner : Owner} {population : Population}
    (hfind : pool.population? owner = some population) : owner ∈ pool.owners :=
  (population_isSome pool owner).1 (Option.isSome_iff_exists.2 ⟨population, hfind⟩)

/-- What each action does to the populations and the maintenance task by itself. -/
theorem step_staffs (pool : Pool) (action : Action) : pool.Staffs (pool.step action).2 := by
  have hstill := (Aside.refl pool).steady.staffs
  cases haside : action.isAside with
  | true => exact (step_aside haside).steady.staffs
  | false =>
      cases action with
      | populate id =>
          simp only [step, startPopulation]
          split
          · refine ⟨fun owner howner => ?_, fun hnext => .inl hnext⟩
            rw [owners, List.map_append, List.mem_append] at howner
            rcases howner with hold | hnew
            · exact .inl hold
            · exact .inr (.inl ⟨id, List.mem_singleton.1 hnew⟩)
          · exact hstill
      | release connection force =>
          rw [step_release, releaseLoan]
          split
          · split <;> exact Steady.staffs (.of_same rfl rfl)
          · exact hstill
      | drop connection =>
          simp only [step, dropLoan, releaseLoan]
          split <;> exact Steady.staffs (.of_same rfl rfl)
      | write connection bytes =>
          rw [step_write, writeLoan]
          split <;> exact Steady.staffs (.of_same rfl rfl)
      | establish connection =>
          rw [step_establish, establishLoan]
          split <;> exact Steady.staffs (.of_same rfl rfl)
      | destroyConnection connection =>
          simp only [step, destroyLoan]
          split <;> exact Steady.staffs (.of_same rfl rfl)
      | close =>
          simp only [step, close]
          split
          · split
            · exact hstill
            · exact .of_stopped (settle_aside
                { pool with stock := { pool.stock with closed := true } } _).steady.staff rfl
          · exact hstill
      | destroy =>
          have hsettled := (settle_aside pool.stopped pool.stopped.queue.destroy).steady
          simp only [step]
          split
          · exact .of_stopped hsettled.staff hsettled.maintenance
          · exact hstill
      | finishConnect id =>
          simp only [step, finishConnect]
          split
          · split
            · exact Steady.staffs (.of_same rfl rfl)
            · exact hstill
          · exact hstill
      | reserve owner =>
          simp only [step, reserve]
          split
          · next hfind =>
              split
              · exact finish_population_staffs rfl (owner_of_found hfind) _
              · exact (set_population_steady pool _ owner _ _).staffs
          · exact hstill
      | finishReserved owner =>
          simp only [step, finishReserved]
          split
          · split
            · exact (set_population_steady pool _ owner _ _).staffs
            · exact hstill
          · exact hstill
      | settleReserved owner =>
          simp only [step, settleReserved]
          split
          · next hfind =>
              split
              · split <;> exact (set_population_steady pool _ owner _ _).staffs
              · exact finish_population_staffs (by rw [Inventory.discard_eq]; rfl)
                  (owner_of_found hfind) _
          · exact hstill
      | maintain =>
          simp only [step, maintain]
          split
          · next due interval hmaintenance _ =>
              split
              · split
                · exact .of_stopped (fun _ howner => howner) rfl
                · next hopen =>
                    have hsome : pool.maintenance ≠ none := by simp [hmaintenance]
                    refine ⟨fun owner howner => ?_, fun _ => .inl hsome⟩
                    rw [owners, List.map_append, List.mem_append] at howner
                    rcases howner with hold | hnew
                    · exact .inl hold
                    · exact .inr (.inr ⟨List.mem_singleton.1 hnew, hsome, by simpa using hopen⟩)
              · exact hstill
          · exact hstill
      | _ => cases haside

/-- What each action does to the populations and the maintenance task, whatever its events set
off. -/
theorem after_staffs (pool : Pool) (action : Action) : pool.Staffs (pool.after action) := by
  obtain ⟨calls, queue, wires, departures, hafter⟩ := after_frame pool action
  rw [hafter, collect]
  refine (step_staffs pool action).then_kept ?_ ?_
  · split <;> rfl
  · split
    · exact .inl rfl
    · exact .inr rfl

/-! ## The opening, the task and its runs -/

/-- As long as the pool is being opened there is neither a maintenance task nor a run of it, and
no run is under way in a closed pool that has a task. There is a task only if there is to be
one. -/
structure Orderly (pool : Pool) : Prop where
  opening : .opening ∈ pool.owners → pool.maintenance = none ∧ .maintenance ∉ pool.owners
  closed : pool.isClosed = true → pool.maintenance ≠ none → .maintenance ∉ pool.owners
  interval : pool.maintenance ≠ none → pool.config.maintenanceInterval ≠ none

/-- A pool that advances is neither closed nor reopened. -/
theorem Advances.closed_eq (h : pool.Advances next) : next.isClosed = pool.isClosed := by
  have hmoves : ∀ {final : Holdings}, Moves pool.holdings final →
      final.stock.closed = pool.isClosed :=
    fun moves => moves.preserves (fun move hsame => move.closed_eq.trans hsame) rfl
  have hturn := h.turn
  show next.holdings.stock.closed = pool.isClosed
  generalize next.holdings = final at hturn
  cases hturn with
  | moves moves => exact hmoves moves
  | announced moves last =>
      have hmiddle := hmoves moves
      cases last with
      | mk => exact hmiddle

/-- What events set off and the end of a pool neither close nor reopen it. -/
theorem after_closed_eq (pool : Pool) (action : Action) :
    (pool.after action).isClosed = (pool.step action).2.isClosed := by
  obtain ⟨calls, queue, wires, departures, hafter⟩ := after_frame pool action
  rw [hafter, collect]
  split <;> rfl

/-- A pool that an action closes has no maintenance task after it. -/
theorem Reachable.closing_stops (h : pool.Reachable) (hopen : pool.isClosed = false)
    (hclosed : (pool.after action).isClosed = true) : (pool.after action).maintenance = none := by
  obtain ⟨hcoherent, hcustody⟩ := h.sound
  rw [after_closed_eq] at hclosed
  have hstopped : (pool.step action).2.maintenance = none := by
    by_cases hclosing : action = .close ∨ action = .destroy
    · rcases hclosing with rfl | rfl
      · simp only [Pool.step] at hclosed ⊢
        split
        · rw [close, if_neg (by simp [hopen])]
        · next hheld =>
            rw [if_neg hheld, hopen] at hclosed
            cases hclosed
      · simp only [Pool.step] at hclosed ⊢
        split
        · exact (settle_aside pool.stopped _).steady.maintenance
        · next hheld =>
            rw [if_neg hheld, hopen] at hclosed
            cases hclosed
    · rw [not_or] at hclosing
      have hsame :=
        (step_advances hcoherent hcustody.loans_booked hclosing.1 hclosing.2).closed_eq
      rw [hsame, hopen] at hclosed
      cases hclosed
  obtain ⟨calls, queue, wires, departures, hafter⟩ := after_frame pool action
  rw [hafter, collect]
  split
  · exact hstopped
  · rfl

/-- Every action keeps the opening, the maintenance task and its runs in order. -/
theorem Orderly.after (h : pool.Orderly) (hreachable : pool.Reachable) (action : Action) :
    (pool.after action).Orderly where
  opening := by
    intro hopening
    have hstaffs := after_staffs pool action
    have hbefore : .opening ∈ pool.owners := by
      rcases hstaffs.staff _ hopening with hold | ⟨id, hid⟩ | ⟨hmaintenance, -⟩
      · exact hold
      · cases hid
      · cases hmaintenance
    obtain ⟨hnone, hidle⟩ := h.opening hbefore
    constructor
    · by_contra hsome
      rcases hstaffs.maintenance hsome with hold | ⟨⟨-, hover⟩, -⟩
      · exact hold hnone
      · exact hover hopening
    · intro hrun
      rcases hstaffs.staff _ hrun with hold | ⟨id, hid⟩ | ⟨-, hsome, -⟩
      · exact hidle hold
      · cases hid
      · exact hsome hnone
  closed := by
    intro hclosed hsome hrun
    have hstaffs := after_staffs pool action
    cases hbefore : pool.isClosed with
    | false => exact hsome (hreachable.closing_stops hbefore hclosed)
    | true =>
        have hold : .maintenance ∈ pool.owners := by
          rcases hstaffs.staff _ hrun with hold | ⟨id, hid⟩ | ⟨-, -, hopen⟩
          · exact hold
          · cases hid
          · rw [hbefore] at hopen
            cases hopen
        rcases hstaffs.maintenance hsome with hthere | ⟨⟨hopening, -⟩, -⟩
        · exact h.closed hbefore hthere hold
        · exact (h.opening hopening).2 hold
  interval := by
    intro hsome
    rw [show (pool.after action).config = pool.config from (hreachable.step action).later.config]
    exact ((after_staffs pool action).maintenance hsome).elim h.interval And.right

/-- In a pool that can be reached the opening, the maintenance task and its runs are in order. -/
theorem Reachable.orderly (h : pool.Reachable) : pool.Orderly := by
  induction h with
  | opened hcreate =>
      unfold create at hcreate
      split at hcreate
      · cases hcreate
      · cases hcreate
        exact ⟨fun _ => ⟨rfl, by simp [owners]⟩, fun _ hsome => absurd rfl hsome,
          fun hsome => absurd rfl hsome⟩
  | after h action ih => exact ih.after h action

end ConnectionPool.Pool
