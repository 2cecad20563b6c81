import ConnectionPool.Proofs.Pool.Lifecycle
import ConnectionPool.Proofs.Pool.Observers
import ConnectionPool.Proofs.Pool.Steps

/-!
# What most actions leave alone

Most actions finish no connect, leave every connection on loan to its borrower as it is, start
no population, and neither start nor stop the maintenance task. `Aside` says so of a pool and
what it comes to, and `step_aside` proves it for every action that is not about these matters.
-/

namespace ConnectionPool

/-- The action is about neither connects nor loans, nor about populations and the maintenance
task. -/
def Action.isAside : Action → Bool
  | .populate _ | .release .. | .drop _ | .write .. | .establish _ | .destroyConnection _ | .close
  | .destroy | .finishConnect _ | .reserve _ | .finishReserved _ | .settleReserved _
      | .maintain =>
      false
  | _ => true

/-! ## What connects no link -/

/-- Giving up a link connects none. -/
theorem Link.destroy_connects (link : Link) (network : Network) :
    (link.destroy network).2.connects = network.connects := by
  unfold destroy
  split <;> rfl

/-- Destroying a connection connects none. -/
theorem Connection.destroy_connects (connection : Connection) (network : Network) :
    (connection.destroy network).2.connects = network.connects := by
  unfold destroy
  split
  · rfl
  · exact connection.link.destroy_connects network

/-- Writing connects no link. -/
theorem Connection.write_connects (connection : Connection) (bytes : Nat) (network : Network)
    (now : Instant) : (connection.write bytes network now).2.2.connects = network.connects := by
  unfold write
  split
  · rfl
  · cases connection.link with
    | simulated connected destroyed => cases connected <;> cases destroyed <;> rfl
    | socket => rfl
    | moved => rfl

namespace Inventory

variable (stock : Inventory) (connection : Connection)

/-- Discarding a connection connects none. -/
theorem discard_connects (reason : CloseReason) :
    (stock.discard connection reason).network.connects = stock.network.connects := by
  rw [discard_eq]
  exact connection.destroy_connects stock.network

/-- A new connection is not connected. -/
theorem create_connects : stock.create.2.network.connects = stock.network.connects := by
  rw [create_eq]
  cases stock.source <;> rfl

/-- A connection that is reclaimed is not connected. -/
theorem reclaim_connects :
    (stock.reclaim connection).network.connects = stock.network.connects := by
  unfold reclaim
  dsimp only
  split
  · exact discard_connects _ connection _
  · rfl

/-- A connection that is released is not connected. -/
theorem release_connects (force : Bool) :
    (stock.release connection force).2.network.connects = stock.network.connects := by
  unfold release
  split
  · dsimp only
    split
    · exact discard_connects _ connection _
    · rfl
  · rfl

/-- Evicting connections connects none. -/
theorem Evicts.connects {stock final : Inventory} (h : stock.Evicts final) :
    final.network.connects = stock.network.connects := by
  induction h with
  | refl => rfl
  | step _ _ _ ih => exact ih.trans (discard_connects _ _ _)

/-- A search for an idle connection connects none. -/
theorem take_idle_connects : stock.takeIdle.2.network.connects = stock.network.connects := by
  unfold takeIdle
  cases htake : stock.takeFrom stock.available with
  | mk result final =>
      cases result with
      | none => exact (take_from_none rfl htake).1.connects
      | some connection =>
          obtain ⟨found, rest, hevicts, -, -, rfl⟩ := take_from_some rfl htake
          exact hevicts.connects

/-- Lending a connection connects none. -/
theorem lend_connects : stock.lend.2.network.connects = stock.network.connects := by
  have htake := stock.take_idle_connects
  unfold lend obtain
  generalize stock.takeIdle = taken at htake
  obtain ⟨result, middle⟩ := taken
  cases result with
  | some connection => exact htake
  | none =>
      dsimp only
      cases middle.hasCapacity with
      | true => exact (create_connects middle).trans htake
      | false => exact htake

/-- Lending an idle connection connects none. -/
theorem lend_idle_connects : stock.lendIdle.2.network.connects = stock.network.connects := by
  unfold lendIdle
  cases hlend : stock.lendFrom stock.available with
  | mk result final =>
      cases result with
      | none => exact (lend_from_none rfl hlend).1.connects
      | some connection =>
          obtain ⟨found, first, rest, hevicts, -, -, -, -, rfl⟩ := lend_from_some rfl hlend
          exact hevicts.connects

/-- Closing idle connections connects none. -/
theorem close_idle_connects (idle : List Connection) :
    (stock.closeIdle idle).network.connects = stock.network.connects := by
  induction idle generalizing stock with
  | nil => rfl
  | cons connection rest ih => exact (ih _).trans (discard_connects _ connection _)

/-- Giving up idle connections connects none. -/
theorem scrap_idle_connects : stock.scrapIdle.network.connects = stock.network.connects := by
  unfold scrapIdle
  dsimp only
  generalize stock.available = idle
  generalize stock.network = network
  induction idle generalizing network with
  | nil => rfl
  | cons connection rest ih => exact (ih _).trans (connection.destroy_connects network)

end Inventory

namespace Pool

variable {pool middle next : Pool} {action : Action}

/-! ## Aside of connects, loans and populations -/

/-- The number of connects of the pool's links that were successful. -/
def connects (pool : Pool) : Nat :=
  pool.stock.network.connects

/-- The loans stay as they are, but for new ones. -/
def Lends (pool next : Pool) : Prop :=
  ∃ new, next.loans = pool.loans ++ new

/-- Those who run populations. -/
def owners (pool : Pool) : List Owner :=
  pool.populations.map Population.owner

/-- Nobody begins to run a population, and the maintenance task neither starts nor stops. -/
structure Steady (pool next : Pool) : Prop where
  staff : ∀ owner ∈ next.owners, owner ∈ pool.owners
  maintenance : next.maintenance = pool.maintenance

/-- No link is connected, the loans stay but for new ones, and nothing is started. -/
structure Aside (pool next : Pool) : Prop where
  connects : next.connects = pool.connects
  lends : pool.Lends next
  steady : pool.Steady next

/-- Nothing is lent. -/
theorem Lends.nothing (h : next.loans = pool.loans) : pool.Lends next :=
  ⟨[], h.trans (List.append_nil _).symm⟩

/-- First the loans stay, but for new ones, and then they stay so. -/
theorem Lends.trans (first : pool.Lends middle) (second : middle.Lends next) :
    pool.Lends next := by
  obtain ⟨new, hnew⟩ := first
  obtain ⟨more, hmore⟩ := second
  exact ⟨new ++ more, by rw [hmore, hnew, List.append_assoc]⟩

/-- Nothing happens to the populations and the maintenance task. -/
theorem Steady.of_same (hpopulations : next.populations = pool.populations)
    (hmaintenance : next.maintenance = pool.maintenance) : pool.Steady next where
  staff := fun _ howner => by rwa [owners, hpopulations] at howner
  maintenance := hmaintenance

/-- First the pool is steady and then it is steady. -/
theorem Steady.trans (first : pool.Steady middle) (second : middle.Steady next) :
    pool.Steady next where
  staff := fun owner howner => first.staff owner (second.staff owner howner)
  maintenance := second.maintenance.trans first.maintenance

/-- Links, loans, populations and the maintenance task are as before. -/
theorem Aside.of_same (hconnects : next.connects = pool.connects)
    (hloans : next.loans = pool.loans)
    (hpopulations : next.populations = pool.populations)
    (hmaintenance : next.maintenance = pool.maintenance) : pool.Aside next :=
  ⟨hconnects, .nothing hloans, .of_same hpopulations hmaintenance⟩

/-- Nothing happens at all. -/
theorem Aside.refl (pool : Pool) : pool.Aside pool :=
  .of_same rfl rfl rfl rfl

/-- First links, loans and populations are left alone, and then they are. -/
theorem Aside.trans (first : pool.Aside middle) (second : middle.Aside next) : pool.Aside next :=
  ⟨second.connects.trans first.connects, first.lends.trans second.lends,
    first.steady.trans second.steady⟩

/-- A population that is taken off the list starts nothing. -/
theorem remove_population_steady (pool : Pool) (stock : Inventory) (owner : Owner) :
    pool.Steady { pool.removePopulation owner with stock := stock } where
  staff := by
    intro other hother
    obtain ⟨population, hpopulation, rfl⟩ := List.mem_map.1 hother
    exact List.mem_map_of_mem (List.mem_of_mem_filter hpopulation)
  maintenance := rfl

/-- Dropping a population closes the connection that it was establishing, and starts nothing. -/
theorem abandon_population_aside (pool : Pool) (owner : Owner) :
    pool.Aside (pool.abandonPopulation owner) := by
  unfold abandonPopulation
  split
  · exact .refl pool
  · dsimp only
    split
    · exact ⟨rfl, .nothing rfl, remove_population_steady pool pool.stock owner⟩
    · exact ⟨Inventory.discard_connects _ _ _, .nothing rfl,
        remove_population_steady pool _ owner⟩

/-- Giving up the opening of a pool drops its first population. -/
theorem abandon_opening_aside (pool : Pool) : pool.Aside pool.abandonOpening := by
  unfold abandonOpening
  split
  · exact .refl pool
  · exact (abandon_population_aside pool .opening).trans (.of_same rfl rfl rfl rfl)

/-- A caller that goes away has borrowed nothing yet. -/
theorem cancel_acquire_aside (pool : Pool) (id : Nat) : pool.Aside (pool.cancelAcquire id) := by
  unfold cancelAcquire
  split
  · exact .of_same rfl rfl rfl rfl
  · exact .of_same rfl rfl rfl rfl
  · exact .of_same (Inventory.reclaim_connects _ _) rfl rfl rfl
  · exact .of_same (Inventory.reclaim_connects _ _) rfl rfl rfl
  · exact .refl pool

/-- A call that comes to the line has no connection. -/
theorem enter_aside (pool : Pool) (id : Nat) : pool.Aside (pool.enter id) := by
  unfold enter
  split
  · split
    · exact .of_same rfl rfl rfl rfl
    · split
      · exact .of_same rfl rfl rfl rfl
      · dsimp only
        split <;> split <;> exact .of_same rfl rfl rfl rfl
  · exact .refl pool

/-- A call that gives up its connection had it already. -/
theorem give_up_aside (pool : Pool) (id : Nat) (connection : Connection) (error : LinkError) :
    pool.Aside (pool.giveUp id connection error) :=
  .of_same (Inventory.discard_connects (pool.stock.giveBack connection) connection .unknown)
    rfl rfl rfl

/-- A call that announces its connection lends it to its caller, or lends nothing. -/
theorem announce_aside (pool : Pool) (id : Nat) (connection : Connection) :
    pool.Aside (pool.announce id connection) := by
  unfold announce
  split
  · next reason _ =>
      have hdiscard :=
        Inventory.discard_connects (pool.stock.giveBack connection) connection reason
      dsimp only
      split <;> exact .of_same hdiscard rfl rfl rfl
  · exact ⟨rfl, ⟨[connection], rfl⟩, .of_same rfl rfl⟩

/-- A call that looks at its answer lends one connection at most. -/
theorem resume_aside (pool : Pool) (id : Nat) : pool.Aside (pool.resume id) := by
  unfold resume
  split
  · exact .of_same rfl rfl rfl rfl
  · split
    · exact announce_aside pool id _
    · exact give_up_aside pool id _ _
    · exact .of_same rfl rfl rfl rfl
  · exact .refl pool

/-- A call that registers the outcome of its connect lends one connection at most. -/
theorem register_aside (pool : Pool) (id : Nat) : pool.Aside (pool.register id) := by
  unfold register
  split
  · next connection _ =>
      have hready : pool.Aside { pool with stock := pool.stock.emit (.ready connection.info) } :=
        .of_same rfl rfl rfl rfl
      exact hready.trans (announce_aside _ id connection)
  · exact give_up_aside pool id _ _
  · exact .refl pool

/-- Trying to acquire lends one connection at most. -/
theorem try_acquire_aside (pool : Pool) : pool.Aside pool.tryAcquire.2 := by
  unfold tryAcquire
  split
  · exact .of_same rfl rfl rfl rfl
  · split
    · have hlend := pool.stock.lend_idle_connects
      generalize pool.stock.lendIdle = lent at hlend
      split
      · next connection _ => exact ⟨hlend, ⟨[connection], rfl⟩, .of_same rfl rfl⟩
      · exact .of_same hlend rfl rfl rfl
    · exact .refl pool

/-- Taking over the outcome of an operation on the line is no matter of connections. -/
theorem settle_aside (pool : Pool) (outcome : WaitQueue.Outcome Nat Connection) :
    pool.Aside (pool.settle outcome) := by
  obtain ⟨calls, timers, hframe⟩ := settle_frame pool outcome
  rw [hframe]
  exact .of_same rfl rfl rfl rfl

/-- What events set off is no matter of connections. -/
theorem fire_aside (pool : Pool) (place : Nat) : pool.Aside (pool.fire place) := by
  obtain ⟨calls, queue, wires, departures, hfire⟩ := fire_frame pool place
  rw [hfire]
  exact .of_same rfl rfl rfl rfl

/-- Callers that go away are no matter of connections. -/
theorem lose_all_aside (pool : Pool) (ids : List Nat) : pool.Aside (pool.loseAll ids) := by
  obtain ⟨calls, queue, hlost⟩ := lose_all_frame pool ids
  rw [hlost]
  exact .of_same rfl rfl rfl rfl

/-- A run loop that attends to the line lends nothing: the call has the connection, not its
caller. -/
theorem attend_aside (pool : Pool) (lost : List Nat) : pool.Aside (pool.attend lost).2 := by
  unfold attend
  split
  · have hlend := pool.stock.lend_connects
    generalize pool.stock.lend = lent at hlend
    obtain ⟨resource, stock⟩ := lent
    have hlent : pool.Aside { pool with stock := stock } := .of_same hlend rfl rfl rfl
    have hleft := (hlent.trans (fire_aside _ pool.log.length)).trans (lose_all_aside _ lost)
    dsimp only
    split
    · exact (hleft.trans (settle_aside _ _)).trans
        (.of_same (Inventory.reclaim_connects _ _) rfl rfl rfl)
    · exact hleft.trans (settle_aside _ _)
    · exact hleft.trans (settle_aside _ _)
  · split <;> exact settle_aside pool _

/-- A tick of a run loop lends nothing. -/
theorem tick_aside (pool : Pool) (id : Nat) (lost : List Nat) :
    pool.Aside (pool.tick id lost) := by
  have hattend := attend_aside pool lost
  unfold tick
  generalize pool.attend lost = attended at hattend
  split
  · exact .refl pool
  · split
    · split <;> exact hattend.trans (.of_same rfl rfl rfl rfl)
    · exact .refl pool

/-- A timer that ends a wait lends nothing. -/
theorem expire_aside (pool : Pool) (member : Nat) : pool.Aside (pool.expire member) := by
  unfold expire
  split
  · have htimers : pool.Aside { pool with
        timers := pool.timers.filter fun timer => timer.member != member } :=
      .of_same rfl rfl rfl rfl
    dsimp only
    split
    · exact htimers.trans (settle_aside _ _)
    · exact htimers
  · exact .refl pool

/-- An action that is about none of these matters leaves them alone. -/
theorem step_aside (haside : action.isAside = true) : pool.Aside (pool.step action).2 := by
  cases action with
  | acquire call =>
      simp only [step, startAcquire]
      split <;> exact .of_same rfl rfl rfl rfl
  | tryAcquire =>
      simp only [step]
      split
      · exact try_acquire_aside pool
      · exact .refl pool
  | cancel call =>
      exact (cancel_acquire_aside pool call).trans (abandon_population_aside _ _)
  | clear =>
      simp only [step]
      split <;> exact .of_same rfl rfl rfl rfl
  | watch | dropHandle | failNext | failAll | connectDelay | elapse =>
      exact .of_same rfl rfl rfl rfl
  | abandonOpening => exact abandon_opening_aside pool
  | enter call => exact enter_aside pool call
  | resume call => exact resume_aside pool call
  | register call => exact register_aside pool call
  | tick runLoop lost => exact tick_aside pool runLoop lost
  | expire member => exact expire_aside pool member
  | abandonMaintenance =>
      simp only [step, abandonMaintenance]
      split
      · exact abandon_population_aside pool .maintenance
      · exact .refl pool
  | _ => cases haside

end Pool

end ConnectionPool
