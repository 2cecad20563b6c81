import ConnectionPool.Proofs.Custody

/-!
# Pools that can be reached

A pool is reachable if it was opened and any actions happened to it, in any order.
`Reachable.invariant` is the induction over them: what holds of the holdings of a pool that was
opened just now, and is preserved by every step, holds of all reachable pools. The first that
does is that nobody has a connection twice and none gets lost,
`Reachable.connections_accounted`.
-/

namespace ConnectionPool.Pool

/-- The pools that come of opening one and taking any actions. -/
inductive Reachable : Pool → Prop where
  | opened {config : Config} {source : LinkSource} {network : Network} {now : Instant}
      {pool : Pool} (hcreate : create config source network now = .ok pool) : Reachable pool
  | after {pool : Pool} (h : Reachable pool) (action : Action) : Reachable (pool.after action)

/-- A pool that is to have four connections at least and five at most, when it is opened. Its
first connect will fail. -/
def small : Pool where
  stock := ({
      config := { maxPoolSize := 5, minPoolSize := 4 }
      source := .simulated
      network := { failNext := 1 }
      now := 0 } : Inventory).emit
    (.poolCreated ({ maxPoolSize := 5, minPoolSize := 4 } : Config).options)
  queue := .empty 0 0 .localhost
  populations := [⟨.opening, 0, .reserving⟩]
  openedAt := 0

/-- The small pool is what opening one comes to. -/
theorem small_opened :
    create { maxPoolSize := 5, minPoolSize := 4 } .simulated { failNext := 1 } 0 = .ok small :=
  rfl

/-- The opening of the small pool ends with the connect that fails, and the pool is empty. -/
def openEmpty : List Action :=
  [.reserve .opening, .finishReserved .opening, .settleReserved .opening]

/-- A caller that fills the pool adds one connection. -/
def addOne : List Action :=
  [.populate 9, .reserve (.call 9), .finishReserved (.call 9), .settleReserved (.call 9)]

/-- The small pool gets three connections, lends one, answers a call with another and makes a
fourth. -/
def getBusy : List Action :=
  openEmpty ++ addOne ++ addOne ++ addOne ++
    [.acquire 1, .acquire 2, .enter 1, .enter 2, .elapse 10000000, .tick 0, .resume 1,
      .elapse 10000000, .tick 0, .reserve (.call 9)]

variable {pool : Pool}

/-- A reachable pool is coherent and its connections are in its custody. -/
theorem Reachable.sound (h : Reachable pool) : pool.Coherent ∧ pool.holdings.Custody := by
  induction h with
  | opened hcreate =>
      obtain ⟨hcoherent, hholdings⟩ := create_coherent hcreate
      rw [hholdings]
      exact ⟨hcoherent, Holdings.opened_custody _ _ _ _⟩
  | after _ action ih =>
      -- The two need each other: loans can be told apart because each id was given out once,
      -- and an action is a step of the holdings only in a coherent pool.
      obtain ⟨hcoherent, hcustody⟩ := ih
      obtain ⟨hafter, hstep⟩ := perform_step hcoherent hcustody.loans_booked action
      exact ⟨hafter, hstep.custody hcustody⟩

/-- Every action is a step of the holdings of a reachable pool. -/
theorem Reachable.step (h : Reachable pool) (action : Action) :
    Step pool.holdings (pool.scraps action) (pool.after action).holdings := by
  obtain ⟨hcoherent, hcustody⟩ := h.sound
  exact (perform_step hcoherent hcustody.loans_booked action).2

/-- What holds of a pool that was opened just now and is preserved by every step holds of every
reachable pool. -/
theorem Reachable.invariant {P : Holdings → Prop}
    (hopened : ∀ config source network now, P (.opened config source network now))
    (hstep : ∀ {h h' : Holdings} {given : Nat}, h.Custody → Step h given h' → P h → P h')
    (h : Reachable pool) : P pool.holdings := by
  induction h with
  | opened hcreate =>
      rw [(create_coherent hcreate).2]
      exact hopened _ _ _ _
  | after h action ih => exact hstep h.sound.2 (h.step action) ih

/-- A reachable pool stays reachable. -/
theorem Reachable.run (h : Reachable pool) (history : List Action) :
    Reachable (pool.run history) := by
  induction history generalizing pool with
  | nil => exact h
  | cons action rest ih => exact ih (h.after action)

/-- What every step preserves, a history preserves. -/
theorem Reachable.preserves {P : Holdings → Prop}
    (hstep : ∀ {h h' : Holdings} {given : Nat}, h.Custody → Step h given h' → P h → P h')
    (h : Reachable pool) (history : List Action) (hp : P pool.holdings) :
    P (pool.run history).holdings := by
  induction history generalizing pool with
  | nil => exact hp
  | cons action rest ih => exact ih (h.after action) (hstep h.sound.2 (h.step action) hp)

/-- A history goes on where its first part ends. -/
theorem run_append (pool : Pool) (prior later : List Action) :
    pool.run (prior ++ later) = (pool.run prior).run later :=
  List.foldl_append

/-! ## Nobody has a connection twice and none gets lost -/

/-- The connections that are lent and have not come back: those of the calls, in an answer or in
a connect under way, and those in the hands of borrowers. -/
def holders (pool : Pool) : List Connection :=
  (pool.calls.filterMap fun call => call.phase.connection?) ++ pool.loans

/-- The connections that populations are establishing. -/
def establishing (pool : Pool) : List Connection :=
  pool.populations.filterMap fun population => population.phase.connection?

/-- What a call holds it carries or has dialled. -/
theorem held_split (calls : Multiset Call) :
    calls.filterMap (fun call => call.phase.connection?) =
      calls.filterMap (fun call => call.phase.carried?) +
        calls.filterMap fun call => call.phase.dialled? := by
  induction calls using Multiset.induction with
  | empty => rfl
  | cons call rest ih =>
      have hone : call.phase.carried? = call.phase.connection? ∧ call.phase.dialled? = none ∨
          call.phase.carried? = none ∧ call.phase.dialled? = call.phase.connection? := by
        cases call.phase with
        | answered answer =>
            cases answer <;> simp [Phase.carried?, Phase.dialled?, Phase.connection?]
        | _ => simp [Phase.carried?, Phase.dialled?, Phase.connection?]
      rw [Multiset.filterMap_cons, Multiset.filterMap_cons, Multiset.filterMap_cons, ih]
      rcases hone with ⟨hcarried, hdialled⟩ | ⟨hcarried, hdialled⟩
      · rw [hcarried, hdialled]
        simp [Multiset.add_assoc]
      · rw [hcarried, hdialled]
        simp only [Option.map_none, Option.getD_none, Multiset.zero_add, ← Multiset.add_assoc]
        rw [Multiset.add_comm (Option.getD _ _)]

/-- The connections that are lent are those outside. -/
theorem holders_outside (pool : Pool) :
    ((pool.holders.map Connection.id : List Nat) : Multiset Nat) = pool.holdings.outside := by
  rw [holders, List.map_append, ← Multiset.coe_add, ← Multiset.map_coe, ← Multiset.filterMap_coe,
    held_split, Multiset.map_add]
  rfl

/-- The connections at all places are those that are idle, those that are lent and those that
populations are establishing. -/
theorem places_connections (pool : Pool) :
    pool.holdings.places.map Prod.snd =
      ((pool.stock.available ++ pool.holders ++ pool.establishing : List Connection) :
        Multiset Connection) := by
  rw [holders, ← Multiset.coe_add, ← Multiset.coe_add, ← Multiset.coe_add,
    ← Multiset.filterMap_coe, held_split, establishing, ← Multiset.filterMap_coe]
  simp only [Holdings.places, placed, holdings, Multiset.map_add, Multiset.map_map,
    Function.comp_def, Multiset.map_id', Multiset.add_assoc]

/-- The connections of a pool: those that are idle, those that calls and borrowers have, and
those that populations are establishing. -/
def connections (pool : Pool) : List Connection :=
  pool.stock.available ++ pool.holders ++ pool.establishing

/-- The connections of a pool are those at all places. -/
theorem mem_connections {connection : Connection} :
    connection ∈ pool.connections ↔ ∃ place, (place, connection) ∈ pool.holdings.places := by
  rw [← Multiset.mem_coe, connections, ← places_connections]
  simp

/-- The ids at all places are those of the idle connections, those that are checked out and
those of the connections that populations are establishing. -/
theorem Reachable.place_ids (h : Reachable pool) :
    (pool.holdings.places.map fun x => x.2.id) =
      ((pool.stock.available.map Connection.id ++ pool.stock.checkedOut ++
        pool.establishing.map Connection.id : List Nat) : Multiset Nat) := by
  rw [h.sound.2.ids, ← Multiset.coe_add, ← Multiset.coe_add]
  rfl

/-- No id of a connection is there twice. -/
theorem Reachable.ids_nodup (h : Reachable pool) :
    (pool.stock.available.map Connection.id ++ pool.stock.checkedOut ++
      pool.establishing.map Connection.id).Nodup := by
  have honce := h.sound.2.once
  rw [h.place_ids] at honce
  exact honce

/-- The ids that are checked out are those of the connections that are lent and have not come
back. -/
theorem Reachable.holders_perm (h : Reachable pool) :
    (pool.holders.map Connection.id).Perm pool.stock.checkedOut := by
  refine Multiset.coe_eq_coe.1 ?_
  rw [holders_outside]
  exact h.sound.2.booked

/-- The pending count is the number of connections that populations are establishing. -/
theorem Reachable.pending_counted (h : Reachable pool) :
    pool.stock.pending = pool.establishing.length :=
  h.sound.2.reserved.trans (congrArg Multiset.card (Multiset.filterMap_coe _ _))

/-- The ids of idle connections, those that are checked out and those of connections that
populations are establishing are all different and below the next id; and the ids that are
checked out are those of the connections that are lent and have not come back, each of which is
lent once. -/
theorem Reachable.connections_accounted (h : Reachable pool) :
    (pool.stock.available.map Connection.id ++ pool.stock.checkedOut ++
        pool.establishing.map Connection.id).Nodup ∧
      (∀ id ∈ pool.stock.available.map Connection.id ++ pool.stock.checkedOut ++
        pool.establishing.map Connection.id, id < pool.stock.nextConnection) ∧
      (pool.holders.map Connection.id).Perm pool.stock.checkedOut := by
  refine ⟨h.ids_nodup, ?_, h.holders_perm⟩
  intro id hid
  rw [← Multiset.mem_coe, ← h.place_ids] at hid
  obtain ⟨x, hx, rfl⟩ := Multiset.mem_map.1 hid
  exact (h.sound.2.issued x hx).2

/-- In the busy small pool each of the four connections is accounted for in another way. -/
theorem busy_accounted :
    (small.run getBusy).establishing.map Connection.id = [5] ∧
      (small.run getBusy).stock.available.map Connection.id = [4] ∧
      ((small.run getBusy).holders.map Connection.id).Perm [3, 2] := by
  have hbooks : (small.run getBusy).stock.checkedOut = [3, 2] := by decide +kernel
  obtain ⟨-, -, hholders⟩ := ((Reachable.opened small_opened).run getBusy).connections_accounted
  exact ⟨by decide +kernel, by decide +kernel, hbooks ▸ hholders⟩

end ConnectionPool.Pool
