import ConnectionPool.Proofs.Evictions
import ConnectionPool.Proofs.Pool.Endings

/-!
# Which connections an action closes

`closes` says of every action which connections it closes, in which order and why: those that a
search evicts, the idle ones of a pool that is closed, one that is released by force, one that
comes back or is established and is not wanted any more, and one that could not be established
or whose population is dropped. `step_closes` proves that just these are told to be closed, and
`Reachable.news_closings` that the events of the action say so.
-/

namespace ConnectionPool

namespace Inventory

variable (stock : Inventory) (connection : Connection)

/-- What was told of closed connections, oldest first. -/
def closings (stock : Inventory) : List Notice :=
  stock.notices.filter fun notice => notice.kind.type == .closed

/-- It has been told since that these connections were closed, and why, and that no others
were. -/
def Tells (stock later : Inventory) (told : List (Connection × CloseReason)) : Prop :=
  later.closings = stock.closings ++ told.map fun lost => stock.closing lost.1 lost.2

/-- The connection, with the reason, if it is not to become idle when it comes back. -/
def unwanted (stock : Inventory) (connection : Connection) : List (Connection × CloseReason) :=
  (stock.returnReason? connection).toList.map (Prod.mk connection)

/-- The connection is unwanted for the reason for which it is not to become idle. -/
theorem mem_unwanted {other : Connection} {reason : CloseReason} :
    (other, reason) ∈ stock.unwanted connection ↔
      connection = other ∧ stock.returnReason? other = some reason := by
  rw [unwanted, List.mem_map]
  constructor
  · rintro ⟨why, hwhy, hsame⟩
    cases hsame
    exact ⟨rfl, Option.mem_toList.1 hwhy⟩
  · rintro ⟨rfl, hwhy⟩
    exact ⟨reason, Option.mem_toList.2 hwhy, rfl⟩

/-- An event about something else tells of no closed connection. -/
theorem emit_closings {kind : EventKind} (h : (kind.type == .closed) = false) :
    (stock.emit kind).closings = stock.closings := by
  simp [closings, notices, emit, Event.notice, h]

/-- A failed acquisition closes nothing. -/
theorem fail_closings (error : PoolError) : (stock.fail error).closings = stock.closings :=
  emit_closings _ rfl

/-- A successful acquisition closes nothing. -/
theorem succeed_closings : (stock.succeed connection).closings = stock.closings :=
  emit_closings _ rfl

/-- A closed connection is told of. -/
theorem discard_closings (reason : CloseReason) :
    (stock.discard connection reason).closings =
      stock.closings ++ [stock.closing connection reason] := by
  rw [closings, discard_notices, List.filter_append]
  rfl

variable {stock} {later : Inventory}

/-- Nothing is told of closed connections. -/
theorem Tells.nothing (h : later.closings = stock.closings) : stock.Tells later [] := by
  rw [Tells, h, List.map_nil, List.append_nil]

/-- What is told since something else happened at the same instant is told since before that. -/
theorem Tells.since {middle : Inventory} {told : List (Connection × CloseReason)}
    (h : middle.Tells later told) (hsame : middle.closings = stock.closings)
    (hclosing : middle.closing = stock.closing) : stock.Tells later told := by
  rw [Tells, h, hsame, hclosing]

/-- One connection is closed. -/
theorem discard_tells (reason : CloseReason) :
    stock.Tells (stock.discard connection reason) [(connection, reason)] :=
  discard_closings stock connection reason

/-- What is told of closed connections is not taken back by what else is told. -/
theorem Tells.emit {told : List (Connection × CloseReason)} (h : stock.Tells later told)
    {kind : EventKind} (hkind : (kind.type == .closed) = false) :
    stock.Tells (later.emit kind) told := by
  rw [Tells, emit_closings _ hkind]
  exact h

/-- A connection that comes back is closed if it is not wanted any more. -/
theorem reclaim_tells (stock : Inventory) (connection : Connection) :
    stock.Tells (stock.reclaim connection) (stock.unwanted connection) := by
  unfold unwanted
  cases hreason : stock.returnReason? connection with
  | none =>
      rw [reclaim_wanted hreason]
      exact .nothing rfl
  | some reason =>
      rw [reclaim_unwanted hreason]
      exact (discard_tells connection reason).since rfl rfl

/-- A released connection is closed by force, or if it is not wanted any more. -/
theorem release_tells (hknown : connection.id ∈ stock.checkedOut) (force : Bool) :
    stock.Tells (stock.release connection force).2
      (if force then [(connection, .force)] else stock.unwanted connection) := by
  have htold : ((stock.giveBack connection).emit (.released connection.info)).closings =
      stock.closings := emit_closings _ rfl
  have hsame : (stock.giveBack connection).returnReason? connection =
      stock.returnReason? connection := rfl
  rw [release, if_pos hknown]
  dsimp only
  rw [hsame]
  cases force with
  | true => exact (discard_tells connection .force).since htold rfl
  | false =>
      unfold unwanted
      cases stock.returnReason? connection with
      | none => exact Tells.emit (.nothing rfl) rfl
      | some reason => exact (discard_tells connection reason).since htold rfl

/-- The evictions of a search are told. -/
theorem Ranked.evicts_tells {found : Inventory} (h : stock.Ranked) (hevicts : stock.Evicts found)
    (hfirst : ∀ first ∈ found.available.head?, found.evictionReason? first = none) :
    stock.Tells found (stock.due stock.available) := by
  have hclosed : ∀ told : List (Connection × CloseReason),
      ((told.map fun lost => stock.closing lost.1 lost.2).filter
        fun notice => notice.kind.type == .closed) =
      told.map fun lost => stock.closing lost.1 lost.2 := by
    intro told
    refine List.filter_eq_self.2 fun notice hnotice => ?_
    obtain ⟨lost, -, rfl⟩ := List.mem_map.1 hnotice
    rfl
  rw [Tells, closings, h.evicts_due hevicts hfirst, List.filter_append, hclosed]
  rfl

/-- A search for the head of the line closes what it evicts. -/
theorem Ranked.lend_tells (h : stock.Ranked) :
    stock.Tells stock.lend.2 (stock.due stock.available) := by
  obtain ⟨found, hevicts, hfirst⟩ := stock.exists_evicts
  have htold := h.evicts_tells hevicts hfirst
  rw [lend_eq hevicts hfirst]
  split
  · exact htold
  · split
    · exact htold.emit rfl
    · exact htold

/-- An attempt to lend without waiting closes what it evicts. -/
theorem Ranked.lend_idle_tells (h : stock.Ranked) :
    stock.Tells stock.lendIdle.2 (stock.due stock.available) := by
  obtain ⟨found, hevicts, hfirst⟩ := stock.exists_evicts
  have htold := h.evicts_tells hevicts hfirst
  rw [lend_idle_eq hevicts hfirst]
  split
  · split
    · rw [Tells, succeed_closings, emit_closings _ rfl]
      exact htold
    · exact htold
  · exact htold

/-- The idle connections of a pool that is closed are closed. -/
theorem close_idle_tells (stock : Inventory) (idle : List Connection) :
    stock.Tells (stock.closeIdle idle) (idle.map fun connection =>
      (connection, .poolClosed)) := by
  induction idle generalizing stock with
  | nil => exact .nothing rfl
  | cons connection rest ih =>
      have hrest := ih ({ stock with available := rest }.discard connection .poolClosed)
      have hnow : ({ stock with available := rest }.discard connection .poolClosed).closing =
          stock.closing := by
        rw [discard_eq]
        rfl
      have hsame : { stock with available := rest }.closings = stock.closings := rfl
      rw [Tells, discard_closings, hsame, hnow, List.append_assoc] at hrest
      exact hrest

end Inventory

/-- The log only grows. -/
theorem Step.log_grows {h h' : Holdings} {given : Nat} (step : Step h given h') :
    h.stock.log <+: h'.stock.log := by
  refine step.preserves (P := fun later => h.stock.log <+: later.stock.log) ?_ ?_ ?_ ?_ ?_
    (List.prefix_refl _)
  · intro h' h'' move hgrows
    obtain ⟨events, hlog, -⟩ := move.later.2
    exact hgrows.trans ⟨events, hlog.symm⟩
  · exact fun announced hgrows => hgrows.trans ⟨_, announced.log.1.symm⟩
  · exact fun hgrows => hgrows
  · exact fun hgrows => hgrows
  · exact fun hgrows => hgrows.trans ⟨_, rfl⟩

namespace Pool

variable {pool next : Pool} {id : Nat} {connection : Connection}

/-! ## What an action is to close -/

/-- The action searches the idle connections, and evicts those that are not to be used any
more. -/
def sweeps (pool : Pool) : Action → Bool
  | .tick id _ =>
      ((pool.runLoops.find? fun loop => loop.id == id).any fun loop => loop.due ≤ pool.now) &&
        pool.queue.asks
  | .tryAcquire => pool.held && !pool.isClosed && pool.queue.members.isEmpty
  | _ => false

/-- The action closes the pool. -/
def shuts (pool : Pool) : Action → Bool
  | .close => pool.held && !pool.isClosed
  | _ => false

/-- The connection on loan that the action releases by force. -/
def forced? (pool : Pool) : Action → Option Connection
  | .release id true => if pool.held then pool.loan? id else none
  | _ => none

/-- The connection that the action brings back without force, or finds established, so that the
pool has to look whether it still wants it. -/
def judged? (pool : Pool) : Action → Option Connection
  | .release id false => if pool.held then pool.loan? id else none
  | .drop id => pool.loan? id
  | .cancel id =>
      match (pool.call? id).map Call.phase with
      | some (.answered (.ok connection)) | some (.connecting connection _) => some connection
      | _ => none
  | .resume id =>
      match (pool.call? id).map Call.phase with
      | some (.answered (.ok connection)) =>
          if connection.established then some connection else none
      | _ => none
  | .register id =>
      match (pool.call? id).map Call.phase with
      | some (.connected connection (.ok ())) => some connection
      | _ => none
  | .settleReserved owner =>
      match (pool.population? owner).map Population.phase with
      | some (.connected connection (.ok ())) => some connection
      | _ => none
  | _ => none

/-- The connection that the action finds could not be established, since its connect failed or
it is dead, or whose population the action drops. -/
def lost? (pool : Pool) : Action → Option Connection
  | .resume id =>
      match (pool.call? id).map Call.phase with
      | some (.answered (.ok connection)) =>
          if !connection.established && connection.destroyed then some connection else none
      | _ => none
  | .register id =>
      match (pool.call? id).map Call.phase with
      | some (.connected connection (.error _)) => some connection
      | _ => none
  | .settleReserved owner =>
      match (pool.population? owner).map Population.phase with
      | some (.connected connection (.error _)) => some connection
      | _ => none
  | .cancel id =>
      (pool.population? (.call id)).bind fun population => population.phase.connection?
  | .abandonOpening =>
      (pool.population? .opening).bind fun population => population.phase.connection?
  | .abandonMaintenance =>
      if pool.maintenance.isNone then
        (pool.population? .maintenance).bind fun population => population.phase.connection?
      else none
  | _ => none

/-- The connections that the action closes, in order and with the reasons. -/
def closes (pool : Pool) (action : Action) : List (Connection × CloseReason) :=
  (if pool.sweeps action then pool.stock.due pool.stock.available else []) ++
  ((if pool.shuts action then pool.stock.available else []).map fun connection =>
    (connection, .poolClosed)) ++
  ((pool.forced? action).toList.map fun connection => (connection, .force)) ++
  ((pool.judged? action).toList.flatMap pool.stock.unwanted) ++
  (pool.lost? action).toList.map fun connection => (connection, .unknown)

/-- A connection is closed for a reason that the action has to close it. -/
theorem mem_closes {action : Action} {reason : CloseReason} :
    (connection, reason) ∈ pool.closes action ↔
      (pool.sweeps action = true ∧ connection ∈ pool.stock.available ∧
        pool.stock.evictionReason? connection = some reason) ∨
      (pool.shuts action = true ∧ connection ∈ pool.stock.available ∧ reason = .poolClosed) ∨
      (pool.forced? action = some connection ∧ reason = .force) ∨
      (pool.judged? action = some connection ∧
        pool.stock.returnReason? connection = some reason) ∨
      (pool.lost? action = some connection ∧ reason = .unknown) := by
  simp only [closes, List.mem_append, or_assoc]
  refine or_congr ?_ (or_congr ?_ (or_congr ?_ (or_congr ?_ ?_)))
  · cases pool.sweeps action with
    | true => simpa using Inventory.mem_due
    | false => simp
  · cases pool.shuts action with
    | true => simp [eq_comm]
    | false => simp
  · cases pool.forced? action <;> simp [eq_comm]
  · cases pool.judged? action with
    | none => simp
    | some judged => simpa using Inventory.mem_unwanted _ _
  · cases pool.lost? action <;> simp [eq_comm]

/-- An action that neither searches nor closes the pool nor forces a connection closed closes
the one that the pool looks at, if that is not wanted any more, and the one that is lost. -/
theorem closes_turn (pool : Pool) (action : Action) (hsweeps : pool.sweeps action = false)
    (hshuts : pool.shuts action = false) (hforced : pool.forced? action = none) :
    pool.closes action =
      ((pool.judged? action).toList.flatMap pool.stock.unwanted) ++
        (pool.lost? action).toList.map fun connection => (connection, .unknown) := by
  simp [closes, hsweeps, hshuts, hforced]

/-- A tick and an attempt to borrow a connection without waiting close what they evict. -/
theorem closes_search (pool : Pool) (action : Action) (hshuts : pool.shuts action = false)
    (hforced : pool.forced? action = none) (hjudged : pool.judged? action = none)
    (hlost : pool.lost? action = none) :
    pool.closes action = if pool.sweeps action then pool.stock.due pool.stock.available
      else [] := by
  simp [closes, hshuts, hforced, hjudged, hlost]

/-- Only a release by force, of a connection on loan and with a handle, forces a connection
closed. -/
theorem forced_iff {action : Action} :
    pool.forced? action = some connection ↔
      ∃ id, action = .release id true ∧ pool.held = true ∧ pool.loan? id = some connection := by
  constructor
  · intro h
    cases action with
    | release id force =>
        cases force with
        | true =>
            simp only [forced?, Option.ite_none_right_eq_some] at h
            exact ⟨id, rfl, h.1, h.2⟩
        | false => cases h
    | _ => cases h
  · rintro ⟨id, rfl, hheld, hfind⟩
    rw [forced?, if_pos hheld, hfind]

/-- What the next pool has told of closed connections is what the action closes. -/
abbrev Closes (pool : Pool) (action : Action) (next : Pool) : Prop :=
  pool.stock.Tells next.stock (pool.closes action)

/-! ## Actions that may close a connection -/

/-- What an action is to close is told. -/
theorem Closes.told {action : Action} {told : List (Connection × CloseReason)}
    (hcloses : pool.closes action = told) (htold : pool.stock.Tells next.stock told) :
    pool.Closes action next := by
  rw [Closes, hcloses]
  exact htold

/-- An action that closes no connection tells of none. -/
theorem Closes.nothing {action : Action} (hnone : pool.closes action = [])
    (hsame : next.stock.closings = pool.stock.closings) : pool.Closes action next :=
  .told hnone (.nothing hsame)

/-- The end of a population is no matter of the inventory. -/
theorem finish_population_stock (pool : Pool) (owner : Owner) (result : CallResult) :
    (pool.finishPopulation owner result).stock = pool.stock := by
  cases owner <;> rfl

/-- A call that gives up its connection closes it. -/
theorem give_up_tells (pool : Pool) (id : Nat) (connection : Connection) (error : LinkError) :
    pool.stock.Tells (pool.giveUp id connection error).stock [(connection, .unknown)] :=
  (Inventory.fail_closings _ _).trans
    ((Inventory.discard_tells connection .unknown).since rfl rfl)

/-- A call that has an established connection closes it if it is not wanted any more. -/
theorem announce_tells (pool : Pool) (id : Nat) (connection : Connection) :
    pool.stock.Tells (pool.announce id connection).stock (pool.stock.unwanted connection) := by
  unfold announce Inventory.unwanted
  split
  · next reason hreason =>
      have hdiscard : pool.stock.Tells
          ((pool.stock.giveBack connection).discard connection reason) [(connection, reason)] :=
        (Inventory.discard_tells connection reason).since rfl rfl
      rw [hreason]
      dsimp only
      split
      · exact (Inventory.fail_closings _ _).trans hdiscard
      · exact hdiscard
  · next hreason =>
      rw [hreason]
      exact .nothing (Inventory.succeed_closings _ _)

/-- A population that is dropped closes the connection that it was establishing. -/
theorem abandon_population_tells (pool : Pool) (owner : Owner) :
    pool.stock.Tells (pool.abandonPopulation owner).stock
      (((pool.population? owner).bind fun population => population.phase.connection?).toList.map
        fun connection => (connection, .unknown)) := by
  unfold abandonPopulation
  split
  · next hfind => simp [hfind, Inventory.Tells]
  · next population hfind =>
      rw [hfind, Option.bind_some]
      dsimp only
      split
      · next hphase =>
          rw [hphase]
          exact .nothing rfl
      · next connection hphase =>
          rw [hphase]
          exact (Inventory.discard_tells connection .unknown).since rfl rfl

/-- A call that enters the line closes nothing. -/
theorem enter_closes (pool : Pool) (id : Nat) : pool.Closes (.enter id) (pool.enter id) := by
  refine .nothing rfl ?_
  unfold enter
  split
  · next deadline readmitted hfind =>
      split
      · exact Inventory.fail_closings _ _
      · split
        · exact Inventory.fail_closings _ _
        · next admission queue hin =>
            dsimp only
            split
            · split <;> rfl
            · split <;> rfl
  · rfl

/-- A call that looks at its answer closes the connection that it finds there if that is dead or
not wanted any more. -/
theorem resume_closes (pool : Pool) (id : Nat) : pool.Closes (.resume id) (pool.resume id) := by
  have hcloses := closes_turn pool (.resume id) rfl rfl rfl
  unfold resume
  cases hfind : pool.call? id with
  | none => exact .nothing (by simp [hcloses, judged?, lost?, hfind]) rfl
  | some call =>
      obtain ⟨_, deadline, phase⟩ := call
      cases phase with
      | entering | queued | connecting | connected =>
          exact .nothing (by simp [hcloses, judged?, lost?, hfind]) rfl
      | answered answer =>
          cases answer with
          | error error =>
              exact .nothing (by simp [hcloses, judged?, lost?, hfind])
                (Inventory.fail_closings _ _)
          | ok connection =>
              dsimp only
              cases hnow : connection.establishNow? with
              | none =>
                  obtain ⟨hunready, hintact⟩ := (Connection.establish_now_none connection).1 hnow
                  exact .nothing (by simp [hcloses, judged?, lost?, hfind, hunready, hintact]) rfl
              | some result =>
                  cases result with
                  | ok done =>
                      have hready := establish_now_ok hnow
                      exact .told (by simp [hcloses, judged?, lost?, hfind, hready])
                        (announce_tells pool id connection)
                  | error error =>
                      obtain ⟨hdestroyed, -⟩ := connection.establish_now_destroyed hnow
                      have hunready := establish_now_error hnow
                      exact .told (by simp [hcloses, judged?, lost?, hfind, hunready, hdestroyed])
                        (give_up_tells pool id connection error)

/-- A call that registers the outcome of its connect closes the connection if that failed or it
is not wanted any more. -/
theorem register_closes (pool : Pool) (id : Nat) : pool.Closes (.register id)
    (pool.register id) := by
  have hcloses := closes_turn pool (.register id) rfl rfl rfl
  unfold register
  cases hfind : pool.call? id with
  | none => exact .nothing (by simp [hcloses, judged?, lost?, hfind]) rfl
  | some call =>
      obtain ⟨_, deadline, phase⟩ := call
      cases phase with
      | entering | queued | answered | connecting =>
          exact .nothing (by simp [hcloses, judged?, lost?, hfind]) rfl
      | connected connection outcome =>
          cases outcome with
          | ok done =>
              have hjudges : pool.closes (.register id) = pool.stock.unwanted connection := by
                simp [hcloses, judged?, lost?, hfind]
              exact .told hjudges
                ((announce_tells _ id connection).since (Inventory.emit_closings _ rfl) rfl)
          | error error =>
              exact .told (by simp [hcloses, judged?, lost?, hfind])
                (give_up_tells pool id connection error)

/-- A population that registers the outcome of its connect closes the connection if that failed
or it is not wanted any more. -/
theorem settle_reserved_closes (pool : Pool) (owner : Owner) :
    pool.Closes (.settleReserved owner) (pool.settleReserved owner) := by
  have hcloses := closes_turn pool (.settleReserved owner) rfl rfl rfl
  unfold settleReserved
  cases hfind : pool.population? owner with
  | none => exact .nothing (by simp [hcloses, judged?, lost?, hfind]) rfl
  | some population =>
      obtain ⟨_, added, phase⟩ := population
      cases phase with
      | reserving | connecting => exact .nothing (by simp [hcloses, judged?, lost?, hfind]) rfl
      | connected connection outcome =>
          cases outcome with
          | error error =>
              have hloses : pool.closes (.settleReserved owner) = [(connection, .unknown)] := by
                simp [hcloses, judged?, lost?, hfind]
              refine .told hloses ?_
              dsimp only
              rw [finish_population_stock]
              exact (Inventory.discard_tells connection .unknown).since rfl rfl
          | ok done =>
              have hjudges : pool.closes (.settleReserved owner) =
                  pool.stock.unwanted connection := by
                simp [hcloses, judged?, lost?, hfind]
              have hready : ({ pool.stock with pending := pool.stock.pending - 1 }.emit
                  (.ready connection.info)).closings = pool.stock.closings :=
                Inventory.emit_closings _ rfl
              have hsame : ({ pool.stock with pending := pool.stock.pending - 1 }.emit
                  (.ready connection.info)).returnReason? connection =
                    pool.stock.returnReason? connection := rfl
              rw [Closes, hjudges, Inventory.unwanted]
              dsimp only
              rw [hsame]
              cases pool.stock.returnReason? connection with
              | none => exact .nothing hready
              | some reason => exact (Inventory.discard_tells connection reason).since hready rfl

/-- A call that is given up where it holds a connection closes that if it is not wanted any
more, and a population that is dropped closes the one that it was establishing. -/
theorem cancel_closes (h : pool.Coherent) (id : Nat) :
    pool.Closes (.cancel id) (pool.step (.cancel id)).2 := by
  have hcloses := closes_turn pool (.cancel id) rfl rfl rfl
  cases hfind : pool.call? id with
  | none =>
      have hcancel : (pool.step (.cancel id)).2 = pool.abandonPopulation (.call id) := by
        simp [step, cancelAcquire, hfind]
      rw [hcancel]
      exact .told (by simp [hcloses, judged?, lost?, hfind])
        (abandon_population_tells pool (.call id))
  | some call =>
      have hmem := Coherent.call_mem hfind
      have hid : call.id = id := by simpa using List.find?_some hfind
      have hcancel : (pool.step (.cancel id)).2 = pool.cancelAcquire id :=
        hid ▸ step_cancel h hmem
      have hlost : pool.lost? (.cancel id) = none := by
        rw [lost?, ← hid, h.no_population hmem, Option.bind_none]
      obtain ⟨_, deadline, phase⟩ := call
      rw [hcancel, cancelAcquire, hfind]
      cases phase with
      | entering | queued | connected =>
          exact .nothing (by simp [hcloses, judged?, hlost, hfind]) rfl
      | connecting connection due =>
          exact .told (by simp [hcloses, judged?, hlost, hfind])
            (Inventory.reclaim_tells pool.stock connection)
      | answered answer =>
          cases answer with
          | error => exact .nothing (by simp [hcloses, judged?, hlost, hfind]) rfl
          | ok connection =>
              exact .told (by simp [hcloses, judged?, hlost, hfind])
                (Inventory.reclaim_tells pool.stock connection)

/-- A connection on loan that is given back is closed by force, or if it is not wanted any
more. -/
theorem release_loan_tells (hbooked : pool.Booked) (id : Nat) (force : Bool) :
    pool.stock.Tells (pool.releaseLoan id force).2.stock
      ((pool.loan? id).toList.flatMap fun connection =>
        if force then [(connection, .force)] else pool.stock.unwanted connection) := by
  unfold releaseLoan
  cases hfind : pool.loan? id with
  | none => exact .nothing rfl
  | some connection =>
      have hknown := hbooked.known connection (List.mem_of_find?_eq_some hfind)
      simpa using Inventory.release_tells connection hknown force

/-- Taking over an outcome leaves the inventory as it is. -/
theorem settle_stock (pool : Pool) (outcome : WaitQueue.Outcome Nat Connection) :
    (pool.settle outcome).stock = pool.stock := by
  obtain ⟨calls, timers, hsettle⟩ := settle_frame pool outcome
  rw [hsettle]

/-- Attending to the head of the line closes what a search evicts, if the head asks for one.
What nobody claims is wanted. -/
theorem attend_tells (h : pool.Coherent) (hranked : pool.stock.Ranked) (lost : List Nat) :
    pool.stock.Tells (pool.attend lost).2.stock
      (if pool.queue.asks then pool.stock.due pool.stock.available else []) := by
  cases hasks : pool.queue.asks with
  | false =>
      rw [attend, if_neg (by simp [hasks])]
      split
      · exact .nothing (congrArg Inventory.closings (settle_stock pool _))
      · exact .nothing (congrArg Inventory.closings (settle_stock pool _))
  | true =>
      have htold := hranked.lend_tells
      cases hlend : pool.stock.lend with
      | mk resource lent =>
          rw [hlend] at htold
          rw [if_pos rfl]
          rcases attend_stock hasks hlend with hstock | ⟨connection, rfl, hstock⟩
          · rw [hstock]
            exact htold
          · have hwanted := (Inventory.lend_finds hlend).wanted (h.asks_open hasks).1
            rw [hstock, Inventory.reclaim_wanted hwanted]
            exact htold

/-- A tick of a run loop closes what a search for the head of the line evicts. -/
theorem tick_closes (h : pool.Coherent) (hranked : pool.stock.Ranked) (id : Nat)
    (lost : List Nat) : pool.Closes (.tick id lost) (pool.tick id lost) := by
  have hcloses := closes_search pool (.tick id lost) rfl rfl rfl rfl
  cases hlive : pool.runLoops.find? fun loop => loop.id == id with
  | none =>
      rw [tick, hlive]
      exact .nothing (by simp [hcloses, sweeps, hlive]) rfl
  | some loop =>
      have hid : loop.id = id := by simpa using List.find?_some hlive
      subst hid
      by_cases hdue : loop.due ≤ pool.now
      · rw [Closes, tick_stock hlive hdue, hcloses]
        simpa [sweeps, hlive, hdue] using attend_tells h hranked lost
      · rw [tick, hlive]
        dsimp only
        rw [if_neg hdue]
        exact .nothing (by simp [hcloses, sweeps, hlive, hdue]) rfl

/-- An attempt to borrow a connection without waiting closes what it evicts. -/
theorem try_acquire_closes (hranked : pool.stock.Ranked) :
    pool.Closes .tryAcquire (pool.step .tryAcquire).2 := by
  have hcloses := closes_search pool .tryAcquire rfl rfl rfl rfl
  cases hheld : pool.held with
  | false =>
      have hstep : pool.step .tryAcquire = (.done, pool) := by simp [step, hheld]
      rw [hstep]
      exact .nothing (by simp [hcloses, sweeps, hheld]) rfl
  | true =>
      have hstep : (pool.step .tryAcquire).2 = pool.tryAcquire.2 := by simp [step, hheld]
      rw [hstep]
      cases hclosed : pool.isClosed with
      | true =>
          rw [tryAcquire, if_pos hclosed]
          refine .nothing (by simp [hcloses, sweeps, hclosed]) ?_
          exact (Inventory.fail_closings _ _).trans (Inventory.emit_closings _ rfl)
      | false =>
          by_cases hnobody : pool.queue.members = []
          · have hstock : pool.tryAcquire.2.stock = pool.stock.lendIdle.2 := by
              rw [tryAcquire, if_neg (by simp [hclosed]), if_pos (by simp [hnobody])]
              cases pool.stock.lendIdle with
              | mk result stock => cases result <;> rfl
            have hevicts : pool.closes .tryAcquire = pool.stock.due pool.stock.available := by
              simp [hcloses, sweeps, hheld, hclosed, hnobody]
            refine .told hevicts ?_
            rw [hstock]
            exact hranked.lend_idle_tells
          · rw [tryAcquire, if_neg (by simp [hclosed]), if_neg (by simpa using hnobody)]
            exact .nothing (by simp [hcloses, sweeps, hnobody]) rfl

/-- Closing a pool closes its idle connections. -/
theorem close_closes (pool : Pool) : pool.Closes .close (pool.step .close).2 := by
  have hcloses : pool.closes .close = (if pool.shuts .close then pool.stock.available else []).map
      fun connection => (connection, .poolClosed) := by
    simp [closes, sweeps, forced?, judged?, lost?]
  cases hheld : pool.held with
  | false =>
      have hstep : (pool.step .close).2 = pool := by simp [step, hheld]
      rw [hstep]
      exact .nothing (by simp [hcloses, shuts, hheld]) rfl
  | true =>
      have hstep : (pool.step .close).2 = pool.close := by simp [step, hheld]
      rw [hstep]
      cases hclosed : pool.isClosed with
      | true =>
          rw [close, if_pos hclosed]
          exact .nothing (by simp [hcloses, shuts, hclosed]) rfl
      | false =>
          have hidle : pool.closes .close =
              pool.stock.available.map fun connection => (connection, .poolClosed) := by
            simp [hcloses, shuts, hheld, hclosed]
          have hsettled := settle_stock { pool with stock := { pool.stock with closed := true } }
            pool.queue.destroy
          rw [close, if_neg (by simp [hclosed]), Closes, hidle]
          dsimp only
          rw [hsettled]
          exact ((Inventory.close_idle_tells { pool.stock with closed := true }
            pool.stock.available).emit rfl).since rfl rfl

/-! ## All actions -/

/-- Every action closes the connections that it is to close, and no others. -/
theorem step_closes (h : pool.Coherent) (hbooked : pool.Booked) (hranked : pool.stock.Ranked)
    (action : Action) : pool.Closes action (pool.step action).2 := by
  cases action with
  | tryAcquire => exact try_acquire_closes hranked
  | cancel call => exact cancel_closes h call
  | release connection force =>
      have htold := release_loan_tells hbooked connection force
      rw [step_release]
      cases force with
      | true =>
          have hcloses : pool.closes (.release connection true) =
              (if pool.held then pool.loan? connection else none).toList.map fun lent =>
                (lent, .force) := by
            simp [closes, sweeps, shuts, forced?, judged?, lost?]
          cases hheld : pool.held with
          | false => exact .nothing (by simp [hcloses, hheld]) rfl
          | true => exact .told (by simp [hcloses, hheld, List.map_eq_flatMap]) htold
      | false =>
          have hcloses := closes_turn pool (.release connection false) rfl rfl rfl
          cases hheld : pool.held with
          | false => exact .nothing (by simp [hcloses, judged?, lost?, hheld]) rfl
          | true => exact .told (by simp [hcloses, judged?, lost?, hheld]) htold
  | drop connection =>
      have hcloses := closes_turn pool (.drop connection) rfl rfl rfl
      exact .told (by simp [hcloses, judged?, lost?])
        (release_loan_tells hbooked connection false)
  | close => exact close_closes pool
  | resume call => exact resume_closes pool call
  | register call => exact register_closes pool call
  | tick runLoop lost => exact tick_closes h hranked runLoop lost
  | settleReserved owner => exact settle_reserved_closes pool owner
  | abandonOpening =>
      have hcloses := closes_turn pool .abandonOpening rfl rfl rfl
      simp only [step, abandonOpening]
      split
      · next hopen =>
          have hnone : pool.population? .opening = none := Option.isNone_iff_eq_none.1 hopen
          exact .nothing (by simp [hcloses, judged?, lost?, hnone]) rfl
      · exact .told (by simp [hcloses, judged?, lost?]) (abandon_population_tells pool .opening)
  | abandonMaintenance =>
      have hcloses := closes_turn pool .abandonMaintenance rfl rfl rfl
      simp only [step, abandonMaintenance]
      cases hgone : pool.maintenance with
      | none =>
          exact .told (by simp [hcloses, judged?, lost?, hgone])
            (abandon_population_tells pool .maintenance)
      | some due => exact .nothing (by simp [hcloses, judged?, lost?, hgone]) rfl
  | acquire call =>
      simp only [step, startAcquire]
      split
      · exact .nothing rfl (Inventory.emit_closings _ rfl)
      · exact .nothing rfl rfl
  | populate call =>
      simp only [step, startPopulation]
      split <;> exact .nothing rfl rfl
  | write connection bytes =>
      rw [step_write, writeLoan]
      split <;> exact .nothing rfl rfl
  | establish connection =>
      rw [step_establish, establishLoan]
      split <;> exact .nothing rfl rfl
  | destroyConnection connection =>
      simp only [step, destroyLoan]
      split <;> exact .nothing rfl rfl
  | clear =>
      simp only [step]
      split
      · exact .nothing rfl (Inventory.emit_closings _ rfl)
      · exact .nothing rfl rfl
  | destroy =>
      simp only [step]
      split
      · have hsettled := congrArg Inventory.closings
          (settle_stock pool.stopped pool.queue.destroy)
        exact .nothing rfl hsettled
      · exact .nothing rfl rfl
  | watch | dropHandle | failNext | failAll | connectDelay | elapse => exact .nothing rfl rfl
  | enter call => exact enter_closes pool call
  | finishConnect call =>
      simp only [step, finishConnect]
      split
      · split <;> exact .nothing rfl rfl
      · exact .nothing rfl rfl
  | expire member =>
      simp only [step, expire]
      split
      · split
        · exact .nothing rfl (congrArg Inventory.closings (settle_stock _ _))
        · exact .nothing rfl rfl
      · exact .nothing rfl rfl
  | reserve owner =>
      simp only [step, reserve]
      split
      · split
        · exact .nothing rfl (congrArg Inventory.closings (finish_population_stock pool owner _))
        · exact .nothing rfl (Inventory.emit_closings _ rfl)
      · exact .nothing rfl rfl
  | finishReserved owner =>
      simp only [step, finishReserved]
      split
      · split <;> exact .nothing rfl rfl
      · exact .nothing rfl rfl
  | maintain =>
      simp only [step, maintain]
      split
      · split
        · split <;> exact .nothing rfl rfl
        · exact .nothing rfl rfl
      · exact .nothing rfl rfl

/-- The events of an action. -/
def news (pool : Pool) (action : Action) : List Event :=
  (pool.after action).log.drop pool.log.length

/-- The events of an action come after those before. -/
theorem Reachable.after_news (h : pool.Reachable) (action : Action) :
    (pool.after action).log = pool.log ++ pool.news action := by
  obtain ⟨later, hlog⟩ := (h.step action).log_grows
  have hafter : (pool.after action).log = pool.log ++ later := hlog.symm
  rw [news, hafter, List.drop_left]

/-- What the events of an action tell of closed connections is what the action closes. -/
theorem Reachable.news_closings (h : pool.Reachable) (action : Action) :
    ((pool.news action).map Event.notice).filter (fun notice => notice.kind.type == .closed) =
      (pool.closes action).map fun lost => pool.stock.closing lost.1 lost.2 := by
  obtain ⟨hcoherent, hcustody⟩ := h.sound
  have hstep := step_closes hcoherent hcustody.loans_booked h.ranked action
  have hafter : (pool.step action).2.stock.log = pool.log ++ pool.news action :=
    (after_log pool action).symm.trans (h.after_news action)
  rw [Closes, Inventory.Tells, Inventory.closings, Inventory.notices, hafter, List.map_append,
    List.filter_append] at hstep
  exact List.append_cancel_left hstep

/-- An event that tells of a closed connection tells of one that the action closes, at that
instant and with the generation at that instant. -/
theorem Reachable.closed_news (h : pool.Reachable) {action : Action} {event : Event}
    {info : ConnectionInfo} {reason : CloseReason} (hnew : event ∈ pool.news action)
    (hkind : event.kind = .closed info reason) :
    event.time = pool.now ∧ event.pool.generation = pool.stock.generation ∧
      ∃ connection, connection.info = info ∧ (connection, reason) ∈ pool.closes action := by
  have htold : event.notice ∈ ((pool.news action).map Event.notice).filter
      (fun notice => notice.kind.type == .closed) :=
    List.mem_filter.2 ⟨List.mem_map_of_mem hnew, by simp [Event.notice, hkind, EventKind.type]⟩
  rw [h.news_closings] at htold
  obtain ⟨⟨connection, why⟩, hcloses, hclosing⟩ := List.mem_map.1 htold
  have hsame : EventKind.closed connection.info why = .closed info reason :=
    (congrArg Notice.kind hclosing).trans hkind
  cases hsame
  exact ⟨(congrArg Notice.time hclosing).symm, (congrArg Notice.generation hclosing).symm,
    connection, rfl, hcloses⟩

/-- What an action closes is told. -/
theorem Reachable.closes_told (h : pool.Reachable) {action : Action} {reason : CloseReason}
    (hcloses : (connection, reason) ∈ pool.closes action) :
    ∃ event ∈ pool.news action, event.kind = .closed connection.info reason := by
  have htold := List.mem_map_of_mem hcloses (f := fun lost => pool.stock.closing lost.1 lost.2)
  rw [← h.news_closings, List.mem_filter, List.mem_map] at htold
  obtain ⟨⟨event, hnew, hnotice⟩, -⟩ := htold
  exact ⟨event, hnew, congrArg Notice.kind hnotice⟩

/-! ## Where the closed connections were -/

/-- An idle connection is one of the pool's. -/
theorem idle_connections (hidle : connection ∈ pool.stock.available) :
    connection ∈ pool.connections :=
  List.mem_append_left _ (List.mem_append_left _ hidle)

/-- A connection on loan is one of the pool's. -/
theorem loan_connections (hfind : pool.loan? id = some connection) :
    connection ∈ pool.connections :=
  List.mem_append_left _ (List.mem_append_right _
    (List.mem_append_right _ (List.mem_of_find?_eq_some hfind)))

/-- The connection that a call holds is one of the pool's. -/
theorem phase_connections {phase : Phase} (hfind : (pool.call? id).map Call.phase = some phase)
    (hholds : phase.connection? = some connection) : connection ∈ pool.connections := by
  obtain ⟨call, hcall, rfl⟩ := Option.map_eq_some_iff.1 hfind
  exact List.mem_append_left _ (List.mem_append_right _ (List.mem_append_left _
    (List.mem_filterMap.2 ⟨call, Coherent.call_mem hcall, hholds⟩)))

/-- The connection that a population is establishing is one of the pool's. -/
theorem filling_connections {owner : Owner} {phase : PopulationPhase}
    (hfind : (pool.population? owner).map Population.phase = some phase)
    (hholds : phase.connection? = some connection) : connection ∈ pool.connections := by
  obtain ⟨population, hpopulation, rfl⟩ := Option.map_eq_some_iff.1 hfind
  exact List.mem_append_right _
    (List.mem_filterMap.2 ⟨population, List.mem_of_find?_eq_some hpopulation, hholds⟩)

/-- The connection that the pool looks at is one of its own. -/
theorem judged_connections {action : Action} (h : pool.judged? action = some connection) :
    connection ∈ pool.connections := by
  cases action with
  | release id force =>
      cases force with
      | true => cases h
      | false =>
          simp only [judged?, Option.ite_none_right_eq_some] at h
          exact loan_connections h.2
  | drop id => exact loan_connections h
  | cancel id =>
      simp only [judged?] at h
      split at h
      · next hphase => cases h; exact phase_connections hphase rfl
      · next hphase => cases h; exact phase_connections hphase rfl
      · cases h
  | resume id =>
      simp only [judged?] at h
      split at h
      · next hphase =>
          obtain ⟨-, hsame⟩ := Option.ite_none_right_eq_some.1 h
          cases hsame
          exact phase_connections hphase rfl
      · cases h
  | register id =>
      simp only [judged?] at h
      split at h
      · next hphase => cases h; exact phase_connections hphase rfl
      · cases h
  | settleReserved owner =>
      simp only [judged?] at h
      split at h
      · next hphase => cases h; exact filling_connections hphase rfl
      · cases h
  | _ => cases h

/-- The connection that is lost is one of the pool's. -/
theorem lost_connections {action : Action} (h : pool.lost? action = some connection) :
    connection ∈ pool.connections := by
  have hdropped : ∀ {owner : Owner}, ((pool.population? owner).bind fun population =>
      population.phase.connection?) = some connection → connection ∈ pool.connections := by
    intro owner hfind
    obtain ⟨population, hpopulation, hholds⟩ := Option.bind_eq_some_iff.1 hfind
    exact filling_connections (congrArg (Option.map Population.phase) hpopulation) hholds
  cases action with
  | resume id =>
      simp only [lost?] at h
      split at h
      · next hphase =>
          obtain ⟨-, hsame⟩ := Option.ite_none_right_eq_some.1 h
          cases hsame
          exact phase_connections hphase rfl
      · cases h
  | register id =>
      simp only [lost?] at h
      split at h
      · next hphase => cases h; exact phase_connections hphase rfl
      · cases h
  | settleReserved owner =>
      simp only [lost?] at h
      split at h
      · next hphase => cases h; exact filling_connections hphase rfl
      · cases h
  | cancel id => exact hdropped h
  | abandonOpening => exact hdropped h
  | abandonMaintenance =>
      simp only [lost?, Option.ite_none_right_eq_some] at h
      exact hdropped h.2
  | _ => cases h

/-- What an action closes is one of the connections of the pool. -/
theorem closes_connections {action : Action} {reason : CloseReason}
    (hcloses : (connection, reason) ∈ pool.closes action) : connection ∈ pool.connections := by
  rcases mem_closes.1 hcloses with
    ⟨-, hidle, -⟩ | ⟨-, hidle, -⟩ | ⟨hforced, -⟩ | ⟨hjudged, -⟩ | ⟨hlost, -⟩
  · exact idle_connections hidle
  · exact idle_connections hidle
  · obtain ⟨id, -, -, hfind⟩ := forced_iff.1 hforced
    exact loan_connections hfind
  · exact judged_connections hjudged
  · exact lost_connections hlost

end Pool

end ConnectionPool
