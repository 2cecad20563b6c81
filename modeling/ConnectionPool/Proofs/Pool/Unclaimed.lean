import ConnectionPool.Proofs.Pool.Observers
import ConnectionPool.Proofs.Pool.Queueing

/-!
# Callers that go away while a connection is found for them

While a connection is searched for, the very caller may go away that it is meant for, of itself
or because of an event of the search. Then nobody listens at the head of the line, and the pool
takes the connection back. `Searches.unclaimed` compares that with a caller that stays, is given
the connection and goes away before it looks: both pools are bare the same.
-/

namespace ConnectionPool

/-- A call in this phase waits: for its turn, for a look at its answer or for its link. Here its
caller can give it up. -/
def Phase.Pauses : Phase → Prop
  | .queued _ | .answered _ | .connecting .. => True
  | .entering _ | .connected .. => False

namespace Inventory

variable {stock next lent : Inventory} {connection : Connection}

/-! ## Connections that are found -/

/-- A search found the connection for a call. Connections may have been closed and one created
meanwhile. -/
structure Finds (stock : Inventory) (connection : Connection) (lent : Inventory) : Prop where
  books : lent.checkedOut = connection.id :: stock.checkedOut
  closed : lent.closed = stock.closed
  current : connection.generation = lent.generation
  told : ∃ told, lent.log = stock.log ++ told ∧
    ∀ event ∈ told, event.type = .created ∨ event.type = .closed

/-- Evictions are told as closed connections, and are no matter of the books. -/
theorem Evicts.told (h : stock.Evicts next) :
    next.checkedOut = stock.checkedOut ∧
      ∃ told, next.log = stock.log ++ told ∧
        ∀ event ∈ told, event.type = .created ∨ event.type = .closed := by
  induction h with
  | refl => exact ⟨rfl, [], (List.append_nil _).symm, by simp⟩
  | step _ _ _ ih =>
      rw [discard_eq] at ih
      obtain ⟨hbooks, told, hlog, htold⟩ := ih
      refine ⟨hbooks, _ :: told, hlog.trans (List.append_assoc _ [_] _), ?_⟩
      exact List.forall_mem_cons.2 ⟨.inr (by simp [Event.type, EventKind.type]), htold⟩

/-- What is lent was found. -/
theorem lend_finds (hlend : stock.lend = (some connection, lent)) :
    stock.Finds connection lent := by
  unfold lend obtain at hlend
  cases htake : stock.takeIdle with
  | mk result middle =>
      cases result with
      | some first =>
          obtain ⟨found, rest, hevicts, hfirst, husable, rfl⟩ := take_from_some rfl htake
          simp only [htake, checkOut, Prod.mk.injEq, Option.some.injEq] at hlend
          obtain ⟨rfl, rfl⟩ := hlend
          obtain ⟨hbooks, htold⟩ := hevicts.told
          exact ⟨congrArg _ hbooks, hevicts.closed_eq,
            ((eviction_reason_none found first).1 husable).1, htold⟩
      | none =>
          obtain ⟨hevicts, hempty⟩ := take_from_none rfl htake
          cases hroom : middle.hasCapacity with
          | false => simp [htake, hroom] at hlend
          | true =>
              simp only [htake, hroom, if_true, checkOut, create_eq, Prod.mk.injEq,
                Option.some.injEq] at hlend
              obtain ⟨rfl, rfl⟩ := hlend
              obtain ⟨hbooks, told, hlog, htold⟩ := hevicts.told
              refine ⟨congrArg _ hbooks, hevicts.closed_eq, rfl, told ++ [_],
                (congrArg (· ++ _) hlog).trans (List.append_assoc _ _ _), ?_⟩
              intro event hevent
              rcases List.mem_append.1 hevent with hevent | hevent
              · exact htold event hevent
              · rw [List.mem_singleton.1 hevent]
                exact .inl (by simp [Event.type, EventKind.type])

/-- A connection that an open pool has found could become idle as well. -/
theorem Finds.wanted (h : stock.Finds connection lent) (hopen : stock.closed = false) :
    lent.returnReason? connection = none :=
  (return_reason_none lent connection).2 ⟨h.closed.trans hopen, h.current⟩

/-- A connection that was found and that nobody claims is idle again, at the back. -/
theorem Finds.reclaim (h : stock.Finds connection lent) (hopen : stock.closed = false) :
    lent.reclaim connection =
      { lent with
        checkedOut := stock.checkedOut
        available := lent.available ++ [connection.makeAvailable lent.now] } := by
  rw [reclaim_wanted (h.wanted hopen), putBack, giveBack, h.books, List.erase_cons_head]

end Inventory

namespace Pool

variable {pool : Pool} {id member : Nat} {call : Call}

/-! ## Calls that are given up -/

/-- What giving up a call comes to where it waits. -/
theorem cancel_acquire_eq (hfind : pool.call? id = some call) (hpauses : call.phase.Pauses) :
    pool.cancelAcquire id =
      { pool.without id call.phase.member? with
        stock := call.phase.connection?.elim pool.stock pool.stock.reclaim } := by
  unfold cancelAcquire
  rw [hfind, Option.map_some]
  generalize call.phase = phase at hpauses ⊢
  cases phase with
  | queued | connecting => rfl
  | answered answer => cases answer <;> rfl
  | entering | connected => cases hpauses

/-- A call that does not wait goes on. -/
theorem cancel_acquire_busy (hfind : pool.call? id = some call) (hbusy : ¬ call.phase.Pauses) :
    pool.cancelAcquire id = pool := by
  unfold cancelAcquire
  rw [hfind, Option.map_some]
  generalize call.phase = phase at hbusy ⊢
  cases phase with
  | queued | answered | connecting => exact absurd trivial hbusy
  | entering | connected => rfl

/-- A call is no population. -/
theorem Coherent.no_population (h : pool.Coherent) (hcall : call ∈ pool.calls) :
    pool.population? (.call call.id) = none := by
  refine List.find?_eq_none.2 fun population hpopulation howner => ?_
  have hid : call.id ∈ pool.calls.map Call.id := List.mem_map_of_mem hcall
  refine h.apart call.id hid ?_
  rw [← eq_of_beq howner]
  exact List.mem_map_of_mem hpopulation

/-- When the id is that of a call, only the call is given up. -/
theorem step_cancel (h : pool.Coherent) (hcall : call ∈ pool.calls) :
    (pool.step (.cancel call.id)).2 = pool.cancelAcquire call.id := by
  have hpopulations : (pool.cancelAcquire call.id).populations = pool.populations := by
    unfold cancelAcquire
    split <;> rfl
  have hnone : (pool.cancelAcquire call.id).population? (.call call.id) = none := by
    rw [population?, hpopulations]
    exact h.no_population hcall
  show (pool.cancelAcquire call.id).abandonPopulation (.call call.id) = _
  rw [abandonPopulation, hnone]

/-! ## Ticks that find a connection -/

variable {loop : RunLoop} {connection : Connection} {lent : Inventory} {lost : List Nat}

/-- The pool after a search that left it with this inventory, once the events of the search were
seen and these callers went away. -/
def searched (pool : Pool) (lent : Inventory) (lost : List Nat) : Pool :=
  ({ pool with stock := lent }.fire pool.log.length).loseAll lost

/-- Give the connection that was found to the head of the line. If nobody listens there the pool
takes it back. -/
def grant (pool : Pool) (connection : Connection) : Pool :=
  match pool.queue.members with
  | [] => pool
  | head :: rest =>
      let queue := { pool.queue with members := rest }
      if head.listening then
        pool.settle ⟨queue, [(head.id, .ok connection)], head.timer.toList⟩
      else
        { pool.settle ⟨queue, [], head.timer.toList⟩ with stock := pool.stock.reclaim connection }

/-- The run loop's next tick is at this instant. -/
def goOn (pool : Pool) (loop : RunLoop) (due : Instant) : Pool :=
  { pool with
    runLoops := pool.runLoops.map fun other =>
      if other.id = loop.id then { other with due := due } else other }

/-- The pool after a tick that found the connection. -/
def granted (pool : Pool) (loop : RunLoop) (lent : Inventory) (lost : List Nat)
    (connection : Connection) : Pool :=
  ((pool.searched lent lost).grant connection).goOn loop
    (nextTick loop.due pool.now pool.config.waitQueuePeriod)

/-- The line is as long as before after a search, and the inventory is as the search left it. -/
theorem searched_frame (pool : Pool) (lent : Inventory) (lost : List Nat) :
    (pool.searched lent lost).queue.ids = pool.queue.ids ∧
      (pool.searched lent lost).stock = lent ∧
      (pool.searched lent lost).tripwires =
        Tripwire.unspent (lent.log.drop pool.log.length) pool.tripwires := by
  obtain ⟨_, _, _, _, hfire⟩ := fire_frame { pool with stock := lent } pool.log.length
  obtain ⟨_, _, hlost⟩ := lose_all_frame ({ pool with stock := lent }.fire pool.log.length) lost
  exact ⟨(searched_thins pool lent pool.log.length lost).ids,
    (congrArg Pool.stock hlost).trans (congrArg Pool.stock hfire),
    (congrArg Pool.tripwires hlost).trans
      (fire_bare { pool with stock := lent } pool.log.length).2⟩

/-- A run loop that finds a connection gives it to the head of the line. -/
theorem attend_found (hasks : pool.queue.asks = true)
    (hlend : pool.stock.lend = (some connection, lent)) :
    pool.attend lost = (true, (pool.searched lent lost).grant connection) := by
  have hmembers : (pool.searched lent lost).queue.members ≠ [] := by
    have hids := (searched_frame pool lent lost).1
    intro hnil
    rw [WaitQueue.ids, hnil, List.map_nil, eq_comm, WaitQueue.ids, List.map_eq_nil_iff] at hids
    simp [WaitQueue.asks, hids] at hasks
  rw [attend, if_pos hasks, hlend]
  dsimp only
  rw [← searched]
  generalize pool.searched lent lost = fired at hmembers ⊢
  unfold grant WaitQueue.serve
  cases hline : fired.queue.members with
  | nil => exact absurd hline hmembers
  | cons head rest =>
      dsimp only
      cases head.listening <;> rfl

/-- Giving a connection away tells nothing and sets no tripwires. -/
theorem grant_frame (pool : Pool) (hwanted : pool.stock.returnReason? connection = none) :
    (pool.grant connection).log = pool.log ∧
      (pool.grant connection).tripwires = pool.tripwires := by
  unfold grant
  split
  · exact ⟨rfl, rfl⟩
  · dsimp only
    split
    · exact ⟨rfl, rfl⟩
    · refine ⟨?_, rfl⟩
      show (pool.stock.reclaim connection).log = pool.log
      rw [Inventory.reclaim_wanted hwanted]
      rfl

/-- Giving a connection away takes the head off the line, and nobody off the list of calls. -/
theorem grant_line (pool : Pool) (connection : Connection) :
    (pool.grant connection).queue.ids = pool.queue.ids.tail ∧
      (pool.grant connection).callIds = pool.callIds := by
  unfold grant
  split
  · next hnobody => simp [WaitQueue.ids, hnobody]
  · next head rest hmembers =>
      have hrest : pool.queue.ids.tail = rest.map Member.id := by
        rw [WaitQueue.ids, hmembers, List.map_cons, List.tail_cons]
      rw [hrest]
      dsimp only
      split
      · exact ⟨rfl, (deliver_frame _ pool).2⟩
      · exact ⟨rfl, rfl⟩

/-- The tripwires see the events of a search only once. -/
theorem tick_found (hloop : pool.runLoops.find? (fun other => other.id == loop.id) = some loop)
    (hdue : loop.due ≤ pool.now) (hasks : pool.queue.asks = true)
    (hlend : pool.stock.lend = (some connection, lent))
    (hwanted : lent.returnReason? connection = none) :
    pool.tick loop.id lost = pool.granted loop lent lost connection ∧
      pool.after (.tick loop.id lost) = (pool.granted loop lent lost connection).collect := by
  have htick : pool.tick loop.id lost = pool.granted loop lent lost connection := by
    rw [Pool.tick, hloop]
    dsimp only
    rw [if_pos hdue, attend_found hasks hlend]
    rfl
  obtain ⟨-, hstock, hwires⟩ := searched_frame pool lent lost
  obtain ⟨hlog, hkept⟩ := grant_frame (pool.searched lent lost) (hstock.symm ▸ hwanted)
  have hunseen : (pool.granted loop lent lost connection).fire pool.log.length =
      pool.granted loop lent lost connection := by
    refine fire_unseen ?_
    show ∀ wire ∈ ((pool.searched lent lost).grant connection).tripwires,
      ∀ event ∈ ((pool.searched lent lost).grant connection).log.drop _, _
    rw [hkept, hwires, hlog, show (pool.searched lent lost).log = lent.log from congrArg _ hstock]
    exact Tripwire.unspent_unseen
  refine ⟨htick, ?_⟩
  show ((pool.tick loop.id lost).fire pool.log.length).collect = _
  rw [htick, hunseen]

/-- Giving a connection away is no matter of tripwires. -/
theorem grant_bare (pool : Pool) (connection : Connection) :
    (pool.grant connection).bare = pool.bare.grant connection := by
  have hmembers : pool.bare.queue = pool.queue := rfl
  unfold grant
  rw [hmembers]
  split
  · rfl
  · dsimp only
    split <;> rfl

/-- The end of a pool is no matter of tripwires. -/
theorem collect_bare (pool : Pool) : pool.collect.bare = pool.bare.collect := by
  have halive : pool.bare.isAlive = pool.isAlive := rfl
  unfold collect
  rw [halive]
  split <;> rfl

/-- A call that is given up leaves the run loops as they are. -/
theorem go_on_cancel (pool : Pool) (loop : RunLoop) (due : Instant) (id : Nat) :
    (pool.goOn loop due).cancelAcquire id = (pool.cancelAcquire id).goOn loop due := by
  have hcall : (pool.goOn loop due).call? id = pool.call? id := rfl
  unfold cancelAcquire
  rw [hcall]
  split <;> rfl

/-- Who waits first in line is listened for there, so the line asks. -/
theorem WaitsAs.first (h : pool.WaitsAs id member) (hpool : pool.Coherent)
    (hhead : pool.queue.ids.head? = some member) :
    pool.queue.asks = true ∧
      ∃ head rest, pool.queue.members = head :: rest ∧ head.id = member ∧
        head.listening = true := by
  obtain ⟨m, hm, hmid, hlistens⟩ := (hpool.line.listening member).1 (mem_waiting.2 ⟨id, h⟩)
  cases hmembers : pool.queue.members with
  | nil => simp [WaitQueue.ids, hmembers] at hhead
  | cons head rest =>
      have hid : head.id = member := by simpa [WaitQueue.ids, hmembers] using hhead
      have hmem : head ∈ pool.queue.members := by rw [hmembers]; exact List.mem_cons_self
      have hsame : m = head := List.inj_on_of_nodup_map hpool.line.ids hm hmem
        (hmid.trans hid.symm)
      have hlistening : head.listening = true := hsame ▸ hlistens
      have hthere : pool.queue.destroyed = false := by
        by_contra hgone
        have hempty := hpool.line.emptied (by simpa using hgone)
        rw [hmembers] at hempty
        cases hempty
      refine ⟨?_, head, rest, rfl, hid, hlistening⟩
      rw [WaitQueue.asks, hmembers]
      simp [hthere, hlistening]

/-- The call that waits first in line is answered with the connection. -/
theorem grant_served (connection : Connection) (h : pool.Coherent)
    (hfind : pool.call? id = some call) (hphase : call.phase = .queued member)
    (hhead : pool.queue.ids.head? = some member) :
    ∃ head rest, pool.queue.members = head :: rest ∧ head.id = member ∧
      pool.grant connection =
        { pool.setPhase id (.answered (.ok connection)) with
          queue := { pool.queue with members := rest }
          timers := pool.timers.filter fun timer => timer.member ∉ head.timer.toList } := by
  have hwaits : pool.WaitsAs call.id member := ⟨call, Coherent.call_mem hfind, rfl, hphase⟩
  obtain ⟨-, head, rest, hmembers, hid, hlistening⟩ := hwaits.first h hhead
  refine ⟨head, rest, hmembers, hid, ?_⟩
  rw [grant, hmembers]
  dsimp only
  rw [if_pos hlistening, settle, hid]
  dsimp only
  rw [List.foldl_cons, List.foldl_nil, deliver_eq_setPhase h hfind hphase]
  rfl

/-- A call that moved on is found in its new phase, and removing it leaves no trace of that. -/
theorem set_phase_call (phase : Phase) (hfind : pool.call? id = some call) :
    (pool.setPhase id phase).call? id = some { call with phase := phase } ∧
      (pool.setPhase id phase).removeCall id = pool.removeCall id := by
  have hkeeps : ∀ call : Call,
      (if call.id = id then { call with phase := phase } else call).id = call.id := by
    intro call
    split <;> rfl
  have hid : call.id = id := by simpa using List.find?_some hfind
  constructor
  · simp only [call?, setPhase, List.find?_map, Function.comp_def, hkeeps]
    show (pool.call? id).map _ = _
    rw [hfind, Option.map_some, if_pos hid]
  · simp only [removeCall, setPhase, List.filter_map, Function.comp_def, hkeeps]
    refine congrArg (fun calls => { pool with calls := calls }) ?_
    refine (List.map_congr_left fun other hother => if_neg ?_).trans (List.map_id' _)
    exact bne_iff_ne.1 (List.mem_filter.1 hother).2

/-- Whether the caller goes away before the connection is given to it or afterwards makes no
difference: the connection comes back. -/
theorem without_grant (connection : Connection) (h : pool.Coherent)
    (hfind : pool.call? id = some call) (hphase : call.phase = .queued member)
    (hhead : pool.queue.ids.head? = some member) :
    (pool.without id (some member)).grant connection = (pool.grant connection).cancelAcquire id ∧
      ((pool.without id (some member)).grant connection).stock =
        pool.stock.reclaim connection := by
  obtain ⟨head, rest, hmembers, hid, hgrant⟩ := grant_served connection h hfind hphase hhead
  obtain ⟨hmoved, hremoved⟩ := set_phase_call (.answered (.ok connection)) hfind
  have hcall : (pool.grant connection).call? id =
      some { call with phase := .answered (.ok connection) } := by
    rw [hgrant]
    exact hmoved
  have hdeaf : (pool.without id (some member)).queue.members =
      { head with listening := false } :: rest := by
    have hids := h.line.ids
    rw [hmembers, List.map_cons, List.nodup_cons] at hids
    show pool.queue.members.map _ = _
    rw [hmembers, List.map_cons, if_pos hid]
    refine congrArg _ ((List.map_congr_left fun m hm => if_neg ?_).trans (List.map_id' rest))
    exact fun heq => hids.1 (List.mem_map.2 ⟨m, hm, heq.trans hid.symm⟩)
  rw [cancel_acquire_eq hcall trivial, hgrant, grant, hdeaf]
  dsimp only
  rw [if_neg Bool.false_ne_true]
  refine ⟨?_, rfl⟩
  exact congrArg (fun next => { next with
    stock := pool.stock.reclaim connection
    queue := { pool.queue with members := rest }
    timers := pool.timers.filter fun timer => timer.member ∉ head.timer.toList }) hremoved.symm

/-- A call that is given up before it looks at the connection that it was given. -/
theorem after_cancel (h : pool.Coherent) (hfind : pool.call? id = some call)
    (hphase : call.phase = .answered (.ok connection))
    (hwanted : pool.stock.returnReason? connection = none) :
    pool.after (.cancel id) = (pool.cancelAcquire id).collect := by
  obtain rfl : call.id = id := by simpa using List.find?_some hfind
  have hlog : (pool.cancelAcquire call.id).log = pool.log := by
    rw [cancel_acquire_eq hfind (by rw [hphase]; trivial), hphase]
    show (pool.stock.reclaim connection).log = pool.log
    rw [Inventory.reclaim_wanted hwanted]
    rfl
  show ((pool.step (.cancel call.id)).2.fire pool.log.length).collect = _
  rw [step_cancel h (Coherent.call_mem hfind), ← hlog, fire_nothing]

/-- A pool in which there is a call is not given up. -/
theorem collect_of_call (hfind : pool.call? id = some call) : pool.collect = pool := by
  have hcalls : pool.calls ≠ [] := List.ne_nil_of_mem (Coherent.call_mem hfind)
  rw [collect, if_pos (by simp [isAlive, hcalls])]

/-- At its next tick the run loop finds the connection for the call, which is first in line. The
search leaves the pool with this inventory. -/
structure Searches (pool : Pool) (call : Call) (loop : RunLoop) (lent : Inventory)
    (connection : Connection) : Prop where
  waits : call ∈ pool.calls
  first : ∃ member, call.phase = .queued member ∧ pool.queue.ids.head? = some member
  live : (pool.runLoops.find? fun other => other.id == loop.id) = some loop
  due : loop.due ≤ pool.now
  finds : pool.stock.lend = (some connection, lent)

/-- The line asks for a connection then, and the pool would take it back. -/
theorem Searches.asks (h : pool.Searches call loop lent connection) (hpool : pool.Coherent) :
    pool.queue.asks = true ∧ pool.stock.closed = false ∧
      lent.returnReason? connection = none := by
  obtain ⟨member, hphase, hhead⟩ := h.first
  have hasks := (WaitsAs.first ⟨call, h.waits, rfl, hphase⟩ hpool hhead).1
  have hopen := (hpool.asks_open hasks).1
  exact ⟨hasks, hopen, (Inventory.lend_finds h.finds).wanted hopen⟩

/-- The pool stays coherent through the search. -/
theorem Searches.coherent (h : pool.Searches call loop lent connection) (hpool : pool.Coherent)
    (lost : List Nat) : (pool.searched lent lost).Coherent := by
  have hlent : { pool with stock := lent }.Coherent :=
    hpool.congr rfl rfl rfl (Inventory.lend_finds h.finds).closed
  exact (lose_all_undisturbed (fire_undisturbed hlent _).coherent lost).coherent

/-- A caller that is still there after the search is given the connection. It may go away before
it looks. -/
theorem Searches.served (h : pool.Searches call loop lent connection) (hpool : pool.Coherent)
    (hstill : (pool.searched lent lost).call? call.id = some call) :
    call.id ∈ (pool.after (.tick loop.id lost)).callIds ∧
      pool.run [.tick loop.id lost, .cancel call.id] =
        ((pool.granted loop lent lost connection).cancelAcquire call.id).collect := by
  obtain ⟨member, hphase, hhead⟩ := h.first
  obtain ⟨hasks, -, hwanted⟩ := h.asks hpool
  obtain ⟨hids, hstock, -⟩ := searched_frame pool lent lost
  obtain ⟨head, rest, -, -, hgrant⟩ := grant_served connection (h.coherent hpool lost)
    hstill hphase (hids.symm ▸ hhead)
  have hfind : (pool.granted loop lent lost connection).call? call.id =
      some { call with phase := .answered (.ok connection) } := by
    show ((pool.searched lent lost).grant connection).call? call.id = _
    rw [hgrant]
    exact (set_phase_call _ hstill).1
  obtain ⟨htick, hafter⟩ := tick_found h.live h.due hasks h.finds hwanted
  rw [collect_of_call hfind] at hafter
  have hcoherent : (pool.granted loop lent lost connection).Coherent := by
    rw [← htick]
    exact (tick_advances hpool loop.id lost).coherent
  have hback : (pool.granted loop lent lost connection).stock.returnReason?
      connection = none := by
    show ((pool.searched lent lost).grant connection).stock.returnReason? connection = none
    rw [hgrant]
    exact hstock.symm ▸ hwanted
  constructor
  · rw [hafter]
    exact List.mem_map.2 ⟨_, Coherent.call_mem hfind, rfl⟩
  · show (pool.after (.tick loop.id lost)).after (.cancel call.id) = _
    rw [hafter]
    exact after_cancel hcoherent hfind rfl hback

/-- A caller that is no longer there after the search is not there after the tick. -/
theorem Searches.gone (h : pool.Searches call loop lent connection) (hpool : pool.Coherent)
    (hfind : (pool.searched lent lost).call? call.id = none) :
    call.id ∉ (pool.after (.tick loop.id lost)).callIds := by
  obtain ⟨hasks, -, hwanted⟩ := h.asks hpool
  rw [(tick_found h.live h.due hasks h.finds hwanted).2, callIds, (collect_leaves _).1]
  show call.id ∉ ((pool.searched lent lost).grant connection).callIds
  rw [(grant_line _ connection).2]
  intro hmem
  obtain ⟨other, hother, hid⟩ := List.mem_map.1 hmem
  exact List.find?_eq_none.1 hfind other hother (beq_iff_eq.2 hid)

/-- A caller that goes away of itself while the connection is found for it is not there after
the tick. -/
theorem Searches.gone_lost (h : pool.Searches call loop lent connection) (hpool : pool.Coherent)
    (hlost : call.id ∈ lost) : call.id ∉ (pool.after (.tick loop.id lost)).callIds := by
  obtain ⟨member, hphase, -⟩ := h.first
  refine h.gone hpool ?_
  rw [searched, lose_all_last _ hlost]
  have hthins := searched_thins pool lent pool.log.length (lost.filter (· != call.id))
  refine lose_waiter_gone fun other hother => ⟨member, ?_⟩
  have hid : other.id = call.id := by simpa using List.find?_some hother
  obtain rfl : other = call := List.inj_on_of_nodup_map hpool.callIds
    (hthins.calls other (Coherent.call_mem hother)) h.waits hid
  exact hphase

/-- If neither its tripwires nor it itself make the caller go away, it is left alone by the
search, and all else is as if they did, except that the caller goes away then. -/
theorem searched_calm (pool : Pool) (lent : Inventory) (lost : List Nat) (id : Nat) :
    ((pool.calm id).searched lent (lost.filter (· != id))).call? id = pool.call? id ∧
      ((pool.searched lent lost).bare =
          ((pool.calm id).searched lent (lost.filter (· != id))).bare ∨
        (pool.searched lent lost).bare =
          ((pool.calm id).searched lent (lost.filter (· != id))).bare.loseWaiter id) := by
  obtain ⟨hfound, hfired⟩ := fire_calm { pool with stock := lent } id pool.log.length
  unfold searched
  rw [lose_all_bare, lose_all_bare]
  refine ⟨(lose_all_call _ (by simp)).trans hfound, ?_⟩
  rcases hfired with hsame | hlost
  · rw [hsame]
    by_cases hid : id ∈ lost
    · exact .inr (lose_all_last _ hid)
    · have hall : lost.filter (· != id) = lost :=
        List.filter_eq_self.2 fun other hother => bne_iff_ne.2 fun heq => hid (heq ▸ hother)
      rw [hall]
      exact .inl rfl
  · rw [hlost, lose_all_comm, ← lose_all_filter]
    exact .inr rfl

/-- A caller that goes away while the tick finds a connection for it. The connection is idle
again, at the back, and the pool is the same as if the caller had gone away after it was given
the connection and before it looked. -/
theorem Searches.unclaimed (h : pool.Searches call loop lent connection) (hpool : pool.Coherent)
    (hgone : call.id ∉ (pool.after (.tick loop.id lost)).callIds) :
    (pool.step (.tick loop.id lost)).2.stock = lent.reclaim connection ∧
      (pool.after (.tick loop.id lost)).bare = ((pool.calm call.id).run
        [.tick loop.id (lost.filter (· != call.id)), .cancel call.id]).bare := by
  obtain ⟨member, hphase, hhead⟩ := h.first
  obtain ⟨hasks, -, hwanted⟩ := h.asks hpool
  obtain ⟨htick, hafter⟩ := tick_found h.live h.due hasks h.finds hwanted
  have hcalm : (pool.calm call.id).Coherent := hpool.congr rfl rfl rfl rfl
  have hsearches : (pool.calm call.id).Searches call loop lent connection :=
    ⟨h.waits, h.first, h.live, h.due, h.finds⟩
  -- Left alone the caller is still there after the search.
  obtain ⟨hfound, hbare⟩ := searched_calm pool lent lost call.id
  have hstill := hfound.trans (Keyed.find_of_mem hpool.callIds h.waits)
  generalize hothers : lost.filter (· != call.id) = others at hbare hstill ⊢
  rcases hbare with hsame | hlost
  · -- It would be there as well, had nothing made it go away.
    have hcall : (pool.searched lent lost).call? call.id = some call := by
      show (pool.searched lent lost).bare.call? call.id = some call
      rw [hsame]
      exact hstill
    exact absurd (h.served hpool hcall).1 hgone
  · obtain ⟨hids, hstock, -⟩ := searched_frame (pool.calm call.id) lent others
    obtain ⟨hsquare, hback⟩ := without_grant connection (hsearches.coherent hcalm others)
      hstill hphase (hids.symm ▸ hhead)
    have hwithout : (pool.searched lent lost).bare =
        (((pool.calm call.id).searched lent others).without call.id (some member)).bare := by
      have hbareCall :
          ((pool.calm call.id).searched lent others).bare.call? call.id = some call := hstill
      rw [hlost, lose_waiter_eq, hbareCall, Option.bind_some, hphase]
      rfl
    have hgranted : ((pool.searched lent lost).grant connection).bare =
        ((((pool.calm call.id).searched lent others).grant connection).cancelAcquire
          call.id).bare := by
      rw [grant_bare, hwithout, ← grant_bare, hsquare]
    constructor
    · show (pool.tick loop.id lost).stock = _
      rw [htick]
      show ((pool.searched lent lost).grant connection).bare.stock = _
      rw [hgranted, ← hsquare]
      exact hback.trans (congrArg (·.reclaim connection) hstock)
    · rw [hafter, (hsearches.served hcalm hstill).2, collect_bare, collect_bare, granted, granted,
        go_on_cancel]
      exact congrArg (fun next : Pool => (next.goOn loop
        (nextTick loop.due pool.now pool.config.waitQueuePeriod)).collect) hgranted

end Pool

end ConnectionPool
