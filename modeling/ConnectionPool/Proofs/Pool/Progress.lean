import ConnectionPool.Proofs.Pool.Observers
import ConnectionPool.Proofs.Pool.Steps

/-!
# What actions do for the calls

At each action at most one thing is done about acquisitions: one begins, one comes to its end,
or one that does not wait is tried. This is `Deal`, and `after_deal` proves it of all actions.
Besides, a population may come to its end, and callers may go away: `Loses` says that calls went
away for a reason and that nothing was told of it.
-/

namespace ConnectionPool

/-- The event is about an acquisition as such. -/
def EventKind.isAcquisition : EventKind → Bool
  | .acquisitionStarted | .acquisitionFailed _ | .acquired _ => true
  | _ => false

/-- The call whose own turn the action is. -/
def Action.caller? : Action → Option Nat
  | .enter call | .resume call | .finishConnect call | .register call => some call
  | _ => none

/-- The action lets the caller go away: it gives up the call, sets a tripwire for it, or is a
tick during which it goes away. -/
def Action.Dismisses (action : Action) (id : Nat) : Prop :=
  action = .cancel id ∨ (∃ type, action = .watch type id) ∨
    ∃ runLoop lost, action = .tick runLoop lost ∧ id ∈ lost

/-- What is told of an acquisition that ends with this result. -/
inductive Reported : CallResult → EventKind → Prop where
  | acquired (info : ConnectionInfo) : Reported (.acquired info) (.acquired info)
  | failed {error : PoolError} {reason : FailureReason}
      (reason_eq : error.reason? = some reason) :
      Reported (.failed error) (.acquisitionFailed reason)

/-- What is told of an acquisition that does not wait and is replied to like this. Without a
handle there is none. -/
inductive Offered : Reply → List EventKind → Prop where
  | noHandle : Offered .done []
  | none : Offered (.offered (.ok none)) []
  | lent (info : ConnectionInfo) :
      Offered (.offered (.ok (some info))) [.acquisitionStarted, .acquired info]
  | refused {error : PoolError} {reason : FailureReason}
      (reason_eq : error.reason? = some reason) :
      Offered (.offered (.error error)) [.acquisitionStarted, .acquisitionFailed reason]

/-! ## What is told of acquisitions -/

namespace Inventory

variable (stock : Inventory) (connection : Connection)

/-- What was told of acquisitions, oldest first. -/
def acquisitions (stock : Inventory) : List EventKind :=
  (stock.log.map Event.kind).filter EventKind.isAcquisition

/-- An event is told of acquisitions if it is about one. -/
theorem emit_acquisitions (kind : EventKind) :
    (stock.emit kind).acquisitions =
      stock.acquisitions ++ [kind].filter EventKind.isAcquisition := by
  simp only [acquisitions, emit, List.map_append, List.map_cons, List.map_nil, List.filter_append]

/-- An event about something else tells nothing of acquisitions. -/
theorem emit_other {kind : EventKind} (h : kind.isAcquisition = false) :
    (stock.emit kind).acquisitions = stock.acquisitions := by
  rw [emit_acquisitions, List.filter_cons_of_neg (by simp [h]), List.filter_nil, List.append_nil]

/-- A failed acquisition is told. -/
theorem fail_acquisitions (error : PoolError) :
    (stock.fail error).acquisitions =
      stock.acquisitions ++ [.acquisitionFailed error.failureReason] :=
  emit_acquisitions _ _

/-- A successful acquisition is told. -/
theorem succeed_acquisitions :
    (stock.succeed connection).acquisitions = stock.acquisitions ++ [.acquired connection.info] :=
  emit_acquisitions _ _

/-- Discarding a connection is no acquisition. -/
theorem discard_acquisitions (reason : CloseReason) :
    (stock.discard connection reason).acquisitions = stock.acquisitions :=
  emit_other _ rfl

/-- Creating a connection is no acquisition. -/
theorem create_acquisitions : stock.create.2.acquisitions = stock.acquisitions :=
  emit_other _ rfl

/-- Reclaiming a connection is no acquisition. -/
theorem reclaim_acquisitions : (stock.reclaim connection).acquisitions = stock.acquisitions := by
  cases hreason : stock.returnReason? connection with
  | none =>
      rw [reclaim_wanted hreason]
      rfl
  | some reason =>
      rw [reclaim_unwanted hreason, discard_acquisitions]
      rfl

/-- Releasing a connection is no acquisition. -/
theorem release_acquisitions (force : Bool) :
    (stock.release connection force).2.acquisitions = stock.acquisitions := by
  by_cases hknown : connection.id ∈ stock.checkedOut
  · rcases release_known hknown force with ⟨-, hstock⟩ | ⟨reason, hstock⟩
    · rw [hstock]
      exact emit_other _ rfl
    · rw [hstock, discard_acquisitions]
      exact emit_other _ rfl
  · rw [release, if_neg hknown]

variable {stock} {final : Inventory}

/-- Evictions are no acquisitions. -/
theorem Evicts.acquisitions (h : stock.Evicts final) :
    final.acquisitions = stock.acquisitions := by
  induction h with
  | refl => rfl
  | step _ _ _ ih => exact ih.trans (discard_acquisitions _ _ _)

/-- A connection that is found for a call is not acquired yet. -/
theorem lend_acquisitions (stock : Inventory) :
    stock.lend.2.acquisitions = stock.acquisitions := by
  unfold lend obtain
  cases htake : stock.takeIdle with
  | mk result middle =>
      cases result with
      | some first =>
          obtain ⟨found, rest, hevicts, -, -, rfl⟩ := take_from_some rfl htake
          exact hevicts.acquisitions
      | none =>
          obtain ⟨hevicts, -⟩ := take_from_none rfl htake
          cases hroom : middle.hasCapacity with
          | true =>
              simp only [hroom, if_true]
              exact (create_acquisitions middle).trans hevicts.acquisitions
          | false =>
              simp only [hroom, Bool.false_eq_true, if_false]
              exact hevicts.acquisitions

/-- Closing the idle connections is no acquisition. -/
theorem close_idle_acquisitions (stock : Inventory) (idle : List Connection) :
    (stock.closeIdle idle).acquisitions = stock.acquisitions := by
  induction idle generalizing stock with
  | nil => rfl
  | cons connection rest ih => exact (ih _).trans (discard_acquisitions _ _ _)

end Inventory

namespace Pool

variable {pool middle next : Pool} {id : Nat} {call : Call} {connection : Connection}
  {excused : Nat → Prop}

/-- The ids of the calls. -/
def callIds (pool : Pool) : List Nat :=
  pool.calls.map Call.id

/-- The pool goes on with these calls, but for some that went away and are excused. It has told
this of acquisitions and ended these calls. Its tripwires were there before or are set for calls
that are excused. -/
structure Goes (excused : Nat → Prop) (pool : Pool) (ids : List Nat) (told : List EventKind)
    (ended : List Completion) (next : Pool) : Prop where
  calls : next.callIds.Sublist ids
  gone : ∀ id ∈ ids, id ∉ next.callIds → excused id
  told : next.stock.acquisitions = pool.stock.acquisitions ++ told
  results : next.results = pool.results ++ ended
  wires : ∀ wire ∈ next.tripwires, wire ∈ pool.tripwires ∨ excused wire.call

/-- Some calls went away and are excused, and nothing was told of acquisitions. -/
abbrev Loses (excused : Nat → Prop) (pool next : Pool) : Prop :=
  pool.Goes excused pool.callIds [] [] next

/-- A tripwire is set for the call. -/
def Watches (pool : Pool) (id : Nat) : Prop :=
  ∃ wire ∈ pool.tripwires, wire.call = id

/-! ## Calls that go away -/

/-- No call goes away. -/
theorem Goes.all {ids : List Nat} {told : List EventKind} {ended : List Completion}
    (hcalls : next.callIds = ids)
    (htold : next.stock.acquisitions = pool.stock.acquisitions ++ told)
    (hresults : next.results = pool.results ++ ended) (hwires : next.tripwires = pool.tripwires) :
    pool.Goes excused ids told ended next where
  calls := hcalls ▸ .refl _
  gone := fun _ hid hgone => absurd (hcalls ▸ hid) hgone
  told := htold
  results := hresults
  wires := fun _ hwire => .inl (hwires ▸ hwire)

/-- Nothing happens that concerns acquisitions. -/
theorem Loses.nothing (hcalls : next.callIds = pool.callIds)
    (htold : next.stock.acquisitions = pool.stock.acquisitions)
    (hresults : next.results = pool.results) (hwires : next.tripwires = pool.tripwires) :
    pool.Loses excused next :=
  .all hcalls (by rw [htold, List.append_nil]) (by rw [hresults, List.append_nil]) hwires

/-- Calls may go away afterwards. -/
theorem Goes.trans {ids : List Nat} {told : List EventKind} {ended : List Completion}
    (first : pool.Goes excused ids told ended middle) (second : middle.Loses excused next) :
    pool.Goes excused ids told ended next where
  calls := second.calls.trans first.calls
  gone := by
    intro id hid hgone
    by_cases hthere : id ∈ middle.callIds
    · exact second.gone id hthere hgone
    · exact first.gone id hid hthere
  told := by rw [second.told, List.append_nil, first.told]
  results := by rw [second.results, List.append_nil, first.results]
  wires := by
    intro wire hwire
    rcases second.wires wire hwire with hwire | hexcused
    · exact first.wires wire hwire
    · exact .inr hexcused

/-- More calls may be excused. -/
theorem Goes.mono {excused' : Nat → Prop} {ids : List Nat} {told : List EventKind}
    {ended : List Completion} (h : pool.Goes excused ids told ended next)
    (hmore : ∀ id, excused id → excused' id) : pool.Goes excused' ids told ended next where
  calls := h.calls
  gone := fun id hid hgone => hmore id (h.gone id hid hgone)
  told := h.told
  results := h.results
  wires := fun wire hwire => (h.wires wire hwire).imp_right (hmore wire.call)

/-- A call that moves on is still there. -/
theorem set_phase_ids (pool : Pool) (id : Nat) (phase : Phase) :
    (pool.setPhase id phase).callIds = pool.callIds := by
  refine Keyed.map_keys ?_
  intro call
  split <;> rfl

/-- A call that is taken off the list is the only one. -/
theorem remove_call_ids (pool : Pool) (id : Nat) :
    (pool.removeCall id).callIds = pool.callIds.filter fun other => other != id := by
  simp only [callIds, removeCall, List.filter_map]
  rfl

/-- A call goes away and is excused. -/
theorem Loses.remove (hexcused : excused id)
    (hcalls : next.callIds = (pool.removeCall id).callIds)
    (htold : next.stock.acquisitions = pool.stock.acquisitions)
    (hresults : next.results = pool.results) (hwires : next.tripwires = pool.tripwires) :
    pool.Loses excused next where
  calls := by
    rw [hcalls, remove_call_ids]
    exact List.filter_sublist
  gone := by
    intro other hother hgone
    rw [hcalls, remove_call_ids, List.mem_filter, not_and, bne_iff_ne, not_not] at hgone
    exact hgone hother ▸ hexcused
  told := by rw [htold, List.append_nil]
  results := by rw [hresults, List.append_nil]
  wires := fun wire hwire => .inl (hwires ▸ hwire)

/-- A caller in line goes away. -/
theorem lose_waiter_loses (hexcused : excused id) : pool.Loses excused (pool.loseWaiter id) := by
  unfold loseWaiter
  split
  · exact .remove hexcused rfl rfl rfl rfl
  · exact .remove hexcused rfl rfl rfl rfl
  · exact .nothing rfl rfl rfl rfl

/-- A tripwire makes the caller go away for whom it is set. -/
theorem send_away_loses (place : Nat) (hexcused : excused id) :
    pool.Loses excused (pool.sendAway id place) := by
  unfold sendAway
  split
  · exact lose_waiter_loses hexcused
  · exact .nothing rfl rfl rfl rfl

/-- What loses only excused calls once loses only excused calls when it is done again and
again. -/
theorem foldl_loses {β : Type} {turn : Pool → β → Pool} (turns : List β)
    (hturn : ∀ b ∈ turns, ∀ pool : Pool, pool.Loses excused (turn pool b)) :
    pool.Loses excused (turns.foldl turn pool) := by
  induction turns generalizing pool with
  | nil => exact .nothing rfl rfl rfl rfl
  | cons b rest ih =>
      exact (hturn b List.mem_cons_self pool).trans
        (ih fun other hother => hturn other (.tail _ hother))

/-- The tripwires that see an event make those callers go away for whom they are set. -/
theorem fire_at_loses (event : Event) (place : Nat) :
    pool.Loses pool.Watches (pool.fireAt event place) := by
  unfold fireAt
  rw [List.partition_eq_filter_filter]
  have hrest : pool.Loses pool.Watches { pool with
      tripwires := pool.tripwires.filter (not ∘ fun wire => event.type == wire.type) } :=
    { (Loses.nothing rfl rfl rfl rfl : pool.Loses pool.Watches pool) with
      wires := fun wire hwire => .inl (List.mem_of_mem_filter hwire) }
  refine hrest.trans (foldl_loses _ ?_)
  intro wire hwire pool'
  exact send_away_loses place ⟨wire, List.mem_of_mem_filter hwire, rfl⟩

/-- The tripwires that see the log from some place on do so one event after the other. -/
theorem fire_loses (pool : Pool) (place : Nat) : pool.Loses pool.Watches (pool.fire place) := by
  unfold fire
  generalize ((pool.log.drop place).zipIdx place) = events
  -- Tripwires that are left were there before, so the calls for which they are set stay the
  -- same ones.
  have hfold : ∀ (start : Pool), (∀ wire ∈ start.tripwires, pool.Watches wire.call) →
      start.Loses pool.Watches
        (events.foldl (fun pool seen => pool.fireAt seen.1 seen.2) start) := by
    induction events with
    | nil => exact fun start _ => .nothing rfl rfl rfl rfl
    | cons seen rest ih =>
        intro start hstart
        have hfirst : start.Loses pool.Watches (start.fireAt seen.1 seen.2) := by
          refine (fire_at_loses seen.1 seen.2).mono ?_
          rintro id ⟨wire, hwire, rfl⟩
          exact hstart wire hwire
        refine hfirst.trans (ih _ ?_)
        intro wire hwire
        rcases hfirst.wires wire hwire with hwire | hwatched
        · exact hstart wire hwire
        · exact hwatched
  exact hfold pool fun wire hwire => ⟨wire, hwire, rfl⟩

/-- The end of a pool that nobody has a part in concerns no acquisition. -/
theorem collect_loses (pool : Pool) : pool.Loses excused pool.collect := by
  unfold collect
  split
  · exact .nothing rfl rfl rfl rfl
  · exact .nothing rfl rfl rfl rfl

/-- Taking over an outcome tells nothing of acquisitions and ends none. -/
theorem settle_loses (pool : Pool) (outcome : WaitQueue.Outcome Nat Connection) :
    pool.Loses excused (pool.settle outcome) := by
  obtain ⟨hframe, hids⟩ := deliver_frame outcome.answers pool
  unfold settle
  rw [hframe]
  exact .nothing hids rfl rfl rfl

/-- Only those go away who do so. -/
theorem lose_all_loses {ids : List Nat} (hexcused : ∀ id ∈ ids, excused id) :
    pool.Loses excused (pool.loseAll ids) :=
  foldl_loses ids fun id hid _ => lose_waiter_loses (hexcused id hid)

/-- Attending to the head of the line tells nothing of acquisitions, and only those go away who
do so meanwhile or for whom tripwires are set. -/
theorem attend_loses (pool : Pool) (lost : List Nat) :
    pool.Loses (fun id => id ∈ lost ∨ pool.Watches id) (pool.attend lost).2 := by
  unfold attend
  split
  · cases hlend : pool.stock.lend with
    | mk resource stock =>
        have htold : stock.acquisitions = pool.stock.acquisitions := by
          rw [← pool.stock.lend_acquisitions, hlend]
        have hlent : pool.Loses (fun id => id ∈ lost ∨ pool.Watches id)
            { pool with stock := stock } := .nothing rfl htold rfl rfl
        have hfired := hlent.trans
          ((fire_loses { pool with stock := stock } pool.log.length).mono fun _ => .inr)
        have hleft := hfired.trans (lose_all_loses fun _ => .inl)
        dsimp only
        generalize ({ pool with stock := stock }.fire pool.log.length).loseAll lost = left
          at hleft ⊢
        cases hserve : left.queue.serve resource with
        | mk tick outcome =>
            have hsettled := hleft.trans (settle_loses left outcome)
            cases tick with
            | unclaimed connection =>
                exact hsettled.trans (.nothing rfl (Inventory.reclaim_acquisitions _ _) rfl rfl)
            | stopped | requeued | discarded | served => exact hsettled
  · cases (pool.queue.pass : Tick Connection × _) with
    | mk tick outcome => cases tick <;> exact settle_loses pool outcome

/-- A tick tells nothing of acquisitions. -/
theorem tick_loses (pool : Pool) (runLoop : Nat) (lost : List Nat) :
    pool.Loses (fun id => id ∈ lost ∨ pool.Watches id) (pool.tick runLoop lost) := by
  unfold tick
  split
  · exact .nothing rfl rfl rfl rfl
  · split
    · have hattend := attend_loses pool lost
      split
      · next next heq =>
          rw [heq] at hattend
          exact hattend.trans (.nothing rfl rfl rfl rfl)
      · next next heq =>
          rw [heq] at hattend
          exact hattend.trans (.nothing rfl rfl rfl rfl)
    · exact .nothing rfl rfl rfl rfl

/-- A timer that ends a wait tells nothing of acquisitions. -/
theorem expire_loses (pool : Pool) (member : Nat) : pool.Loses excused (pool.expire member) := by
  unfold expire
  split
  · have hrest : pool.Loses excused { pool with
        timers := pool.timers.filter fun timer => timer.member != member } :=
      .nothing rfl rfl rfl rfl
    dsimp only
    split
    · exact hrest.trans (settle_loses _ _)
    · exact hrest
  · exact .nothing rfl rfl rfl rfl

/-- A population that is dropped is no acquisition. -/
theorem abandon_population_loses (pool : Pool) (owner : Owner) :
    pool.Loses excused (pool.abandonPopulation owner) := by
  unfold abandonPopulation
  split
  · exact .nothing rfl rfl rfl rfl
  · dsimp only
    split
    · exact .nothing rfl rfl rfl rfl
    · exact .nothing rfl (Inventory.discard_acquisitions _ _ _) rfl rfl

/-- Giving up the opening of a pool is no acquisition. -/
theorem abandon_opening_loses (pool : Pool) : pool.Loses excused pool.abandonOpening := by
  unfold abandonOpening
  split
  · exact .nothing rfl rfl rfl rfl
  · exact (abandon_population_loses pool .opening).trans (.nothing rfl rfl rfl rfl)

/-- A caller gives up its own call. -/
theorem cancel_acquire_loses (hexcused : excused id) :
    pool.Loses excused (pool.cancelAcquire id) := by
  unfold cancelAcquire
  split
  · exact .remove hexcused rfl rfl rfl rfl
  · exact .remove hexcused rfl rfl rfl rfl
  · exact .remove hexcused rfl (Inventory.reclaim_acquisitions _ _) rfl rfl
  · exact .remove hexcused rfl (Inventory.reclaim_acquisitions _ _) rfl rfl
  · exact .nothing rfl rfl rfl rfl

/-- Closing a pool tells nothing of acquisitions and ends none. -/
theorem close_loses (pool : Pool) : pool.Loses excused pool.close := by
  unfold close
  split
  · exact .nothing rfl rfl rfl rfl
  · have hclosed : pool.Loses excused { pool with stock := { pool.stock with closed := true } } :=
      .nothing rfl rfl rfl rfl
    have hshut := hclosed.trans (settle_loses _ pool.queue.destroy)
    refine hshut.trans (.nothing rfl ?_ rfl rfl)
    exact (Inventory.emit_other _ rfl).trans (Inventory.close_idle_acquisitions _ _)

/-- Destroying a pool tells nothing of acquisitions and ends none. -/
theorem destroy_loses (pool : Pool) : pool.Loses excused pool.destroy := by
  have hstopped : pool.Loses excused pool.stopped := .nothing rfl rfl rfl rfl
  have hsettled := hstopped.trans (settle_loses pool.stopped pool.queue.destroy)
  exact hsettled.trans (.nothing rfl rfl rfl rfl)

/-! ## What is done about acquisitions -/

/-- What an action does about acquisitions: the calls that there are then, what is told, and the
calls that ended. A call ends in its own turn, and what is told agrees with its result. -/
inductive Deal (pool : Pool) (action : Action) :
    List Nat → List EventKind → List Completion → Prop where
  | nothing : Deal pool action pool.callIds [] []
  | begun {id : Nat} (asked : action = .acquire id) (fresh : id ∉ pool.callIds) :
      Deal pool action (pool.callIds ++ [id]) [.acquisitionStarted] []
  /-- The clock does not have the deadline, so no call is made. -/
  | brokenOff {id : Nat} (asked : action = .acquire id) :
      Deal pool action pool.callIds [.acquisitionStarted] []
  | finished {completion : Completion} {kind : EventKind}
      (turn : action.caller? = some completion.call) (here : completion.call ∈ pool.callIds)
      (reported : Reported completion.result kind) :
      Deal pool action (pool.callIds.filter fun other => other != completion.call) [kind]
        [completion]
  | tried {told : List EventKind} (asked : action = .tryAcquire)
      (offered : Offered (pool.step action).1 told) : Deal pool action pool.callIds told []
  /-- A population for a caller ends. It is no acquisition. -/
  | filled {completion : Completion}
      (owned : .call completion.call ∈ pool.populations.map Population.owner) :
      Deal pool action pool.callIds [] [completion]

/-- A call that ends is reported as it ends. The other completions are those of populations. -/
theorem Deal.reported {action : Action} {ids : List Nat} {told : List EventKind}
    {ended : List Completion} (h : pool.Coherent) (deal : pool.Deal action ids told ended)
    {completion : Completion} (hended : completion ∈ ended)
    (hcall : completion.call ∈ pool.callIds) :
    ∃ kind, told = [kind] ∧ Reported completion.result kind := by
  cases deal with
  | nothing | begun | brokenOff | tried => exact absurd hended List.not_mem_nil
  | finished turn here reported =>
      obtain rfl := List.mem_singleton.1 hended
      exact ⟨_, rfl, reported⟩
  | filled owned =>
      obtain rfl := List.mem_singleton.1 hended
      exact absurd owned (h.apart _ hcall)

/-- At the action one thing is done about acquisitions, and calls that are excused may go away. -/
def Deals (excused : Nat → Prop) (pool : Pool) (action : Action) (next : Pool) : Prop :=
  ∃ ids told ended, pool.Deal action ids told ended ∧ pool.Goes excused ids told ended next

variable {action : Action}

/-- Calls go away and nothing else is done. -/
theorem Goes.deals (h : pool.Loses excused next) : pool.Deals excused action next :=
  ⟨_, _, _, .nothing, h⟩

/-- Nothing is done about acquisitions. -/
theorem Deals.nothing (hcalls : next.callIds = pool.callIds)
    (htold : next.stock.acquisitions = pool.stock.acquisitions)
    (hresults : next.results = pool.results) (hwires : next.tripwires = pool.tripwires) :
    pool.Deals excused action next :=
  (Loses.nothing hcalls htold hresults hwires).deals

/-- A call that was looked up is one of the calls. -/
theorem mem_call_ids (hfind : pool.call? id = some call) : id ∈ pool.callIds := by
  have hid : call.id = id := by simpa using List.find?_some hfind
  exact hid ▸ List.mem_map_of_mem (List.mem_of_find?_eq_some hfind)

/-- A call that moves on does nothing else about acquisitions. -/
theorem set_phase_deals (phase : Phase) (hcalls : middle.calls = pool.calls)
    (htold : middle.stock.acquisitions = pool.stock.acquisitions)
    (hresults : middle.results = pool.results) (hwires : middle.tripwires = pool.tripwires) :
    pool.Deals excused action (middle.setPhase id phase) := by
  refine .nothing ?_ htold hresults hwires
  rw [set_phase_ids, callIds, hcalls]
  rfl

/-- An acquisition begins under an id that is not in use. -/
theorem fresh_of_made (hmade : (pool.held && !pool.isPending id) = true) : id ∉ pool.callIds := by
  intro hid
  obtain ⟨call, hcall, heq⟩ := List.mem_map.1 hid
  simp only [isPending, Bool.and_eq_true, Bool.not_eq_true', Bool.or_eq_false_iff,
    Option.isSome_eq_false_iff, Option.isNone_iff_eq_none] at hmade
  simpa [heq] using List.find?_eq_none.1 hmade.2.1 call hcall

/-- An acquisition begins, and its call is there if the clock has its deadline. -/
theorem start_acquire_goes (hmade : (pool.held && !pool.isPending id) = true) :
    pool.Goes excused (pool.callIds ++ if pool.deadlineFits then [id] else [])
      [.acquisitionStarted] [] (pool.startAcquire id) := by
  rw [startAcquire, if_pos hmade]
  refine .all ?_ (Inventory.emit_acquisitions _ _) (List.append_nil _).symm rfl
  rw [callIds, List.map_append]
  split <;> rfl

/-- An acquisition begins, unless the id is in use. -/
theorem start_acquire_deals (pool : Pool) (id : Nat) :
    pool.Deals excused (.acquire id) (pool.startAcquire id) := by
  cases hmade : pool.held && !pool.isPending id with
  | true =>
      have hgoes : pool.Goes excused _ [.acquisitionStarted] [] (pool.startAcquire id) :=
        start_acquire_goes hmade
      cases hfits : pool.deadlineFits with
      | true =>
          rw [hfits, if_pos rfl] at hgoes
          exact ⟨_, _, _, .begun rfl (fresh_of_made hmade), hgoes⟩
      | false =>
          rw [hfits, if_neg Bool.false_ne_true, List.append_nil] at hgoes
          exact ⟨_, _, _, .brokenOff rfl, hgoes⟩
  | false =>
      rw [startAcquire, if_neg (by simp [hmade])]
      exact .nothing rfl rfl rfl rfl

/-- A call ends with an error that has a reason. -/
theorem fail_call_deals {error : PoolError} {reason : FailureReason} (stock : Inventory)
    (hstock : stock.acquisitions = pool.stock.acquisitions) (hturn : action.caller? = some id)
    (hhere : id ∈ pool.callIds) (hreason : error.reason? = some reason) :
    pool.Deals excused action ({ pool with stock := stock }.failCall id error) := by
  refine ⟨_, _, [⟨stock.now, id, .failed error⟩], .finished hturn hhere (.failed hreason),
    .all (remove_call_ids pool id) ?_ rfl rfl⟩
  rw [← PoolError.reported hreason, ← hstock]
  exact stock.fail_acquisitions error

/-- A call whose connection could not be established ends with an error. -/
theorem give_up_deals (error : LinkError) (hturn : action.caller? = some id)
    (hhere : id ∈ pool.callIds) :
    pool.Deals excused action (pool.giveUp id connection error) :=
  fail_call_deals _ (Inventory.discard_acquisitions (pool.stock.giveBack connection) _ _) hturn
    hhere rfl

/-- A call with an established connection ends with it, ends because the pool is closed, or
enters again. -/
theorem announce_deals (stock : Inventory)
    (hstock : stock.acquisitions = pool.stock.acquisitions) (hturn : action.caller? = some id)
    (hhere : id ∈ pool.callIds) :
    pool.Deals excused action ({ pool with stock := stock }.announce id connection) := by
  unfold announce
  split
  · next reason hreason =>
      have hdiscard : ((stock.giveBack connection).discard connection reason).acquisitions =
          pool.stock.acquisitions :=
        (Inventory.discard_acquisitions _ _ _).trans hstock
      dsimp only
      split
      · exact fail_call_deals _ hdiscard hturn hhere rfl
      · exact set_phase_deals _ rfl hdiscard rfl rfl
  · refine ⟨_, _, [⟨stock.now, id, .acquired connection.info⟩],
      .finished hturn hhere (.acquired _),
      .all (remove_call_ids pool id) ?_ rfl rfl⟩
    rw [← hstock]
    exact stock.succeed_acquisitions connection

/-- A call enters the line, or ends because it cannot. -/
theorem enter_deals (pool : Pool) (id : Nat) :
    pool.Deals excused (.enter id) (pool.enter id) := by
  unfold enter
  split
  · next deadline readmitted hfind =>
      have hhere := mem_call_ids hfind
      split
      · exact fail_call_deals pool.stock rfl rfl hhere rfl
      · split
        · next error herror =>
            obtain ⟨reason, hreason⟩ : ∃ reason, error.reason? = some reason := by
              split at herror
              · rw [WaitQueue.let_in_error herror]
                exact ⟨_, rfl⟩
              · rcases WaitQueue.enter_error herror with rfl | rfl
                · exact ⟨_, rfl⟩
                · exact ⟨_, rfl⟩
            exact fail_call_deals pool.stock rfl rfl hhere hreason
        · next admission queue hin =>
            cases deadline with
            | none =>
                dsimp only
                split
                · exact set_phase_deals _ rfl rfl rfl rfl
                · exact set_phase_deals _ rfl rfl rfl rfl
            | some deadline =>
                dsimp only
                split
                · exact set_phase_deals _ rfl rfl rfl rfl
                · exact set_phase_deals _ rfl rfl rfl rfl
  · exact .nothing rfl rfl rfl rfl

/-- A call looks at its answer. An error that it finds there has a reason. -/
theorem resume_deals (h : pool.Coherent) (id : Nat) :
    pool.Deals excused (.resume id) (pool.resume id) := by
  unfold resume
  split
  · next deadline error hfind =>
      have hsound : error.reason? ≠ none := h.phases _ (Coherent.call_mem hfind)
      obtain ⟨reason, hreason⟩ := Option.ne_none_iff_exists'.1 hsound
      exact fail_call_deals pool.stock rfl rfl (mem_call_ids hfind) hreason
  · next deadline connection hfind =>
      split
      · exact announce_deals pool.stock rfl rfl (mem_call_ids hfind)
      · exact give_up_deals _ rfl (mem_call_ids hfind)
      · exact set_phase_deals _ rfl rfl rfl rfl
  · exact .nothing rfl rfl rfl rfl

/-- The connect of a call comes to an end. -/
theorem finish_connect_deals (pool : Pool) (id : Nat) :
    pool.Deals excused (.finishConnect id) (pool.finishConnect id) := by
  unfold finishConnect
  split
  · split
    · exact set_phase_deals _ rfl rfl rfl rfl
    · exact .nothing rfl rfl rfl rfl
  · exact .nothing rfl rfl rfl rfl

/-- A call registers the outcome of its connect. -/
theorem register_deals (pool : Pool) (id : Nat) :
    pool.Deals excused (.register id) (pool.register id) := by
  unfold register
  split
  · next hfind =>
      exact announce_deals _ (Inventory.emit_other _ rfl) rfl (mem_call_ids hfind)
  · next hfind => exact give_up_deals _ rfl (mem_call_ids hfind)
  · exact .nothing rfl rfl rfl rfl

/-- What is told of an acquisition that does not wait agrees with the reply. -/
theorem try_acquire_goes (pool : Pool) :
    ∃ told, Offered (.offered pool.tryAcquire.1) told ∧
      pool.Goes excused pool.callIds told [] pool.tryAcquire.2 := by
  unfold tryAcquire
  split
  · refine ⟨_, .refused rfl, .all rfl ?_ (List.append_nil _).symm rfl⟩
    rw [Inventory.fail_acquisitions, Inventory.emit_acquisitions, List.append_assoc]
    rfl
  · split
    · cases hlend : pool.stock.lendIdle with
      | mk result stock =>
          cases result with
          | none =>
              obtain ⟨hevicts, -⟩ := Inventory.lend_from_none rfl hlend
              refine ⟨_, .none, .all rfl ?_ (List.append_nil _).symm rfl⟩
              exact hevicts.acquisitions.trans (List.append_nil _).symm
          | some connection =>
              obtain ⟨found, first, rest, hevicts, -, -, -, -, rfl⟩ :=
                Inventory.lend_from_some rfl hlend
              refine ⟨_, .lent connection.info, .all rfl ?_ (List.append_nil _).symm rfl⟩
              rw [← hevicts.acquisitions, Inventory.succeed_acquisitions,
                Inventory.emit_acquisitions, List.append_assoc]
              rfl
    · exact ⟨_, .none, .all rfl (List.append_nil _).symm (List.append_nil _).symm rfl⟩

/-- An acquisition that does not wait is tried, if there is a handle. -/
theorem step_try_goes (pool : Pool) :
    ∃ told, Offered (pool.step .tryAcquire).1 told ∧
      pool.Goes excused pool.callIds told [] (pool.step .tryAcquire).2 := by
  cases hheld : pool.held with
  | true =>
      have hstep : pool.step .tryAcquire = (.offered pool.tryAcquire.1, pool.tryAcquire.2) := by
        simp [step, hheld]
      rw [hstep]
      exact try_acquire_goes pool
  | false =>
      have hstep : pool.step .tryAcquire = (.done, pool) := by simp [step, hheld]
      rw [hstep]
      exact ⟨_, .noHandle, Loses.nothing rfl rfl rfl rfl⟩

/-- A population that ends tells its caller, if it has one. -/
theorem finish_population_deals {owner : Owner} {population : Population} (stock : Inventory)
    (hstock : stock.acquisitions = pool.stock.acquisitions)
    (hfind : pool.population? owner = some population) (result : CallResult) :
    pool.Deals excused action ({ pool with stock := stock }.finishPopulation owner result) := by
  have htold : stock.acquisitions = pool.stock.acquisitions ++ [] := by
    rw [hstock, List.append_nil]
  have howner : population.owner = owner := by simpa using List.find?_some hfind
  cases owner with
  | opening | maintenance => exact .nothing rfl hstock rfl rfl
  | call id =>
      have howned : .call id ∈ pool.populations.map Population.owner :=
        howner ▸ List.mem_map_of_mem (List.mem_of_find?_eq_some hfind)
      exact ⟨_, _, [⟨stock.now, id, result⟩], .filled howned, .all rfl htold rfl rfl⟩

/-- A population makes the next connection, or ends. -/
theorem reserve_deals (pool : Pool) (owner : Owner) :
    pool.Deals excused (.reserve owner) (pool.reserve owner) := by
  unfold reserve
  split
  · next hfind =>
      split
      · exact finish_population_deals pool.stock rfl hfind _
      · exact .nothing rfl (Inventory.create_acquisitions _) rfl rfl
  · exact .nothing rfl rfl rfl rfl

/-- The connect of a population comes to an end. -/
theorem finish_reserved_deals (pool : Pool) (owner : Owner) :
    pool.Deals excused (.finishReserved owner) (pool.finishReserved owner) := by
  unfold finishReserved
  split
  · split
    · exact .nothing rfl rfl rfl rfl
    · exact .nothing rfl rfl rfl rfl
  · exact .nothing rfl rfl rfl rfl

/-- A population registers the outcome of its connect. -/
theorem settle_reserved_deals (pool : Pool) (owner : Owner) :
    pool.Deals excused (.settleReserved owner) (pool.settleReserved owner) := by
  unfold settleReserved
  split
  · next added connection outcome hfind =>
      have hready : (Inventory.emit { pool.stock with pending := pool.stock.pending - 1 }
          (.ready connection.info)).acquisitions = pool.stock.acquisitions :=
        Inventory.emit_other _ rfl
      have hdiscard : (Inventory.discard { pool.stock with pending := pool.stock.pending - 1 }
          connection .unknown).acquisitions = pool.stock.acquisitions :=
        Inventory.discard_acquisitions _ _ _
      dsimp only
      split
      · split
        · exact .nothing rfl ((Inventory.discard_acquisitions _ _ _).trans hready) rfl rfl
        · exact .nothing rfl hready rfl rfl
      · exact finish_population_deals _ hdiscard hfind _
  · exact .nothing rfl rfl rfl rfl

/-- A connection on loan comes back. -/
theorem release_loan_loses (pool : Pool) (connection : Nat) (force : Bool) :
    pool.Loses excused (pool.releaseLoan connection force).2 := by
  unfold releaseLoan
  split
  · exact .nothing rfl rfl rfl rfl
  · exact .nothing rfl (Inventory.release_acquisitions _ _ _) rfl rfl

/-- The calls that may go away at the action: one that it lets go away, and those for which a
tripwire is set. -/
def Excused (pool : Pool) (action : Action) (id : Nat) : Prop :=
  action.Dismisses id ∨ pool.Watches id

/-- One thing is done about acquisitions by the action itself. -/
theorem step_deals (h : pool.Coherent) (action : Action) :
    pool.Deals (pool.Excused action) action (pool.step action).2 := by
  have hnothing : ∀ {action : Action}, pool.Deals (pool.Excused action) action pool :=
    .nothing rfl rfl rfl rfl
  cases action with
  | acquire call => exact start_acquire_deals pool call
  | tryAcquire =>
      obtain ⟨told, hoffered, hgoes⟩ := step_try_goes pool
      exact ⟨_, _, _, .tried rfl hoffered, hgoes⟩
  | cancel call =>
      have hexcused : pool.Excused (.cancel call) call := .inl (.inl rfl)
      exact ((cancel_acquire_loses hexcused).trans (abandon_population_loses _ _)).deals
  | populate call =>
      simp only [step, startPopulation]
      split
      · exact .nothing rfl rfl rfl rfl
      · exact hnothing
  | release connection force =>
      rw [step_release]
      split
      · exact (release_loan_loses pool connection force).deals
      · exact hnothing
  | drop connection => exact (release_loan_loses pool connection false).deals
  | write connection bytes =>
      rw [step_write, writeLoan]
      split
      · exact hnothing
      · exact .nothing rfl rfl rfl rfl
  | establish connection =>
      rw [step_establish, establishLoan]
      split
      · exact hnothing
      · exact .nothing rfl rfl rfl rfl
  | destroyConnection connection =>
      simp only [step, destroyLoan]
      split
      · exact hnothing
      · exact .nothing rfl rfl rfl rfl
  | clear =>
      simp only [step]
      split
      · exact .nothing rfl (Inventory.emit_other _ rfl) rfl rfl
      · exact hnothing
  | close =>
      simp only [step]
      split
      · exact (close_loses pool).deals
      · exact hnothing
  | destroy =>
      simp only [step]
      split
      · exact (destroy_loses pool).deals
      · exact hnothing
  | watch type call =>
      -- The tripwire that is set is for a call that the action excuses.
      have hset : pool.Loses (pool.Excused (.watch type call))
          { pool with tripwires := pool.tripwires ++ [⟨type, call⟩] } :=
        { (Loses.nothing rfl rfl rfl rfl : pool.Loses _ pool) with
          wires := by
            intro wire hwire
            rcases List.mem_append.1 hwire with hwire | hwire
            · exact .inl hwire
            · exact .inr (.inl (.inr (.inl ⟨type, by rw [List.mem_singleton.1 hwire]⟩))) }
      exact hset.deals
  | dropHandle => exact .nothing rfl rfl rfl rfl
  | abandonOpening => exact (abandon_opening_loses pool).deals
  | failNext | failAll | connectDelay | elapse => exact .nothing rfl rfl rfl rfl
  | enter call => exact enter_deals pool call
  | resume call => exact resume_deals h call
  | finishConnect call => exact finish_connect_deals pool call
  | register call => exact register_deals pool call
  | tick runLoop lost =>
      refine ((tick_loses pool runLoop lost).mono ?_).deals
      exact fun _ => Or.imp_left fun hlost => .inr (.inr ⟨runLoop, lost, rfl, hlost⟩)
  | expire member => exact (expire_loses pool member).deals
  | reserve owner => exact reserve_deals pool owner
  | finishReserved owner => exact finish_reserved_deals pool owner
  | settleReserved owner => exact settle_reserved_deals pool owner
  | maintain =>
      simp only [step, maintain]
      split
      · split
        · split
          · exact .nothing rfl rfl rfl rfl
          · exact .nothing rfl rfl rfl rfl
        · exact hnothing
      · exact hnothing
  | abandonMaintenance =>
      simp only [step, abandonMaintenance]
      split
      · exact (abandon_population_loses pool .maintenance).deals
      · exact hnothing

/-- What the action tells of acquisitions. -/
def tells (pool : Pool) (action : Action) : List EventKind :=
  (pool.after action).stock.acquisitions.drop pool.stock.acquisitions.length

/-- The calls that come to an end by themselves at the action. -/
def ends (pool : Pool) (action : Action) : List Completion :=
  (pool.after action).results.drop pool.results.length

/-- What the events of an action set off makes only excused calls go away, and so does the end
of a pool that nobody has a part in any more. -/
theorem Goes.after {ids : List Nat} {told : List EventKind} {ended : List Completion}
    (h : pool.Goes (pool.Excused action) ids told ended (pool.step action).2) :
    pool.Goes (pool.Excused action) ids told ended (pool.after action) := by
  have hfire : (pool.step action).2.Loses (pool.Excused action)
      ((pool.step action).2.fire pool.log.length) := by
    refine (fire_loses _ _).mono ?_
    rintro id ⟨wire, hwire, rfl⟩
    rcases h.wires wire hwire with hwire | hexcused
    · exact .inr ⟨wire, hwire, rfl⟩
    · exact hexcused
  exact (h.trans hfire).trans (collect_loses _)

/-- What the action tells of acquisitions is what was told until it was over. -/
theorem Goes.tells {ids : List Nat} {told : List EventKind} {ended : List Completion}
    (h : pool.Goes excused ids told ended (pool.after action)) : pool.tells action = told := by
  rw [Pool.tells, h.told, List.drop_left]

/-- The calls that come to an end at the action are those that ended until it was over. -/
theorem Goes.ends {ids : List Nat} {told : List EventKind} {ended : List Completion}
    (h : pool.Goes excused ids told ended (pool.after action)) : pool.ends action = ended := by
  rw [Pool.ends, h.results, List.drop_left]

/-- One thing is done about acquisitions at every action, whatever its events set off. -/
theorem after_deal (h : pool.Coherent) (action : Action) :
    ∃ ids, pool.Deal action ids (pool.tells action) (pool.ends action) ∧
      pool.Goes (pool.Excused action) ids (pool.tells action) (pool.ends action)
        (pool.after action) := by
  obtain ⟨ids, told, ended, deal, hgoes⟩ := step_deals h action
  have hafter := hgoes.after
  rw [← hafter.tells, ← hafter.ends] at deal hafter
  exact ⟨ids, deal, hafter⟩

/-- What ends at an action is what the action by itself adds to the results. -/
theorem ends_of_results {ended : List Completion}
    (h : (pool.step action).2.results = pool.results ++ ended) : pool.ends action = ended := by
  rw [ends, after_results, h, List.drop_left]

/-- An acquisition ends by itself in its own turn only, since populations belong to other
callers. -/
theorem Coherent.ended_turn (h : pool.Coherent) {completion : Completion}
    (hended : completion ∈ pool.ends action) (hcall : completion.call ∈ pool.callIds) :
    action.caller? = some completion.call := by
  obtain ⟨ids, deal, -⟩ := after_deal h action
  generalize pool.tells action = told at deal
  generalize pool.ends action = ended at deal hended
  cases deal with
  | nothing | begun | brokenOff | tried => exact absurd hended List.not_mem_nil
  | finished turn =>
      obtain rfl := List.mem_singleton.1 hended
      exact turn
  | filled owned =>
      obtain rfl := List.mem_singleton.1 hended
      exact absurd owned (h.apart _ hcall)

end Pool

end ConnectionPool
