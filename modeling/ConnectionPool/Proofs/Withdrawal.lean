import ConnectionPool.Proofs.Pool.Unclaimed
import ConnectionPool.Proofs.Reachable

/-!
# Acquisitions that are given up

A caller may give up its acquisition wherever it waits. All that changes is then the call
itself, its place in line, where nobody listens any more, and the connection that it holds,
which the pool takes back: `Withdrawn` says so. Nobody ever waits in that place again, and no
search for a connection is made on its behalf, `Abandoned.run` and `Abandoned.tick`.
-/

namespace ConnectionPool

/-! ## Connections that come back -/

namespace Inventory

/-- What becomes of the connection that a caller holds when it goes away, if it holds one. It
becomes idle if the pool is open and it is of the current generation, and is closed otherwise. -/
inductive TakesBack (stock : Inventory) : Option Connection → Inventory → Prop where
  | nothing : TakesBack stock none stock
  | kept {connection : Connection} (opened : stock.closed = false)
      (current : connection.generation = stock.generation) :
      TakesBack stock (some connection)
        { stock with
          checkedOut := stock.checkedOut.erase connection.id
          available := stock.available ++ [connection.makeAvailable stock.now] }
  | closed {connection : Connection} {reason : CloseReason}
      (unwanted : stock.closed = true ∧ reason = .poolClosed ∨
        stock.closed = false ∧ connection.generation ≠ stock.generation ∧ reason = .stale) :
      TakesBack stock (some connection)
        { stock with
          checkedOut := stock.checkedOut.erase connection.id
          network := (connection.destroy stock.network).2
          metrics := countClosed stock.metrics reason
          log := stock.log ++
            [⟨stock.now, (stock.giveBack connection).snapshot, .closed connection.info reason⟩] }

variable {stock next : Inventory} {connection : Connection} {held : Option Connection}

/-- Reclaiming a connection takes it back. -/
theorem reclaim_takes_back (stock : Inventory) (connection : Connection) :
    stock.TakesBack (some connection) (stock.reclaim connection) := by
  cases hreason : stock.returnReason? connection with
  | none =>
      obtain ⟨hopen, hcurrent⟩ := (return_reason_none stock connection).1 hreason
      rw [reclaim_wanted hreason]
      exact .kept hopen hcurrent
  | some reason =>
      rw [reclaim_unwanted hreason, discard_eq]
      refine .closed ?_
      unfold returnReason? Connection.isStale at hreason
      cases hclosed : stock.closed with
      | true =>
          rw [hclosed, if_pos rfl] at hreason
          exact .inl ⟨rfl, (Option.some.inj hreason).symm⟩
      | false =>
          rw [hclosed, if_neg Bool.false_ne_true] at hreason
          split at hreason
          · next hstale => exact .inr ⟨rfl, bne_iff_ne.1 hstale, (Option.some.inj hreason).symm⟩
          · cases hreason

/-- All that is told is that the connection was closed, if it was. -/
theorem TakesBack.told (h : stock.TakesBack held next) :
    ∃ told, next.log = stock.log ++ told ∧ told.length ≤ 1 ∧
      ∀ event ∈ told, event.type = .closed := by
  cases h with
  | nothing | kept => exact ⟨[], (List.append_nil _).symm, Nat.zero_le 1, by simp⟩
  | closed => exact ⟨[_], rfl, Nat.le_refl 1, by simp [Event.type, EventKind.type]⟩

/-- What comes back is no longer checked out. -/
theorem TakesBack.off (h : stock.TakesBack (some connection) next)
    (honce : stock.checkedOut.Nodup) :
    connection.id ∉ next.checkedOut := by
  cases h with
  | kept | closed => exact honce.not_mem_erase

/-- Nobody else's matters are touched. -/
theorem TakesBack.rest (h : stock.TakesBack held next) :
    next.pending = stock.pending ∧ next.generation = stock.generation ∧
      next.metrics.created = stock.metrics.created ∧
      next.metrics.succeeded = stock.metrics.succeeded ∧
      next.metrics.failed = stock.metrics.failed := by
  cases h with
  | nothing | kept => exact ⟨rfl, rfl, rfl, rfl, rfl⟩
  | @closed _ reason => cases reason <;> exact ⟨rfl, rfl, rfl, rfl, rfl⟩

end Inventory

namespace Pool

variable {pool next : Pool} {member : Nat} {call : Call}

/-! ## Calls that are given up -/

/-- The call was given up. Nothing changes but the call, its place in line and the connection it
held, and nothing is told but that the connection was closed, if it was. -/
structure Withdrawn (pool : Pool) (call : Call) (next : Pool) : Prop where
  connection : pool.stock.TakesBack call.phase.connection? next.stock
  off : ∀ connection, call.phase.connection? = some connection →
    connection.id ∈ pool.stock.checkedOut ∧ connection.id ∉ next.stock.checkedOut
  told : ∃ told, next.log = pool.log ++ told ∧ told.length ≤ 1 ∧
    ∀ event ∈ told, event.type = .closed
  counts : next.stock.pending = pool.stock.pending ∧
    next.stock.generation = pool.stock.generation ∧
    next.stock.metrics.created = pool.stock.metrics.created ∧
    next.stock.metrics.succeeded = pool.stock.metrics.succeeded ∧
    next.stock.metrics.failed = pool.stock.metrics.failed
  line : next.queue.ids = pool.queue.ids
  others : ∀ other ∈ pool.queue.members, call.phase ≠ .queued other.id →
    other ∈ next.queue.members
  rest : next =
    { pool with
      stock := next.stock
      queue := call.phase.member?.elim pool.queue pool.queue.abandon
      calls := pool.calls.filter fun other => other.id != call.id }

/-- Giving up a call where it waits. -/
theorem Reachable.withdrawn (h : pool.Reachable) (hcall : call ∈ pool.calls)
    (hpauses : call.phase.Pauses) : pool.Withdrawn call (pool.step (.cancel call.id)).2 := by
  have hcoherent := h.sound.1
  have hholders := h.holders_perm
  have honce : pool.stock.checkedOut.Nodup :=
    (List.nodup_append.1 (List.nodup_append.1 h.ids_nodup).1).2.1
  have hfind : pool.call? call.id = some call := Keyed.find_of_mem hcoherent.callIds hcall
  rw [step_cancel hcoherent hcall, cancel_acquire_eq hfind hpauses]
  have hback : pool.stock.TakesBack call.phase.connection?
      (call.phase.connection?.elim pool.stock pool.stock.reclaim) := by
    cases call.phase.connection? with
    | none => exact .nothing
    | some connection => exact Inventory.reclaim_takes_back _ connection
  generalize call.phase.connection?.elim pool.stock pool.stock.reclaim = stock at hback ⊢
  refine ⟨hback, ?_, hback.told, hback.rest, ?_, ?_, rfl⟩
  · intro connection hheld
    rw [hheld] at hback
    refine ⟨hholders.subset ?_, hback.off honce⟩
    exact List.mem_map_of_mem (List.mem_append_left _ (List.mem_filterMap.2 ⟨call, hcall, hheld⟩))
  · show (call.phase.member?.elim pool.queue pool.queue.abandon).ids = pool.queue.ids
    cases call.phase.member? with
    | none => rfl
    | some member => exact WaitQueue.abandon_ids pool.queue member
  · intro other hother hphase
    show other ∈ (call.phase.member?.elim pool.queue pool.queue.abandon).members
    cases hplace : call.phase.member? with
    | none => exact hother
    | some member =>
        have hne : other.id ≠ member := by
          rintro rfl
          cases hcase : call.phase <;> simp_all [Phase.member?]
        exact List.mem_map.2 ⟨other, hother, if_neg hne⟩

/-! ## Places in line that nobody waits in -/

/-- The member's number was given out, and nobody waits as the member. -/
def Abandoned (pool : Pool) (member : Nat) : Prop :=
  member ≤ pool.queue.lastMember ∧ ∀ id, ¬ pool.WaitsAs id member

/-- Nobody comes to wait as a member whose number was given out. -/
theorem Abandoned.after (h : pool.Abandoned member) (hpool : pool.Coherent) (action : Action) :
    (pool.after action).Abandoned member := by
  obtain ⟨hissued, hnobody⟩ := h
  rcases (after_arranged hpool action).ages_or_joins with ⟨hages, -, hlast⟩ |
    ⟨id, readmitted, -, hjoins⟩
  · exact ⟨hlast ▸ hissued, fun id hwaits => hnobody id (hages.waits hwaits)⟩
  · have hlast := hjoins.last
    refine ⟨by omega, fun other hwaits => ?_⟩
    rcases hjoins.waits hwaits with ⟨-, hnew⟩ | ⟨-, hwaited⟩
    · omega
    · exact hnobody other hwaited

/-- Nobody ever comes to wait as such a member. -/
theorem Abandoned.run (h : pool.Abandoned member) (hreachable : pool.Reachable)
    (history : List Action) : (pool.run history).Abandoned member := by
  induction history generalizing pool with
  | nil => exact h
  | cons action rest ih => exact ih (h.after hreachable.sound.1 action) (hreachable.after action)

/-- Nobody listens in a place where nobody waits. -/
theorem Abandoned.deaf (h : pool.Abandoned member) (hpool : pool.Coherent) :
    ∀ other ∈ pool.queue.members, other.id = member → other.listening = false := by
  rintro other hother rfl
  by_contra hlistening
  obtain ⟨id, hwaits⟩ := mem_waiting.1 ((hpool.line.listening other.id).2
    ⟨other, hother, rfl, by simpa using hlistening⟩)
  exact h.2 id hwaits

/-- No search for a connection is made for such a member when it is first in line. -/
theorem Abandoned.tick (h : pool.Abandoned member) (hpool : pool.Coherent)
    (hhead : pool.queue.ids.head? = some member) (runLoop : Nat) (lost : List Nat) :
    (pool.tick runLoop lost).stock = pool.stock := by
  have hsettle : ∀ outcome, (pool.settle outcome).stock = pool.stock := by
    intro outcome
    rw [settle, (deliver_frame outcome.answers pool).1]
  have hasks : pool.queue.asks = false := by
    cases hmembers : pool.queue.members with
    | nil => simp [WaitQueue.asks, hmembers]
    | cons head rest =>
        have hid : head.id = member := by simpa [WaitQueue.ids, hmembers] using hhead
        have hdeaf := h.deaf hpool head (by simp [hmembers]) hid
        simp [WaitQueue.asks, hmembers, hdeaf]
  have hattend : (pool.attend lost).2.stock = pool.stock := by
    rw [attend, if_neg (by simp [hasks])]
    split <;> exact hsettle _
  unfold Pool.tick
  split
  · rfl
  · split
    · split
      · next next hnext => rwa [hnext] at hattend
      · next next hnext => rwa [hnext] at hattend
    · rfl

/-- Nobody waits any more as the member as which the call that is given up waited. -/
theorem Withdrawn.abandoned (h : pool.Withdrawn call next) (hpool : pool.Coherent)
    (hcall : call ∈ pool.calls) (hphase : call.phase = .queued member) :
    next.Abandoned member := by
  have hwaits : pool.WaitsAs call.id member := ⟨call, hcall, rfl, hphase⟩
  rw [h.rest]
  refine ⟨?_, ?_⟩
  · rw [hphase]
    exact (hwaits.queued hpool).2
  · rintro id ⟨other, hother, -, hqueued⟩
    obtain ⟨hmem, hne⟩ := List.mem_filter.1 hother
    exact bne_iff_ne.1 hne (WaitsAs.unique ⟨other, hmem, rfl, hqueued⟩ hwaits hpool)

/-! ## Giving up an acquisition -/

/-- What is told when a call is given up, and that the tripwires stay as they are. -/
theorem Reachable.cancel_told (h : pool.Reachable) (hcall : call ∈ pool.calls) :
    (pool.step (.cancel call.id)).2.tripwires = pool.tripwires ∧
      ∃ told, (pool.step (.cancel call.id)).2.log = pool.log ++ told ∧
        ∀ event ∈ told, event.type = .closed := by
  by_cases hpauses : call.phase.Pauses
  · have hwithdrawn := h.withdrawn hcall hpauses
    obtain ⟨told, hlog, -, hclosed⟩ := hwithdrawn.told
    refine ⟨?_, told, hlog, hclosed⟩
    rw [hwithdrawn.rest]
  · have hfind := Keyed.find_of_mem h.sound.1.callIds hcall
    rw [step_cancel h.sound.1 hcall, cancel_acquire_busy hfind hpauses]
    exact ⟨rfl, [], (List.append_nil _).symm, by simp⟩

/-- A call that is given up changes nothing else, unless observers wait for closed connections. -/
theorem Reachable.after_cancel_unwatched (h : pool.Reachable) (hcall : call ∈ pool.calls)
    (hunwatched : ∀ wire ∈ pool.tripwires, wire.type ≠ .closed) :
    pool.after (.cancel call.id) = (pool.step (.cancel call.id)).2.collect := by
  obtain ⟨hwires, told, hlog, hclosed⟩ := h.cancel_told hcall
  show ((pool.step (.cancel call.id)).2.fire pool.log.length).collect = _
  rw [fire_unseen]
  rw [hwires, hlog, List.drop_left]
  intro wire hwire event hevent
  rw [hclosed event hevent]
  exact (hunwatched wire hwire).symm

/-- The place in line of a call that is given up is nobody's from then on. -/
theorem Reachable.after_cancel_abandoned (h : pool.Reachable) (hcall : call ∈ pool.calls)
    (hphase : call.phase = .queued member) :
    (pool.after (.cancel call.id)).Abandoned member := by
  have hpauses : call.phase.Pauses := by rw [hphase]; trivial
  obtain ⟨hissued, hnobody⟩ := (h.withdrawn hcall hpauses).abandoned h.sound.1 hcall hphase
  have hfire := fire_thins (pool.step (.cancel call.id)).2 pool.log.length
  obtain ⟨hcalls, -, hlast⟩ :=
    collect_leaves ((pool.step (.cancel call.id)).2.fire pool.log.length)
  refine ⟨(hlast.trans hfire.last).symm ▸ hissued, ?_⟩
  rintro id ⟨other, hother, hid, hqueued⟩
  exact hnobody id ⟨other, hfire.calls other (hcalls ▸ hother), hid, hqueued⟩

/-- Acquisitions are given up safely. Where a call waits, giving it up changes the call, its
place in line and the connection that it holds, and nothing else; it tells nothing but that the
connection was closed, if the pool does not want it any more. On its way to the pool's lock a
call cannot be given up. What follows is the business of those who observe closed connections,
and if there are none nothing follows. No tick ever searches for a connection on behalf of the
place in line. And a caller that goes away in the tick that finds a connection for it, of itself
or because of what the search tells, leaves the pool as if it had gone away when it had been
given the connection: the connection is idle again, at the back, and the search is all that is
told. -/
theorem given_up_safely (h : pool.Reachable) (hcall : call ∈ pool.calls) :
    (call.phase.Pauses → pool.Withdrawn call (pool.step (.cancel call.id)).2) ∧
      (¬ call.phase.Pauses → (pool.step (.cancel call.id)).2 = pool) ∧
      (pool.after (.cancel call.id)).log = (pool.step (.cancel call.id)).2.log ∧
      ((∀ wire ∈ pool.tripwires, wire.type ≠ .closed) →
        pool.after (.cancel call.id) = (pool.step (.cancel call.id)).2.collect) ∧
      (∀ member, call.phase = .queued member → ∀ history later,
        later = (pool.after (.cancel call.id)).run history →
          (∀ other ∈ later.queue.members, other.id = member → other.listening = false) ∧
            (later.queue.ids.head? = some member →
              ∀ runLoop lost, (later.tick runLoop lost).stock = later.stock)) ∧
      ∀ loop lent connection lost, pool.Searches call loop lent connection →
        call.id ∈ lost ∨ call.id ∉ (pool.after (.tick loop.id lost)).callIds →
          call.id ∉ (pool.after (.tick loop.id lost)).callIds ∧
            (pool.step (.tick loop.id lost)).2.stock =
              { lent with
                checkedOut := pool.stock.checkedOut
                available := lent.available ++ [connection.makeAvailable lent.now] } ∧
            (∃ told, (pool.after (.tick loop.id lost)).log = pool.log ++ told ∧
              ∀ event ∈ told, event.type = .created ∨ event.type = .closed) ∧
            (pool.after (.tick loop.id lost)).bare = ((pool.calm call.id).run
              [.tick loop.id (lost.filter (· != call.id)), .cancel call.id]).bare := by
  have hcoherent := h.sound.1
  have hfind : pool.call? call.id = some call := Keyed.find_of_mem hcoherent.callIds hcall
  refine ⟨h.withdrawn hcall, ?_, after_log pool _, h.after_cancel_unwatched hcall, ?_, ?_⟩
  · intro hbusy
    rw [step_cancel hcoherent hcall, cancel_acquire_busy hfind hbusy]
  · rintro member hphase history later rfl
    have hnext : (pool.after (.cancel call.id)).Reachable := h.after _
    have habandoned := (h.after_cancel_abandoned hcall hphase).run hnext history
    have hlater := (hnext.run history).sound.1
    exact ⟨habandoned.deaf hlater, habandoned.tick hlater⟩
  · intro loop lent connection lost hsearches hleaves
    have hgone : call.id ∉ (pool.after (.tick loop.id lost)).callIds :=
      hleaves.elim (hsearches.gone_lost hcoherent) fun hgone => hgone
    obtain ⟨hstock, hsame⟩ := hsearches.unclaimed hcoherent hgone
    have hfinds := Inventory.lend_finds hsearches.finds
    rw [hfinds.reclaim (hsearches.asks hcoherent).2.1] at hstock
    obtain ⟨told, hlog, htold⟩ := hfinds.told
    refine ⟨hgone, hstock, ⟨told, ?_, htold⟩, hsame⟩
    rw [after_log, log, hstock]
    exact hlog

/-- The small pool has an idle connection, and a caller is first in line. -/
def aboutToLeave : List Action :=
  openEmpty ++ addOne ++ [.acquire 1, .enter 1, .elapse 10000000]

/-- The caller can be given up. When it goes away in the tick that finds the idle connection for
it, that is idle again and nothing is told, as if the caller had been given up when it had the
connection. -/
theorem about_to_leave_safely :
    (∃ call ∈ (small.run aboutToLeave).calls, call.id = 1 ∧
        (small.run aboutToLeave).Withdrawn call ((small.run aboutToLeave).step (.cancel 1)).2) ∧
      ((small.run aboutToLeave).after (.tick 0 [1])).bare =
        (((small.run aboutToLeave).calm 1).run [.tick 0, .cancel 1]).bare ∧
      ((small.run aboutToLeave).after (.tick 0 [1])).callIds = [] ∧
      ((small.run aboutToLeave).after (.tick 0 [1])).stock.available.map Connection.id = [2] ∧
      ((small.run aboutToLeave).after (.tick 0 [1])).log.length =
        (small.run aboutToLeave).log.length := by
  have hreachable := (Reachable.opened small_opened).run aboutToLeave
  have hwaits : (small.run aboutToLeave).WaitsAs 1 1 := by decide +kernel
  obtain ⟨call, hcall, hid, hphase⟩ := hwaits
  obtain ⟨hgivenUp, -, -, -, -, hunclaimed⟩ := given_up_safely hreachable hcall
  rw [hid] at hgivenUp hunclaimed
  have hfound : (small.run aboutToLeave).stock.lend.1.isSome = true := by decide +kernel
  obtain ⟨connection, hconnection⟩ := Option.isSome_iff_exists.1 hfound
  have hsearches : (small.run aboutToLeave).Searches call ⟨0, 10000000⟩
      (small.run aboutToLeave).stock.lend.2 connection :=
    ⟨hcall, ⟨1, hphase, by decide +kernel⟩, by decide +kernel, by decide +kernel,
      by rw [← hconnection]⟩
  obtain ⟨-, -, -, hsame⟩ := hunclaimed _ _ _ [1] hsearches (.inl List.mem_cons_self)
  exact ⟨⟨call, hcall, hid, hgivenUp (by rw [hphase]; trivial)⟩, hsame, by decide +kernel,
    by decide +kernel, by decide +kernel⟩

end Pool

end ConnectionPool
