import ConnectionPool.Proofs.Capacity
import ConnectionPool.Proofs.IdleOrder
import ConnectionPool.Proofs.RunLoop

/-!
# Ticks that conserve work

A run loop lets the head of the line wait only if the pool has nothing for it: an inventory is
`Exhausted` when it lends nothing, and then no idle connection may be used and the connections
that are on loan and being established alone reach the greatest size. Whatever the pool has
beyond that, one and the same tick gives it to the head.
-/

namespace ConnectionPool

namespace Inventory

variable {stock final : Inventory} {connection : Connection}

/-- The idle connections that may still be used. -/
def usable (stock : Inventory) : List Connection :=
  stock.available.filter fun connection =>
    !connection.isStale stock.generation &&
      !connection.isIdleExpired stock.config.maxIdleTime stock.now

/-- The pool has nothing to lend: it is bounded, no idle connection may be used, and the others
take up all the room. -/
structure Exhausted (stock : Inventory) : Prop where
  bounded : stock.config.maxPoolSize ≠ 0
  unusable : stock.usable = []
  full : stock.config.maxPoolSize.toNat ≤ stock.checkedOut.length + stock.pending

/-- A connection that is to be evicted is not usable. -/
theorem usable_eq_nil (h : ∀ connection ∈ stock.available,
    stock.evictionReason? connection ≠ none) :
    stock.usable = [] := by
  refine List.filter_eq_nil_iff.2 fun connection hmem hfit => h connection hmem ?_
  rw [Bool.and_eq_true, Bool.not_eq_true', Bool.not_eq_true'] at hfit
  exact (eviction_reason_none stock connection).2
    ⟨by simpa [Connection.isStale] using hfit.1, hfit.2⟩

/-- A pool that lends nothing is exhausted, and keeps nothing but what others have. -/
theorem exhausted_of_lend_none (hlend : stock.lend = (none, final)) :
    stock.Exhausted ∧ final.available = [] ∧ final.checkedOut = stock.checkedOut ∧
      final.pending = stock.pending := by
  unfold lend obtain at hlend
  cases htake : stock.takeIdle with
  | mk result middle =>
      cases result with
      | some first => simp [htake] at hlend
      | none =>
          obtain ⟨hevicts, hempty⟩ := take_from_none rfl htake
          cases hroom : middle.hasCapacity with
          | true => simp [htake, hroom] at hlend
          | false =>
              obtain rfl : middle = final := by simpa [htake, hroom] using hlend
              obtain ⟨gone, network, metrics, log, hgone, hdue, hframe⟩ := hevicts.frame
              rw [hempty, List.append_nil] at hgone
              have hbooks : middle.checkedOut = stock.checkedOut := by rw [hframe]
              have hpending : middle.pending = stock.pending := by rw [hframe]
              have hconfig : middle.config = stock.config := by rw [hframe]
              rw [hasCapacity, total, hempty, hbooks, hpending, hconfig, Bool.or_eq_false_iff,
                beq_eq_false_iff_ne, decide_eq_false_iff_not, List.length_nil,
                Nat.zero_add] at hroom
              exact ⟨⟨hroom.1, usable_eq_nil (hgone ▸ hdue), Nat.le_of_not_lt hroom.2⟩,
                hempty, hbooks,
                hpending⟩

/-- An inventory is not exhausted if it is unbounded, has an idle connection that may be used,
or has room once those that may not are gone. -/
theorem Exhausted.not_of (h : stock.Exhausted) :
    ¬ (stock.config.maxPoolSize = 0 ∨ stock.usable ≠ [] ∨
      stock.usable.length + stock.checkedOut.length + stock.pending <
        stock.config.maxPoolSize.toNat) := by
  rintro (hunbounded | husable | hroom)
  · exact h.bounded hunbounded
  · exact husable h.unusable
  · rw [h.unusable, List.length_nil, Nat.zero_add] at hroom
    exact absurd hroom (Nat.not_lt.2 h.full)

end Inventory

namespace Pool

variable {pool : Pool} {loop : RunLoop} {connection : Connection} {lent : Inventory} {call : Call}

/-- The head of the line is off it after a tick that found a connection. -/
theorem Searches.leaves (h : pool.Searches call loop lent connection) (hpool : pool.Coherent)
    {member : Nat} (hhead : pool.queue.ids.head? = some member) (lost : List Nat) :
    member ∉ (pool.after (.tick loop.id lost)).queue.ids := by
  obtain ⟨hasks, -, hwanted⟩ := h.asks hpool
  obtain ⟨-, hafter⟩ := tick_found h.live h.due hasks h.finds hwanted
  have htail : (pool.granted loop lent lost connection).queue.ids = pool.queue.ids.tail := by
    rw [← (searched_frame pool lent lost).1]
    exact (grant_line (pool.searched lent lost) connection).1
  have honce : pool.queue.ids.Nodup := hpool.line.ids
  intro hmem
  rw [hafter] at hmem
  have hlater : member ∈ pool.queue.ids.tail := htail ▸ (collect_leaves _).2.1.subset hmem
  obtain ⟨rest, hids⟩ : ∃ rest, pool.queue.ids = member :: rest := by
    cases hline : pool.queue.ids with
    | nil => simp [hline] at hhead
    | cons first rest =>
        rw [hline, List.head?_cons, Option.some.injEq] at hhead
        exact ⟨rest, by rw [hhead]⟩
  rw [hids] at honce hlater
  exact (List.nodup_cons.1 honce).1 hlater

/-- The call for which a tick found a connection has it afterwards, unless it went away in the
same tick, of itself or at a tripwire: then the pool has taken it back. -/
theorem Searches.obtains (h : pool.Searches call loop lent connection) (hpool : pool.Coherent)
    (lost : List Nat) :
    (pool.after (.tick loop.id lost)).call? call.id =
        some { call with phase := .answered (.ok connection) } ∨
      (call.id ∈ lost ∨ pool.Watches call.id) ∧
        call.id ∉ (pool.after (.tick loop.id lost)).callIds ∧
        (pool.step (.tick loop.id lost)).2.stock = lent.reclaim connection := by
  obtain ⟨member, hphase, hhead⟩ := h.first
  obtain ⟨hasks, -, hwanted⟩ := h.asks hpool
  obtain ⟨hids, -, -⟩ := searched_frame pool lent lost
  obtain ⟨htick, hafter⟩ := tick_found h.live h.due hasks h.finds hwanted
  cases hfind : (pool.searched lent lost).call? call.id with
  | some other =>
      -- Who is still there after the search is the call itself, which is answered.
      have hother := Coherent.call_mem hfind
      have hid : other.id = call.id := by simpa using List.find?_some hfind
      have hsame : other = call := List.inj_on_of_nodup_map hpool.callIds
        ((searched_thins pool lent pool.log.length lost).calls other hother) h.waits hid
      obtain ⟨head, rest, -, -, hgrant⟩ := grant_served connection (h.coherent hpool lost)
        (hsame ▸ hfind) hphase (hids.symm ▸ hhead)
      have hmoved : (pool.granted loop lent lost connection).call? call.id =
          some { call with phase := .answered (.ok connection) } := by
        show ((pool.searched lent lost).grant connection).call? call.id = _
        rw [hgrant]
        exact (set_phase_call _ (hsame ▸ hfind)).1
      rw [hafter, collect_of_call hmoved]
      exact .inl hmoved
  | none =>
      have hgone := h.gone hpool hfind
      have hloses : pool.Loses (fun id => id ∈ lost ∨ pool.Watches id)
          (pool.after (.tick loop.id lost)) := by
        rw [hafter, ← htick]
        exact (tick_loses pool loop.id lost).trans (collect_loses _)
      exact .inr ⟨hloses.gone call.id (List.mem_map_of_mem h.waits) hgone, hgone,
        (h.unclaimed hpool hgone).1⟩

/-- A tick that leaves somebody in line leaves the inventory as attending to the head did. -/
theorem after_tick_stock (hloop : pool.runLoops.find?
    (fun other => other.id == loop.id) = some loop)
    (hdue : loop.due ≤ pool.now) (hline : (pool.after (.tick loop.id lost)).queue.ids ≠ []) :
    (pool.after (.tick loop.id lost)).stock = (pool.attend lost).2.stock := by
  obtain ⟨calls, queue, wires, departures, hafter⟩ := after_frame pool (.tick loop.id lost)
  rw [hafter] at hline ⊢
  unfold collect at hline ⊢
  split
  · exact tick_stock hloop hdue
  · next hdead => simp [hdead, WaitQueue.ids] at hline

/-- A tick lets the head of the line wait only if the pool is bounded, none of its connections
is idle any more, and those that are on loan and being established reach its greatest size. If
there is no bound, if an idle connection may be used, or if there is room once those that may
not are gone, the same tick finds a connection for the head: the caller has it, unless it goes
away in this tick, of itself or at a tripwire, and the pool takes it back. -/
theorem Reachable.work_conserved {head : Member Nat} {rest : List (Member Nat)}
    (h : pool.Reachable) (hloop : loop ∈ pool.runLoops) (hdue : loop.due ≤ pool.now)
    (hmembers : pool.queue.members = head :: rest) (hlistening : head.listening = true)
    (lost : List Nat) :
    (head.id ∈ (pool.after (.tick loop.id lost)).queue.ids →
      0 < pool.config.maxPoolSize ∧ (pool.after (.tick loop.id lost)).stock.available = [] ∧
        (pool.after (.tick loop.id lost)).stock.checkedOut.length +
          (pool.after (.tick loop.id lost)).stock.pending = pool.config.maxPoolSize.toNat) ∧
    (pool.config.maxPoolSize = 0 ∨ pool.stock.usable ≠ [] ∨
        pool.stock.usable.length + pool.stock.checkedOut.length + pool.stock.pending <
          pool.config.maxPoolSize.toNat →
      head.id ∉ (pool.after (.tick loop.id lost)).queue.ids ∧
        ∃ call ∈ pool.calls, call.phase = .queued head.id ∧
          ∃ connection lent, pool.stock.lend = (some connection, lent) ∧
            ((pool.after (.tick loop.id lost)).call? call.id =
                some { call with phase := .answered (.ok connection) } ∨
              (call.id ∈ lost ∨ pool.Watches call.id) ∧
                call.id ∉ (pool.after (.tick loop.id lost)).callIds ∧
                (pool.step (.tick loop.id lost)).2.stock = lent.reclaim connection)) := by
  have hpool := h.sound.1
  have hlive : pool.runLoops.find? (fun other => other.id == loop.id) = some loop := by
    have honce : (pool.runLoops.map RunLoop.id).Nodup := by
      rw [h.tended.loops.resolve_right fun hbroke => by simp [hbroke.gone] at hloop]
      exact pool.runLoop.toList_nodup
    exact Keyed.find_of_mem honce hloop
  have hhead : pool.queue.ids.head? = some head.id := by simp [WaitQueue.ids, hmembers]
  obtain ⟨id, call, hcall, -, hphase⟩ : ∃ id, pool.WaitsAs id head.id :=
    mem_waiting.1 ((hpool.line.listening head.id).2 ⟨head, by simp [hmembers], rfl, hlistening⟩)
  have hasks : pool.queue.asks = true :=
    (WaitsAs.first ⟨call, hcall, rfl, hphase⟩ hpool hhead).1
  cases hlend : pool.stock.lend with
  | mk resource lent =>
      cases resource with
      | some connection =>
          have hsearches : pool.Searches call loop lent connection :=
            ⟨hcall, ⟨head.id, hphase, hhead⟩, hlive, hdue, hlend⟩
          have hleaves := hsearches.leaves hpool hhead lost
          exact ⟨fun hstill => absurd hstill hleaves, fun _ => ⟨hleaves, call, hcall, hphase,
            connection, lent, rfl, hsearches.obtains hpool lost⟩⟩
      | none =>
          obtain ⟨hexhausted, hempty, hbooks, hpending⟩ := Inventory.exhausted_of_lend_none hlend
          refine ⟨fun hstill => ?_, fun hspare => absurd hspare hexhausted.not_of⟩
          have hstock : (pool.after (.tick loop.id lost)).stock = lent := by
            rw [after_tick_stock hlive hdue (List.ne_nil_of_mem hstill)]
            rcases attend_stock hasks hlend with hstock | ⟨_, hnone, -⟩
            · exact hstock
            · cases hnone
          have hroom := h.within.room.resolve_left hexhausted.bounded
          rw [hstock, hempty, hbooks, hpending]
          refine ⟨?_, rfl, Nat.le_antisymm ?_ hexhausted.full⟩
          · exact UInt32.pos_iff_ne_zero.2 hexhausted.bounded
          · rw [Inventory.total] at hroom
            show _ ≤ pool.stock.config.maxPoolSize.toNat
            omega

/-- The small pool gets three connections and lends them, makes a fourth, and two callers wait. -/
def getCrowded : List Action :=
  openEmpty ++ addOne ++ addOne ++ addOne ++
    [.reserve (.call 9), .tryAcquire, .tryAcquire, .tryAcquire, .acquire 1, .acquire 2, .enter 1,
      .enter 2, .elapse 10000000]

/-- The first of the two who wait in the crowded pool gets a new connection, since there is room
for a fifth. The second waits on: four connections are on loan and one is being established. -/
theorem crowded_conserved :
    (small.run getCrowded).queue.ids = [1, 2] ∧
      1 ∉ ((small.run getCrowded).after (.tick 0)).queue.ids ∧
      2 ∈ ((small.run (getCrowded ++ [.tick 0, .elapse 10000000])).after (.tick 0)).queue.ids ∧
      ((small.run (getCrowded ++ [.tick 0, .elapse 10000000])).after (.tick 0)).stock.available =
        [] ∧
      ((small.run (getCrowded ++ [.tick 0, .elapse 10000000])).after
          (.tick 0)).stock.checkedOut.length +
        ((small.run (getCrowded ++ [.tick 0, .elapse 10000000])).after (.tick 0)).stock.pending =
          5 := by
  have hsmall := Reachable.opened small_opened
  obtain ⟨-, hfirst⟩ := @Reachable.work_conserved _ ⟨0, 10000000⟩
    ⟨1, true, none⟩ [⟨2, true, none⟩]
    (hsmall.run getCrowded) (by decide +kernel) (by decide +kernel) (by decide +kernel) rfl []
  obtain ⟨hsecond, -⟩ := @Reachable.work_conserved _ ⟨0, 20000000⟩ ⟨2, true, none⟩ []
    (hsmall.run (getCrowded ++ [.tick 0, .elapse 10000000])) (by decide +kernel)
    (by decide +kernel) (by decide +kernel) rfl []
  have hwaits : 2 ∈ ((small.run (getCrowded ++ [.tick 0, .elapse 10000000])).after
      (.tick 0)).queue.ids := by decide +kernel
  have hroom : (small.run getCrowded).stock.usable.length +
      (small.run getCrowded).stock.checkedOut.length + (small.run getCrowded).stock.pending <
        (small.run getCrowded).config.maxPoolSize.toNat := by decide +kernel
  have hsize : (small.run (getCrowded ++ [.tick 0, .elapse 10000000])).config.maxPoolSize.toNat =
      5 := by decide +kernel
  dsimp only at hsecond
  obtain ⟨-, hempty, hfull⟩ := hsecond hwaits
  exact ⟨by decide +kernel, (hfirst (.inr (.inr hroom))).1, hwaits, hempty, hfull.trans hsize⟩

end Pool

end ConnectionPool
