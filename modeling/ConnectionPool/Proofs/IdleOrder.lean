import ConnectionPool.Proofs.HandOut
import ConnectionPool.Proofs.Pool.Unclaimed

/-!
# The order of the idle connections

Idle connections stand in the order in which they became idle, and none is of an earlier
generation than one before it: an inventory is `Ranked`. That is kept because connections leave
at the front and come at the back, those of the current generation only (`Move.shelves`), and
because neither the clock nor the generation goes back. A search stops at the first connection
that may still be used; in a ranked inventory all those behind it may be used as well, so that
every search leaves the inventory `Swept`.
-/

namespace ConnectionPool

/-- The first has been idle for no less time than the second and is of no later generation. -/
def Connection.Precedes (first second : Connection) : Prop :=
  (∀ since ∈ first.idleSince, ∀ later ∈ second.idleSince, since ≤ later) ∧
    first.generation ≤ second.generation

namespace Inventory

/-- The idle connections say since when, which is no instant to come, none is of a generation to
come, and they stand in order. -/
structure Ranked (stock : Inventory) : Prop where
  since : ∀ connection ∈ stock.available,
    ∃ since, connection.idleSince = some since ∧ since ≤ stock.now
  generation : ∀ connection ∈ stock.available, connection.generation ≤ stock.generation
  order : stock.available.Pairwise Connection.Precedes

/-- At this instant, no idle connection is of an old generation or has been idle for too long. -/
structure Swept (stock : Inventory) (now : Instant) : Prop where
  clock : stock.now = now
  usable : ∀ connection ∈ stock.available, connection.isStale stock.generation = false ∧
    connection.isIdleExpired stock.config.maxIdleTime now = false

variable {stock later final : Inventory} {connection : Connection} {now : Instant}

/-- Connections that leave and time that passes do not disturb the order. -/
theorem Ranked.sublist (h : stock.Ranked) (hlater : stock.Later later)
    (hsub : later.available.Sublist stock.available) : later.Ranked where
  since := by
    intro connection hmem
    obtain ⟨since, hsince, hle⟩ := h.since connection (hsub.subset hmem)
    exact ⟨since, hsince, hle.trans hlater.now⟩
  generation := fun connection hmem =>
    (h.generation connection (hsub.subset hmem)).trans hlater.generation
  order := h.order.sublist hsub

/-- A connection of the current generation that becomes idle belongs at the back. -/
theorem Ranked.snoc (h : stock.Ranked) (hlater : stock.Later later)
    (hcurrent : connection.generation = stock.generation)
    (hadded : later.available = stock.available ++ [connection.makeAvailable stock.now]) :
    later.Ranked where
  since := by
    rw [hadded]
    intro other hother
    rcases List.mem_append.1 hother with hother | hother
    · obtain ⟨since, hsince, hle⟩ := h.since other hother
      exact ⟨since, hsince, hle.trans hlater.now⟩
    · obtain rfl := List.mem_singleton.1 hother
      exact ⟨stock.now, rfl, hlater.now⟩
  generation := by
    rw [hadded]
    intro other hother
    rcases List.mem_append.1 hother with hother | hother
    · exact (h.generation other hother).trans hlater.generation
    · obtain rfl := List.mem_singleton.1 hother
      exact hcurrent.le.trans hlater.generation
  order := by
    rw [hadded]
    refine List.pairwise_append.2 ⟨h.order, List.pairwise_singleton _ _, ?_⟩
    intro first hfirst last hlast
    obtain rfl := List.mem_singleton.1 hlast
    refine ⟨?_, (h.generation first hfirst).trans hcurrent.ge⟩
    rintro since hsince _ ⟨⟩
    obtain ⟨_, hsome, hle⟩ := h.since first hfirst
    rw [hsome] at hsince
    obtain rfl := Option.some.inj hsince
    exact hle

/-- Evictions take no time and do not disturb the order. -/
theorem Evicts.ranked (hevicts : stock.Evicts final) (h : stock.Ranked) :
    final.now = stock.now ∧ final.Ranked := by
  obtain ⟨gone, network, metrics, log, hgone, -, hfinal⟩ := hevicts.frame
  have hnow : final.now = stock.now := hevicts.now_eq
  have hlater : stock.Later final := ⟨by rw [hfinal], by rw [hfinal], hnow.ge⟩
  exact ⟨hnow, h.sublist hlater (hgone ▸ List.sublist_append_right gone _)⟩

/-- A connection that became idle later has not been idle for too long either. -/
theorem not_expired_of_later {first second : Connection} {limit : Option Duration}
    (hsince : ∀ since ∈ second.idleSince, ∃ earlier ∈ first.idleSince, earlier ≤ since)
    (h : first.isIdleExpired limit now = false) : second.isIdleExpired limit now = false := by
  unfold Connection.isIdleExpired at h ⊢
  split
  · next limit since hlimit =>
      obtain ⟨earlier, hearlier, hle⟩ := hsince since hlimit
      rw [Option.mem_def.1 hearlier] at h
      rw [Bool.and_eq_false_iff, decide_eq_false_iff_not] at h ⊢
      refine h.imp_right fun hshort hlong => hshort ?_
      exact hlong.trans_le (Nat.sub_le_sub_left hle now)
  · rfl

/-- If the first of the idle connections may still be used, all of them may. -/
theorem Ranked.swept_of_first (h : stock.Ranked)
    (hfirst : ∀ first ∈ stock.available.head?, stock.evictionReason? first = none) :
    stock.Swept stock.now := by
  refine ⟨rfl, fun connection hmem => ?_⟩
  cases hidle : stock.available with
  | nil => simp [hidle] at hmem
  | cons first rest =>
      obtain ⟨hcurrent, hunexpired⟩ :=
        (eviction_reason_none stock first).1 (hfirst first (by simp [hidle]))
      rw [hidle, List.mem_cons] at hmem
      rcases hmem with rfl | hmem
      · exact ⟨by simp [Connection.isStale, hcurrent], hunexpired⟩
      · have hthere : connection ∈ stock.available := hidle ▸ List.mem_cons_of_mem _ hmem
        have horder := h.order
        rw [hidle, List.pairwise_cons] at horder
        obtain ⟨hsince, hgeneration⟩ := horder.1 connection hmem
        -- It is of no earlier generation than the first, and of none to come.
        have hsame : connection.generation = stock.generation :=
          Nat.le_antisymm (h.generation connection hthere) (hcurrent.ge.trans hgeneration)
        refine ⟨by simp [Connection.isStale, hsame], not_expired_of_later ?_ hunexpired⟩
        intro since hmade
        obtain ⟨earlier, hearlier, -⟩ := h.since first (by simp [hidle])
        exact ⟨earlier, hearlier, hsince earlier hearlier since hmade⟩

/-! ## Searches -/

/-- Nothing is left to sweep where none is idle. -/
theorem Swept.of_empty (hclock : stock.now = now) (hempty : stock.available = []) :
    stock.Swept now :=
  ⟨hclock, by simp [hempty]⟩

/-- Evictions up to a connection that may be used leave none that may not, once it is taken or
not. -/
theorem Ranked.evicts_swept (h : stock.Ranked) (hevicts : stock.Evicts final)
    (hfirst : ∀ first ∈ final.available.head?, final.evictionReason? first = none) :
    final.Swept stock.now := by
  obtain ⟨hnow, hranked⟩ := hevicts.ranked h
  exact hnow ▸ hranked.swept_of_first hfirst

/-- Taking an idle connection leaves no other that is not to be used any more. -/
theorem Swept.take {first : Connection} {rest : List Connection} (h : stock.Swept now)
    (hidle : stock.available = first :: rest) : { stock with available := rest }.Swept now :=
  ⟨h.clock, fun connection hmem => h.usable connection (hidle ▸ List.mem_cons_of_mem first hmem)⟩

/-- A search leaves no idle connection that is not to be used any more, whether it takes an idle
connection, makes a new one or finds none. -/
theorem Ranked.obtain_swept (h : stock.Ranked) : stock.obtain.2.Swept stock.now := by
  unfold obtain
  cases htake : stock.takeIdle with
  | mk result middle =>
      cases result with
      | some first =>
          obtain ⟨found, rest, hevicts, hfound, husable, rfl⟩ := take_from_some rfl htake
          exact (h.evicts_swept hevicts (by simp [hfound, husable])).take hfound
      | none =>
          obtain ⟨hevicts, hempty⟩ := take_from_none rfl htake
          have hclock := (hevicts.ranked h).1
          dsimp only
          split
          · exact .of_empty hclock hempty
          · exact .of_empty hclock hempty

/-- What is lent leaves the idle connections as the search did. -/
theorem Ranked.lend_swept (h : stock.Ranked) : stock.lend.2.Swept stock.now := by
  have hswept := h.obtain_swept
  unfold lend
  cases hobtain : stock.obtain with
  | mk result middle =>
      rw [hobtain] at hswept
      cases result with
      | none => exact hswept
      | some connection => exact ⟨hswept.clock, hswept.usable⟩

/-- Lending without waiting leaves no idle connection that is not to be used any more, whether
it lends one, leaves the first in its place or finds none. -/
theorem Ranked.lend_idle_swept (h : stock.Ranked) : stock.lendIdle.2.Swept stock.now := by
  cases hlend : stock.lendIdle with
  | mk result final =>
      cases result with
      | some connection =>
          obtain ⟨found, first, rest, hevicts, hfound, husable, -, -, rfl⟩ :=
            lend_from_some rfl hlend
          have hswept := (h.evicts_swept hevicts (by simp [hfound, husable])).take hfound
          exact ⟨hswept.clock, hswept.usable⟩
      | none =>
          obtain ⟨hevicts, hfirst⟩ := lend_from_none rfl hlend
          exact h.evicts_swept hevicts hfirst

/-- A connection that comes back becomes idle at the back, if at all. -/
theorem reclaim_shelves (stock : Inventory) (connection : Connection) :
    (stock.reclaim connection).available = stock.available ∨
      (connection.generation = stock.generation ∧ (stock.reclaim connection).available =
        stock.available ++ [connection.makeAvailable stock.now]) := by
  cases hreason : stock.returnReason? connection with
  | some reason =>
      rw [reclaim_unwanted hreason, discard_eq]
      exact .inl rfl
  | none =>
      rw [reclaim_wanted hreason]
      exact .inr ⟨((return_reason_none stock connection).1 hreason).2, rfl⟩

/-- Who has just become idle has not been idle for too long. -/
theorem not_expired_at_once (connection : Connection) (limit : Option Duration) (now : Instant) :
    (connection.makeAvailable now).isIdleExpired limit now = false := by
  unfold Connection.isIdleExpired Connection.makeAvailable
  cases limit <;> simp

/-- A connection that is put back is idle from now on, and so may be used. -/
theorem Swept.reclaim (h : stock.Swept now) (connection : Connection) :
    (stock.reclaim connection).Swept now := by
  cases hreason : stock.returnReason? connection with
  | some reason =>
      rw [reclaim_unwanted hreason, discard_eq]
      exact ⟨h.clock, h.usable⟩
  | none =>
      obtain ⟨-, hcurrent⟩ := (return_reason_none stock connection).1 hreason
      rw [reclaim_wanted hreason]
      refine ⟨h.clock, fun other hother => ?_⟩
      rcases List.mem_append.1 hother with hother | hother
      · exact h.usable other hother
      · obtain rfl := List.mem_singleton.1 hother
        refine ⟨?_, h.clock ▸ not_expired_at_once connection _ _⟩
        show (connection.generation != stock.generation) = false
        rw [hcurrent, bne_self_eq_false]

end Inventory

variable {h h' : Holdings} {kinds : List EventKind} {connection : Connection} {given : Nat}

/-! ## What every step keeps -/

/-- What a move does to the idle connections: some leave, or one of the current generation comes
at the back. -/
theorem Move.shelves (move : Move h h') :
    h'.stock.available.Sublist h.stock.available ∨
      ∃ connection : Connection, connection.generation = h.stock.generation ∧
        h'.stock.available = h.stock.available ++ [connection.makeAvailable h.stock.now] := by
  cases move with
  | started | failed | cleared | elapsed | scripted | produced | dialled | readied | handled |
    reserved | filled => exact .inl (.refl _)
  | retired first | evicted first =>
      rw [Inventory.discard_eq, first]
      exact .inl (List.sublist_cons_self _ _)
  | reused first =>
      rw [first]
      exact .inl (List.sublist_cons_self _ _)
  | forfeited | refused | unwanted | abandoned =>
      rw [Inventory.discard_eq]
      exact .inl (.refl _)
  | @reclaimed c =>
      rcases h.stock.reclaim_shelves c with hstill | hback
      · exact .inl (hstill ▸ .refl _)
      · exact .inr ⟨c, hback⟩
  | @released c rest held known force =>
      rcases Inventory.release_known known force with ⟨hwanted, hstock⟩ | ⟨reason, hstock⟩
      · rw [hstock]
        exact .inr ⟨c, ((h.stock.return_reason_none c).1 hwanted).2, rfl⟩
      · rw [hstock, Inventory.discard_eq]
        exact .inl (.refl _)
  | @stocked c rest held connected wanted =>
      exact .inr ⟨c, ((h.stock.return_reason_none c).1 wanted).2, rfl⟩

/-- Every move keeps the order. -/
theorem Move.ranked (move : Move h h') (hranked : h.stock.Ranked) : h'.stock.Ranked := by
  rcases move.shelves with hsub | ⟨connection, hcurrent, hback⟩
  · exact hranked.sublist move.later.1 hsub
  · exact hranked.snoc move.later.1 hcurrent hback

/-- Every step keeps the order. -/
theorem Step.ranked (step : Step h given h') (hranked : h.stock.Ranked) : h'.stock.Ranked := by
  refine step.preserves (P := fun h => h.stock.Ranked) Move.ranked ?_ ?_ ?_ ?_ hranked
  · intro connection h h' announced hranked
    refine hranked.sublist announced.later ?_
    cases announced
    exact .refl _
  · exact fun hranked => ⟨hranked.since, hranked.generation, hranked.order⟩
  · exact fun hranked => hranked.sublist ⟨rfl, Nat.le_refl _, Nat.le_refl _⟩ (List.nil_sublist _)
  · exact fun hranked => ⟨hranked.since, hranked.generation, hranked.order⟩

/-- Only idle connections say since when they are idle. -/
def Holdings.Unmarked (h : Holdings) : Prop :=
  ∀ x ∈ h.places, x.1 ≠ .idle → x.2.idleSince = none

/-- Connecting is no matter of idle time. -/
theorem Connection.connect_idle_since (connection : Connection) (network : Network)
    (now : Instant) :
    (connection.connect network now).2.1.idleSince = connection.idleSince := by
  unfold connect
  split <;> rfl

/-- A borrower does not mark a connection idle. -/
theorem Connection.Handled.idle_since {network network' : Network} {now : Instant}
    {changed : Connection} (change : connection.Handled network now changed network') :
    changed.idleSince = connection.idleSince := by
  cases change with
  | write bytes =>
      unfold Connection.write
      split
      · rfl
      · split <;> rfl
  | establish =>
      unfold Connection.establish
      split
      · rfl
      · exact connect_idle_since _ _ _
  | destroy =>
      unfold Connection.destroy
      split <;> rfl

/-- A connection that is not idle carries no mark of the time when it was. -/
theorem Life.unmarked {stock : Inventory} {place place' : Place} {connection' : Connection}
    (life : Life stock connection place kinds place' connection') (hplace : place' ≠ .idle)
    (hbefore : place ≠ .idle → connection.idleSince = none) : connection'.idleSince = none := by
  cases life with
  | reused => rfl
  | reclaimed | returned | stocked => exact absurd rfl hplace
  | dialled | filled => exact (Connection.connect_idle_since _ _ _).trans (hbefore (by simp))
  | readied | announced => exact hbefore (by simp)
  | handled change => exact change.idle_since.trans (hbefore (by simp))

/-- A passage marks only connections that become idle. -/
theorem Passage.unmarked (passage : Passage h kinds h') (hunmarked : h.Unmarked) :
    h'.Unmarked := by
  intro x hx hplace
  rcases passage.origin hx with hx | ⟨hnew, -⟩ | ⟨y, hy, life⟩
  · exact hunmarked x hx hplace
  · rw [hnew]
    rfl
  · exact life.unmarked hplace (hunmarked y hy)

/-- Every step marks only connections that become idle. -/
theorem Step.unmarked (step : Step h given h') (hunmarked : h.Unmarked) : h'.Unmarked := by
  refine step.preserves (P := Holdings.Unmarked) ?_ ?_ ?_ ?_ ?_ hunmarked
  · intro h h' move hunmarked
    obtain ⟨kinds, passage, -⟩ := move.passage
    exact passage.unmarked hunmarked
  · exact fun announced hunmarked => announced.passage.1.unmarked hunmarked
  · exact fun hunmarked => hunmarked
  · exact fun hunmarked x hx => hunmarked x (Holdings.mem_of_scrap hx)
  · exact fun hunmarked => hunmarked

namespace Pool

variable {pool : Pool} {action : Action} {loop : RunLoop}

/-- The idle connections of a reachable pool stand in order. -/
theorem Reachable.ranked (h : pool.Reachable) : pool.stock.Ranked := by
  refine h.invariant (P := fun h => h.stock.Ranked) ?_ fun _ step => step.ranked
  intro config source network now
  exact ⟨by simp [Holdings.opened, Inventory.emit], by simp [Holdings.opened, Inventory.emit],
    List.Pairwise.nil⟩

/-- In a reachable pool only idle connections say since when they are idle. -/
theorem Reachable.unmarked (h : pool.Reachable) : pool.holdings.Unmarked := by
  refine h.invariant (P := Holdings.Unmarked) ?_ fun _ step => step.unmarked
  intro config source network now x hx
  have hplaces : (Holdings.opened config source network now).places = 0 := rfl
  rw [hplaces] at hx
  exact absurd hx (Multiset.notMem_zero x)

/-- A connection that is lent or being established is at a place, and not idle. -/
theorem mem_outside {connection : Connection}
    (hmem : connection ∈ pool.holders ++ pool.establishing) :
    ∃ place, place ≠ .idle ∧ (place, connection) ∈ pool.holdings.places := by
  rw [holders, List.append_assoc, List.mem_append, List.mem_append] at hmem
  rcases hmem with hcall | hloan | hfilling
  · have hheld : connection ∈ pool.holdings.carried + pool.holdings.dialled := by
      rw [← Multiset.mem_coe, ← Multiset.filterMap_coe, held_split] at hcall
      exact hcall
    rcases Multiset.mem_add.1 hheld with hcarried | hdialled
    · exact ⟨.carried, by simp, Holdings.mem_places.2 hcarried⟩
    · exact ⟨.dialled, by simp, Holdings.mem_places.2 hdialled⟩
  · exact ⟨.lent, by simp, Holdings.mem_places.2 hloan⟩
  · refine ⟨.filling, by simp, Holdings.mem_places.2 ?_⟩
    rw [establishing, ← Multiset.mem_coe, ← Multiset.filterMap_coe] at hfilling
    exact hfilling

/-! ## Steps that search -/

/-- What comes after a step does not undo that it swept the idle connections. -/
theorem after_swept {now : Instant} (hswept : (pool.step action).2.stock.Swept now) :
    (pool.after action).stock.Swept now := by
  obtain ⟨calls, queue, wires, departures, hafter⟩ := after_frame pool action
  rw [hafter]
  unfold collect
  split
  · exact hswept
  · exact .of_empty hswept.clock rfl

/-- A tick that asks for a connection leaves the inventory as the search did, unless the pool
takes back what was found. -/
theorem attend_stock {resource : Option Connection} {lent : Inventory}
    (hasks : pool.queue.asks = true) (hlend : pool.stock.lend = (resource, lent)) :
    (pool.attend lost).2.stock = lent ∨ ∃ connection, resource = some connection ∧
      (pool.attend lost).2.stock = lent.reclaim connection := by
  unfold attend
  rw [if_pos hasks, hlend]
  dsimp only
  rw [← searched]
  have hstock : (pool.searched lent lost).stock = lent := (searched_frame pool lent lost).2.1
  cases hserve : (pool.searched lent lost).queue.serve resource with
  | mk tick outcome =>
      obtain ⟨_, _, hsettle⟩ := settle_frame (pool.searched lent lost) outcome
      have hsettled : ((pool.searched lent lost).settle outcome).stock = lent :=
        (congrArg Pool.stock hsettle).trans hstock
      cases tick with
      | unclaimed connection =>
          have hgiven : resource = some connection := by
            unfold WaitQueue.serve at hserve
            split at hserve
            · cases hserve
            · cases hserve
            · dsimp only at hserve
              split at hserve
              · cases hserve
              · cases hserve
                rfl
          exact .inr ⟨connection, hgiven, congrArg (·.reclaim connection) hsettled⟩
      | stopped | requeued | discarded | served => exact .inl hsettled

/-- A tick that asks for a connection sweeps the idle connections, whatever it finds. -/
theorem attend_swept (hranked : pool.stock.Ranked) (hasks : pool.queue.asks = true) :
    (pool.attend lost).2.stock.Swept pool.now := by
  have hswept := hranked.lend_swept
  rcases attend_stock hasks rfl with hstock | ⟨connection, -, hstock⟩
  · exact hstock ▸ hswept
  · exact hstock ▸ hswept.reclaim connection

/-- A run loop's tick leaves the inventory as attending to the head of the line does. -/
theorem tick_stock (hloop : pool.runLoops.find? (fun other => other.id == loop.id) = some loop)
    (hdue : loop.due ≤ pool.now) :
    (pool.tick loop.id lost).stock = (pool.attend lost).2.stock := by
  rw [tick, hloop]
  dsimp only
  rw [if_pos hdue]
  cases hattend : pool.attend lost with
  | mk goes next => cases goes <;> rfl

/-- Trying to borrow a connection sweeps the idle connections, unless the pool is closed or
callers are in line. -/
theorem try_acquire_swept (hranked : pool.stock.Ranked) (hopen : pool.isClosed = false)
    (hnobody : pool.queue.members = []) : pool.tryAcquire.2.stock.Swept pool.now := by
  have hswept := hranked.lend_idle_swept
  unfold tryAcquire
  rw [if_neg (by simp [hopen]), if_pos (by simp [hnobody])]
  cases hlend : pool.stock.lendIdle with
  | mk result final =>
      rw [hlend] at hswept
      cases result <;> exact hswept

/-- Idle connections say since when, are of no generation to come and stand in order, by that
instant and by their generations; no other connection carries such a mark. Hence every search
leaves no idle connection that is of an old generation or has been idle for too long at that
instant: the search for the head of the line by itself, the tick in which it is made, and the
attempt to borrow one without waiting. -/
theorem Reachable.idle_sorted_and_swept (h : pool.Reachable) :
    (∀ connection ∈ pool.stock.available, (∃ since, connection.idleSince = some since) ∧
        connection.generation ≤ pool.stock.generation) ∧
      pool.stock.available.Pairwise Connection.Precedes ∧
      (∀ connection ∈ pool.holders ++ pool.establishing, connection.idleSince = none) ∧
      pool.stock.obtain.2.Swept pool.now ∧
      (∀ loop : RunLoop, pool.runLoops.find? (fun other => other.id == loop.id) = some loop →
        loop.due ≤ pool.now → pool.queue.asks = true →
        ∀ lost, (pool.after (.tick loop.id lost)).stock.Swept pool.now) ∧
      (pool.held = true → pool.isClosed = false → pool.queue.members = [] →
        (pool.after .tryAcquire).stock.Swept pool.now) := by
  have hranked := h.ranked
  refine ⟨?_, hranked.order, ?_, hranked.obtain_swept, ?_, ?_⟩
  · intro connection hidle
    obtain ⟨since, hsince, -⟩ := hranked.since connection hidle
    exact ⟨⟨since, hsince⟩, hranked.generation connection hidle⟩
  · intro connection hmem
    obtain ⟨place, hplace, hhere⟩ := mem_outside hmem
    exact h.unmarked _ hhere hplace
  · intro loop hloop hdue hasks lost
    refine after_swept ?_
    show (pool.tick loop.id lost).stock.Swept pool.now
    rw [tick_stock hloop hdue]
    exact attend_swept hranked hasks
  · intro hheld hopen hnobody
    refine after_swept ?_
    have hstep : (pool.step .tryAcquire).2 = pool.tryAcquire.2 := by
      simp [Pool.step, hheld]
    rw [hstep]
    exact try_acquire_swept hranked hopen hnobody

/-- The small pool gets a connection, is cleared, and gets two more a little later. -/
def getMixed : List Action :=
  openEmpty ++ addOne ++ [.clear, .elapse 5] ++ addOne ++ addOne

/-- Of three idle connections in order, trying to borrow one closes the first, which is of an
old generation, and lends the second; the third may still be used. -/
theorem mixed_swept :
    ((small.run getMixed).stock.available.map fun connection =>
        (connection.id, connection.idleSince, connection.generation)) =
        [(2, some 0, 0), (3, some 5, 1), (4, some 5, 1)] ∧
      (((small.run getMixed).after .tryAcquire).stock.available.map Connection.id) = [4] ∧
      ((small.run getMixed).after .tryAcquire).stock.Swept 5 := by
  have hreachable : (small.run getMixed).Reachable := (Reachable.opened small_opened).run getMixed
  obtain ⟨-, -, -, -, -, hswept⟩ := hreachable.idle_sorted_and_swept
  have hnow : (small.run getMixed).now = 5 := by decide +kernel
  exact ⟨by decide +kernel, by decide +kernel,
    hnow ▸ hswept (by decide +kernel) (by decide +kernel) (by decide +kernel)⟩

end Pool

end ConnectionPool
