import ConnectionPool.Proofs.System

/-!
# Pools that share nothing

The pools of a system have the clock in common and nothing else. What happens at one pool leaves
the others as they are, and following it up changes another pool only where an observer gave up
one of its calls: `after_other` and `follow_gives_up`. A connection that is released to a pool
that did not issue it is refused there and goes home as if it were dropped, while a pool never
refuses what it lent itself. That needs the books: `Reachable.takes_back`.
-/

namespace ConnectionPool

namespace Pool

variable {pool : Pool} {connection : Nat} {loan : Connection}

/-- A pool that can be reached takes back every connection that it lent. -/
theorem Reachable.takes_back (h : pool.Reachable) (hheld : pool.held = true)
    (hloan : pool.loan? connection = some loan) (force : Bool) :
    (pool.perform (.release connection force)).1 = .returned (.ok ()) := by
  have hknown : loan.id ∈ pool.stock.checkedOut :=
    h.sound.2.loans_booked.known loan (List.mem_of_find?_eq_some hloan)
  have hok : (pool.stock.release loan force).1 = .ok () := by
    rw [Inventory.release, if_pos hknown]
    dsimp only
    split <;> rfl
  show (pool.step (.release connection force)).1 = .returned (.ok ())
  simp only [Pool.step, hheld, releaseLoan, hloan, hok, if_true]

/-- Dropping a connection on loan is releasing it without force. -/
theorem after_drop (hheld : pool.held = true) (connection : Nat) :
    pool.after (.drop connection) = pool.after (.release connection false) := by
  have hsame : (pool.step (.drop connection)).2 = (pool.step (.release connection false)).2 := by
    rw [step_release, if_pos hheld]
    rfl
  exact congrArg (fun next : Pool => (next.fire pool.log.length).collect) hsame

end Pool

namespace System

variable {system : System} {index home other connection : Nat} {pool lender next : Pool}
  {loan : Connection}

/-- Nothing follows from what did not happen. -/
theorem sequels_self (index : Nat) (pool : Pool) :
    sequels index pool pool = [.events index []] := by
  rw [sequels, List.drop_length, sequelsFrom, List.drop_length]

/-! ## Actions -/

/-- An action at one pool leaves the others as they are. -/
theorem after_other (system : System) (hother : other ≠ index) (action : Action) :
    (system.after index action).pools[other]? = system.pools[other]? := by
  unfold after perform
  split
  · rfl
  · exact List.getElem?_set_ne hother.symm

/-! ## What follows from actions -/

/-- Following up gives up calls and writes to the system's log, and does nothing else to the
pools. -/
theorem follow_within_gives_up (fuel : Nat) (sequels : List Sequel) (system : System)
    (other : Nat) :
    ∃ calls : List Nat, (followWithin fuel sequels system).pools[other]? =
      (system.pools[other]?).map fun pool => pool.run (calls.map .cancel) := by
  -- A call that is given up may bring more sequels, hence the induction is on the fuel.
  induction fuel generalizing sequels system with
  | zero => exact ⟨[], by simp [followWithin, Pool.run]⟩
  | succ fuel ih =>
      match sequels with
      | [] => exact ⟨[], by simp [followWithin, Pool.run]⟩
      | .events index events :: rest => exact ih rest _
      | .giveUp call :: rest =>
          unfold followWithin
          split
          · exact ih rest system
          · next pool index hfind =>
              obtain ⟨calls, hcalls⟩ := ih
                (System.sequels index pool (pool.after (.cancel call)) ++ rest)
                { system with pools := system.pools.set index (pool.after (.cancel call)) }
              have hpool : system.pools[index]? = some pool :=
                List.mk_mem_zipIdx_iff_getElem?.1 (List.mem_of_find?_eq_some hfind)
              by_cases hother : other = index
              · refine ⟨call :: calls, ?_⟩
                obtain ⟨hbound, -⟩ := List.getElem?_eq_some_iff.1 hpool
                rw [hcalls, hother, List.getElem?_set_self hbound, hpool]
                rfl
              · refine ⟨calls, ?_⟩
                rw [hcalls, List.getElem?_set_ne (Ne.symm hother)]

/-- Following up what happened changes a pool only where one of its calls is given up. -/
theorem follow_gives_up (system before : System) (other : Nat) :
    ∃ calls : List Nat, (system.follow before).pools[other]? =
      (system.pools[other]?).map fun pool => pool.run (calls.map .cancel) :=
  follow_within_gives_up _ _ system other

/-- Sequels that are only events go to the system's log one after the other. -/
theorem follow_within_events (news : List (Nat × List Event)) {fuel : Nat}
    (hfuel : news.length ≤ fuel) (system : System) :
    followWithin fuel (news.map fun entry => .events entry.1 entry.2) system =
      { system with
        log := system.log ++ news.flatMap fun entry => entry.2.map fun event =>
          (entry.1, event) } := by
  induction news generalizing fuel system with
  | nil => cases fuel <;> simp [followWithin]
  | cons entry rest ih =>
      obtain ⟨fuel, rfl⟩ : ∃ less, fuel = less + 1 :=
        Nat.exists_eq_succ_of_ne_zero (Nat.ne_of_gt (Nat.lt_of_lt_of_le (Nat.succ_pos _) hfuel))
      rw [List.map_cons, followWithin, ih (Nat.le_of_succ_le_succ hfuel), List.flatMap_cons,
        List.append_assoc]

/-- What there is of news where nothing happened is nothing. -/
theorem sequels_none (start : Nat) (pools : List Pool) :
    ∃ news : List (Nat × List Event),
      (((pools.zip pools).zipIdx start).flatMap fun ((before, after), index) =>
          sequels index before after) = news.map (fun entry => .events entry.1 entry.2) ∧
        (news.flatMap fun entry => entry.2.map fun event => (entry.1, event)) = [] := by
  induction pools generalizing start with
  | nil => exact ⟨[], rfl, rfl⟩
  | cons pool rest ih =>
      obtain ⟨news, hnews, hnone⟩ := ih (start + 1)
      refine ⟨(start, []) :: news, ?_, hnone⟩
      rw [List.zip_cons_cons, List.zipIdx_cons, List.flatMap_cons, hnews]
      show sequels start pool pool ++ _ = _
      rw [sequels_self]
      rfl

/-- Where one pool changed and its observers gave up no call of another, the news is what is new
in its log. -/
theorem sequels_one (start : Nat) {pools : List Pool} (hpool : pools[index]? = some pool)
    (hquiet : next.departures = pool.departures) :
    ∃ news : List (Nat × List Event),
      (((pools.zip (pools.set index next)).zipIdx start).flatMap fun ((before, after), place) =>
          sequels place before after) = news.map (fun entry => .events entry.1 entry.2) ∧
        (news.flatMap fun entry => entry.2.map fun event => (entry.1, event)) =
          (next.log.drop pool.log.length).map fun event => (start + index, event) := by
  induction pools generalizing start index with
  | nil => cases hpool
  | cons first rest ih =>
      cases index with
      | zero =>
          obtain rfl : first = pool := by simpa using hpool
          obtain ⟨news, hnews, hnone⟩ := sequels_none (start + 1) rest
          refine ⟨(start, next.log.drop first.log.length) :: news, ?_, ?_⟩
          · rw [List.set_cons_zero, List.zip_cons_cons, List.zipIdx_cons,
              List.flatMap_cons, hnews]
            show sequels start first next ++ _ = _
            rw [sequels, hquiet, List.drop_length, sequelsFrom]
            rfl
          · rw [List.flatMap_cons, hnone, List.append_nil]
            rfl
      | succ index =>
          have hrest : rest[index]? = some pool := by simpa using hpool
          obtain ⟨news, hnews, hlog⟩ := ih (start + 1) hrest
          refine ⟨(start, []) :: news, ?_, ?_⟩
          · rw [List.set_cons_succ, List.zip_cons_cons, List.zipIdx_cons,
              List.flatMap_cons, hnews]
            show sequels start first first ++ _ = _
            rw [sequels_self]
            rfl
          · rw [List.flatMap_cons, hlog, Nat.add_assoc, Nat.add_comm 1 index]
            rfl

/-- Following up an action whose observers gave up no call of another pool puts the events of
its pool on the system's log, and nothing else happens. -/
theorem follow_quiet (hpool : system.pools[index]? = some pool) {action : Action}
    (hquiet : (pool.after action).departures = pool.departures) :
    (system.after index action).follow system =
      { system.after index action with
        log := system.log ++
          ((pool.after action).log.drop pool.log.length).map fun event => (index, event) } := by
  obtain ⟨news, hnews, hlog⟩ := sequels_one 0 hpool hquiet
  rw [after_pools hpool, follow]
  dsimp only
  rw [hnews, follow_within_events news (by rw [List.length_map]; omega), hlog, Nat.zero_add]

/-! ## Releases -/

/-- A pool takes back what it lent. -/
theorem Reachable.release_own (h : system.Reachable) (hpool : system.pools[index]? = some pool)
    (hheld : pool.held = true) (hloan : pool.loan? connection = some loan) (force : Bool) :
    (system.release index index connection force).1 = .returned (.ok ()) := by
  have hback := (h.pools pool (List.mem_of_getElem? hpool)).takes_back hheld hloan force
  rw [System.release, if_pos rfl, perform, hpool]
  exact hback

/-- What a foreign release comes to. The pool it was released to refuses the connection, with
its own id and address and the identity of the connection, and stays exactly as it is; the
system is as after the connection was dropped at home, which is a release without force there,
whatever was asked for. -/
structure Refused (system : System) (index home connection : Nat) (force : Bool)
    (pool lender : Pool)
    (loan : Connection) : Prop where
  reply : (system.release index home connection force).1 =
    .returned (.error (.foreignConnection pool.config.id pool.config.address loan.info))
  untouched : (system.release index home connection force).2.pools[index]? = some pool
  dropped : (system.release index home connection force).2 = system.after home (.drop connection)
  home : (system.release index home connection force).2.pools[home]? =
    some (lender.after (.drop connection))
  unforced : lender.held = true →
    lender.after (.drop connection) = lender.after (.release connection false)

/-- What an action at one pool means for the others: nothing. When it is followed up, its events
go to the system's log, and an observer may give up calls of other pools; apart from that
nothing happens to them either. -/
structure Isolated (system : System) (index : Nat) (pool : Pool) (action : Action) : Prop where
  others : ∀ other, other ≠ index →
    (system.after index action).pools[other]? = system.pools[other]?
  quiet : (pool.after action).departures = pool.departures →
    (system.after index action).follow system =
      { system.after index action with
        log := system.log ++
          ((pool.after action).log.drop pool.log.length).map fun event => (index, event) }
  givenUp : ∀ other, other ≠ index → ∃ calls : List Nat,
    ((system.after index action).follow system).pools[other]? =
      (system.pools[other]?).map fun pool => pool.run (calls.map .cancel)

/-- Pools share nothing. In every system that can be reached, whatever ids its pools and their
connections have, a connection that is released to a pool is taken back just when that pool
issued it. One of another pool is refused and goes home. And no action at a pool happens to
another one. -/
theorem Reachable.pools_isolated (h : system.Reachable) (hpool : system.pools[index]? = some pool)
    (hheld : pool.held = true) (hlender : system.pools[home]? = some lender)
    (hloan : lender.loan? connection = some loan) (force : Bool) :
    ((system.release index home connection force).1 = .returned (.ok ()) ↔ index = home) ∧
      (index ≠ home → system.Refused index home connection force pool lender loan) ∧
      ∀ action, system.Isolated index pool action := by
  refine ⟨?_, ?_, ?_⟩
  · constructor
    · intro hok
      by_contra hforeign
      rw [release_foreign hpool hheld hlender hloan hforeign force] at hok
      cases hok
    · rintro rfl
      obtain rfl : pool = lender := Option.some.inj (hpool.symm.trans hlender)
      exact h.release_own hpool hheld hloan force
  · intro hforeign
    have hrelease := release_foreign hpool hheld hlender hloan hforeign force
    have hdropped : (system.release index home connection force).2 =
        system.after home (.drop connection) := by rw [hrelease]
    refine ⟨by rw [hrelease], ?_, hdropped, ?_, fun hlends => Pool.after_drop hlends connection⟩
    · rw [hdropped, after_other system hforeign, hpool]
    · rw [hdropped]
      exact after_pool hlender _
  · intro action
    refine ⟨fun other hother => after_other system hother action, follow_quiet hpool, ?_⟩
    intro other hother
    obtain ⟨calls, hcalls⟩ := follow_gives_up (system.after index action) system other
    exact ⟨calls, by rw [hcalls, after_other system hother action]⟩

/-- The second of them refuses the connection of the first, although it has lent one of the same
id, and takes back its own. Closing it is nothing to the first. -/
theorem two_lent_isolated :
    (twoLent.release 1 0 2 true).1 =
        .returned (.error (.foreignConnection 0 .localhost ⟨2, 0, 0, .localhost⟩)) ∧
      (twoLent.release 1 1 2 true).1 = .returned (.ok ()) ∧
      (twoLent.after 1 .close).pools[0]? = twoLent.pools[0]? := by
  have hpool : twoLent.pools[1]? = some (Pool.small.run getLent) := by rw [two_lent_pools]; rfl
  have hlender : twoLent.pools[0]? = some (Pool.small.run getLent) := by rw [two_lent_pools]; rfl
  have hheld : (Pool.small.run getLent).held = true := by decide +kernel
  obtain ⟨loan, hloan⟩ : ∃ loan, (Pool.small.run getLent).loan? 2 = some loan :=
    Option.isSome_iff_exists.1 (by decide +kernel)
  have hinfo : ((Pool.small.run getLent).loan? 2).map Connection.info =
      some ⟨2, 0, 0, .localhost⟩ := by decide +kernel
  obtain ⟨-, hrefused, hisolated⟩ :=
    two_lent_reachable.pools_isolated hpool hheld hlender hloan true
  obtain ⟨hown, -, -⟩ := two_lent_reachable.pools_isolated hpool hheld hpool hloan true
  refine ⟨?_, hown.2 rfl, (hisolated .close).others 0 (by decide)⟩
  rw [(hrefused (by decide)).reply]
  rw [hloan] at hinfo
  rw [Option.some.inj hinfo]
  rfl

end System

end ConnectionPool
