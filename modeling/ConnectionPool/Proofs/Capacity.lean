import ConnectionPool.Proofs.Reachable

/-!
# The greatest size of a pool

A bounded pool never has more connections than its greatest size, those that are being
established to fill it counted in, and no event ever reports more. `Within slack` says so of an
inventory that has room for so many connections more. Each operation says what it does to the
slack; a connection that goes from one count to another takes up its own room again.
-/

namespace ConnectionPool

namespace Inventory

/-- The inventory has room for so many connections more, and no event reported more than there
is room for. -/
structure Within (stock : Inventory) (slack : Nat) : Prop where
  room : stock.config.maxPoolSize = 0 ∨
    stock.total + stock.pending + slack ≤ stock.config.maxPoolSize.toNat
  told : ∀ event ∈ stock.log, event.pool.available ≤ event.pool.total ∧
    (stock.config.maxPoolSize = 0 ∨ event.pool.total ≤ stock.config.maxPoolSize.toNat)

variable {stock : Inventory} {slack : Nat} {connection : Connection}

namespace Within

/-- Only the counts, the settings and the log matter. -/
theorem congr {next : Inventory} {slack' : Nat} (h : stock.Within slack)
    (hconfig : next.config = stock.config) (hlog : next.log = stock.log)
    (hcount : next.total + next.pending + slack' ≤ stock.total + stock.pending + slack) :
    next.Within slack' where
  room := by
    rw [hconfig]
    exact h.room.imp_right hcount.trans
  told := by
    rw [hconfig, hlog]
    exact h.told

/-- One event more reports what there is, also after a change that is no matter of the counts. -/
theorem extend {next : Inventory} {event : Event} (h : stock.Within slack)
    (hlog : next.log = stock.log ++ [event]) (hconfig : next.config = stock.config)
    (hcount : next.total + next.pending = stock.total + stock.pending)
    (hpool : event.pool = next.snapshot) : next.Within slack where
  room := by
    rw [hconfig, hcount]
    exact h.room
  told := by
    rw [hconfig, hlog]
    intro told htold
    rcases List.mem_append.1 htold with htold | htold
    · exact h.told told htold
    · obtain rfl := List.mem_singleton.1 htold
      rw [hpool]
      refine ⟨Nat.le_add_right _ _, h.room.imp_right ?_⟩
      intro hroom
      have htotal : next.total ≤ stock.total + stock.pending + slack := by omega
      exact htotal.trans hroom

/-- An event reports what there is. -/
theorem emit (h : stock.Within slack) (kind : EventKind) : (stock.emit kind).Within slack :=
  h.extend rfl rfl rfl rfl

/-- Discarding takes up no room. -/
theorem discard (h : stock.Within slack) (connection : Connection) (reason : CloseReason) :
    (stock.discard connection reason).Within slack := by
  rw [discard_eq]
  exact h.extend rfl rfl rfl rfl

/-- Taking the first idle connection makes room. -/
theorem take {rest : List Connection} (h : stock.Within slack)
    (hfirst : stock.available = connection :: rest) :
    { stock with available := rest }.Within (slack + 1) := by
  refine h.congr rfl rfl ?_
  simp only [total, hfirst, List.length_cons]
  omega

/-- A connection that becomes idle takes up room. -/
theorem putBack (h : stock.Within (slack + 1)) (connection : Connection) :
    (stock.putBack connection).Within slack := by
  refine h.congr rfl rfl ?_
  simp only [total, Inventory.putBack, List.length_append, List.length_singleton]
  omega

/-- A connection that is lent takes up room. -/
theorem checkOut (h : stock.Within (slack + 1)) (connection : Connection) :
    (stock.checkOut connection).2.Within slack := by
  refine h.congr rfl rfl ?_
  simp only [total, Inventory.checkOut, List.length_cons]
  omega

/-- A connection that is lent no more makes room. -/
theorem giveBack (h : stock.Within slack) (hknown : connection.id ∈ stock.checkedOut) :
    (stock.giveBack connection).Within (slack + 1) := by
  refine h.congr rfl rfl ?_
  have hlength := List.length_erase_of_mem hknown
  have hpositive := List.length_pos_of_mem hknown
  simp only [total, Inventory.giveBack, hlength]
  omega

/-- Room that is not needed may be left. -/
theorem less (h : stock.Within (slack + 1)) : stock.Within slack :=
  h.congr rfl rfl (by omega)

/-- A new connection takes up no room before it has a place. -/
theorem create (h : stock.Within slack) : stock.create.2.Within slack :=
  h.extend rfl rfl rfl rfl

/-- A pool that has capacity has room for one more. -/
theorem of_capacity (h : stock.Within 0) (hroom : stock.hasCapacity = true) : stock.Within 1 where
  room := by
    rw [hasCapacity, Bool.or_eq_true, beq_iff_eq, decide_eq_true_iff] at hroom
    exact hroom
  told := h.told

/-- A connection that is to be established takes up room. -/
theorem reserve (h : stock.Within (slack + 1)) :
    { stock with pending := stock.pending + 1 }.Within slack := by
  refine h.congr rfl rfl ?_
  simp only [total]
  omega

/-- A connection that is established makes the room it was given for that. -/
theorem settle (h : stock.Within slack) (hpending : 0 < stock.pending) :
    { stock with pending := stock.pending - 1 }.Within (slack + 1) := by
  refine h.congr rfl rfl ?_
  simp only [total]
  omega

/-- A connection that is reclaimed needs no more room than it had. -/
theorem reclaim (h : stock.Within slack) (hknown : connection.id ∈ stock.checkedOut) :
    (stock.reclaim connection).Within slack := by
  have hback := h.giveBack hknown
  cases hreason : stock.returnReason? connection with
  | none =>
      rw [reclaim_wanted hreason]
      exact hback.putBack connection
  | some reason =>
      rw [reclaim_unwanted hreason]
      exact (hback.discard connection reason).less

/-- A connection that is released needs no more room than it had. -/
theorem release (h : stock.Within slack) (hknown : connection.id ∈ stock.checkedOut)
    (force : Bool) : (stock.release connection force).2.Within slack := by
  have hback := h.giveBack hknown
  rcases release_known hknown force with ⟨-, hstock⟩ | ⟨reason, hstock⟩
  · rw [hstock]
    exact (hback.putBack connection).emit _
  · rw [hstock]
    exact ((hback.emit _).discard connection reason).less

end Within

end Inventory

variable {h h' : Holdings}

/-- Every move leaves the pool within its greatest size. -/
theorem Move.within (move : Move h h') (hcustody : h.Custody) (hwithin : h.stock.Within 0) :
    h'.stock.Within 0 := by
  cases move with
  | started | failed | cleared | readied => exact hwithin.extend rfl rfl rfl rfl
  | elapsed | scripted | dialled | handled | filled =>
      exact hwithin.congr rfl rfl (Nat.le_refl _)
  -- Each operation on the way says how much room there is after it, and at the end none is owed.
  | retired first | evicted first => exact ((hwithin.take first).discard _ _).less
  | reused first => exact (hwithin.take first).checkOut _
  | produced noneIdle isOpen room => exact ((hwithin.of_capacity room).create).checkOut _
  | reclaimed held => exact hwithin.reclaim (hcustody.carried_known held)
  | forfeited held =>
      exact ((hwithin.giveBack (hcustody.carried_known held)).discard _ _).less
  | refused held =>
      exact ((hwithin.giveBack (hcustody.dialled_known held)).discard _ _).less
  | released held known force => exact hwithin.release known force
  | reserved wanted =>
      have hroom : h.stock.hasCapacity = true := by
        simp only [Pool.isFilled, Bool.or_eq_false_iff, Bool.not_eq_false'] at wanted
        exact wanted.2
      exact ((hwithin.of_capacity hroom).reserve).create
  | stocked held =>
      exact ((hwithin.settle (hcustody.filling_counted held)).emit _).putBack _
  | unwanted held =>
      exact (((hwithin.settle (hcustody.filling_counted held)).emit _).discard _ _).less
  | abandoned held =>
      exact ((hwithin.settle (hcustody.filling_counted held)).discard _ _).less

/-- Every step leaves the pool within its greatest size. -/
theorem Step.within {given : Nat} (step : Step h given h') (hcustody : h.Custody)
    (hwithin : h.stock.Within 0) : h'.stock.Within 0 := by
  refine step.preserves_in_custody (P := fun h => h.stock.Within 0) ?_ ?_ ?_ ?_ ?_
    hcustody hwithin
  · exact fun hcustody move hwithin => move.within hcustody hwithin
  · intro connection h h' _ announced hwithin
    cases announced with
    | mk => exact hwithin.extend rfl rfl rfl rfl
  · exact fun hwithin => hwithin.congr rfl rfl (Nat.le_refl _)
  · intro h hwithin
    exact hwithin.congr rfl rfl (by simp [Holdings.scrap, Inventory.total, Inventory.scrapIdle])
  · exact fun _ hwithin => hwithin.emit _

/-- A reachable pool is within its greatest size. -/
theorem Pool.Reachable.within {pool : Pool} (h : pool.Reachable) : pool.stock.Within 0 := by
  refine h.invariant (P := fun h => h.stock.Within 0) ?_ fun hcustody step => step.within hcustody
  intro config source network now
  have hempty : ({ config := config, source := source, network := network, now := now } :
      Inventory).Within 0 := ⟨.inr (Nat.zero_le _), by simp⟩
  exact hempty.emit _

/-- A bounded pool never has more connections than its greatest size, nor does any event report
more. -/
theorem Pool.Reachable.size_bounded {pool : Pool} (h : pool.Reachable)
    (hbounded : 0 < pool.config.maxPoolSize) :
    pool.stock.available.length + pool.stock.checkedOut.length + pool.stock.pending ≤
        pool.config.maxPoolSize.toNat ∧
      ∀ event ∈ pool.log, event.pool.available ≤ event.pool.total ∧
        event.pool.total ≤ pool.config.maxPoolSize.toNat := by
  have hwithin := h.within
  have hne : pool.stock.config.maxPoolSize ≠ 0 := by
    intro hzero
    rw [Pool.config, hzero] at hbounded
    exact absurd hbounded (by decide)
  refine ⟨hwithin.room.resolve_left hne, ?_⟩
  intro event hevent
  obtain ⟨htotal, hsize⟩ := hwithin.told event hevent
  exact ⟨htotal, hsize.resolve_left hne⟩

/-- No event of the busy small pool reports more than its five connections. -/
theorem Pool.busy_bounded :
    0 < (small.run getBusy).config.maxPoolSize ∧
      ∀ event ∈ (small.run getBusy).log, event.pool.available ≤ event.pool.total ∧
        event.pool.total ≤ 5 := by
  have hbounded : 0 < (small.run getBusy).config.maxPoolSize := by decide +kernel
  have hsize : (small.run getBusy).config.maxPoolSize.toNat = 5 := by decide +kernel
  have hevents := (((Reachable.opened small_opened).run getBusy).size_bounded hbounded).2
  rw [hsize] at hevents
  exact ⟨hbounded, hevents⟩

end ConnectionPool
