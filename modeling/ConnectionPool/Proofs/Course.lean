import ConnectionPool.Proofs.Pool.Loan

/-!
# The course of one connection

Every connection that a pool knows of is at one place: idle, with a call, on loan or with a
population. `Life` says how a connection goes from one place to another and what is told of it,
and `Death` how it goes for good. A move of the holdings is a `Passage`: one connection is born,
lives on or dies, or no connection goes anywhere. Read `Move.passage` first.
-/

namespace ConnectionPool

/-- Where a connection is. A call `carries` a connection before its connect and after it was
reported ready; in between the connection is `dialled`. -/
inductive Place where
  | idle
  | carried
  | dialled
  | lent
  | filling
  deriving DecidableEq, Repr

/-- Connections with the places at which they are. -/
def placed (idle : List Connection) (carried dialled lent filling : Multiset Connection) :
    Multiset (Place × Connection) :=
  (idle : Multiset Connection).map (Prod.mk .idle) + carried.map (Prod.mk .carried) +
    dialled.map (Prod.mk .dialled) + lent.map (Prod.mk .lent) + filling.map (Prod.mk .filling)

section Placed

variable (idle : List Connection) (carried dialled lent filling : Multiset Connection)
  (connection : Connection)

@[simp]
theorem placed_front :
    placed (connection :: idle) carried dialled lent filling =
      (.idle, connection) ::ₘ placed idle carried dialled lent filling := by
  simp only [placed, ← Multiset.cons_coe, Multiset.map_cons, Multiset.cons_add]

@[simp]
theorem placed_back :
    placed (idle ++ [connection]) carried dialled lent filling =
      (.idle, connection) ::ₘ placed idle carried dialled lent filling := by
  have hback : ((idle ++ [connection] : List Connection) : Multiset Connection) =
      ((connection :: idle : List Connection) : Multiset Connection) :=
    Multiset.coe_eq_coe.2 (List.perm_append_singleton connection idle)
  rw [← placed_front, placed, hback, placed]

@[simp]
theorem placed_carried :
    placed idle (connection ::ₘ carried) dialled lent filling =
      (.carried, connection) ::ₘ placed idle carried dialled lent filling := by
  simp only [placed, Multiset.map_cons, Multiset.cons_add, Multiset.add_cons]

@[simp]
theorem placed_dialled :
    placed idle carried (connection ::ₘ dialled) lent filling =
      (.dialled, connection) ::ₘ placed idle carried dialled lent filling := by
  simp only [placed, Multiset.map_cons, Multiset.cons_add, Multiset.add_cons]

@[simp]
theorem placed_lent :
    placed idle carried dialled (connection ::ₘ lent) filling =
      (.lent, connection) ::ₘ placed idle carried dialled lent filling := by
  simp only [placed, Multiset.map_cons, Multiset.cons_add, Multiset.add_cons]

@[simp]
theorem placed_filling :
    placed idle carried dialled lent (connection ::ₘ filling) =
      (.filling, connection) ::ₘ placed idle carried dialled lent filling := by
  simp only [placed, Multiset.map_cons, Multiset.add_cons]

/-- The idle connections are apart from those at other places. -/
theorem placed_idle :
    placed idle carried dialled lent filling =
      (idle : Multiset Connection).map (Prod.mk .idle) + placed
      [] carried dialled lent filling := by
  simp [placed, Multiset.add_assoc]

end Placed

/-- The connections of a pool, each at its place. -/
def Holdings.places (h : Holdings) : Multiset (Place × Connection) :=
  placed h.stock.available h.carried h.dialled h.borrowed h.filling

/-- The connections at a place. -/
def Holdings.held (h : Holdings) : Place → Multiset Connection
  | .idle => h.stock.available
  | .carried => h.carried
  | .dialled => h.dialled
  | .lent => h.borrowed
  | .filling => h.filling

/-- The connections of the pool are those at each place. -/
theorem Holdings.mem_places {h : Holdings} {place : Place} {connection : Connection} :
    (place, connection) ∈ h.places ↔ connection ∈ h.held place := by
  cases place <;> simp [places, placed, held]

/-- What is told of the holdings, oldest first. -/
def Holdings.kinds (h : Holdings) : List EventKind :=
  h.stock.log.map Event.kind

/-- What happens to a connection as long as the pool knows of it, and what is told of it. -/
inductive Life (stock : Inventory) (connection : Connection) :
    Place → List EventKind → Place → Connection → Prop where
  | reused (isOpen : stock.closed = false) (usable : stock.evictionReason? connection = none) :
      Life stock connection .idle [] .carried connection.markInUse
  | reclaimed (wanted : stock.returnReason? connection = none) :
      Life stock connection .carried [] .idle (connection.makeAvailable stock.now)
  | dialled (needed : connection.establishNow? = none) :
      Life stock connection .carried [] .dialled
        (connection.connect stock.network stock.now).2.1
  | readied (connected : connection.established = true) :
      Life stock connection .dialled [.ready connection.info] .carried connection
  | announced (wanted : stock.returnReason? connection = none)
      (connected : connection.established = true) :
      Life stock connection .carried [.acquired connection.info] .lent connection
  | handled {changed : Connection} {network : Network}
      (change : connection.Handled stock.network stock.now changed network) :
      Life stock connection .lent [] .lent changed
  | returned (wanted : stock.returnReason? connection = none) :
      Life stock connection .lent [.released connection.info] .idle
        (connection.makeAvailable stock.now)
  | filled (needed : connection.establishNow? = none) :
      Life stock connection .filling [] .filling (connection.connect stock.network stock.now).2.1
  | stocked (connected : connection.established = true)
      (wanted : stock.returnReason? connection = none) :
      Life stock connection .filling [.ready connection.info] .idle
        (connection.makeAvailable stock.now)

/-- How a connection goes for good, and what is told of it. -/
inductive Death (connection : Connection) : Place → List EventKind → Prop where
  | closed {place : Place} (back : place ≠ .lent) (reason : CloseReason) :
      Death connection place [.closed connection.info reason]
  | returned (reason : CloseReason) :
      Death connection .lent [.released connection.info, .closed connection.info reason]
  | unwanted (connected : connection.established = true) (reason : CloseReason) :
      Death connection .filling [.ready connection.info, .closed connection.info reason]

/-- What a move does to the connections of a pool, and what is told of it. -/
inductive Passage (h : Holdings) : List EventKind → Holdings → Prop where
  | still {h' : Holdings} {kinds : List EventKind} (same : h'.places = h.places)
      (count : h'.stock.nextConnection = h.stock.nextConnection)
      (silent : ∀ kind ∈ kinds, kind.connection? = none) : Passage h kinds h'
  | born {h' : Holdings} {place : Place} (new : place = .carried ∨ place = .filling)
      (after : h'.places = (place, h.stock.newborn) ::ₘ h.places)
      (count : h'.stock.nextConnection = h.stock.nextConnection + 1) :
      Passage h [.created h.stock.newborn.info] h'
  | lives {h' : Holdings} {place place' : Place} {connection connection' : Connection}
      {kinds : List EventKind} (rest : Multiset (Place × Connection))
      (before : h.places = (place, connection) ::ₘ rest)
      (after : h'.places = (place', connection') ::ₘ rest)
      (count : h'.stock.nextConnection = h.stock.nextConnection)
      (life : Life h.stock connection place kinds place' connection') : Passage h kinds h'
  | dies {h' : Holdings} {connection : Connection} {kinds : List EventKind} (place : Place)
      (before : h.places = (place, connection) ::ₘ h'.places)
      (count : h'.stock.nextConnection = h.stock.nextConnection)
      (death : Death connection place kinds) : Passage h kinds h'

variable {h h' : Holdings} {connection connection' : Connection} {place place' : Place}
  {kinds : List EventKind}

/-- A connection keeps its identity throughout its life. -/
theorem Life.info {stock : Inventory} (h : Life stock connection place kinds place' connection') :
    connection'.info = connection.info := by
  cases h with
  | reused | reclaimed | readied | announced | returned | stocked => rfl
  | dialled | filled => exact Connection.connect_info _ _ _
  | handled change => exact change.info

/-- What is told in the life of a connection is told of it. -/
theorem Life.told {stock : Inventory} (h : Life stock connection place kinds place' connection') :
    ∀ kind ∈ kinds, kind.connection? = some connection.info := by
  cases h <;> simp [EventKind.connection?]

/-- What is told of the end of a connection is told of it. -/
theorem Death.told (h : Death connection place kinds) :
    ∀ kind ∈ kinds, kind.connection? = some connection.info := by
  cases h <;> simp [EventKind.connection?]

/-- One event more is told. -/
theorem Inventory.emit_kinds (stock : Inventory) (kind : EventKind) :
    (stock.emit kind).log.map Event.kind = stock.log.map Event.kind ++ [kind] := by
  simp [emit]

/-- The end of a connection is told. -/
theorem Inventory.discard_kinds (stock : Inventory) (connection : Connection)
    (reason : CloseReason) :
    (stock.discard connection reason).log.map Event.kind =
      stock.log.map Event.kind ++ [.closed connection.info reason] := by
  simp [discard_eq]

/-- Discarding makes no connection. -/
theorem Inventory.discard_count (stock : Inventory) (connection : Connection)
    (reason : CloseReason) :
    (stock.discard connection reason).nextConnection = stock.nextConnection := by
  rw [discard_eq]

/-- A connection that is put back is told of and closed, in this order. -/
theorem Inventory.told_discard_kinds (stock : Inventory) (connection : Connection)
    (kind : EventKind) (reason : CloseReason) :
    ((stock.emit kind).discard connection reason).log.map Event.kind =
      stock.log.map Event.kind ++ [kind, .closed connection.info reason] := by
  rw [discard_kinds, emit_kinds, List.append_assoc]
  rfl

/-- A connection that is discarded and was not on loan dies. -/
theorem Passage.discarded (stock : Inventory) (place : Place) (reason : CloseReason)
    (hback : place ≠ .lent) (hstock : h'.stock = stock.discard connection reason)
    (hlog : stock.log = h.stock.log) (hcount : stock.nextConnection = h.stock.nextConnection)
    (hplaces : h.places = (place, connection) ::ₘ h'.places) :
    ∃ kinds, Passage h kinds h' ∧ h'.kinds = h.kinds ++ kinds := by
  have hkept : h'.stock.nextConnection = h.stock.nextConnection := by
    rw [hstock, Inventory.discard_count, hcount]
  refine ⟨_, .dies place hplaces hkept (.closed hback reason), ?_⟩
  rw [Holdings.kinds, hstock, Inventory.discard_kinds, hlog]
  rfl

/-- Every move is a passage. -/
theorem Move.passage (move : Move h h') :
    ∃ kinds, Passage h kinds h' ∧ h'.kinds = h.kinds ++ kinds := by
  cases move with
  | started | cleared =>
      exact ⟨_, .still rfl rfl (by simp [EventKind.connection?]), Inventory.emit_kinds _ _⟩
  | failed error =>
      exact ⟨_, .still rfl rfl (by simp [EventKind.connection?]), Inventory.emit_kinds _ _⟩
  | elapsed | scripted =>
      exact ⟨[], .still rfl rfl (by simp), (List.append_nil _).symm⟩
  | retired first closed =>
      refine Passage.discarded _ .idle .poolClosed (by simp) rfl rfl rfl ?_
      simp [Holdings.places, first, Inventory.discard_eq]
  | evicted first isOpen due =>
      refine Passage.discarded _ .idle _ (by simp) rfl rfl rfl ?_
      simp [Holdings.places, first, Inventory.discard_eq]
  | @reused c idle first isOpen usable =>
      refine ⟨[], .lives (placed idle h.carried h.dialled h.borrowed h.filling) ?_ ?_ rfl
        (.reused isOpen usable), (List.append_nil _).symm⟩
      · simp [Holdings.places, first]
      · simp [Holdings.places, Inventory.checkOut]
  | produced noneIdle isOpen room =>
      refine ⟨_, .born (.inl rfl) ?_ rfl, Inventory.emit_kinds _ _⟩
      exact placed_carried _ _ _ _ _ _
  | @reclaimed c rest held =>
      -- Whether it lives on or dies depends on whether the pool still wants it.
      cases hreason : h.stock.returnReason? c with
      | none =>
          rw [Inventory.reclaim_wanted hreason]
          refine ⟨[], .lives (placed h.stock.available rest h.dialled h.borrowed h.filling) ?_ ?_
            rfl
            (.reclaimed hreason), (List.append_nil _).symm⟩
          · simp [Holdings.places, held]
          · simp [Holdings.places, Inventory.putBack, Inventory.giveBack]
      | some reason =>
          rw [Inventory.reclaim_unwanted hreason]
          refine Passage.discarded _ .carried reason (by simp) rfl rfl rfl ?_
          simp [Holdings.places, held, Inventory.discard_eq, Inventory.giveBack]
  | @forfeited c rest held dead =>
      refine Passage.discarded _ .carried .unknown (by simp) rfl rfl rfl ?_
      simp [Holdings.places, held, Inventory.discard_eq, Inventory.giveBack]
  | @dialled c rest held needed =>
      refine ⟨[], .lives (placed h.stock.available rest h.dialled h.borrowed h.filling) ?_ ?_ rfl
        (.dialled needed), (List.append_nil _).symm⟩
      · simp [Holdings.places, held]
      · simp [Holdings.places]
  | @readied c rest held connected =>
      refine ⟨_, .lives (placed h.stock.available h.carried rest h.borrowed h.filling) ?_ ?_ rfl
        (.readied connected), Inventory.emit_kinds _ _⟩
      · simp [Holdings.places, held]
      · simp [Holdings.places, Inventory.emit]
  | @refused c rest held failed =>
      refine Passage.discarded _ .dialled .unknown (by simp) rfl rfl rfl ?_
      simp [Holdings.places, held, Inventory.discard_eq, Inventory.giveBack]
  | @handled c changed network rest held change =>
      refine ⟨[], .lives (placed h.stock.available h.carried h.dialled rest h.filling) ?_ ?_ rfl
        (.handled change), (List.append_nil _).symm⟩
      · simp [Holdings.places, held]
      · simp [Holdings.places]
  | @released c rest held known force =>
      rcases Inventory.release_known known force with ⟨hwanted, hstock⟩ | ⟨reason, hstock⟩
      · rw [hstock]
        refine ⟨_, .lives (placed h.stock.available h.carried h.dialled rest h.filling) ?_ ?_ rfl
          (.returned hwanted), Inventory.emit_kinds _ _⟩
        · simp [Holdings.places, held]
        · simp [Holdings.places, Inventory.emit, Inventory.putBack, Inventory.giveBack]
      · rw [hstock]
        refine ⟨_, .dies .lent ?_ (Inventory.discard_count _ _ _) (.returned reason),
          Inventory.told_discard_kinds _ _ _ _⟩
        simp [Holdings.places, held, Inventory.discard_eq, Inventory.emit, Inventory.giveBack]
  | reserved wanted =>
      refine ⟨_, .born (.inr rfl) ?_ rfl, Inventory.emit_kinds _ _⟩
      exact placed_filling _ _ _ _ _ _
  | @filled c rest held needed =>
      refine ⟨[], .lives (placed h.stock.available h.carried h.dialled h.borrowed rest) ?_ ?_ rfl
        (.filled needed), (List.append_nil _).symm⟩
      · simp [Holdings.places, held]
      · simp [Holdings.places]
  | @stocked c rest held connected wanted =>
      refine ⟨_, .lives (placed h.stock.available h.carried h.dialled h.borrowed rest) ?_ ?_ rfl
        (.stocked connected wanted), Inventory.emit_kinds _ _⟩
      · simp [Holdings.places, held]
      · simp [Holdings.places, Inventory.emit, Inventory.putBack]
  | @unwanted c rest reason held connected refused =>
      refine ⟨_, .dies .filling ?_ (Inventory.discard_count _ _ _) (.unwanted connected reason),
        Inventory.told_discard_kinds _ _ _ _⟩
      simp [Holdings.places, held, Inventory.discard_eq, Inventory.emit]
  | @abandoned c rest held =>
      refine Passage.discarded _ .filling .unknown (by simp) rfl rfl rfl ?_
      simp [Holdings.places, held, Inventory.discard_eq]

/-- Announcing a connection is a passage. -/
theorem Announced.passage (announced : Announced connection h h') :
    Passage h [.acquired connection.info] h' ∧ h'.kinds =
      h.kinds ++ [.acquired connection.info] := by
  cases announced with
  | @mk _ _ rest held wanted established =>
      refine ⟨.lives (placed h.stock.available rest h.dialled h.borrowed h.filling) ?_ ?_ rfl
        (.announced wanted established), Inventory.emit_kinds _ _⟩
      · simp [Holdings.places, held]
      · simp [Holdings.places, Inventory.succeed, Inventory.emit]

/-- Reporting that the pool is closed is a passage. -/
theorem Holdings.report_passage (h : Holdings) :
    Passage h [.poolClosed] { h with stock := h.stock.emit .poolClosed } ∧
      { h with stock := h.stock.emit .poolClosed }.kinds = h.kinds ++ [.poolClosed] :=
  ⟨.still rfl rfl (by simp [EventKind.connection?]), Inventory.emit_kinds _ _⟩

/-- No id is taken back. -/
theorem Passage.count_le (passage : Passage h kinds h') :
    h.stock.nextConnection ≤ h'.stock.nextConnection := by
  cases passage with
  | still _ count | lives _ _ _ count | dies _ _ count => exact count.ge
  | born _ _ count => exact count ▸ Nat.le_succ _

/-- A connection was where it is before, was just born, or lives on from somewhere. -/
theorem Passage.origin (passage : Passage h kinds h') {x : Place × Connection}
    (hx : x ∈ h'.places) :
    x ∈ h.places ∨
      (x.2 = h.stock.newborn ∧ h'.stock.nextConnection = h.stock.nextConnection + 1) ∨
      ∃ y ∈ h.places, Life h.stock y.2 y.1 kinds x.1 x.2 := by
  cases passage with
  | still same => exact .inl (same ▸ hx)
  | born new after count =>
      rw [after, Multiset.mem_cons] at hx
      rcases hx with rfl | hx
      · exact .inr (.inl ⟨rfl, count⟩)
      · exact .inl hx
  | lives rest before after count life =>
      rw [after, Multiset.mem_cons] at hx
      rcases hx with rfl | hx
      · exact .inr (.inr ⟨_, before ▸ Multiset.mem_cons_self _ _, life⟩)
      · exact .inl (before ▸ Multiset.mem_cons_of_mem hx)
  | dies place before => exact .inl (before ▸ Multiset.mem_cons_of_mem hx)

/-- Giving up the idle connections leaves those at other places where they are. -/
theorem Holdings.scrap_places (h : Holdings) :
    h.places = (h.stock.available : Multiset Connection).map (Prod.mk .idle) + h.scrap.places :=
  placed_idle _ _ _ _ _

/-- A connection that is still there after the idle ones were given up was there before. -/
theorem Holdings.mem_of_scrap {x : Place × Connection} (hx : x ∈ h.scrap.places) : x ∈ h.places :=
  h.scrap_places ▸ Multiset.mem_add.2 (.inr hx)

end ConnectionPool
