import ConnectionPool.Proofs.Pool.Advance

/-!
# What borrowers do

A borrower changes or gives back the connection that it was lent, and no other. The loans are
told apart by their ids, and their ids are on the books. Both are properties of all pools, which
`Proofs.Custody` proves, and are hypotheses here.
-/

namespace ConnectionPool

namespace Connection

variable (connection : Connection) (network : Network) (now : Instant)

/-- Writing keeps the identity of a connection. -/
theorem write_info (bytes : Nat) :
    (connection.write bytes network now).2.1.info = connection.info := by
  unfold write
  split
  · rfl
  · split <;> rfl

/-- Establishing keeps the identity of a connection. -/
theorem establish_info : (connection.establish network now).2.1.info = connection.info := by
  unfold establish
  split
  · rfl
  · exact connect_info connection network now

variable {connection network now} {changed : Connection} {network' : Network}

/-- Whatever a borrower does, the connection keeps its identity. -/
theorem Handled.info (h : connection.Handled network now changed network') :
    changed.info = connection.info := by
  cases h with
  | write bytes => exact write_info connection network now bytes
  | establish => exact establish_info connection network now
  | destroy => exact destroy_info connection network

/-- Connections of the same identity have the same id. -/
theorem id_of_info {other : Connection} (h : other.info = connection.info) :
    other.id = connection.id :=
  congrArg ConnectionInfo.id h

end Connection

/-- Giving a connection back neither closes nor reopens the pool. -/
theorem Inventory.release_closed (stock : Inventory) (connection : Connection) (force : Bool) :
    (stock.release connection force).2.closed = stock.closed := by
  unfold release
  split
  · dsimp only
    split
    · exact discard_closed _ _ _
    · rfl
  · rfl

namespace Pool

/-- The loans of the pool have different ids, and the pool knows of them. -/
structure Booked (pool : Pool) : Prop where
  ids : (pool.loans.map Connection.id).Nodup
  known : ∀ connection ∈ pool.loans, connection.id ∈ pool.stock.checkedOut

variable {pool : Pool} {id : Nat} {connection changed : Connection} {network : Network}

/-- The borrowed connections are one that was looked up and the others, and changing it or
taking it back leaves the others alone. -/
theorem loans_split (hbooked : pool.Booked) (hfind : pool.loan? id = some connection) :
    ∃ rest : Multiset Connection,
      (pool.loans : Multiset Connection) = connection ::ₘ rest ∧
      (∀ changed network, changed.id = connection.id →
        ((pool.setLoan changed network).loans : Multiset Connection) = changed ::ₘ rest) ∧
      ((pool.removeLoan id).loans : Multiset Connection) = rest := by
  obtain ⟨rest, hloans, hchange, hkeep, hid⟩ := Keyed.find_split hbooked.ids hfind
  refine ⟨rest, hloans, ?_, hkeep _ fun _ => bne_iff_ne⟩
  intro changed network hsame
  unfold setLoan
  rw [hsame, hid]
  exact hchange fun _ => changed

/-- A borrower does something to a connection on loan. -/
theorem set_loan_advances (h : pool.Coherent) (hbooked : pool.Booked)
    (hfind : pool.loan? id = some connection)
    (hchange : connection.Handled pool.stock.network pool.now changed network) :
    pool.Advances (pool.setLoan changed network) := by
  obtain ⟨rest, hloans, hset, -⟩ := loans_split hbooked hfind
  refine ⟨h.congr rfl rfl rfl rfl, .moves (.single ?_)⟩
  have hafter : (pool.setLoan changed network).holdings = { pool.holdings with
      stock := { pool.stock with network := network }
      borrowed := changed ::ₘ rest } := by
    rw [← hset changed network (Connection.id_of_info hchange.info)]
    rfl
  rw [hafter]
  exact .handled pool.holdings hloans hchange

/-- A connection on loan comes back. -/
theorem release_loan_advances (h : pool.Coherent) (hbooked : pool.Booked)
    (id : Nat) (force : Bool) : pool.Advances (pool.releaseLoan id force).2 := by
  unfold releaseLoan
  split
  · exact .refl h
  · next connection hfind =>
      obtain ⟨rest, hloans, -, hremove⟩ := loans_split hbooked hfind
      have hknown : connection.id ∈ pool.stock.checkedOut :=
        hbooked.known connection (List.mem_of_find?_eq_some hfind)
      refine ⟨h.congr rfl rfl rfl (Inventory.release_closed _ _ _), .moves (.single ?_)⟩
      have hmove := Move.released pool.holdings hloans hknown force
      rw [← hremove] at hmove
      exact hmove

/-- A borrower writes to a connection on loan. -/
theorem write_loan_advances (h : pool.Coherent) (hbooked : pool.Booked)
    (id bytes : Nat) : pool.Advances (pool.writeLoan id bytes).2 := by
  unfold writeLoan
  split
  · exact .refl h
  · next hfind => exact set_loan_advances h hbooked hfind (.write bytes)

/-- A borrower establishes a connection on loan. -/
theorem establish_loan_advances (h : pool.Coherent) (hbooked : pool.Booked)
    (id : Nat) : pool.Advances (pool.establishLoan id).2 := by
  unfold establishLoan
  split
  · exact .refl h
  · next hfind => exact set_loan_advances h hbooked hfind .establish

/-- A borrower destroys a connection on loan. -/
theorem destroy_loan_advances (h : pool.Coherent) (hbooked : pool.Booked)
    (id : Nat) : pool.Advances (pool.destroyLoan id) := by
  unfold destroyLoan
  split
  · exact .refl h
  · next hfind => exact set_loan_advances h hbooked hfind .destroy

end Pool

end ConnectionPool
