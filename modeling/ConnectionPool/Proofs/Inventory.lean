import ConnectionPool.Pool.Inventory

/-!
# Steps of the inventory

What the inventory's operations come to. Creating and discarding a connection are stated as
equations, so that later proofs read each field off them. A search through the idle connections
is a sequence of evictions, `Evicts`, after which its first connection is usable: read
`take_from_some` and `lend_from_some` first.
-/

namespace ConnectionPool

namespace Connection

variable (connection : Connection) (network : Network) (now : Instant)

/-- Destroying a connection keeps its identity. -/
@[simp]
theorem destroy_info : (connection.destroy network).1.info = connection.info := by
  unfold destroy
  split <;> rfl

/-- Connecting a connection keeps its identity, finished or failed. -/
theorem connect_info : (connection.connect network now).2.1.info = connection.info := by
  unfold connect
  split <;> rfl

/-- Connecting does not destroy. -/
theorem connect_destroyed :
    (connection.connect network now).2.1.destroyed = connection.destroyed := by
  unfold connect
  split <;> rfl

/-- A connect that succeeds establishes the connection. -/
theorem connect_ok (h : (connection.connect network now).1 = .ok ()) :
    (connection.connect network now).2.1.established = true := by
  unfold connect at h ⊢
  split at h
  · rfl
  · cases h

/-- A connect that fails does not establish the connection. -/
theorem connect_error {error : LinkError} (h : (connection.connect network now).1 =
    .error error) :
    (connection.connect network now).2.1.established = connection.established := by
  unfold connect at h ⊢
  split at h
  · cases h
  · rfl

/-- Only a connection that is neither established nor destroyed has to connect. -/
theorem establish_now_none :
    connection.establishNow? = none ↔
      connection.established = false ∧ connection.destroyed = false := by
  unfold establishNow?
  cases connection.established <;> cases connection.destroyed <;> simp

/-- Establishing comes to an error at once for a destroyed connection only. -/
theorem establish_now_destroyed {error : LinkError}
    (h : connection.establishNow? = some (.error error)) :
    connection.destroyed = true ∧ error = .destroyed := by
  unfold establishNow? at h
  split at h
  · cases h
  · split at h
    · next hdead =>
        cases h
        exact ⟨hdead, rfl⟩
    · cases h

/-- What a connect makes of a connection shows in its outcome. -/
theorem connect_established (h : connection.establishNow? = none) :
    (connection.connect network now).2.1.established =
      (connection.connect network now).1.isOk := by
  have hfresh := (establish_now_none connection).1 h
  cases houtcome : (connection.connect network now).1 with
  | ok done => exact connect_ok connection network now houtcome
  | error error => exact (connect_error connection network now houtcome).trans hfresh.1

end Connection

namespace Inventory

variable (stock : Inventory) (connection : Connection) (reason : CloseReason)

/-- Discarding gives up the link, counts and writes one event; it moves no other connection. -/
theorem discard_eq :
    stock.discard connection reason =
      { stock with
        network := (connection.destroy stock.network).2
        metrics := countClosed stock.metrics reason
        log := stock.log ++ [⟨stock.now, stock.snapshot, .closed connection.info reason⟩] } := by
  simp only [discard, emit, Connection.destroy_info]
  rfl

/-- Discarding a connection neither closes nor reopens the pool. -/
theorem discard_closed : (stock.discard connection reason).closed = stock.closed := by
  rw [discard_eq]

/-- Taking back a connection neither closes nor reopens the pool. -/
theorem reclaim_closed : (stock.reclaim connection).closed = stock.closed := by
  unfold reclaim
  dsimp only
  split
  · exact discard_closed _ _ _
  · rfl

/-- An idle connection may be used if it is of the current generation and has not been idle for
too long. -/
theorem eviction_reason_none :
    stock.evictionReason? connection = none ↔
      connection.generation = stock.generation ∧
        connection.isIdleExpired stock.config.maxIdleTime stock.now = false := by
  unfold evictionReason? Connection.isStale
  split
  · next hstale => simpa using fun heq => absurd heq (by simpa using hstale)
  · next hfresh =>
      rw [Bool.not_eq_true, bne_eq_false_iff_eq] at hfresh
      simp [hfresh]

/-- A connection that comes back may become idle if the pool is open and it is of the current
generation. -/
theorem return_reason_none :
    stock.returnReason? connection = none ↔
      stock.closed = false ∧ connection.generation = stock.generation := by
  unfold returnReason? Connection.isStale
  cases stock.closed with
  | true => simp
  | false => simp

/-- A connection that may be used could become idle as well. -/
theorem return_reason_of_usable (hopen : stock.closed = false)
    (husable : stock.evictionReason? connection = none) : stock.returnReason? connection = none :=
  (return_reason_none stock connection).2
    ⟨hopen, ((eviction_reason_none stock connection).1 husable).1⟩

/-- The connection that is created next. -/
def newborn : Connection :=
  Connection.make stock.nextConnection stock.generation stock.config.id stock.config.address
    (stock.source.create stock.network).1 stock.now

/-- Creating uses up one id, counts and writes one event; the new connection has no place yet. -/
theorem create_eq :
    stock.create =
      (stock.newborn,
        { stock with
          network := (stock.source.create stock.network).2
          nextConnection := stock.nextConnection + 1
          metrics := { stock.metrics with created := stock.metrics.created + 1 }
          log := stock.log ++ [⟨stock.now, stock.snapshot, .created stock.newborn.info⟩] }) :=
  rfl

/-- Idle connections at the front are discarded one after the other, each for a reason that
holds when it is its turn. -/
inductive Evicts : Inventory → Inventory → Prop where
  | refl (stock : Inventory) : Evicts stock stock
  | step {stock final : Inventory} {connection : Connection} {rest : List Connection}
      {reason : CloseReason} :
      stock.available = connection :: rest →
      stock.evictionReason? connection = some reason →
      Evicts ({ stock with available := rest }.discard connection reason) final →
      Evicts stock final

/-- Evicting neither closes nor reopens the pool. -/
theorem Evicts.closed_eq {stock final : Inventory} (h : Evicts stock final) :
    final.closed = stock.closed := by
  induction h with
  | refl => rfl
  | step _ _ _ ih => exact ih.trans (by rw [discard_eq])

/-- Evicting takes no time. -/
theorem Evicts.now_eq {stock final : Inventory} (h : Evicts stock final) :
    final.now = stock.now := by
  induction h with
  | refl => rfl
  | step _ _ _ ih => exact ih.trans (by rw [discard_eq])

/-- What is evicted stood at the front and was not to be used any more. Besides, evicting is a
matter of the network, the counters and the log. -/
theorem Evicts.frame {stock final : Inventory} (h : Evicts stock final) :
    ∃ gone network metrics log, stock.available = gone ++ final.available ∧
      (∀ connection ∈ gone, stock.evictionReason? connection ≠ none) ∧
      final = { stock with
        available := final.available, network := network, metrics := metrics, log := log } := by
  induction h with
  | refl stock => exact ⟨[], _, _, _, rfl, by simp, rfl⟩
  | step hfirst hreason _ ih =>
      rw [discard_eq] at ih
      obtain ⟨gone, network, metrics, log, hgone, hdue, hfinal⟩ := ih
      refine ⟨_ :: gone, network, metrics, log, hfirst.trans (congrArg _ hgone), ?_, hfinal⟩
      exact List.forall_mem_cons.2 ⟨by rw [hreason]; simp, hdue⟩

variable {stock final : Inventory} {connection : Connection} {idle : List Connection}

/-- A connection that the pool has no use for comes back in order to be closed. -/
theorem reclaim_unwanted {reason : CloseReason}
    (h : stock.returnReason? connection = some reason) :
    stock.reclaim connection = (stock.giveBack connection).discard connection reason := by
  have hreason : (stock.giveBack connection).returnReason? connection = some reason := h
  simp only [reclaim, hreason]

/-- A connection that the pool still wants comes back and becomes idle. -/
theorem reclaim_wanted (h : stock.returnReason? connection = none) :
    stock.reclaim connection = (stock.giveBack connection).putBack connection := by
  have hreason : (stock.giveBack connection).returnReason? connection = none := h
  simp only [reclaim, hreason]

/-- A connection that the pool knows of is released: it becomes idle if the pool wants it, or is
closed. -/
theorem release_known (h : connection.id ∈ stock.checkedOut) (force : Bool) :
    (stock.returnReason? connection = none ∧
      (stock.release connection force).2 =
        ((stock.giveBack connection).putBack connection).emit (.released connection.info)) ∨
    ∃ reason, (stock.release connection force).2 =
      ((stock.giveBack connection).emit (.released connection.info)).discard
        connection reason := by
  have hreason : (stock.giveBack connection).returnReason? connection =
      stock.returnReason? connection := rfl
  rw [release, if_pos h]
  dsimp only
  rw [hreason]
  cases force with
  | true => exact .inr ⟨.force, rfl⟩
  | false =>
      cases hwanted : stock.returnReason? connection with
      | none => exact .inl ⟨rfl, by simp⟩
      | some reason => exact .inr ⟨reason, by simp⟩

/-- Putting the idle connections in their place again changes nothing. -/
theorem available_self (h : stock.available = idle) :
    { stock with available := idle } = stock := by
  rw [← h]

/-- A search for a usable idle connection that finds none evicts them all. -/
theorem take_from_none (h : stock.available = idle)
    (htake : stock.takeFrom idle = (none, final)) :
    Evicts stock final ∧ final.available = [] := by
  induction idle generalizing stock with
  | nil =>
      rw [takeFrom, available_self h] at htake
      cases htake
      exact ⟨.refl _, h⟩
  | cons head rest ih =>
      simp only [takeFrom] at htake
      split at htake
      · next reason hreason =>
          obtain ⟨hevicts, hempty⟩ := ih (by rw [discard_eq]) htake
          exact ⟨.step h hreason hevicts, hempty⟩
      · cases htake

/-- A search for a usable idle connection that finds one evicts those before it and takes it. -/
theorem take_from_some (h : stock.available = idle)
    (htake : stock.takeFrom idle = (some connection, final)) :
    ∃ found rest, Evicts stock found ∧ found.available = connection :: rest ∧
      found.evictionReason? connection = none ∧ final = { found with available := rest } := by
  induction idle generalizing stock with
  | nil => cases htake
  | cons head rest ih =>
      simp only [takeFrom] at htake
      split at htake
      · next reason hreason =>
          obtain ⟨found, later, hevicts, hfound⟩ := ih (by rw [discard_eq]) htake
          exact ⟨found, later, .step h hreason hevicts, hfound⟩
      · next hreason =>
          cases htake
          exact ⟨stock, rest, .refl stock, h, hreason, rfl⟩

/-- Lending without waiting evicts idle connections even if it lends none. The first that is
left then may still be used. -/
theorem lend_from_none (h : stock.available = idle)
    (hlend : stock.lendFrom idle = (none, final)) :
    Evicts stock final ∧
      ∀ first ∈ final.available.head?, final.evictionReason? first = none := by
  induction idle generalizing stock with
  | nil =>
      rw [lendFrom, available_self h] at hlend
      cases hlend
      exact ⟨.refl _, by simp [h]⟩
  | cons head rest ih =>
      simp only [lendFrom] at hlend
      split at hlend
      · next reason hreason =>
          obtain ⟨hevicts, hfirst⟩ := ih (by rw [discard_eq]) hlend
          exact ⟨.step h hreason hevicts, hfirst⟩
      · next husable =>
          split at hlend
          · cases hlend
          · rw [available_self h] at hlend
            cases hlend
            refine ⟨.refl _, ?_⟩
            rw [h]
            rintro first ⟨⟩
            exact husable

/-- Lending without waiting evicts the idle connections before the first usable one. That one is
established; it is lent, and the acquisition starts and succeeds in one. -/
theorem lend_from_some (h : stock.available = idle)
    (hlend : stock.lendFrom idle = (some connection, final)) :
    ∃ found first rest, Evicts stock found ∧ found.available = first :: rest ∧
      found.evictionReason? first = none ∧ first.established = true ∧
      connection = first.markInUse ∧
      final = (({ found with available := rest }.checkOut first).2.emit
        .acquisitionStarted).succeed connection := by
  induction idle generalizing stock with
  | nil => cases hlend
  | cons head rest ih =>
      simp only [lendFrom] at hlend
      split at hlend
      · next reason hreason =>
          obtain ⟨found, first, later, hevicts, hfound⟩ := ih (by rw [discard_eq]) hlend
          exact ⟨found, first, later, .step h hreason hevicts, hfound⟩
      · next hreason =>
          split at hlend
          · next hestablished =>
              cases hlend
              exact ⟨stock, head, rest, .refl stock, h, hreason, hestablished, rfl, rfl⟩
          · cases hlend

end Inventory

end ConnectionPool
