import ConnectionPool.Proofs.Pool.Service

/-!
# Opening, clearing and closing

A pool that was opened is coherent and holds nothing. Clearing it advances it; closing it is the
one step that ends with the report that the pool is closed, and destroying it gives up its idle
connections. `collect_frame` is about a pool that nobody has a part in any more.
-/

namespace ConnectionPool

namespace Inventory

/-- Closing the idle connections leaves none, and neither closes nor reopens the pool. -/
theorem close_idle_frame (stock : Inventory) (idle : List Connection) :
    (stock.closeIdle idle).available = [] ∧ (stock.closeIdle idle).closed = stock.closed := by
  induction idle generalizing stock with
  | nil => exact ⟨rfl, rfl⟩
  | cons connection rest ih =>
      obtain ⟨hempty, hclosed⟩ :=
        ih ({ stock with available := rest }.discard connection .poolClosed)
      exact ⟨hempty, hclosed.trans (discard_closed _ _ _)⟩

end Inventory

/-- Closing the idle connections of a closed pool retires them one after the other. -/
theorem Holdings.close_idle_moves {h : Holdings} {idle : List Connection}
    (hclosed : h.stock.closed = true) (hidle : h.stock.available = idle) :
    Moves h { h with stock := h.stock.closeIdle idle } := by
  induction idle generalizing h with
  | nil =>
      rw [Inventory.closeIdle, Inventory.available_self hidle]
  | cons connection rest ih =>
      refine .head (.retired h hidle hclosed) (ih (h := { h with
        stock := { h.stock with available := rest }.discard connection .poolClosed }) ?_ ?_)
      · exact (Inventory.discard_closed _ _ _).trans hclosed
      · rw [Inventory.discard_eq]

/-- The holdings of a pool that was opened just now. -/
def Holdings.opened (config : Config) (source : LinkSource) (network : Network) (now : Instant) :
    Holdings where
  stock := ({ config := config, source := source, network := network, now := now } :
    Inventory).emit (.poolCreated config.options)
  carried := 0
  dialled := 0
  borrowed := 0
  filling := 0

namespace Pool

variable {pool : Pool}

/-- A pool that was opened just now is coherent and holds nothing. -/
theorem create_coherent {config : Config} {source : LinkSource} {network : Network}
    {now : Instant} (hcreate : create config source network now = .ok pool) :
    pool.Coherent ∧ pool.holdings = .opened config source network now := by
  unfold create at hcreate
  split at hcreate
  · cases hcreate
  · cases hcreate
    refine ⟨⟨List.nodup_nil, List.nodup_singleton _, ?_, ?_, ?_, ?_, rfl⟩, rfl⟩
    · exact fun id hid => absurd hid List.not_mem_nil
    · exact fun call hcall => absurd hcall List.not_mem_nil
    · intro population hpopulation
      obtain rfl := List.mem_singleton.1 hpopulation
      trivial
    · exact ⟨List.nodup_nil, by simp [WaitQueue.empty], Multiset.nodup_zero,
        by simp [WaitQueue.empty, waiting], fun _ => rfl⟩

/-- A new generation begins. -/
theorem clear_advances (h : pool.Coherent) : pool.Advances pool.clear :=
  ⟨h.congr rfl rfl rfl rfl, .moves (.single (.cleared pool.holdings))⟩

/-- A pool that is being closed or destroyed: it is shut and everyone in line is answered. -/
def shut (pool : Pool) : Pool :=
  { pool with stock := { pool.stock with closed := true } }.settle pool.queue.destroy

/-- Shutting a pool moves no connection and does not let go of its handle. -/
theorem shut_frame (h : pool.Coherent) :
    pool.shut.Coherent ∧ pool.shut.holdings = pool.holdings.shut ∧
      pool.shut.held = pool.held := by
  have hsound := sound_errors (WaitQueue.drain_errors { pool.queue with destroyed := true })
    (by simp [WaitQueue.closedError, PoolError.reason?])
  refine ⟨h.settle _ h.line.destroy hsound rfl, ?_, ?_⟩
  · show pool.shut.holdings = { pool with stock := { pool.stock with closed := true } }.holdings
    exact holdings_settle_errors (WaitQueue.drain_errors { pool.queue with destroyed := true })
  · unfold shut settle
    rw [(deliver_frame _ { pool with stock := { pool.stock with closed := true } }).1]

/-- Closing an open pool shuts it, closes its idle connections and reports that it is closed. It
does not let go of the pool's handle. -/
theorem close_step (h : pool.Coherent) :
    pool.close.Coherent ∧ Step pool.holdings 0 pool.close.holdings ∧
      pool.close.held = pool.held := by
  cases hclosed : pool.isClosed with
  | true =>
      rw [close, if_pos hclosed]
      exact ⟨h, .turn (.moves .refl), rfl⟩
  | false =>
      have hclose : pool.close = { pool.shut with
          maintenance := none
          stock := (pool.shut.stock.closeIdle pool.shut.stock.available).emit .poolClosed } := by
        rw [close, if_neg (by simp [hclosed])]
        rfl
      obtain ⟨hcoherent, hshut, hheld⟩ := shut_frame h
      have hclosed' : pool.shut.stock.closed = true := congrArg (fun h => h.stock.closed) hshut
      obtain ⟨hempty, hkept⟩ := pool.shut.stock.close_idle_frame pool.shut.stock.available
      have hidle := Holdings.close_idle_moves (h := pool.shut.holdings) hclosed' rfl
      rw [hshut] at hidle
      rw [hclose]
      refine ⟨hcoherent.congr rfl rfl rfl hkept, ?_, hheld⟩
      have hstep := Step.closed hclosed hidle (by rw [← hshut]; exact hempty)
      rw [← hshut] at hstep
      exact hstep

/-- Taking over an outcome does not depend on the inventory. -/
theorem settle_with_stock (pool : Pool) (stock : Inventory)
    (outcome : WaitQueue.Outcome Nat Connection) :
    { pool with stock := stock }.settle outcome =
      { pool.settle outcome with stock := stock } := by
  have hdeliver : ∀ (answers : List (Nat × Except PoolError Connection)) (pool : Pool),
      answers.foldl deliver { pool with stock := stock } =
        { answers.foldl deliver pool with stock := stock } := by
    intro answers
    induction answers with
    | nil => exact fun _ => rfl
    | cons given rest ih => exact fun pool => ih (pool.deliver given)
  unfold settle
  rw [hdeliver]

/-- A pool without its run loop and its maintenance task. -/
def stopped (pool : Pool) : Pool :=
  { pool with
    runLoops := pool.runLoops.filter fun loop => some loop.id != pool.runLoop
    runLoop := none
    maintenance := none }

/-- Destroying a pool stops its tasks, shuts it and gives up its idle connections. -/
theorem destroy_eq (pool : Pool) :
    pool.destroy = { pool.stopped.shut with
      queue := pool.stopped.shut.queue.markStopped
      stock := pool.stopped.shut.stock.scrapIdle } := by
  have hsame : (pool.stopped.settle pool.queue.destroy).holdings = pool.stopped.holdings :=
    holdings_settle_errors (WaitQueue.drain_errors { pool.queue with destroyed := true })
  have hstock : (pool.stopped.settle pool.queue.destroy).stock = pool.stock :=
    congrArg Holdings.stock hsame
  rw [shut, settle_with_stock]
  show pool.destroy = { pool.stopped.settle pool.queue.destroy with
    queue := (pool.stopped.settle pool.queue.destroy).queue.markStopped
    stock := { pool.stock with closed := true }.scrapIdle }
  rw [← hstock]
  rfl

/-- Destroying a pool shuts it and gives up its idle connections without a word. It does not let
go of the pool's handle. -/
theorem destroy_frame (h : pool.Coherent) :
    pool.destroy.Coherent ∧ pool.destroy.holdings = pool.holdings.shut.scrap ∧
      pool.destroy.held = pool.held := by
  have hstopped : pool.stopped.Coherent := h.congr rfl rfl rfl rfl
  obtain ⟨hcoherent, hshut, hheld⟩ := shut_frame hstopped
  rw [destroy_eq]
  refine ⟨?_, congrArg Holdings.scrap hshut, hheld⟩
  exact ⟨hcoherent.callIds, hcoherent.owners, hcoherent.apart, hcoherent.phases,
    hcoherent.fillings, hcoherent.line.markStopped, hcoherent.shut⟩

/-- Letting go of the handle moves no connection. -/
theorem drop_handle_advances (h : pool.Coherent) : pool.Advances pool.dropHandle :=
  ⟨h.congr rfl rfl rfl rfl, .moves .refl⟩

/-- A pool that nobody has a part in gives up its idle connections. -/
theorem collect_frame (h : pool.Coherent) (hdead : pool.isAlive = false) :
    pool.collect.Coherent ∧ pool.collect.holdings = pool.holdings.scrap := by
  have hcalls : pool.calls = [] := by
    simp only [isAlive, Bool.or_eq_false_iff] at hdead
    simpa using hdead.1.1.2
  rw [collect, if_neg (by simp [hdead])]
  refine ⟨⟨h.callIds, h.owners, h.apart, h.phases, h.fillings, ?_, h.shut⟩, rfl⟩
  -- Nobody is left to be answered, so the line can go.
  have hnobody : pool.waiting = 0 := by simp [waiting, hcalls]
  refine ⟨List.nodup_nil, ?_, h.line.once, ?_, fun _ => rfl⟩
  · exact fun member hmember => absurd hmember List.not_mem_nil
  · have hnone : ∀ id, id ∉ pool.waiting := fun id => by simp [hnobody]
    exact fun id => ⟨fun hid => absurd hid (hnone id), by simp⟩

end Pool

end ConnectionPool
