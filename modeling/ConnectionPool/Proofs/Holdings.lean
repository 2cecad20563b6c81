import ConnectionPool.Pool.Action
import ConnectionPool.Proofs.Inventory
import Mathlib.Data.Multiset.Filter
import Mathlib.Logic.Relation

/-!
# Who holds which connection

The holdings of a pool are its inventory and the connections outside it, by the kind of their
holder. A `Move` is the smallest thing that happens to them: at most one connection changes
hands, with the events that go with it. Every step of a pool is a sequence of moves, and at the
end of it one acquisition may be announced. Besides, a pool is closed or destroyed, and given up
when nobody has a part in it: this is `Step`, and `perform_step` in `Proofs.Pool.Steps` proves
it of all actions. What each move preserves therefore holds of every pool.
-/

namespace ConnectionPool

/-- The connection that a call holds and has not connected: in its answer or while its link
connects. -/
def Phase.carried? : Phase → Option Connection
  | .answered (.ok connection) => some connection
  | .connecting connection _ => some connection
  | _ => none

/-- The connection that a call holds and has tried to connect. -/
def Phase.dialled? : Phase → Option Connection
  | .connected connection _ => some connection
  | _ => none

/-- The inventory of a pool and the connections that it does not hold itself. `carried` and
`dialled` are with the calls, before and after their connect; `borrowed` are with those who were
told that they acquired them; `filling` are with the populations. -/
structure Holdings where
  stock : Inventory
  carried : Multiset Connection
  dialled : Multiset Connection
  borrowed : Multiset Connection
  filling : Multiset Connection

/-- The holdings of a pool. -/
def Pool.holdings (pool : Pool) : Holdings where
  stock := pool.stock
  carried := (pool.calls : Multiset Call).filterMap fun call => call.phase.carried?
  dialled := (pool.calls : Multiset Call).filterMap fun call => call.phase.dialled?
  borrowed := pool.loans
  filling := (pool.populations : Multiset Population).filterMap fun population =>
    population.phase.connection?

/-- The holdings with a connection more in the hands of calls. -/
def Holdings.carry (h : Holdings) (connection : Connection) : Holdings :=
  { h with carried := connection ::ₘ h.carried }

/-- A connection that the calls carry is with them. -/
theorem Holdings.carry_carried (h : Holdings) (connection : Connection) :
    (h.carry connection).carried = connection ::ₘ h.carried :=
  rfl

/-- The holdings with a connection more that the populations are establishing. -/
def Holdings.fill (h : Holdings) (connection : Connection) : Holdings :=
  { h with filling := connection ::ₘ h.filling }

/-- A connection that the populations are establishing is with them. -/
theorem Holdings.fill_filling (h : Holdings) (connection : Connection) :
    (h.fill connection).filling = connection ::ₘ h.filling :=
  rfl

/-- The holdings of a pool that lets nobody in any more. -/
def Holdings.shut (h : Holdings) : Holdings :=
  { h with stock := { h.stock with closed := true } }

/-- The holdings after the idle connections were given up without a word. -/
def Holdings.scrap (h : Holdings) : Holdings :=
  { h with stock := h.stock.scrapIdle }

/-- What a borrower does to a connection on loan: write, establish or destroy it. -/
inductive Connection.Handled (connection : Connection) (network : Network) (now : Instant) :
    Connection → Network → Prop where
  | write (bytes : Nat) :
      Handled connection network now (connection.write bytes network now).2.1
        (connection.write bytes network now).2.2
  | establish :
      Handled connection network now (connection.establish network now).2.1
        (connection.establish network now).2.2
  | destroy :
      Handled connection network now (connection.destroy network).1 (connection.destroy network).2

/-- The smallest things that happen to the holdings of a pool. -/
inductive Move : Holdings → Holdings → Prop where
  | started (h : Holdings) : Move h { h with stock := h.stock.emit .acquisitionStarted }
  | failed (h : Holdings) (error : PoolError) : Move h { h with stock := h.stock.fail error }
  | cleared (h : Holdings) :
      Move h { h with
        stock := { h.stock with generation := h.stock.generation + 1 }.emit .poolCleared }
  | elapsed (h : Holdings) (span : Duration) :
      Move h { h with stock := { h.stock with now := h.stock.now + span } }
  | scripted (h : Holdings) (failNext : Nat) (failAll : Bool) (connectDelay : Duration) :
      Move h { h with
        stock := { h.stock with
          network := { h.stock.network with
            failNext := failNext, failAll := failAll, connectDelay := connectDelay } } }
  /-- An idle connection of a closed pool is closed. -/
  | retired (h : Holdings) {connection : Connection} {rest : List Connection}
      (first : h.stock.available = connection :: rest) (closed : h.stock.closed = true) :
      Move h { h with
        stock := { h.stock with available := rest }.discard connection .poolClosed }
  /-- The first idle connection is closed because it is not to be used any more. -/
  | evicted (h : Holdings) {connection : Connection} {rest : List Connection}
      {reason : CloseReason} (first : h.stock.available = connection :: rest)
      (isOpen : h.stock.closed = false)
      (due : h.stock.evictionReason? connection = some reason) :
      Move h { h with stock := { h.stock with available := rest }.discard connection reason }
  /-- The first idle connection goes to a call. -/
  | reused (h : Holdings) {connection : Connection} {rest : List Connection}
      (first : h.stock.available = connection :: rest) (isOpen : h.stock.closed = false)
      (usable : h.stock.evictionReason? connection = none) :
      Move h { h with
        stock := ({ h.stock with available := rest }.checkOut connection).2
        carried := connection.markInUse ::ₘ h.carried }
  /-- A new connection goes to a call, since none is idle and there is room. -/
  | produced (h : Holdings) (noneIdle : h.stock.available = []) (isOpen : h.stock.closed = false)
      (room : h.stock.hasCapacity = true) :
      Move h { h with
        stock := (h.stock.create.2.checkOut h.stock.newborn).2
        carried := h.stock.newborn.markInUse ::ₘ h.carried }
  /-- A connection that no caller was told about comes back. -/
  | reclaimed (h : Holdings) {connection : Connection} {rest : Multiset Connection}
      (held : h.carried = connection ::ₘ rest) :
      Move h { h with stock := h.stock.reclaim connection, carried := rest }
  /-- A call finds that its connection was destroyed. -/
  | forfeited (h : Holdings) {connection : Connection} {rest : Multiset Connection}
      (held : h.carried = connection ::ₘ rest) (dead : connection.established = false) :
      Move h { h with
        stock := (h.stock.giveBack connection).discard connection .unknown, carried := rest }
  /-- A call's connect is over. -/
  | dialled (h : Holdings) {connection : Connection} {rest : Multiset Connection}
      (held : h.carried = connection ::ₘ rest) (needed : connection.establishNow? = none) :
      Move h { h with
        stock := { h.stock with network := (connection.connect h.stock.network h.stock.now).2.2 }
        carried := rest
        dialled := (connection.connect h.stock.network h.stock.now).2.1 ::ₘ h.dialled }
  /-- A call's connection was connected and is reported ready. -/
  | readied (h : Holdings) {connection : Connection} {rest : Multiset Connection}
      (held : h.dialled = connection ::ₘ rest) (connected : connection.established = true) :
      Move h { h with
        stock := h.stock.emit (.ready connection.info)
        carried := connection ::ₘ h.carried
        dialled := rest }
  /-- A call's connect failed. -/
  | refused (h : Holdings) {connection : Connection} {rest : Multiset Connection}
      (held : h.dialled = connection ::ₘ rest) (failed : connection.established = false) :
      Move h { h with
        stock := (h.stock.giveBack connection).discard connection .unknown, dialled := rest }
  /-- A borrower does something to a connection on loan. -/
  | handled (h : Holdings) {connection changed : Connection} {network : Network}
      {rest : Multiset Connection} (held : h.borrowed = connection ::ₘ rest)
      (change : connection.Handled h.stock.network h.stock.now changed network) :
      Move h { h with
        stock := { h.stock with network := network }, borrowed := changed ::ₘ rest }
  /-- A borrower gives a connection back. -/
  | released (h : Holdings) {connection : Connection} {rest : Multiset Connection}
      (held : h.borrowed = connection ::ₘ rest) (known : connection.id ∈ h.stock.checkedOut)
      (force : Bool) :
      Move h { h with stock := (h.stock.release connection force).2, borrowed := rest }
  /-- A population makes a connection, since the pool is open, too small and has room. -/
  | reserved (h : Holdings) (wanted : Pool.isFilled h.stock = false) :
      Move h { h with
        stock := { h.stock with pending := h.stock.pending + 1 }.create.2
        filling := h.stock.newborn ::ₘ h.filling }
  /-- A population's connect is over. -/
  | filled (h : Holdings) {connection : Connection} {rest : Multiset Connection}
      (held : h.filling = connection ::ₘ rest) (needed : connection.establishNow? = none) :
      Move h { h with
        stock := { h.stock with network := (connection.connect h.stock.network h.stock.now).2.2 }
        filling := (connection.connect h.stock.network h.stock.now).2.1 ::ₘ rest }
  /-- A population's connection was connected, is reported ready, and the pool still wants it. -/
  | stocked (h : Holdings) {connection : Connection} {rest : Multiset Connection}
      (held : h.filling = connection ::ₘ rest) (connected : connection.established = true)
      (wanted : h.stock.returnReason? connection = none) :
      Move h { h with
        stock := ({ h.stock with pending := h.stock.pending - 1 }.emit
          (.ready connection.info)).putBack connection
        filling := rest }
  /-- A population's connection was connected, is reported ready, and the pool has no use for
  it. -/
  | unwanted (h : Holdings) {connection : Connection} {rest : Multiset Connection}
      {reason : CloseReason} (held : h.filling = connection ::ₘ rest)
      (connected : connection.established = true)
      (refused : h.stock.returnReason? connection = some reason) :
      Move h { h with
        stock := ({ h.stock with pending := h.stock.pending - 1 }.emit
          (.ready connection.info)).discard connection reason
        filling := rest }
  /-- A population's connect failed, or the population is dropped. -/
  | abandoned (h : Holdings) {connection : Connection} {rest : Multiset Connection}
      (held : h.filling = connection ::ₘ rest) :
      Move h { h with
        stock := { h.stock with pending := h.stock.pending - 1 }.discard connection .unknown
        filling := rest }

/-- A sequence of moves. -/
abbrev Moves : Holdings → Holdings → Prop :=
  Relation.ReflTransGen Move

/-- A call tells its caller that it acquired the connection. -/
inductive Announced : Connection → Holdings → Holdings → Prop where
  | mk (h : Holdings) {connection : Connection} {rest : Multiset Connection}
      (held : h.carried = connection ::ₘ rest) (wanted : h.stock.returnReason? connection = none)
      (established : connection.established = true) :
      Announced connection h { h with
        stock := h.stock.succeed connection
        carried := rest
        borrowed := connection ::ₘ h.borrowed }

/-- What a turn of a call, a population, a task or a user comes to: moves, after which an
acquisition may be announced. -/
inductive Turn : Holdings → Holdings → Prop where
  | moves {h h' : Holdings} (moves : Moves h h') : Turn h h'
  | announced {h middle h' : Holdings} {connection : Connection} (moves : Moves h middle)
      (last : Announced connection middle h') : Turn h h'

/-- One step of a pool, with the number of idle connections that it gives up without a word. It
is a turn, or an open pool is closed and reports that, or a pool is destroyed, or nobody has a
part in it any more. -/
inductive Step : Holdings → Nat → Holdings → Prop where
  | turn {h h' : Holdings} (turn : Turn h h') : Step h 0 h'
  | closed {h middle : Holdings} (isOpen : h.stock.closed = false) (moves : Moves h.shut middle)
      (empty : middle.stock.available = []) :
      Step h 0 { middle with stock := middle.stock.emit .poolClosed }
  | destroyed (h : Holdings) : Step h h.stock.available.length h.shut.scrap
  | forsaken {h middle : Holdings} (moves : Moves h middle) :
      Step h middle.stock.available.length middle.scrap

/-- What every move preserves, a sequence of moves preserves. -/
theorem Moves.preserves {P : Holdings → Prop} (hmove : ∀ {h h'}, Move h h' → P h → P h')
    {h h' : Holdings} (moves : Moves h h') (hp : P h) : P h' := by
  induction moves with
  | refl => exact hp
  | tail _ move ih => exact hmove move ih

/-- What every move preserves, and the announcement and the ends of a pool as well, every step
preserves. -/
theorem Step.preserves {P : Holdings → Prop} (hmove : ∀ {h h'}, Move h h' → P h → P h')
    (hannounced : ∀ {connection h h'}, Announced connection h h' → P h → P h')
    (hshut : ∀ {h : Holdings}, P h → P h.shut) (hscrap : ∀ {h : Holdings}, P h → P h.scrap)
    (hreport : ∀ {h : Holdings}, P h → P { h with stock := h.stock.emit .poolClosed })
    {h h' : Holdings} {given : Nat} (step : Step h given h') (hp : P h) : P h' := by
  cases step with
  | turn turn =>
      cases turn with
      | moves moves => exact moves.preserves hmove hp
      | announced moves last => exact hannounced last (moves.preserves hmove hp)
  | closed _ moves _ => exact hreport (moves.preserves hmove (hshut hp))
  | destroyed => exact hscrap (hshut hp)
  | forsaken moves => exact hscrap (moves.preserves hmove hp)

end ConnectionPool
