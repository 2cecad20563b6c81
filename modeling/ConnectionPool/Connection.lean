import ConnectionPool.Network
import ConnectionPool.Text.Quoted

/-!
# Connections

A connection is the pool's record of one link: its identity, the generation it was made in, when
it was last used and since when it is idle. It is established once and destroyed once. Moving it
leaves a destroyed shell of the same identity behind.
-/

namespace ConnectionPool

/-- A connection. `idleSince` is set while it is idle. -/
structure Connection where
  id : Nat
  generation : Nat
  poolId : UInt32
  address : Address
  createdAt : Instant
  lastUsed : Instant
  idleSince : Option Instant
  established : Bool
  destroyed : Bool
  link : Link
  deriving DecidableEq, Repr

namespace Connection

/-- A connection made now over a new link. -/
def make (id generation : Nat) (poolId : UInt32) (address : Address) (link : Link)
    (now : Instant) : Connection where
  id := id
  generation := generation
  poolId := poolId
  address := address
  createdAt := now
  lastUsed := now
  idleSince := none
  established := false
  destroyed := false
  link := link

/-- The identity of the connection. -/
def info (connection : Connection) : ConnectionInfo :=
  ⟨connection.id, connection.generation, connection.poolId, connection.address⟩

/-- The connection is of another generation than the current one. -/
def isStale (connection : Connection) (generation : Nat) : Bool :=
  connection.generation != generation

/-- The connection has been idle for longer than the limit. A limit of zero is none. -/
def isIdleExpired (connection : Connection) (limit : Option Duration) (now : Instant) : Bool :=
  match limit, connection.idleSince with
  | some limit, some since => limit != 0 && decide (limit < now - since)
  | _, _ => false

/-- Note that the connection is idle from now on. -/
def makeAvailable (connection : Connection) (now : Instant) : Connection :=
  { connection with idleSince := some now }

/-- Note that the connection is on loan. -/
def markInUse (connection : Connection) : Connection :=
  { connection with idleSince := none }

/-- What establishing comes to at once: success if the connection is established, an error if it
is destroyed. In all other cases the link has to connect. -/
def establishNow? (connection : Connection) : Option (Except LinkError Unit) :=
  if connection.established then some (.ok ())
  else if connection.destroyed then some (.error .destroyed)
  else none

/-- Finish connecting the link. A failed connect leaves the connection as it was. -/
def connect (connection : Connection) (network : Network) (now : Instant) :
    Except LinkError Unit × Connection × Network :=
  match connection.link.connect connection.address network with
  | (.ok (), link, network) =>
      (.ok (), { connection with link := link, established := true, lastUsed := now }, network)
  | (.error error, link, network) => (.error error, { connection with link := link }, network)

/-- Establish the connection without waiting: what it comes to at once, or the finished
connect. -/
def establish (connection : Connection) (network : Network) (now : Instant) :
    Except LinkError Unit × Connection × Network :=
  match connection.establishNow? with
  | some result => (result, connection, network)
  | none => connection.connect network now

/-- Write so many bytes. -/
def write (connection : Connection) (bytes : Nat) (network : Network) (now : Instant) :
    Except LinkError Unit × Connection × Network :=
  if !connection.established || connection.destroyed then
    (.error .notEstablished, connection, network)
  else
    match connection.link.write bytes network with
    | (.ok (), network) => (.ok (), { connection with lastUsed := now }, network)
    | (.error error, network) => (.error error, connection, network)

/-- Give up the link. A second time changes nothing. -/
def destroy (connection : Connection) (network : Network) : Connection × Network :=
  if connection.destroyed then (connection, network)
  else
    let (link, network) := connection.link.destroy network
    ({ connection with destroyed := true, established := false, link := link }, network)

/-- What is left where the connection was moved away. -/
def shell (connection : Connection) : Connection :=
  { connection with
    idleSince := none, established := false, destroyed := true, link := .moved }

/-- The address as diagnostic text. -/
def debugAddress (address : Address) : String :=
  "ServerAddress \x7b host: " ++ Text.quoted address.host ++ ", port: " ++
    toString address.port.toNat ++ " \x7d"

/-- The connection as diagnostic text. -/
def debugText (connection : Connection) : String :=
  "Connection \x7b id: " ++ toString connection.id ++ ", generation: " ++
    toString connection.generation ++ ", pool_id: " ++ toString connection.poolId.toNat ++
    ", address: " ++ debugAddress connection.address ++ ", established: " ++
    toString connection.established ++ " \x7d"

end Connection

end ConnectionPool
