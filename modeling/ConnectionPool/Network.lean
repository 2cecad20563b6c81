import ConnectionPool.Clock
import ConnectionPool.Failure

/-!
# Links over a simulated network

A link carries the bytes of one connection. The simulated network counts what its links do and
has a script: how long a connect takes and which connects fail. Beside simulated links there are
sockets, which here are never open, and the link of a connection that was moved elsewhere, which
does nothing.
-/

namespace ConnectionPool

/-- The script and the counters of a simulated network. -/
structure Network where
  failNext : Nat := 0
  failAll : Bool := false
  connectDelay : Duration := 0
  created : Nat := 0
  connects : Nat := 0
  writes : Nat := 0
  bytes : Nat := 0
  destroyed : Nat := 0
  deriving DecidableEq, Repr, Inhabited

namespace Network

/-- Whether the next connect fails. One of the scripted failures is used up, unless all fail. -/
def attempt (network : Network) : Bool × Network :=
  if network.failAll then (true, network)
  else if network.failNext = 0 then (false, network)
  else (true, { network with failNext := network.failNext - 1 })

/-- The counters as JSON. -/
def toJson (network : Network) : Json :=
  .object [("created", .nat network.created), ("connects", .nat network.connects),
    ("writes", .nat network.writes), ("bytes", .nat network.bytes),
    ("destroyed", .nat network.destroyed)]

end Network

/-- The link of one connection. -/
inductive Link where
  | simulated (connected destroyed : Bool)
  | socket
  | moved
  deriving DecidableEq, Repr

namespace Link

/-- How long a connect of the link takes, as the script says when it starts. -/
def delay (link : Link) (network : Network) : Duration :=
  match link with
  | .simulated .. => network.connectDelay
  | _ => 0

/-- Finish a connect to the address. -/
def connect (link : Link) (address : Address) (network : Network) :
    Except LinkError Unit × Link × Network :=
  match link with
  | .simulated connected destroyed =>
      let (fails, network) := network.attempt
      if fails then (.error (.refused address), .simulated connected destroyed, network)
      else
        (.ok (), .simulated true destroyed, { network with connects := network.connects + 1 })
  | .socket => (.error .nobodyListens, .socket, network)
  | .moved => (.error .moved, .moved, network)

/-- Write so many bytes. -/
def write (link : Link) (bytes : Nat) (network : Network) : Except LinkError Unit × Network :=
  match link with
  | .simulated connected destroyed =>
      if connected && !destroyed then
        (.ok (), { network with writes := network.writes + 1, bytes := network.bytes + bytes })
      else (.error .linkClosed, network)
  | .socket => (.error .socketClosed, network)
  | .moved => (.error .moved, network)

/-- Give up the link. A second time changes nothing. -/
def destroy (link : Link) (network : Network) : Link × Network :=
  match link with
  | .simulated _ false =>
      (.simulated false true, { network with destroyed := network.destroyed + 1 })
  | link => (link, network)

end Link

/-- What a pool makes its links from. -/
inductive LinkSource where
  | simulated
  | sockets
  deriving DecidableEq, Repr

/-- A new link, not connected. -/
def LinkSource.create (source : LinkSource) (network : Network) : Link × Network :=
  match source with
  | .simulated => (.simulated false false, { network with created := network.created + 1 })
  | .sockets => (.socket, network)

end ConnectionPool
