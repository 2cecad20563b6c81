import ConnectionPool.Clock
import ConnectionPool.Failure
import ConnectionPool.Options

/-!
# Pool events

Every change of a pool's state is one event. An event carries the instant, the pool's counts at
that instant and what happened. Written as JSON it has no instant, since the clock of a reader
is another one.
-/

namespace ConnectionPool

/-- The counts of a pool at the moment of an event. -/
structure PoolSnapshot where
  id : UInt32
  total : Nat
  available : Nat
  generation : Nat
  address : Address
  deriving DecidableEq, Repr

/-- Why a connection was closed. -/
inductive CloseReason where
  | stale
  | idle
  | poolClosed
  | force
  | unknown
  deriving DecidableEq, Repr

/-- The name of the reason. -/
def CloseReason.name : CloseReason → String
  | .stale => "stale"
  | .idle => "idle"
  | .poolClosed => "poolClosed"
  | .force => "force"
  | .unknown => "unknown"

/-- Why an acquisition failed. -/
inductive FailureReason where
  | poolClosed
  | queueFull
  | timeout
  | connectionError
  deriving DecidableEq, Repr

/-- The name of the reason. -/
def FailureReason.name : FailureReason → String
  | .poolClosed => "poolClosed"
  | .queueFull => "queueFull"
  | .timeout => "timeout"
  | .connectionError => "connectionError"

/-- The reason that an acquisition's error is reported with. -/
def PoolError.failureReason : PoolError → FailureReason
  | .waitQueueFull .. => .queueFull
  | .waitQueueTimeout .. => .timeout
  | .connect .. => .connectionError
  | _ => .poolClosed

/-- The types of events. -/
inductive EventType where
  | poolCreated
  | poolClosed
  | created
  | ready
  | closed
  | acquisitionStarted
  | acquisitionFailed
  | acquired
  | released
  | poolCleared
  deriving DecidableEq, Repr

namespace EventType

/-- All event types, in the order of their declaration. -/
def all : List EventType :=
  [.poolCreated, .poolClosed, .created, .ready, .closed, .acquisitionStarted, .acquisitionFailed,
    .acquired, .released, .poolCleared]

/-- The name of the event type. -/
def name : EventType → String
  | .poolCreated => "connectionPoolCreated"
  | .poolClosed => "connectionPoolClosed"
  | .created => "connectionCreated"
  | .ready => "connectionReady"
  | .closed => "connectionClosed"
  | .acquisitionStarted => "connectionAcquisitionStarted"
  | .acquisitionFailed => "connectionAcquisitionFailed"
  | .acquired => "connectionAcquired"
  | .released => "connectionReleased"
  | .poolCleared => "connectionPoolCleared"

/-- The place of the type among all types. -/
def index (type : EventType) : Nat :=
  all.idxOf type

end EventType

/-- What happened. -/
inductive EventKind where
  | poolCreated (options : Options)
  | poolClosed
  | created (connection : ConnectionInfo)
  | ready (connection : ConnectionInfo)
  | closed (connection : ConnectionInfo) (reason : CloseReason)
  | acquisitionStarted
  | acquisitionFailed (reason : FailureReason)
  | acquired (connection : ConnectionInfo)
  | released (connection : ConnectionInfo)
  | poolCleared
  deriving DecidableEq, Repr

namespace EventKind

/-- The type of the event. -/
def type : EventKind → EventType
  | .poolCreated _ => .poolCreated
  | .poolClosed => .poolClosed
  | .created _ => .created
  | .ready _ => .ready
  | .closed .. => .closed
  | .acquisitionStarted => .acquisitionStarted
  | .acquisitionFailed _ => .acquisitionFailed
  | .acquired _ => .acquired
  | .released _ => .released
  | .poolCleared => .poolCleared

/-- The connection that the event is about. -/
def connection? : EventKind → Option ConnectionInfo
  | .created connection | .ready connection | .closed connection _
  | .acquired connection | .released connection => some connection
  | _ => none

/-- The name of the reason that the event gives. -/
def reason? : EventKind → Option String
  | .closed _ reason => some reason.name
  | .acquisitionFailed reason => some reason.name
  | _ => none

end EventKind

/-- An event of a pool. -/
structure Event where
  time : Instant
  pool : PoolSnapshot
  kind : EventKind
  deriving DecidableEq, Repr

/-- The connection's identity as JSON. -/
def ConnectionInfo.toJson (connection : ConnectionInfo) : Json :=
  .object [("id", .nat connection.id), ("generation", .nat connection.generation),
    ("poolId", .nat connection.poolId.toNat), ("address", connection.address.toJson)]

/-- The counts as JSON. -/
def PoolSnapshot.toJson (pool : PoolSnapshot) : Json :=
  .object [("id", .nat pool.id.toNat), ("totalConnectionCount", .nat pool.total),
    ("availableConnectionCount", .nat pool.available), ("generation", .nat pool.generation),
    ("address", pool.address.toJson)]

namespace Event

/-- The type of the event. -/
def type (event : Event) : EventType :=
  event.kind.type

/-- The name of the event's type. -/
def typeName (event : Event) : String :=
  event.type.name

/-- The members that the event's kind brings. -/
def detail : EventKind → List (String × Json)
  | .poolCreated options => [("options", options.toJson)]
  | .closed connection reason =>
      [("connection", connection.toJson), ("reason", .string reason.name)]
  | .acquisitionFailed reason => [("reason", .string reason.name)]
  | .created connection | .ready connection | .acquired connection | .released connection =>
      [("connection", connection.toJson)]
  | .poolClosed | .acquisitionStarted | .poolCleared => []

/-- The members of the event's JSON object. -/
def members (event : Event) : List (String × Json) :=
  ("pool", event.pool.toJson) :: ("type", .string event.typeName) :: detail event.kind

/-- The event as JSON, without its instant. -/
def toJson (event : Event) : Json :=
  .object event.members

end Event

end ConnectionPool
