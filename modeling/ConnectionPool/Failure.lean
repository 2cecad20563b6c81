import ConnectionPool.Address

/-!
# Failures

A link to a server fails with a kind and a message. A call to a pool fails with one of seven
causes; the five that a pool raises carry its id and address. Wait queue exhaustion and failed
connects are transient: the same call may succeed later.
-/

namespace ConnectionPool

/-- What identifies a connection in events and errors. -/
structure ConnectionInfo where
  id : Nat
  generation : Nat
  poolId : UInt32
  address : Address
  deriving DecidableEq, Repr

/-- The two ways in which a link fails. -/
inductive LinkErrorKind where
  | notConnected
  | connectionRefused
  deriving DecidableEq, Repr

/-- A failed operation on a link. -/
structure LinkError where
  kind : LinkErrorKind
  message : String
  deriving DecidableEq, Repr

namespace LinkError

/-- The name of the kind. -/
def kindName (error : LinkError) : String :=
  match error.kind with
  | .notConnected => "NotConnected"
  | .connectionRefused => "ConnectionRefused"

/-- The connection was destroyed before it was to be established. -/
def destroyed : LinkError := ⟨.notConnected, "connection was destroyed"⟩

/-- The connection is not established. -/
def notEstablished : LinkError := ⟨.notConnected, "connection is not established"⟩

/-- The connection was moved to another holder. -/
def moved : LinkError := ⟨.notConnected, "connection was moved"⟩

/-- The link itself is not open. -/
def linkClosed : LinkError := ⟨.notConnected, "mock transport not connected"⟩

/-- The socket is not open. -/
def socketClosed : LinkError := ⟨.notConnected, "transport not connected"⟩

/-- The simulated server at the address refused. -/
def refused (address : Address) : LinkError :=
  ⟨.connectionRefused, "mock connection to " ++ address.text ++ " refused"⟩

/-- Nobody listens at the socket's address. -/
def nobodyListens : LinkError := ⟨.connectionRefused, "Connection refused (os error 111)"⟩

/-- The error as JSON. -/
def toJson (error : LinkError) : Json :=
  .object [("error", .string error.kindName), ("message", .string error.message)]

end LinkError

/-- Why a call to a pool failed. -/
inductive PoolError where
  | poolClosed (poolId : UInt32) (address : Address)
  | waitQueueFull (poolId : UInt32) (address : Address)
  | waitQueueTimeout (poolId : UInt32) (address : Address)
  | foreignConnection (poolId : UInt32) (address : Address) (connection : ConnectionInfo)
  | connect (poolId : UInt32) (address : Address) (source : LinkError)
  | configuration (text : String)
  | invalidAddress (text : String)
  deriving DecidableEq, Repr

namespace PoolError

/-- The message for the cause. -/
def message : PoolError → String
  | .poolClosed id address =>
      "attempted to acquire a connection from closed connection pool " ++ toString id.toNat ++
        " (" ++ address.text ++ ")"
  | .waitQueueFull id address =>
      "attempted to acquire a connection from connection pool " ++ toString id.toNat ++
        " (" ++ address.text ++ ") while the wait queue was full"
  | .waitQueueTimeout id address =>
      "timed out while acquiring a connection from connection pool " ++ toString id.toNat ++
        " (" ++ address.text ++ ")"
  | .foreignConnection id address connection =>
      "attempted to release connection " ++ toString connection.id ++ " to pool " ++
        toString id.toNat ++ " (" ++ address.text ++ ") which did not create it"
  | .connect _ address source =>
      "failed to establish connection to " ++ address.text ++ ": " ++ source.message
  | .configuration text => "configuration error: " ++ text
  | .invalidAddress text => "invalid address: " ++ text

/-- The name of the cause. -/
def typeName : PoolError → String
  | .poolClosed .. => "poolClosedError"
  | .waitQueueFull .. => "waitQueueFullError"
  | .waitQueueTimeout .. => "waitQueueTimeoutError"
  | .foreignConnection .. => "poolReleaseForeignConnectionError"
  | .connect .. => "connectionError"
  | .configuration _ => "configurationError"
  | .invalidAddress _ => "invalidAddressError"

/-- The same call may succeed later. -/
def isTransient : PoolError → Bool
  | .waitQueueFull .. | .waitQueueTimeout .. | .connect .. => true
  | _ => false

/-- The pool that raised the error. -/
def poolId? : PoolError → Option UInt32
  | .poolClosed id _ | .waitQueueFull id _ | .waitQueueTimeout id _
  | .foreignConnection id _ _ | .connect id _ _ => some id
  | .configuration _ | .invalidAddress _ => none

/-- The address of the pool that raised the error. -/
def address? : PoolError → Option Address
  | .poolClosed _ address | .waitQueueFull _ address | .waitQueueTimeout _ address
  | .foreignConnection _ address _ | .connect _ address _ => some address
  | .configuration _ | .invalidAddress _ => none

/-- The failure of the link behind the error. -/
def source? : PoolError → Option LinkError
  | .connect _ _ source => some source
  | _ => none

/-- The error as JSON. -/
def toJson (error : PoolError) : Json :=
  .object [("error", .string error.typeName), ("message", .string error.message)]

end PoolError

/-- The pool error for an address text that does not read as one. -/
def AddressFault.toPoolError (fault : AddressFault) : PoolError :=
  .invalidAddress fault.message

end ConnectionPool
