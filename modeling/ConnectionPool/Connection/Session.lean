import ConnectionPool.Connection

/-!
# Sessions with one connection

A session starts with one connection in the hands of a holder. Holders have names; moving the
connection leaves a shell with its holder and gives the connection to another one, who drops
what it had. Time passes in a session by waiting and by establishing.
-/

namespace ConnectionPool.Connection

/-- The holders of a connection and of its shells, their network and the clock. -/
structure Session where
  now : Instant
  network : Network
  holders : List (String × Connection)

/-- An operation; those that name a holder act on what it has. -/
inductive Operation where
  | wait (milliseconds : Nat)
  | failNext (count : Nat)
  | failAll (on : Bool)
  | connectDelay (milliseconds : Nat)
  | establish (holder : String)
  | write (holder : String) (bytes : Nat)
  | destroy (holder : String)
  | makeAvailable (holder : String)
  | markInUse (holder : String)
  | isStale (holder : String) (generation : Nat)
  | isIdleExpired (holder : String) (limit : Option Duration) (ahead back : Duration)
  | detach (holder taker : String)
  | drop (holder : String)
  | debug (holder : String)

/-- What an operation reports. -/
inductive Reply where
  | done
  | link (result : Except LinkError Unit)
  | flag (value : Bool)
  | text (value : String)
  | noConnection

namespace Session

/-- A session with one new connection, held under the name. -/
def start (holder : String) (id generation : Nat) (poolId : UInt32) (address : Address) :
    Session :=
  let (link, network) := LinkSource.simulated.create {}
  { now := 0
    network := network
    holders := [(holder, Connection.make id generation poolId address link 0)] }

/-- What the holder has. -/
def holding? (session : Session) (holder : String) : Option Connection :=
  (session.holders.find? fun entry => entry.1 == holder).map Prod.snd

/-- The holder loses what it has, which destroys it. -/
def drop (session : Session) (holder : String) : Session :=
  match session.holding? holder with
  | none => session
  | some connection =>
      { session with
        network := (connection.destroy session.network).2
        holders := session.holders.filter fun entry => entry.1 != holder }

/-- What the holder has is changed in place. -/
def replace (session : Session) (holder : String) (connection : Connection) : Session :=
  { session with
    holders := session.holders.map fun entry =>
      if entry.1 = holder then (holder, connection) else entry }

/-- The holder gets a connection and drops what it had. -/
def give (session : Session) (holder : String) (connection : Connection) : Session :=
  let session := session.drop holder
  { session with holders := session.holders ++ [(holder, connection)] }

/-- Do something with what the holder has. -/
def onHolding (session : Session) (holder : String) (action : Connection → Reply × Session) :
    Reply × Session :=
  match session.holding? holder with
  | none => (.noConnection, session)
  | some connection => action connection

/-- Establish what the holder has. A connect takes its time. -/
def establish (session : Session) (holder : String) (connection : Connection) :
    Reply × Session :=
  let delay := match connection.establishNow? with
    | some _ => 0
    | none => connection.link.delay session.network
  let now := session.now + delay
  let (result, connection, network) := connection.establish session.network now
  (.link result, { session with now := now, network := network }.replace holder connection)

/-- Perform one operation. -/
def perform (session : Session) : Operation → Reply × Session
  | .wait ms => (.done, { session with now := session.now + Duration.ofMilliseconds ms })
  | .failNext count =>
      (.done, { session with network := { session.network with failNext := count } })
  | .failAll on => (.done, { session with network := { session.network with failAll := on } })
  | .connectDelay ms =>
      (.done,
        { session with
          network := { session.network with connectDelay := Duration.ofMilliseconds ms } })
  | .establish holder => session.onHolding holder (session.establish holder)
  | .write holder bytes =>
      session.onHolding holder fun connection =>
        let (result, connection, network) := connection.write bytes session.network session.now
        (.link result, { session with network := network }.replace holder connection)
  | .destroy holder =>
      session.onHolding holder fun connection =>
        let (connection, network) := connection.destroy session.network
        (.done, { session with network := network }.replace holder connection)
  | .makeAvailable holder =>
      session.onHolding holder fun connection =>
        (.done, session.replace holder (connection.makeAvailable session.now))
  | .markInUse holder =>
      session.onHolding holder fun connection =>
        (.done, session.replace holder connection.markInUse)
  | .isStale holder generation =>
      session.onHolding holder fun connection => (.flag (connection.isStale generation), session)
  | .isIdleExpired holder limit ahead back =>
      session.onHolding holder fun connection =>
        (.flag (connection.isIdleExpired limit (session.now + ahead - back)), session)
  | .detach holder taker =>
      session.onHolding holder fun connection =>
        (.done, (session.replace holder connection.shell).give taker connection)
  | .drop holder => session.onHolding holder fun _ => (.done, session.drop holder)
  | .debug holder =>
      session.onHolding holder fun connection => (.text connection.debugText, session)

/-- The network once nobody holds anything any more. -/
def networkAtEnd (session : Session) : Network :=
  session.holders.foldl (fun network entry => (entry.2.destroy network).2) session.network

end Session

end ConnectionPool.Connection
