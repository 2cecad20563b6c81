import ConnectionPool.System

/-!
# Setting up a pool for a scenario

A setup says how the network of a pool behaves from the start and which settings of its
configuration are given. Settings come in a fixed order, so that a later one wins: the periods
and the capacity, then the wire options, then the settings that have names of their own. A plain
pool takes wire options only, has sockets for links and nobody who observes its events.
-/

namespace ConnectionPool.Scenario

/-- How a pool is to be set up. -/
structure Setup where
  connectDelay : Nat := 0
  failNext : Nat := 0
  failAll : Bool := false
  waitQueuePeriod : Option Nat := none
  maintenanceInterval : Option Nat := none
  eventCapacity : Option UInt64 := none
  options : Options := {}
  id : Option UInt32 := none
  address : Option Address := none
  maxPoolSize : Option UInt32 := none
  minPoolSize : Option UInt32 := none
  maxIdleTime : Option Nat := none
  waitQueueSize : Option UInt64 := none
  waitQueueTimeout : Option Nat := none
  sockets : Bool := false
  plain : Bool := false

namespace Setup

/-- The configuration with the settings that are given. Times are in milliseconds. -/
def config (setup : Setup) : Config :=
  if setup.plain then setup.options.apply {}
  else
    let base : Config := {}
    let base := { base with
      waitQueuePeriod :=
        (setup.waitQueuePeriod.map Duration.ofMilliseconds).getD base.waitQueuePeriod
      maintenanceInterval := setup.maintenanceInterval.map Duration.ofMilliseconds
      eventCapacity := setup.eventCapacity.getD base.eventCapacity }
    let config := setup.options.apply base
    let config := { config with
      id := setup.id.getD config.id
      address := setup.address.getD config.address
      maxPoolSize := setup.maxPoolSize.getD config.maxPoolSize
      minPoolSize := setup.minPoolSize.getD config.minPoolSize }
    let config := match setup.maxIdleTime with
      | some ms => config.withMaxIdleTime (Duration.ofMilliseconds ms)
      | none => config
    let config := { config with waitQueueSize := setup.waitQueueSize.getD config.waitQueueSize }
    match setup.waitQueueTimeout with
    | some ms => config.withWaitQueueTimeout (Duration.ofMilliseconds ms)
    | none => config

/-- The links of the pool. -/
def source (setup : Setup) : LinkSource :=
  if setup.sockets || setup.plain then .sockets else .simulated

/-- The network with its script. -/
def network (setup : Setup) : Network :=
  { connectDelay := Duration.ofMilliseconds setup.connectDelay
    failNext := setup.failNext
    failAll := setup.failAll }

/-- Open the pool at this instant. -/
def create (setup : Setup) (now : Instant) : Except ConfigFault Pool :=
  Pool.create setup.config setup.source setup.network now

end Setup

end ConnectionPool.Scenario
