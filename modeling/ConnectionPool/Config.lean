import ConnectionPool.Address
import ConnectionPool.Clock
import ConnectionPool.Options

/-!
# Pool configuration

A configuration has every setting of a pool. A limit of zero means no limit, both for the sizes
and for the two durations. Wire options are applied to a configuration and read off one; lengths
of time are whole milliseconds there.
-/

namespace ConnectionPool

/-- The settings of a pool. A maximum size of 0 is unbounded, and so is a queue size of 0. -/
structure Config where
  id : UInt32 := 0
  address : Address := Address.localhost
  maxPoolSize : UInt32 := 100
  minPoolSize : UInt32 := 0
  maxIdleTime : Option Duration := none
  waitQueueSize : UInt64 := 0
  waitQueueTimeout : Option Duration := none
  waitQueuePeriod : Duration := Duration.ofMilliseconds 10
  maintenanceInterval : Option Duration := none
  eventCapacity : UInt64 := 1024
  deriving DecidableEq, Repr

/-- Why a configuration is refused. -/
inductive ConfigFault where
  | minAboveMax
  | zeroPeriod
  | zeroInterval
  | zeroCapacity
  deriving DecidableEq, Repr

/-- The message for the cause. -/
def ConfigFault.message : ConfigFault → String
  | .minAboveMax => "min_pool_size cannot be greater than max_pool_size"
  | .zeroPeriod => "wait_queue_period must be greater than 0"
  | .zeroInterval => "maintenance_interval must be greater than 0"
  | .zeroCapacity => "event_capacity must be greater than 0"

/-- A duration as a limit; zero is no limit. -/
def limitOf (d : Duration) : Option Duration :=
  if d = 0 then none else some d

/-- The milliseconds of a limit on the wire, at most the greatest number of 64 bits; zero for no
limit. -/
def limitMilliseconds (limit : Option Duration) : UInt64 :=
  match limit with
  | none => 0
  | some d => UInt64.ofNat (min d.milliseconds (UInt64.size - 1))

namespace Config

instance : Inhabited Config := ⟨{}⟩

/-- Set how long a connection may be idle. -/
def withMaxIdleTime (config : Config) (d : Duration) : Config :=
  { config with maxIdleTime := limitOf d }

/-- Set how long an acquisition may wait in the queue. -/
def withWaitQueueTimeout (config : Config) (d : Duration) : Config :=
  { config with waitQueueTimeout := limitOf d }

/-- The pool has no size limit. -/
def isUnbounded (config : Config) : Bool :=
  config.maxPoolSize == 0

/-- The wire options that the configuration corresponds to; all are set. -/
def options (config : Config) : Options where
  maxPoolSize := some (Int64.ofNat config.maxPoolSize.toNat)
  minPoolSize := some (UInt64.ofNat config.minPoolSize.toNat)
  maxIdleTimeMS := some (limitMilliseconds config.maxIdleTime)
  waitQueueSize := some config.waitQueueSize
  waitQueueTimeoutMS := some (limitMilliseconds config.waitQueueTimeout)

/-- Refuse a configuration that no pool can have; of several faults the first in this order is
reported. -/
def validate (config : Config) : Except ConfigFault Unit :=
  if !config.isUnbounded && config.minPoolSize > config.maxPoolSize then .error .minAboveMax
  else if config.waitQueuePeriod = 0 then .error .zeroPeriod
  else if config.maintenanceInterval = some 0 then .error .zeroInterval
  else if config.eventCapacity = 0 then .error .zeroCapacity
  else .ok ()

end Config

/-- The number as 32 bits; a greater one counts as the greatest of 32 bits. -/
def saturate32 (n : Nat) : UInt32 :=
  UInt32.ofNat (min n (UInt32.size - 1))

/-- Apply the options that are set. A maximum size that is not positive is unbounded. -/
def Options.apply (options : Options) (config : Config) : Config :=
  let config := match options.maxPoolSize with
    | some size => { config with maxPoolSize := saturate32 size.toInt.toNat }
    | none => config
  let config := match options.minPoolSize with
    | some size => { config with minPoolSize := saturate32 size.toNat }
    | none => config
  let config := match options.maxIdleTimeMS with
    | some ms => config.withMaxIdleTime (Duration.ofMilliseconds ms.toNat)
    | none => config
  let config := match options.waitQueueSize with
    | some size => { config with waitQueueSize := size }
    | none => config
  match options.waitQueueTimeoutMS with
  | some ms => config.withWaitQueueTimeout (Duration.ofMilliseconds ms.toNat)
  | none => config

/-- The default configuration with the options applied. -/
def Config.ofOptions (options : Options) : Config :=
  options.apply {}

/-- One setting that a caller makes. A maintenance interval switches maintenance on. -/
inductive Setting where
  | id (id : UInt32)
  | address (address : Address)
  | maxPoolSize (size : UInt32)
  | minPoolSize (size : UInt32)
  | maxIdleTime (d : Duration)
  | waitQueueSize (size : UInt64)
  | waitQueueTimeout (d : Duration)
  | waitQueuePeriod (d : Duration)
  | maintenanceInterval (d : Duration)
  | eventCapacity (capacity : UInt64)
  | options (options : Options)
  deriving DecidableEq, Repr

namespace Config

/-- The configuration with one more setting made. -/
def set (config : Config) : Setting → Config
  | .id id => { config with id := id }
  | .address address => { config with address := address }
  | .maxPoolSize size => { config with maxPoolSize := size }
  | .minPoolSize size => { config with minPoolSize := size }
  | .maxIdleTime d => config.withMaxIdleTime d
  | .waitQueueSize size => { config with waitQueueSize := size }
  | .waitQueueTimeout d => config.withWaitQueueTimeout d
  | .waitQueuePeriod d => { config with waitQueuePeriod := d }
  | .maintenanceInterval d => { config with maintenanceInterval := some d }
  | .eventCapacity capacity => { config with eventCapacity := capacity }
  | .options options => options.apply config

/-- The default configuration with the settings made, one after the other. -/
def ofSettings (settings : List Setting) : Config :=
  settings.foldl set {}

end Config

end ConnectionPool
