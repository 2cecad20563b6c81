import ConnectionPool.Scenario.Basic

/-!
# Playing a scenario

`Scenario.perform` takes one step and reports it. `Scenario.play` opens the pools and takes all
steps.
-/

namespace ConnectionPool.Scenario

/-- Do something to a pool that needs its handle. -/
def withPool (scenario : Scenario) (slot : Nat) (action : Nat → Pool → Answer × Scenario) :
    Answer × Scenario :=
  match scenario.held? slot with
  | some (index, pool) => action index pool
  | none => (.noPool, scenario)

/-- Take an action at a pool that needs its handle. -/
def command (scenario : Scenario) (slot : Nat) (action : Action) : Answer × Scenario :=
  scenario.withPool slot fun index _ => (.done, (scenario.act index action).2)

/-- Change the script of a pool's network. -/
def script (scenario : Scenario) (slot : Nat) (action : Action) : Answer × Scenario :=
  match scenario.pool? slot with
  | some (index, _) => (.done, (scenario.act index action).2)
  | none => (.done, scenario)

/-- Start a call under a name, unless the name is taken. -/
def call (scenario : Scenario) (slot : Nat) (name : String) (action : Nat → Action) :
    Answer × Scenario :=
  scenario.withPool slot fun index _ =>
    let (ticket, scenario) := scenario.ticket name
    if scenario.isTaken ticket then (.nameTaken, scenario)
    else (.done, (scenario.act index (action ticket)).2)

/-- Keep a connection under a name. -/
def keep (scenario : Scenario) (ticket slot connection : Nat) : Scenario :=
  { scenario with kept := scenario.kept ++ [⟨ticket, slot, connection⟩] }

/-- Try to borrow an idle connection and keep it under a name, unless the name is taken. -/
def tryAcquire (scenario : Scenario) (slot : Nat) (name : String) : Answer × Scenario :=
  scenario.withPool slot fun index _ =>
    let (ticket, scenario) := scenario.ticket name
    if scenario.isTaken ticket then (.nameTaken, scenario)
    else
      match scenario.act index .tryAcquire with
      | (.offered (.ok (some connection)), scenario) =>
          (.connection connection, scenario.keep ticket slot connection.id)
      | (.offered (.error error), scenario) => (.poolError error, scenario)
      | (_, scenario) => (.nothing, scenario)

/-- Release a kept connection to a pool. -/
def release (scenario : Scenario) (slot : Nat) (name : String) (force : Bool) :
    Answer × Scenario :=
  scenario.withPool slot fun index _ =>
    match scenario.borrowed? name with
    | none => (.noConnection, scenario)
    | some (entry, home, _, _) =>
        let (reply, system) := scenario.system.release index home entry.connection force
        let scenario := (scenario.goOn system).forget entry.ticket
        match reply with
        | .returned (.error error) => (.poolError error, scenario)
        | _ => (.ok, scenario)

/-- Take an action at the pool of a kept connection. -/
def use (scenario : Scenario) (name : String) (action : Nat → Action) : Answer × Scenario :=
  match scenario.borrowed? name with
  | none => (.noConnection, scenario)
  | some (entry, home, _, _) =>
      match scenario.act home (action entry.connection) with
      | (.link (.ok ()), scenario) => (.ok, scenario)
      | (.link (.error error), scenario) => (.linkError error, scenario)
      | (_, scenario) => (.done, scenario)

/-- Drop a kept connection. -/
def drop (scenario : Scenario) (name : String) : Answer × Scenario :=
  match scenario.borrowed? name with
  | none => (.noConnection, scenario)
  | some (entry, home, _, _) =>
      (.done, (scenario.act home (.drop entry.connection)).2.forget entry.ticket)

/-- Give up the pending call of the name. -/
def cancel (scenario : Scenario) (name : String) : Answer × Scenario :=
  let (ticket, scenario) := scenario.ticket name
  match scenario.system.pools.findIdx? fun pool => pool.isPending ticket with
  | some index => (.cancelled, (scenario.act index (.cancel ticket)).2)
  | none => (.notRunning, scenario)

/-- Let the next event of the type that the observers of a pool see make the caller of the name go
away. -/
def cancelOn (scenario : Scenario) (slot : Nat) (event name : String) : Answer × Scenario :=
  let (ticket, scenario) := scenario.ticket name
  let observed := (scenario.slots[slot]?).any Slot.observed
  match scenario.pool? slot, EventType.all.find? fun type => type.name == event with
  | some (index, _), some type =>
      (.done, if observed then (scenario.act index (.watch type ticket)).2 else scenario)
  | _, _ => (.done, scenario)

/-- Settle instant after instant until the watcher is done or the limit is reached; at most so
many instants. -/
def watchUntil (slot : Nat) (limit : Instant) : Nat → Watcher → Scenario → Bool × Scenario
  | 0, _, scenario => (false, scenario)
  | fuel + 1, watcher, scenario =>
      let scenario := scenario.settle
      let watcher := match scenario.slots[slot]? with
        | some entry => watcher.poll entry.recorder
        | none => watcher
      if watcher.isDone then (true, scenario)
      else if limit ≤ scenario.system.now then (false, scenario)
      else
        watchUntil slot limit fuel watcher
          { scenario with system := scenario.system.advance limit }

/-- Wait until enough events of the type are on record. -/
def waitFor (scenario : Scenario) (slot : Nat) (event : String) (count milliseconds : Nat) :
    Answer × Scenario :=
  let limit := scenario.system.now + Duration.ofMilliseconds milliseconds
  let (seen, scenario) :=
    scenario.watchUntil slot limit (milliseconds + 1) { typeName := event, count := count }
  (.flag seen, scenario)

/-- Change the recorder of a slot. -/
def changeRecorder (scenario : Scenario) (slot : Nat) (change : Recorder → Recorder) : Scenario :=
  { scenario with
    slots := scenario.slots.modify slot fun entry =>
      { entry with recorder := change entry.recorder } }

/-- Subscribe to the events of a pool from now on. -/
def subscribe (scenario : Scenario) (slot : Nat) (name : String) : Answer × Scenario :=
  scenario.withPool slot fun _ pool =>
    (.done,
      { scenario with
        subscriptions :=
          (scenario.subscriptions.filter fun entry => entry.name != name) ++
            [⟨name, slot, pool.log.length⟩] })

/-- How many events a pool holds back for slow subscribers. -/
def backlog (pool : Pool) : Nat :=
  pool.config.eventCapacity.toNat.nextPowerOfTwo

/-- Receive everything that is there for a subscriber. One that was too slow is told first how
many events it lost. -/
def receive (scenario : Scenario) (name : String) : Answer × Scenario :=
  match scenario.subscriptions.find? fun entry => entry.name == name with
  | none => (.noSubscription, scenario)
  | some entry =>
      match scenario.pool? entry.slot with
      | none => (.noSubscription, scenario)
      | some (_, pool) =>
          let sent := pool.log.length
          let first := max entry.next (sent - backlog pool)
          let lagged := if entry.next < first then [.lagged (first - entry.next)] else []
          let events := (pool.log.drop first).map fun event => .event event.typeName
          let closed := if pool.isAlive then [] else [.closed]
          (.received (lagged ++ events ++ closed),
            { scenario with
              subscriptions := scenario.subscriptions.map fun other =>
                if other.name = name then { other with next := sent } else other })

/-- Subscribe no more. -/
def unsubscribe (scenario : Scenario) (name : String) : Answer × Scenario :=
  (.flag (scenario.subscriptions.any fun entry => entry.name == name),
    { scenario with
      subscriptions := scenario.subscriptions.filter fun entry => entry.name != name })

/-- How many handlers the observers of a pool have: three, or none. -/
def handlers (observed : Bool) : Nat :=
  if observed then 3 else 0

/-- Describe a pool. -/
def info (scenario : Scenario) (slot : Nat) : Answer × Scenario :=
  scenario.withPool slot fun _ pool =>
    let observed := (scenario.slots[slot]?).any Slot.observed
    let subscribers := scenario.subscriptions.countP fun entry => entry.slot == slot
    (.info pool (pool.debugText (handlers observed) subscribers), scenario)

/-- Describe a kept connection. -/
def inspect (scenario : Scenario) (name : String) : Answer × Scenario :=
  match scenario.borrowed? name with
  | none => (.noConnection, scenario)
  | some (_, _, pool, connection) =>
      (.inspected connection scenario.system.now (pool.debugLoan connection), scenario)

/-- The counters of a pool's network; all are zero where no pool was opened. -/
def networkOf (scenario : Scenario) (slot : Nat) : Network :=
  match scenario.pool? slot with
  | some (_, pool) => pool.stock.network
  | none => {}

/-- The step itself. -/
def take (scenario : Scenario) : Step → Answer × Scenario
  | .acquire slot name => scenario.call slot name .acquire
  | .ensureMin slot name => scenario.call slot name .populate
  | .tryAcquire slot name => scenario.tryAcquire slot name
  | .release slot name force => scenario.release slot name force
  | .drop name => scenario.drop name
  | .write name bytes => scenario.use name fun connection => .write connection bytes
  | .establish name => scenario.use name .establish
  | .destroyConnection name => scenario.use name .destroyConnection
  | .inspect name => scenario.inspect name
  | .cancel name => scenario.cancel name
  | .cancelOn slot event name => scenario.cancelOn slot event name
  | .clear slot => scenario.command slot .clear
  | .close slot => scenario.command slot .close
  | .destroy slot => scenario.command slot .destroy
  | .dropPool slot => scenario.command slot .dropHandle
  | .failNext slot count => scenario.script slot (.failNext count)
  | .failAll slot on => scenario.script slot (.failAll on)
  | .connectDelay slot ms => scenario.script slot (.connectDelay (Duration.ofMilliseconds ms))
  | .network slot => (.network (scenario.networkOf slot), scenario)
  | .wait ms => (.done, { scenario with system := scenario.system.wait ms })
  | .waitFor slot event count ms => scenario.waitFor slot event count ms
  | .recorded slot =>
      (.types (((scenario.slots[slot]?).map fun entry =>
        entry.recorder.events.map Event.typeName).getD []), scenario)
  | .clearRecorder slot => (.done, scenario.changeRecorder slot Recorder.clear)
  | .subscribe slot name => scenario.subscribe slot name
  | .receive name => scenario.receive name
  | .unsubscribe name => scenario.unsubscribe name
  | .metrics slot =>
      scenario.withPool slot fun _ pool =>
        (.metrics pool.stock.metrics (pool.now - pool.openedAt), scenario)
  | .info slot => scenario.info slot

/-- Keep the connections of the calls that have ended since the last report. -/
def keepEnded (scenario : Scenario) (slot : Nat) (ended : List Completion) : Scenario :=
  ended.foldl (fun scenario completion =>
    match completion.result with
    | .acquired connection => scenario.keep completion.call slot connection.id
    | _ => scenario) scenario

/-- The ends of calls by instant and name. -/
def sortEnded (ended : List (Instant × String × CallResult)) :
    List (Instant × String × CallResult) :=
  ended.mergeSort fun left right =>
    left.1 < right.1 || (left.1 == right.1 && decide (left.2.1 ≤ right.2.1))

/-- Report what happened since the last report. -/
def report (scenario : Scenario) (answer : Answer) : Report × Scenario :=
  let scenario := scenario.settle
  let news := scenario.slots.zipIdx.map fun (slot, index) =>
    match slot.pool.bind (scenario.system.pools[·]?) with
    | some pool => (index, pool.results.drop slot.ended)
    | none => (index, [])
  let ended := news.flatMap fun (_, ended) => ended.map fun completion =>
    (completion.time, scenario.names[completion.call]?.getD "", completion.result)
  let events := (scenario.system.log.drop scenario.reported).filterMap fun (index, event) =>
    (scenario.observedSlot? index).map fun slot => (slot, event)
  let scenario := news.foldl (fun scenario (index, ended) =>
    scenario.keepEnded index ended) scenario
  let slots := scenario.slots.map fun slot =>
    match slot.pool.bind (scenario.system.pools[·]?) with
    | some pool => { slot with ended := pool.results.length }
    | none => slot
  let status := scenario.slots.map fun slot =>
    ((slot.pool.bind (scenario.system.pools[·]?)).filter Pool.held).map fun pool =>
      (pool.status, pool.isClosed)
  (⟨scenario.system.now, answer, sortEnded ended, events, status⟩,
    { scenario with slots := slots, reported := scenario.system.log.length })

/-- Take one step and report it. -/
def perform (scenario : Scenario) (step : Step) : Report × Scenario :=
  let (answer, scenario) := scenario.take step
  scenario.report answer

/-- Open a pool, wait until it is open and report it. -/
def openPool (scenario : Scenario) (setup : Setup) : Report × Scenario :=
  let observed := !setup.plain
  match setup.create scenario.system.now with
  | .error fault =>
      let slots := scenario.slots ++ [{ pool := none, observed := observed }]
      report { scenario with slots := slots } (.poolError (.configuration fault.message))
  | .ok pool =>
      let slots := scenario.slots ++
        [{ pool := some scenario.system.pools.length, observed := observed }]
      report { scenario with system := scenario.system.openPool pool, slots := slots } .ok

/-- Open the pools and take the steps. -/
def play (setups : List Setup) (steps : List Step) : List Report × Scenario :=
  let opened := setups.foldl (fun (reports, scenario) setup =>
    let (report, scenario) := openPool scenario setup
    (reports ++ [report], scenario)) (([], {}) : List Report × Scenario)
  steps.foldl (fun (reports, scenario) step =>
    let (report, scenario) := scenario.perform step
    (reports ++ [report], scenario)) opened

/-- The pool when everybody lets go of it: the callers, the borrowers, the holder of the handle
and the maintenance task, in this order. -/
def farewell (pool : Pool) : Pool :=
  let pool := pool.calls.foldl (fun pool call => pool.after (.cancel call.id)) pool
  let pool := pool.populations.foldl (fun pool population =>
    match population.owner with
    | .call id => pool.after (.cancel id)
    | _ => pool) pool
  let pool := pool.loans.foldl (fun pool connection => pool.after (.drop connection.id)) pool
  ((pool.after .dropHandle).abandonPopulation .maintenance).collect

end ConnectionPool.Scenario
