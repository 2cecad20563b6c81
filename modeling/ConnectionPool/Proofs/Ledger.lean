import ConnectionPool.Proofs.Closed
import ConnectionPool.Proofs.Pool.Gone
import Mathlib.Data.List.Induction

/-!
# The log as a ledger

The events of a pool account for its metrics, its generation and its connections. `Records` says
what an operation writes down and counts, with one lemma for each operation, and `Move.records`
that every move is written down in this way. `Passage.tallied` is the conservation of
connections: what is created is closed, still somewhere, or was given up without a word.
-/

namespace ConnectionPool

/-- The metrics after an event. -/
def Metrics.note (metrics : Metrics) : EventKind → Metrics
  | .created _ => { metrics with created := metrics.created + 1 }
  | .closed _ reason => Inventory.countClosed metrics reason
  | .acquired _ => { metrics with succeeded := metrics.succeeded + 1 }
  | .acquisitionFailed _ => { metrics with failed := metrics.failed + 1 }
  | _ => metrics

/-- The reason for which the event tells that a connection was closed. -/
def EventKind.closeReason? : EventKind → Option CloseReason
  | .closed _ reason => some reason
  | _ => none

/-- How many events of the type there are. -/
def EventType.among (type : EventType) (kinds : List EventKind) : Nat :=
  kinds.countP fun kind => kind.type == type

/-- How many events tell that a connection was closed for the reason. -/
def CloseReason.among (reason : CloseReason) (kinds : List EventKind) : Nat :=
  kinds.countP fun kind => kind.closeReason? == some reason

/-- Events are counted in each part of the log. -/
theorem EventType.among_append (type : EventType) (kinds more : List EventKind) :
    type.among (kinds ++ more) = type.among kinds + type.among more :=
  List.countP_append

/-- Closings are counted in each part of the log. -/
theorem CloseReason.among_append (reason : CloseReason) (kinds more : List EventKind) :
    reason.among (kinds ++ more) = reason.among kinds + reason.among more :=
  List.countP_append

/-- The metrics count the events. -/
theorem Metrics.noted (metrics : Metrics) (kinds : List EventKind) :
    kinds.foldl note metrics =
      { created := metrics.created + EventType.created.among kinds
        closed := metrics.closed + EventType.closed.among kinds
        stale := metrics.stale + CloseReason.stale.among kinds
        idle := metrics.idle + CloseReason.idle.among kinds
        succeeded := metrics.succeeded + EventType.acquired.among kinds
        failed := metrics.failed + EventType.acquisitionFailed.among kinds } := by
  induction kinds using List.reverseRecOn with
  | nil => rfl
  | append_singleton kinds kind ih =>
      rw [List.foldl_append, ih]
      simp only [EventType.among_append, CloseReason.among_append]
      cases kind with
      | closed connection reason => cases reason <;> rfl
      | _ => rfl

namespace Inventory

/-- What an operation tells, and that the metrics and the generation go with it. -/
structure Records (stock : Inventory) (kinds : List EventKind) (later : Inventory) : Prop where
  told : later.log.map Event.kind = stock.log.map Event.kind ++ kinds
  metrics : later.metrics = kinds.foldl Metrics.note stock.metrics
  generation : later.generation = stock.generation + EventType.poolCleared.among kinds

variable {stock middle later : Inventory} {kinds more : List EventKind} {connection : Connection}

/-- Nothing is told. -/
theorem Records.silent (hlog : later.log = stock.log) (hmetrics : later.metrics = stock.metrics)
    (hgeneration : later.generation = stock.generation) : stock.Records [] later where
  told := by rw [hlog, List.append_nil]
  metrics := hmetrics
  generation := hgeneration

/-- One event is told and counted. -/
theorem Records.one {kind : EventKind}
    (htold : later.log.map Event.kind = stock.log.map Event.kind ++ [kind])
    (hmetrics : later.metrics = stock.metrics.note kind)
    (hgeneration : later.generation = stock.generation + EventType.poolCleared.among [kind]) :
    stock.Records [kind] later :=
  ⟨htold, hmetrics, hgeneration⟩

/-- Something was done before of which nothing was told. -/
theorem Records.silently (h : middle.Records kinds later) (hlog : middle.log = stock.log)
    (hmetrics : middle.metrics = stock.metrics)
    (hgeneration : middle.generation = stock.generation) : stock.Records kinds later where
  told := by rw [h.told, hlog]
  metrics := by rw [h.metrics, hmetrics]
  generation := by rw [h.generation, hgeneration]

/-- What is told first and then is told in this order. -/
theorem Records.trans (first : stock.Records kinds middle) (second : middle.Records more later) :
    stock.Records (kinds ++ more) later where
  told := by rw [second.told, first.told, List.append_assoc]
  metrics := by rw [second.metrics, first.metrics, List.foldl_append]
  generation := by
    rw [second.generation, first.generation, EventType.among_append, Nat.add_assoc]

/-- A connection that is discarded is counted. -/
theorem Records.discard (stock : Inventory) (connection : Connection) (reason : CloseReason) :
    stock.Records [.closed connection.info reason] (stock.discard connection reason) :=
  .one (discard_kinds _ _ _) (by rw [discard_eq]; rfl) (by rw [discard_eq]; rfl)

/-- A connection that is reclaimed is counted if it is closed. -/
theorem Records.reclaim (stock : Inventory) (connection : Connection) :
    ∃ kinds, stock.Records kinds (stock.reclaim connection) := by
  cases hreason : stock.returnReason? connection with
  | none =>
      rw [reclaim_wanted hreason]
      exact ⟨_, .silent rfl rfl rfl⟩
  | some reason =>
      rw [reclaim_unwanted hreason]
      exact ⟨_, (Records.discard _ _ _).silently rfl rfl rfl⟩

/-- A connection that is released is counted if it is closed. -/
theorem Records.release (hknown : connection.id ∈ stock.checkedOut) (force : Bool) :
    ∃ kinds, stock.Records kinds (stock.release connection force).2 := by
  rcases release_known hknown force with ⟨-, hstock⟩ | ⟨reason, hstock⟩
  · rw [hstock]
    exact ⟨_, .one (emit_kinds _ _) rfl rfl⟩
  · rw [hstock]
    have htold : stock.Records _ ((stock.giveBack connection).emit (.released connection.info)) :=
      .one (emit_kinds _ _) rfl rfl
    exact ⟨_, htold.trans (.discard _ _ _)⟩

/-- The metrics and the generation are what the log says. -/
structure Recorded (stock : Inventory) : Prop where
  metrics : stock.metrics = (stock.log.map Event.kind).foldl Metrics.note {}
  generation : stock.generation = EventType.poolCleared.among (stock.log.map Event.kind)

/-- What is written down keeps the records in order. -/
theorem Recorded.after (h : stock.Recorded) (hrecords : stock.Records kinds later) :
    later.Recorded where
  metrics := by rw [hrecords.metrics, hrecords.told, List.foldl_append, ← h.metrics]
  generation := by rw [hrecords.generation, hrecords.told, EventType.among_append, ← h.generation]

end Inventory

variable {h h' : Holdings} {kinds : List EventKind} {connection : Connection} {given lost : Nat}

open Inventory (Records Recorded)

/-- Every move is written down. -/
theorem Move.records (move : Move h h') : ∃ kinds, h.stock.Records kinds h'.stock := by
  cases move with
  | started | failed | cleared | readied | produced | reserved | stocked =>
      exact ⟨_, .one (Inventory.emit_kinds _ _) rfl rfl⟩
  | elapsed | scripted | reused | dialled | handled | filled => exact ⟨_, .silent rfl rfl rfl⟩
  | retired | evicted | forfeited | refused | abandoned =>
      exact ⟨_, (Records.discard _ _ _).silently rfl rfl rfl⟩
  | @unwanted connection =>
      have htold : h.stock.Records _ ({ h.stock with pending := h.stock.pending - 1 }.emit
          (.ready connection.info)) := .one (Inventory.emit_kinds _ _) rfl rfl
      exact ⟨_, htold.trans (.discard _ _ _)⟩
  | reclaimed => exact Records.reclaim _ _
  | released held known force => exact Records.release known force

/-- Every step keeps the records in order. -/
theorem Step.recorded (step : Step h given h') (hrecorded : h.stock.Recorded) :
    h'.stock.Recorded := by
  refine step.preserves (P := fun h => h.stock.Recorded) ?_ ?_ ?_ ?_ ?_ hrecorded
  · intro h h' move hrecorded
    obtain ⟨kinds, hrecords⟩ := move.records
    exact hrecorded.after hrecords
  · intro connection h h' announced hrecorded
    cases announced with
    | mk => exact hrecorded.after (.one (Inventory.emit_kinds _ _) rfl rfl)
  · exact fun hrecorded => hrecorded.after (.silent rfl rfl rfl)
  · exact fun hrecorded => hrecorded.after (.silent rfl rfl rfl)
  · exact fun hrecorded => hrecorded.after (.one (Inventory.emit_kinds _ _) rfl rfl)

/-! ## Conservation of connections -/

/-- The connections that are on loan. -/
def Holdings.lent (h : Holdings) : Nat :=
  h.places.countP fun x => x.1 = .lent

/-- The connections that are on loan are those of the borrowers. -/
theorem Holdings.lent_borrowed (h : Holdings) : h.lent = h.borrowed.card := by
  simp [Holdings.lent, Holdings.places, placed, Multiset.countP_map]

/-- What is created is closed, at some place, or lost; and what is acquired is released or on
loan. -/
structure Holdings.Tallied (h : Holdings) (lost : Nat) : Prop where
  created : EventType.created.among h.kinds =
    EventType.closed.among h.kinds + h.places.card + lost
  acquired : EventType.acquired.among h.kinds = EventType.released.among h.kinds + h.lent

/-- Events that are not about a connection are no matter of the tally. -/
theorem among_silent (silent : ∀ kind ∈ kinds, kind.connection? = none) {type : EventType}
    (htype : type ∈ [EventType.created, .closed, .acquired, .released]) :
    type.among kinds = 0 := by
  refine List.countP_eq_zero.2 ?_
  intro kind hkind
  have hsilent := silent kind hkind
  cases kind with
  | created | ready | closed | acquired | released => cases hsilent
  | _ =>
      simp only [List.mem_cons, List.not_mem_nil, or_false] at htype
      rcases htype with rfl | rfl | rfl | rfl <;> simp [EventKind.type]

/-- A connection that lives on is neither created nor closed, and what is told of its loan is
so. -/
theorem Life.tally {stock : Inventory} {place place' : Place} {connection' : Connection}
    (life : Life stock connection place kinds place' connection') :
    EventType.created.among kinds = EventType.closed.among kinds ∧
      (if place' = .lent then 1 else 0) + EventType.released.among kinds =
        (if place = .lent then 1 else 0) + EventType.acquired.among kinds := by
  cases life with
  | _ => exact ⟨rfl, rfl⟩

/-- A connection that goes for good is closed, and is released if it was on loan. -/
theorem Death.tally {place : Place} (death : Death connection place kinds) :
    EventType.created.among kinds + 1 = EventType.closed.among kinds ∧
      EventType.released.among kinds =
        (if place = .lent then 1 else 0) + EventType.acquired.among kinds := by
  cases death with
  | closed back reason =>
      rw [if_neg back]
      exact ⟨rfl, rfl⟩
  | returned | unwanted => exact ⟨rfl, rfl⟩

/-- What a passage adds to the places and to the loans is what is told of it. -/
theorem Passage.tally (passage : Passage h kinds h') :
    h'.places.card + EventType.closed.among kinds =
        h.places.card + EventType.created.among kinds ∧
      h'.lent + EventType.released.among kinds = h.lent + EventType.acquired.among kinds := by
  unfold Holdings.lent
  cases passage with
  | still same count silent =>
      rw [same, among_silent silent (by simp), among_silent silent (by simp),
        among_silent silent (by simp), among_silent silent (by simp)]
      exact ⟨rfl, rfl⟩
  | born new after =>
      rw [after, Multiset.card_cons, Multiset.countP_cons]
      rcases new with rfl | rfl
      · exact ⟨rfl, rfl⟩
      · exact ⟨rfl, rfl⟩
  | lives rest before after count life =>
      obtain ⟨hcreated, hlent⟩ := life.tally
      rw [before, after, Multiset.card_cons, Multiset.card_cons, Multiset.countP_cons,
        Multiset.countP_cons]
      dsimp only
      exact ⟨by omega, by omega⟩
  | dies place before count death =>
      obtain ⟨hclosed, hlent⟩ := death.tally
      rw [before, Multiset.card_cons, Multiset.countP_cons]
      dsimp only
      exact ⟨by omega, by omega⟩

/-- A passage keeps the tally. -/
theorem Passage.tallied (passage : Passage h kinds h') (htold : h'.kinds = h.kinds ++ kinds)
    (htally : h.Tallied lost) : h'.Tallied lost := by
  obtain ⟨hplaces, hlent⟩ := passage.tally
  obtain ⟨hcreated, hacquired⟩ := htally
  refine ⟨?_, ?_⟩
  · rw [htold, EventType.among_append, EventType.among_append]
    omega
  · rw [htold, EventType.among_append, EventType.among_append]
    omega

/-- Idle connections that are given up are lost. -/
theorem Holdings.Tallied.scrap (htally : h.Tallied lost) :
    h.scrap.Tallied (lost + h.stock.available.length) := by
  obtain ⟨hcreated, hacquired⟩ := htally
  have hidle : (((h.stock.available : Multiset Connection).map (Prod.mk Place.idle)).countP
      fun x => x.1 = .lent) = 0 := by
    simp
  rw [Holdings.lent, h.scrap_places, Multiset.countP_add, hidle, Nat.zero_add] at hacquired
  rw [h.scrap_places, Multiset.card_add, Multiset.card_map, Multiset.coe_card] at hcreated
  refine ⟨hcreated.trans ?_, hacquired⟩
  show EventType.closed.among h.kinds + _ + lost = EventType.closed.among h.kinds + _ + _
  omega

/-- Every step keeps the tally, and loses the idle connections that it gives up. -/
theorem Step.tallied (step : Step h given h') (htally : h.Tallied lost) :
    h'.Tallied (lost + given) := by
  have hmove : ∀ {h h' : Holdings}, Move h h' → h.Tallied lost → h'.Tallied lost := by
    intro h h' move htally
    obtain ⟨kinds, passage, htold⟩ := move.passage
    exact passage.tallied htold htally
  cases step with
  | turn turn =>
      cases turn with
      | moves moves => exact moves.preserves hmove htally
      | announced moves last =>
          obtain ⟨passage, htold⟩ := last.passage
          exact passage.tallied htold (moves.preserves hmove htally)
  | closed isOpen moves =>
      have hshut : h.shut.Tallied lost := ⟨htally.created, htally.acquired⟩
      obtain ⟨passage, htold⟩ := Holdings.report_passage _
      exact passage.tallied htold (moves.preserves hmove hshut)
  | destroyed =>
      have hshut : h.shut.Tallied lost := ⟨htally.created, htally.acquired⟩
      exact hshut.scrap
  | forsaken moves => exact (moves.preserves hmove htally).scrap

namespace Pool

variable {pool opened : Pool} {action : Action}

/-- The log and the metrics of a reachable pool agree. -/
theorem Reachable.recorded (h : pool.Reachable) : pool.stock.Recorded := by
  refine h.invariant (P := fun h => h.stock.Recorded) ?_ fun _ step => step.recorded
  exact fun _ _ _ _ => ⟨rfl, rfl⟩

/-- A count of the actions of a history, each in the pool in which it is taken. -/
def sum (count : Pool → Action → Nat) (pool : Pool) : List Action → Nat
  | [] => 0
  | action :: rest => count pool action + sum count (pool.after action) rest

/-- The idle connections that are given up without a word because an open pool is destroyed. -/
def silenced (pool : Pool) (action : Action) : Nat :=
  if action = .destroy ∧ pool.held = true ∧ pool.isClosed = false then
    pool.stock.available.length
  else 0

/-- Idle connections are given up without a word if an open pool is destroyed, or when the pool
goes. -/
theorem Reachable.scraps_split (h : pool.Reachable) (action : Action) :
    pool.scraps action = pool.silenced action + pool.forsaken action := by
  by_cases hdestroy : action = .destroy
  · subst hdestroy
    cases hheld : pool.held with
    | false => simp [scraps, silenced, hheld]
    | true =>
        rw [(after_destroy h.sound.1 hheld).2.2, Nat.add_zero]
        cases hclosed : pool.isClosed with
        | false => simp [scraps, silenced, hheld, hclosed]
        | true => simp [scraps, silenced, hheld, hclosed, h.shut_empty hclosed]
  · have hscraps : pool.scraps action = pool.forsaken action := by
      cases action with
      | destroy => exact absurd rfl hdestroy
      | _ => rfl
    rw [hscraps, silenced, if_neg fun hboth => hdestroy hboth.1, Nat.zero_add]

/-- A history keeps the tally, and loses the idle connections that are given up in it. -/
theorem Reachable.run_tallied {lost : Nat} (h : pool.Reachable)
    (htally : pool.holdings.Tallied lost)
    (history : List Action) :
    (pool.run history).holdings.Tallied
      (lost + (pool.sum silenced history + pool.sum forsaken history)) := by
  induction history generalizing pool lost with
  | nil => exact htally
  | cons action rest ih =>
      have hstep := (h.step action).tallied htally
      have hrest := ih (h.after action) hstep
      rw [h.scraps_split action] at hrest
      have hsum : lost + (pool.silenced action + pool.forsaken action) +
          ((pool.after action).sum silenced rest + (pool.after action).sum forsaken rest) =
          lost + (pool.sum silenced (action :: rest) + pool.sum forsaken (action :: rest)) := by
        simp only [sum]
        omega
      rw [hsum] at hrest
      exact hrest

/-- Nothing was given up with a pool in which somebody has a part now. -/
theorem none_forsaken (history : List Action) (halive : (pool.run history).isAlive = true) :
    pool.sum forsaken history = 0 := by
  induction history generalizing pool with
  | nil => rfl
  | cons action rest ih =>
      have hrest : ((pool.after action).run rest).isAlive = true := halive
      rw [sum, ih hrest]
      cases hafter : (pool.after action).isAlive with
      | true => exact forsaken_alive hafter
      | false =>
          have hgone := ((after_gone hafter).run rest).toDeserted
          exact absurd hrest (by simp [not_alive.2 hgone])

/-- Nothing is given up by destroying if no open pool is destroyed. -/
theorem none_silenced (history : List Action)
    (hnone : ∀ prior later, history = prior ++ .destroy :: later →
      (pool.run prior).held = false ∨ (pool.run prior).isClosed = true) :
    pool.sum silenced history = 0 := by
  induction history generalizing pool with
  | nil => rfl
  | cons action rest ih =>
      have hrest : (pool.after action).sum silenced rest = 0 := by
        refine ih fun prior later heq => ?_
        exact hnone (action :: prior) later (by rw [heq]; rfl)
      rw [sum, hrest, silenced, if_neg]
      rintro ⟨rfl, hheld, hopen⟩
      rcases hnone [] rest rfl with hgone | hclosed
      · exact absurd (hgone.symm.trans hheld) Bool.false_ne_true
      · exact absurd (hopen.symm.trans hclosed) Bool.false_ne_true

/-- How many events of the type are in the log of the pool. -/
def count (pool : Pool) (type : EventType) : Nat :=
  type.among (pool.log.map Event.kind)

/-- How many events in the log of the pool tell that a connection was closed for the reason. -/
def closings (pool : Pool) (reason : CloseReason) : Nat :=
  reason.among (pool.log.map Event.kind)

/-- The log accounts for the metrics, the generation and the connections of a pool, of which so
many were lost. The connections that are on the books and not with a borrower are with the
calls: they were served and are neither announced nor given up. -/
structure Ledger (pool : Pool) (lost : Nat) : Prop where
  created : pool.stock.metrics.created = pool.count .created
  closed : pool.stock.metrics.closed = pool.count .closed
  stale : pool.stock.metrics.stale = pool.closings .stale
  idle : pool.stock.metrics.idle = pool.closings .idle
  conserved : pool.count .created = pool.count .closed +
    (pool.stock.available.length + pool.stock.checkedOut.length + pool.stock.pending) + lost
  lent : pool.stock.checkedOut.length + pool.count .released =
    pool.count .acquired + (pool.calls.filterMap fun call => call.phase.connection?).length
  cleared : pool.stock.generation = pool.count .poolCleared

/-- The metrics of a reachable pool count the events in its log. -/
theorem Reachable.metrics_counted (h : pool.Reachable) :
    pool.stock.metrics =
      { created := pool.count .created
        closed := pool.count .closed
        stale := pool.closings .stale
        idle := pool.closings .idle
        succeeded := pool.count .acquired
        failed := pool.count .acquisitionFailed } := by
  rw [h.recorded.metrics, Metrics.noted]
  simp only [Nat.zero_add]
  rfl

/-- A reachable pool of which the tally is known is accounted for by its log. -/
theorem Reachable.ledger {lost : Nat} (h : pool.Reachable) (htally : pool.holdings.Tallied lost) :
    pool.Ledger lost := by
  have hmetrics := h.metrics_counted
  obtain ⟨hcreated, hacquired⟩ := htally
  have hholders : pool.holders.length = pool.stock.checkedOut.length := by
    rw [← h.holders_perm.length_eq, List.length_map]
  have hestablishing : pool.establishing.length = pool.stock.pending := h.pending_counted.symm
  refine ⟨?_, ?_, ?_, ?_, ?_, ?_, h.recorded.generation⟩
  · rw [hmetrics]
  · rw [hmetrics]
  · rw [hmetrics]
  · rw [hmetrics]
  · have hplaces := congrArg Multiset.card pool.places_connections
    rw [Multiset.card_map, Multiset.coe_card, List.length_append, List.length_append, hholders,
      hestablishing] at hplaces
    rw [hplaces] at hcreated
    exact hcreated
  · rw [holders, List.length_append] at hholders
    have hloans : pool.holdings.lent = pool.loans.length := pool.holdings.lent_borrowed
    rw [hloans] at hacquired
    show _ + EventType.released.among pool.holdings.kinds =
      EventType.acquired.among pool.holdings.kinds + _
    omega

/-- The event log is an exact ledger of the connections, after any history. What is not
accounted for are the idle connections that were given up without a word: those of an open pool
that was destroyed, and those of a pool that nobody has a part in any more. -/
theorem log_accounts {config : Config} {source : LinkSource} {network : Network} {now : Instant}
    (hopened : create config source network now = .ok opened) (history : List Action) :
    (opened.run history).Ledger (opened.sum silenced history + opened.sum forsaken history) ∧
      ((opened.run history).isAlive = true → opened.sum forsaken history = 0) ∧
      ((∀ prior later, history = prior ++ .destroy :: later →
          (opened.run prior).held = false ∨ (opened.run prior).isClosed = true) →
        opened.sum silenced history = 0) := by
  have hreachable : opened.Reachable := .opened hopened
  have hstart : opened.holdings.Tallied 0 := by
    rw [(create_coherent hopened).2]
    exact ⟨rfl, rfl⟩
  have htally := hreachable.run_tallied hstart history
  rw [Nat.zero_add] at htally
  exact ⟨(hreachable.run history).ledger htally, none_forsaken history, none_silenced history⟩

/-- The busy small pool is destroyed while one connection is idle, and that one is not accounted
for. -/
theorem destroyed_accounts :
    small.sum silenced (getBusy ++ [.destroy]) = 1 ∧
      (small.run (getBusy ++ [.destroy])).Ledger 1 := by
  have hsilenced : small.sum silenced (getBusy ++ [.destroy]) = 1 := by decide +kernel
  obtain ⟨hledger, hforsaken, -⟩ := log_accounts small_opened (getBusy ++ [.destroy])
  rw [hsilenced, hforsaken (by decide +kernel)] at hledger
  exact ⟨hsilenced, hledger⟩

end Pool

end ConnectionPool
