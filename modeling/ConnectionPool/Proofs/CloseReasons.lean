import ConnectionPool.Proofs.LeastSize
import ConnectionPool.Proofs.Pool.Closings

/-!
# The reasons that are given for closed connections

A connection is closed as stale, as idle for too long, since the pool is closed, by force, or
for an unknown reason. `Truthful` says when each reason may be given and when it has to be, and
`Reachable.truthful` that every action of a reachable pool keeps to that. Several reasons may
hold at once, and then only the first in the order of the pool's checks is told; whoever reads
the events can tell from the reason which of the others do not hold.
-/

namespace ConnectionPool

namespace Inventory

variable {stock : Inventory} {connection : Connection} {reason : CloseReason}

/-- An idle connection is evicted as stale, or else as one that was idle for too long. -/
theorem eviction_reason_some :
    stock.evictionReason? connection = some reason ↔
      (reason = .stale ∧ connection.generation ≠ stock.generation) ∨
        (reason = .idle ∧ connection.generation = stock.generation ∧
          connection.isIdleExpired stock.config.maxIdleTime stock.now = true) := by
  unfold evictionReason? Connection.isStale
  by_cases hcurrent : connection.generation = stock.generation
  · cases connection.isIdleExpired stock.config.maxIdleTime stock.now <;>
      simp [hcurrent, eq_comm]
  · cases reason <;> simp [hcurrent]

/-- A connection that comes back is closed since the pool is, or else as stale. -/
theorem return_reason_some :
    stock.returnReason? connection = some reason ↔
      (reason = .poolClosed ∧ stock.closed = true) ∨
        (reason = .stale ∧ stock.closed = false ∧ connection.generation ≠ stock.generation) := by
  unfold returnReason? Connection.isStale
  by_cases hcurrent : connection.generation = stock.generation
  · cases stock.closed <;> simp [hcurrent, eq_comm]
  · cases stock.closed <;> cases reason <;> simp [hcurrent]

/-- A search leaves the generation as it is. -/
theorem lend_generation (stock : Inventory) : stock.lend.2.generation = stock.generation := by
  obtain ⟨found, hevicts, hfirst⟩ := stock.exists_evicts
  obtain ⟨_, _, _, _, -, -, hframe⟩ := hevicts.frame
  have hsame : found.generation = stock.generation := by rw [hframe]
  rw [lend_eq hevicts hfirst]
  split
  · exact hsame
  · split <;> exact hsame

end Inventory

/-- A connection that has been idle for too long has been so for longer than a limit that is
set. -/
theorem Connection.idle_expired_since {connection : Connection} {limit? : Option Duration}
    {now : Instant} (h : connection.isIdleExpired limit? now = true) :
    ∃ limit since, limit? = some limit ∧ 0 < limit ∧ connection.idleSince = some since ∧
      since + limit < now := by
  unfold isIdleExpired at h
  split at h
  · next limit since hsince =>
      rw [Bool.and_eq_true, bne_iff_ne, decide_eq_true_iff] at h
      exact ⟨limit, since, rfl, Nat.pos_of_ne_zero h.1, hsince, Nat.add_lt_of_lt_sub' h.2⟩
  · cases h

/-- A connection that is idle after a step was so before, or became idle during the step. -/
theorem Step.idle_before {h h' : Holdings} {given : Nat} (step : Step h given h') :
    ∀ connection ∈ h'.stock.available, connection ∈ h.stock.available ∨
      ∃ since, connection.idleSince = some since ∧ h.stock.now ≤ since := by
  -- The clock does not go back during the step, which is what the moves need.
  have hboth : h.stock.now ≤ h'.stock.now ∧ ∀ connection ∈ h'.stock.available,
      connection ∈ h.stock.available ∨
        ∃ since, connection.idleSince = some since ∧ h.stock.now ≤ since := by
    refine step.preserves (P := fun later => h.stock.now ≤ later.stock.now ∧
      ∀ connection ∈ later.stock.available, connection ∈ h.stock.available ∨
        ∃ since, connection.idleSince = some since ∧ h.stock.now ≤ since) ?_ ?_ ?_ ?_ ?_
      ⟨Nat.le_refl _, fun _ hidle => .inl hidle⟩
    · rintro middle later move ⟨hnow, hidle⟩
      refine ⟨hnow.trans move.later.1.now, fun connection hmem => ?_⟩
      rcases move.shelves with hsub | ⟨new, -, hback⟩
      · exact hidle connection (hsub.subset hmem)
      · rw [hback] at hmem
        rcases List.mem_append.1 hmem with hmem | hmem
        · exact hidle connection hmem
        · rw [List.mem_singleton.1 hmem]
          exact .inr ⟨_, rfl, hnow⟩
    · rintro connection middle later announced ⟨hnow, hidle⟩
      cases announced
      exact ⟨hnow, hidle⟩
    · exact fun hboth => hboth
    · exact fun hboth => ⟨hboth.1, fun _ hmem => absurd hmem List.not_mem_nil⟩
    · exact fun hboth => hboth
  exact hboth.2

/-- A connection is closed at most once. -/
theorem Lifetime.closed_once {word : List EventType} (h : Lifetime word) :
    word.count .closed ≤ 1 := by
  have hused : ∀ times, (used times).count .closed = 0 :=
    fun times => List.count_eq_zero.2 (by simp [used])
  cases h with
  | unborn | created | neverReady => decide
  | returned times => rw [hused]; exact Nat.zero_le 1
  | acquired times | closed times => rw [List.count_append, hused]; decide

namespace Pool

variable {pool : Pool} {action : Action} {connection : Connection} {reason : CloseReason}

/-- What the events of an action say of closed connections. -/
structure Truthful (pool : Pool) (action : Action) : Prop where
  /-- Only an open pool closes connections as stale, and they are of an old generation. -/
  stale : ∀ event ∈ pool.news action, ∀ info, event.kind = .closed info .stale →
    pool.isClosed = false ∧ (pool.after action).isClosed = false ∧
      info.generation < event.pool.generation
  /-- Only an open pool closes connections as idle, and they are of its generation and were idle
  for longer than the limit. -/
  idle : ∀ event ∈ pool.news action, ∀ info, event.kind = .closed info .idle →
    pool.isClosed = false ∧ (pool.after action).isClosed = false ∧
      info.generation = event.pool.generation ∧
      ∃ connection ∈ pool.stock.available, connection.info = info ∧
        ∃ limit since, pool.config.maxIdleTime = some limit ∧ 0 < limit ∧
          connection.idleSince = some since ∧ since + limit < event.time
  /-- Only a pool that is closed, or is being closed, closes connections since it is closed. -/
  poolClosed : ∀ event ∈ pool.news action, ∀ info, event.kind = .closed info .poolClosed →
    (pool.after action).isClosed = true ∧ (pool.isClosed = true ∨ action = .close)
  /-- Whoever releases a connection on loan by force has it closed by force, whatever else holds
  of it, and nobody else does. -/
  force : ∀ info, (∃ event ∈ pool.news action, event.kind = .closed info .force) ↔
    action = .release info.id true ∧ pool.held = true ∧
      ∃ connection ∈ pool.loans, connection.info = info
  /-- A connection that could not be established, or whose population is dropped, is closed for
  an unknown reason, and no other is. -/
  unknown : ∀ info, (∃ event ∈ pool.news action, event.kind = .closed info .unknown) ↔
    ∃ connection, pool.lost? action = some connection ∧ connection.info = info
  /-- A connection of an old generation that comes back to an open pool without force, or is
  established then, is closed as stale. -/
  outdated : ∀ connection, pool.judged? action = some connection → pool.isClosed = false →
    connection.generation < pool.stock.generation →
      ∃ event ∈ pool.news action, event.kind = .closed connection.info .stale
  /-- What a search finds is never of an old generation, so that the pool takes it back as it is
  if nobody claims it. -/
  found : ∀ connection lent, pool.stock.lend = (some connection, lent) →
    connection.generation = pool.stock.generation
  /-- No two reasons are given for one connection. -/
  exclusive : ∀ event ∈ (pool.after action).log, ∀ other ∈ (pool.after action).log,
    ∀ info info' reason reason', event.kind = .closed info reason →
      other.kind = .closed info' reason' → info.id = info'.id → reason = reason'

/-! ## When a reason is given -/

/-- What is true when the action closes the connection for this reason. -/
inductive Cause (pool : Pool) (action : Action) (connection : Connection) :
    CloseReason → Prop where
  | evictedStale (sweeps : pool.sweeps action = true) (idle : connection ∈ pool.stock.available)
      (old : connection.generation ≠ pool.stock.generation) : Cause pool action connection .stale
  | evictedIdle (sweeps : pool.sweeps action = true) (idle : connection ∈ pool.stock.available)
      (current : connection.generation = pool.stock.generation)
      (expired : connection.isIdleExpired pool.config.maxIdleTime pool.now = true) :
      Cause pool action connection .idle
  | shut (shuts : pool.shuts action = true) (idle : connection ∈ pool.stock.available) :
      Cause pool action connection .poolClosed
  | returnedLate (judged : pool.judged? action = some connection)
      (closed : pool.isClosed = true) :
      Cause pool action connection .poolClosed
  | returnedStale (judged : pool.judged? action = some connection)
      (isOpen : pool.isClosed = false)
      (old : connection.generation ≠ pool.stock.generation) : Cause pool action connection .stale
  | forced (forced : pool.forced? action = some connection) : Cause pool action connection .force
  | lost (lost : pool.lost? action = some connection) : Cause pool action connection .unknown

/-- An action closes a connection for the reasons that it has, and for no others. -/
theorem closes_cause :
    (connection, reason) ∈ pool.closes action ↔ pool.Cause action connection reason := by
  rw [mem_closes]
  constructor
  · rintro (⟨hsweeps, hidle, hdue⟩ | ⟨hshuts, hidle, rfl⟩ | ⟨hforced, rfl⟩ |
      ⟨hjudged, hunwanted⟩ | ⟨hlost, rfl⟩)
    · rcases Inventory.eviction_reason_some.1 hdue with ⟨rfl, hold⟩ | ⟨rfl, hcurrent, hexpired⟩
      · exact .evictedStale hsweeps hidle hold
      · exact .evictedIdle hsweeps hidle hcurrent hexpired
    · exact .shut hshuts hidle
    · exact .forced hforced
    · rcases Inventory.return_reason_some.1 hunwanted with ⟨rfl, hclosed⟩ | ⟨rfl, hopen, hold⟩
      · exact .returnedLate hjudged hclosed
      · exact .returnedStale hjudged hopen hold
    · exact .lost hlost
  · rintro (⟨hsweeps, hidle, hold⟩ | ⟨hsweeps, hidle, hcurrent, hexpired⟩ | ⟨hshuts, hidle⟩ |
      ⟨hjudged, hclosed⟩ | ⟨hjudged, hopen, hold⟩ | hforced | hlost)
    · exact .inl ⟨hsweeps, hidle, Inventory.eviction_reason_some.2 (.inl ⟨rfl, hold⟩)⟩
    · exact .inl ⟨hsweeps, hidle,
        Inventory.eviction_reason_some.2 (.inr ⟨rfl, hcurrent, hexpired⟩)⟩
    · exact .inr (.inl ⟨hshuts, hidle, rfl⟩)
    · exact .inr (.inr (.inr (.inl
        ⟨hjudged, Inventory.return_reason_some.2 (.inl ⟨rfl, hclosed⟩)⟩)))
    · exact .inr (.inr (.inr (.inl
        ⟨hjudged, Inventory.return_reason_some.2 (.inr ⟨rfl, hopen, hold⟩)⟩)))
    · exact .inr (.inr (.inl ⟨hforced, rfl⟩))
    · exact .inr (.inr (.inr (.inr ⟨hlost, rfl⟩)))

/-- A search is made in an open pool only. -/
theorem sweeps_open (h : pool.Coherent) (hsweeps : pool.sweeps action = true) :
    pool.isClosed = false := by
  cases action with
  | tick id lost =>
      rw [sweeps, Bool.and_eq_true] at hsweeps
      exact (h.asks_open hsweeps.2).1
  | tryAcquire =>
      rw [sweeps, Bool.and_eq_true, Bool.and_eq_true, Bool.not_eq_true'] at hsweeps
      exact hsweeps.1.2
  | _ => cases hsweeps

/-- Destroying a pool tells of no closed connection. -/
theorem Cause.not_destroy (cause : pool.Cause action connection reason) : action ≠ .destroy := by
  rintro rfl
  cases cause with
  | evictedStale sweeps | evictedIdle sweeps => cases sweeps
  | shut shuts => cases shuts
  | returnedLate judged | returnedStale judged => cases judged
  | forced forced => cases forced
  | lost lost => cases lost

/-- Closing the pool closes connections for that reason only, and if it was open. -/
theorem Cause.of_close (cause : pool.Cause .close connection reason) :
    pool.shuts .close = true ∧ reason = .poolClosed := by
  cases cause with
  | evictedStale sweeps | evictedIdle sweeps => cases sweeps
  | shut shuts => exact ⟨shuts, rfl⟩
  | returnedLate judged | returnedStale judged => cases judged
  | forced forced => cases forced
  | lost lost => cases lost

/-- An action that neither closes nor destroys a pool leaves it open or closed. -/
theorem Reachable.after_closed_eq (h : pool.Reachable) (hclose : action ≠ .close)
    (hdestroy : action ≠ .destroy) : (pool.after action).isClosed = pool.isClosed := by
  obtain ⟨hcoherent, hcustody⟩ := h.sound
  have hstep := (step_advances hcoherent hcustody.loans_booked hclose hdestroy).closed_eq
  obtain ⟨calls, queue, wires, departures, hafter⟩ := after_frame pool action
  rw [hafter, collect]
  split <;> exact hstep

/-- A pool is closed after an action that closes a connection if it was closed before, or the
action closes it. -/
theorem Cause.after_closed (cause : pool.Cause action connection reason) (h : pool.Reachable) :
    (pool.after action).isClosed = true ↔ pool.isClosed = true ∨ action = .close := by
  by_cases hclose : action = .close
  · subst hclose
    have hheld : pool.held = true := by
      obtain ⟨hshuts, -⟩ := cause.of_close
      rw [shuts, Bool.and_eq_true] at hshuts
      exact hshuts.1
    simp [closing_shuts h.sound.1 hheld (.inl rfl)]
  · rw [h.after_closed_eq hclose cause.not_destroy, or_iff_left hclose]

/-- The connection that the action closes is of the pool's generation or an earlier one. -/
theorem Cause.aged (cause : pool.Cause action connection reason) (h : pool.Reachable) :
    connection.generation ≤ pool.stock.generation := by
  obtain ⟨place, hplace⟩ := mem_connections.1 (closes_connections (closes_cause.2 cause))
  exact h.aged _ hplace

/-- An open pool that closes a connection for another reason than that it is closed itself stays
open. -/
theorem Cause.after_open (cause : pool.Cause action connection reason) (h : pool.Reachable)
    (hopen : pool.isClosed = false) (hreason : reason ≠ .poolClosed) :
    (pool.after action).isClosed = false := by
  refine Bool.eq_false_iff.2 fun hclosed => ?_
  rcases (cause.after_closed h).1 hclosed with hclosed | rfl
  · rw [hopen] at hclosed
    cases hclosed
  · exact hreason cause.of_close.2

/-- A connection that is closed as stale is not of the generation of the pool, which is open. -/
theorem Cause.stale (cause : pool.Cause action connection .stale) (h : pool.Coherent) :
    pool.isClosed = false ∧ connection.generation ≠ pool.stock.generation := by
  cases cause with
  | evictedStale sweeps idle old => exact ⟨sweeps_open h sweeps, old⟩
  | returnedStale judged isOpen old => exact ⟨isOpen, old⟩

/-- A connection that is closed as idle is, and has been for too long. It is of the generation
of the pool, which is open. -/
theorem Cause.idle (cause : pool.Cause action connection .idle) (h : pool.Coherent) :
    pool.isClosed = false ∧ connection.generation = pool.stock.generation ∧
      connection ∈ pool.stock.available ∧
      connection.isIdleExpired pool.config.maxIdleTime pool.now = true := by
  cases cause with
  | evictedIdle sweeps idle current expired =>
      exact ⟨sweeps_open h sweeps, current, idle, expired⟩

/-- A connection is closed since the pool is closed if it is so already or is being closed. -/
theorem Cause.pool_closed (cause : pool.Cause action connection .poolClosed) :
    pool.isClosed = true ∨ action = .close := by
  cases cause with
  | shut shuts =>
      cases action with
      | close => exact .inr rfl
      | _ => cases shuts
  | returnedLate judged closed => exact .inl closed

/-- A connection is told to be closed for this reason if it is. -/
theorem Reachable.told_iff (h : pool.Reachable) {info : ConnectionInfo} :
    (∃ event ∈ pool.news action, event.kind = .closed info reason) ↔
      ∃ connection, pool.Cause action connection reason ∧ connection.info = info := by
  constructor
  · rintro ⟨event, hnew, hkind⟩
    obtain ⟨-, -, connection, hinfo, hcloses⟩ := h.closed_news hnew hkind
    exact ⟨connection, closes_cause.1 hcloses, hinfo⟩
  · rintro ⟨connection, hcause, rfl⟩
    exact h.closes_told (closes_cause.2 hcause)

/-- A connection is closed by force if a release by force finds it on loan. -/
theorem Reachable.forced_iff_lent (h : pool.Reachable) {info : ConnectionInfo} :
    (∃ connection, pool.forced? action = some connection ∧ connection.info = info) ↔
      action = .release info.id true ∧ pool.held = true ∧
        ∃ connection ∈ pool.loans, connection.info = info := by
  constructor
  · rintro ⟨connection, hforced, rfl⟩
    obtain ⟨id, rfl, hheld, hfind⟩ := forced_iff.1 hforced
    have hid : connection.id = id := by simpa using List.find?_some hfind
    subst hid
    exact ⟨rfl, hheld, connection, List.mem_of_find?_eq_some hfind, rfl⟩
  · rintro ⟨rfl, hheld, connection, hlent, rfl⟩
    exact ⟨connection, forced_iff.2
      ⟨_, rfl, hheld, Keyed.find_of_mem h.sound.2.loans_booked.ids hlent⟩, rfl⟩

/-- What a search finds is of the pool's generation. -/
theorem found_current {lent : Inventory}
    (hlend : pool.stock.lend = (some connection, lent)) :
    connection.generation = pool.stock.generation := by
  have hsame : lent.generation = pool.stock.generation := by
    rw [← pool.stock.lend_generation, hlend]
  exact (Inventory.lend_finds hlend).current.trans hsame

/-- No two reasons are told of one connection. -/
theorem Reachable.one_reason (h : pool.Reachable) {event other : Event}
    {info info' : ConnectionInfo}
    {reason reason' : CloseReason} (hevent : event ∈ pool.log) (hother : other ∈ pool.log)
    (hkind : event.kind = .closed info reason) (hkind' : other.kind = .closed info' reason')
    (hid : info.id = info'.id) : reason = reason' := by
  -- Of the events about the connection at most one is its closing.
  have honce := (h.told.lifetimes info.id).closed_once
  rw [story, List.count, List.countP_map, List.countP_eq_length_filter] at honce
  have hmem : ∀ {seen : Event} {told : ConnectionInfo} {why : CloseReason}, seen ∈ pool.log →
      seen.kind = .closed told why → told.id = info.id →
      EventKind.closed told why ∈ (pool.holdings.kinds.filter fun kind =>
        kind.connection?.any fun other => other.id == info.id).filter
          ((fun type => type == .closed) ∘ EventKind.type) := by
    intro seen told why hseen htold hsame
    refine List.mem_filter.2 ⟨List.mem_filter.2 ⟨?_, by simp [EventKind.connection?, hsame]⟩, rfl⟩
    exact htold ▸ List.mem_map_of_mem hseen
  have hfirst := hmem hevent hkind rfl
  have hsecond := hmem hother hkind' hid.symm
  generalize List.filter _ _ = closings at honce hfirst hsecond
  cases closings with
  | nil => cases hfirst
  | cons kind rest =>
      obtain rfl : rest = [] :=
        List.eq_nil_of_length_eq_zero (Nat.le_zero.1 (Nat.le_of_succ_le_succ honce))
      have hsame := (List.mem_singleton.1 hfirst).trans (List.mem_singleton.1 hsecond).symm
      exact (EventKind.closed.inj hsame).2

/-- The events of an action of a reachable pool give a reason for a closed connection if they
have to, and only if they may. -/
theorem Reachable.truthful (h : pool.Reachable) (action : Action) : pool.Truthful action where
  stale := by
    intro event hnew info hkind
    obtain ⟨-, hgeneration, connection, rfl, hcloses⟩ := h.closed_news hnew hkind
    have hcause := closes_cause.1 hcloses
    obtain ⟨hopen, hold⟩ := hcause.stale h.sound.1
    exact ⟨hopen, hcause.after_open h hopen (by simp),
      hgeneration ▸ lt_of_le_of_ne (hcause.aged h) hold⟩
  idle := by
    intro event hnew info hkind
    obtain ⟨htime, hgeneration, connection, rfl, hcloses⟩ := h.closed_news hnew hkind
    have hcause := closes_cause.1 hcloses
    obtain ⟨hopen, hcurrent, hidle, hexpired⟩ := hcause.idle h.sound.1
    rw [hgeneration, htime]
    exact ⟨hopen, hcause.after_open h hopen (by simp), hcurrent, connection, hidle, rfl,
      Connection.idle_expired_since hexpired⟩
  poolClosed := by
    intro event hnew info hkind
    obtain ⟨-, -, connection, rfl, hcloses⟩ := h.closed_news hnew hkind
    have hcause := closes_cause.1 hcloses
    have hclosed := hcause.pool_closed
    exact ⟨(hcause.after_closed h).2 hclosed, hclosed⟩
  force := by
    intro info
    rw [h.told_iff, ← h.forced_iff_lent]
    refine exists_congr fun connection => and_congr_left fun _ => ?_
    exact ⟨fun cause => by cases cause with | forced forced => exact forced, .forced⟩
  unknown := by
    intro info
    rw [h.told_iff]
    refine exists_congr fun connection => and_congr_left fun _ => ?_
    exact ⟨fun cause => by cases cause with | lost lost => exact lost, .lost⟩
  outdated := by
    intro connection hjudged hopen hold
    exact h.told_iff.2 ⟨connection, .returnedStale hjudged hopen hold.ne, rfl⟩
  found := fun _ _ => found_current
  exclusive := by
    intro event hevent other hother info info' reason reason' hkind hkind' hid
    exact (h.after action).one_reason hevent hother hkind hkind' hid

/-- The events of a history are those of its actions. -/
theorem Reachable.run_news (h : pool.Reachable) (history : List Action) {event : Event}
    (hevent : event ∈ (pool.run history).log) :
    event ∈ pool.log ∨ ∃ before action later, history = before ++ action :: later ∧
      event ∈ (pool.run before).news action := by
  induction history generalizing pool with
  | nil => exact .inl hevent
  | cons first rest ih =>
      rcases ih (h.after first) hevent with hbefore | ⟨before, action, later, rfl, hnew⟩
      · rw [h.after_news first, List.mem_append] at hbefore
        exact hbefore.imp_right fun hnew => ⟨[], first, rest, rfl, hnew⟩
      · exact .inr ⟨first :: before, action, later, rfl, hnew⟩

/-- An idle connection has been idle ever since the instant that it bears. -/
theorem Reachable.idle_ever_since (h : pool.Reachable) (history : List Action) {since : Instant}
    (hidle : connection ∈ (pool.run history).stock.available)
    (hsince : connection.idleSince = some since) (hpast : since < pool.now) :
    connection ∈ pool.stock.available := by
  induction history generalizing pool with
  | nil => exact hidle
  | cons first rest ih =>
      have hstep := h.step first
      have hthere := ih (h.after first) hidle (hpast.trans_le hstep.later.now)
      refine (hstep.idle_before connection hthere).resolve_right ?_
      rintro ⟨other, hother, hlate⟩
      obtain rfl := Option.some.inj (hsince.symm.trans hother)
      exact absurd hpast (Nat.not_lt.2 hlate)

/-- Whatever happens to a pool since it was opened, the reasons that its events give for closed
connections are true, and every event about a closed connection is one of an action for which
that is so. The idle connections have been idle ever since the instants that they bear. -/
theorem reasons_truthful {config : Config} {source : LinkSource} {network : Network}
    {now : Instant}
    {opened : Pool} (hcreate : create config source network now = .ok opened)
    (history : List Action) :
    (∀ action, (opened.run history).Truthful action) ∧
      (∀ event ∈ (opened.run history).log, event.type = .closed →
        ∃ before action later, history = before ++ action :: later ∧
          event ∈ (opened.run before).news action) ∧
      ∀ connection ∈ (opened.run history).stock.available, ∀ since,
        connection.idleSince = some since → ∀ before later, history = before ++ later →
          since < (opened.run before).now → connection ∈ (opened.run before).stock.available := by
  have hopened : opened.Reachable := .opened hcreate
  refine ⟨(hopened.run history).truthful, fun event hevent htype => ?_, ?_⟩
  · refine (hopened.run_news history hevent).resolve_left fun hfirst => ?_
    -- Only the opening was told when the pool was opened.
    have hlog : opened.log = (Holdings.opened config source network now).stock.log :=
      congrArg (fun holdings => holdings.stock.log) (create_coherent hcreate).2
    rw [hlog] at hfirst
    rw [List.mem_singleton.1 hfirst] at htype
    cases htype
  · rintro connection hidle since hsince before later rfl hpast
    rw [run_append] at hidle
    exact (hopened.run before).idle_ever_since later hidle hsince hpast

/-- The small pool gets a connection, lends it and is cleared. -/
def getOutdatedLoan : List Action :=
  openEmpty ++ addOne ++ [.tryAcquire, .clear]

/-- When the outdated connection comes back it is closed as stale, but by force if it is
released so. -/
theorem outdated_loan_closed :
    (∃ event ∈ (small.run getOutdatedLoan).news (.release 2 false),
        event.kind = .closed ⟨2, 0, 0, .localhost⟩ .stale) ∧
      ∃ event ∈ (small.run getOutdatedLoan).news (.release 2 true),
        event.kind = .closed ⟨2, 0, 0, .localhost⟩ .force := by
  obtain ⟨htruthful, -, -⟩ := reasons_truthful small_opened getOutdatedLoan
  have hjudged : ((small.run getOutdatedLoan).judged? (.release 2 false)).map Connection.info =
      some ⟨2, 0, 0, .localhost⟩ := by decide +kernel
  obtain ⟨connection, hjudged, hinfo⟩ := Option.map_eq_some_iff.1 hjudged
  have hold : connection.generation < (small.run getOutdatedLoan).stock.generation := by
    have hborn : connection.generation = 0 := congrArg ConnectionInfo.generation hinfo
    rw [hborn]
    decide +kernel
  refine ⟨?_, ((htruthful _).force _).2 ⟨rfl, by decide +kernel, by decide +kernel⟩⟩
  rw [← hinfo]
  exact (htruthful _).outdated connection hjudged (by decide +kernel) hold

end Pool

end ConnectionPool
