import ConnectionPool.Proofs.Evictions
import ConnectionPool.Proofs.WorkConserving

/-!
# Acquisitions that do not wait

Who tries to borrow a connection without waiting is lent the same one as the head of the line
would be, or none: `Reachable.tried_as_searched`. None is lent unless the first idle connection
that may still be used is established, `Reachable.lent_from_front`, so that a new connection at
the front hides the established ones behind it. An attempt that lends none still closes the idle
connections that are not to be used any more, and tells that: `Reachable.none_told`.
-/

namespace ConnectionPool

namespace Inventory

variable {stock found lent : Inventory} {connection : Connection}

/-- The two inventories have the same connections and counts, but for what was told of
acquisitions and how many of them succeeded. -/
structure Alike (stock other : Inventory) : Prop where
  available : other.available = stock.available
  checkedOut : other.checkedOut = stock.checkedOut
  pending : other.pending = stock.pending
  generation : other.generation = stock.generation
  nextConnection : other.nextConnection = stock.nextConnection
  network : other.network = stock.network
  created : other.metrics.created = stock.metrics.created
  closed : other.metrics.closed = stock.metrics.closed
  stale : other.metrics.stale = stock.metrics.stale
  idle : other.metrics.idle = stock.metrics.idle

/-- What the search for the head of the line comes to where no established connection is first:
the first idle connection, which is to be established or dead; a new one; or nothing. -/
inductive Resorts (swept : Inventory) : Option Connection → Inventory → Prop where
  | unready {first : Connection} {rest : List Connection} (idle : swept.available = first :: rest)
      (unready : first.established = false) :
      Resorts swept (some first.markInUse) ({ swept with available := rest }.checkOut first).2
  | created (noneIdle : swept.available = []) (room : swept.hasCapacity = true) :
      Resorts swept (some swept.newborn) (swept.create.2.checkOut swept.newborn).2
  | nothing (noneIdle : swept.available = []) (full : swept.hasCapacity = false) :
      Resorts swept none swept

/-- Evictions are told as closed connections, and as nothing else. -/
theorem Evicts.closings (h : stock.Evicts found) :
    ∃ closings, found.log = stock.log ++ closings ∧ ∀ event ∈ closings, event.type = .closed := by
  induction h with
  | refl => exact ⟨[], (List.append_nil _).symm, by simp⟩
  | step _ _ _ ih =>
      rw [discard_eq] at ih
      obtain ⟨closings, hlog, hclosed⟩ := ih
      refine ⟨_ :: closings, hlog.trans (List.append_assoc _ [_] _), ?_⟩
      exact List.forall_mem_cons.2 ⟨rfl, hclosed⟩

/-- The connections that are left after the evictions are those that may still be used. -/
theorem Ranked.usable_eq (h : stock.Ranked) (hevicts : stock.Evicts found)
    (hfirst : ∀ first ∈ found.available.head?, found.evictionReason? first = none) :
    stock.usable = found.available := by
  obtain ⟨gone, network, metrics, log, hgone, hdue, hframe⟩ := hevicts.frame
  have hswept := h.evicts_swept hevicts hfirst
  have hnone : { stock with available := gone }.usable = [] := usable_eq_nil hdue
  have hall : { stock with available := found.available }.usable = found.available := by
    refine List.filter_eq_self.2 fun connection hidle => ?_
    obtain ⟨hfresh, hrecent⟩ := hswept.usable connection hidle
    rw [hframe] at hfresh hrecent
    simp only [hfresh, hrecent, Bool.not_false, Bool.and_self]
  rw [usable, hgone, List.filter_append]
  exact (congrArg (· ++ _) hnone).trans hall

/-- All idle connections may still be used if and only if none is due. -/
theorem usable_eq_available : stock.usable = stock.available ↔
    stock.due stock.available = [] := by
  rw [usable, List.filter_eq_self, due, List.filterMap_eq_nil_iff]
  refine forall₂_congr fun connection _ => ?_
  rw [Option.map_eq_none_iff, eviction_reason_none, Bool.and_eq_true, Bool.not_eq_true',
    Bool.not_eq_true', Connection.isStale, bne_eq_false_iff_eq]

/-- A search is silent if and only if all idle connections may still be used. -/
theorem Ranked.evicts_silent (h : stock.Ranked) (hevicts : stock.Evicts found)
    (hfirst : ∀ first ∈ found.available.head?, found.evictionReason? first = none) :
    found.log = stock.log ↔ stock.usable = stock.available := by
  have htold := h.evicts_due hevicts hfirst
  rw [usable_eq_available]
  constructor
  · intro hsilent
    rw [notices, notices, hsilent, List.self_eq_append_right] at htold
    exact List.map_eq_nil_iff.1 htold
  · intro hnone
    obtain ⟨closings, hlog, -⟩ := hevicts.closings
    rw [hnone, List.map_nil, List.append_nil, notices, notices, hlog, List.map_append,
      List.append_right_eq_self] at htold
    rw [hlog, List.map_eq_nil_iff.1 htold, List.append_nil]

end Inventory

namespace Pool

variable {pool next : Pool} {connection : Connection} {found : Inventory}

/-- An attempt on an open pool with nobody in line is one to lend an idle connection. -/
theorem try_acquire_eq (hopen : pool.isClosed = false) (hnobody : pool.queue.members = []) :
    pool.tryAcquire =
      match pool.stock.lendIdle with
      | (some connection, stock) =>
          (.ok (some connection.info),
            { pool with stock := stock, loans := pool.loans ++ [connection] })
      | (none, stock) => (.ok none, { pool with stock := stock }) := by
  have hstill : ¬ pool.isClosed = true := by simp [hopen]
  have hempty : pool.queue.members.isEmpty = true := by simp [hnobody]
  exact (if_neg hstill).trans (if_pos hempty)

/-- What an attempt comes to after the evictions: the first connection that is left is lent if
it is established. -/
theorem try_acquire_found (hopen : pool.isClosed = false) (hnobody : pool.queue.members = [])
    (hevicts : pool.stock.Evicts found)
    (hfirst : ∀ first ∈ found.available.head?, found.evictionReason? first = none) :
    (∃ first rest, found.available = first :: rest ∧ first.established = true ∧
        pool.tryAcquire = (.ok (some first.info),
          { pool with
            stock := (({ found with available := rest }.checkOut first).2.emit
              .acquisitionStarted).succeed first.markInUse
            loans := pool.loans ++ [first.markInUse] })) ∨
      (∀ first ∈ found.available.head?, first.established = false) ∧
        pool.tryAcquire = (.ok none, { pool with stock := found }) := by
  rw [try_acquire_eq hopen hnobody, Inventory.lend_idle_eq hevicts hfirst]
  cases hidle : found.available with
  | nil => exact .inr ⟨by simp, rfl⟩
  | cons first rest =>
      cases hready : first.established with
      | true => exact .inl ⟨first, rest, rfl, hready, by simp only [hready, if_true]; rfl⟩
      | false => exact .inr ⟨by simpa using hready, by simp [hready]⟩

/-- An idle connection that is not established is dead or was never reported ready. -/
theorem Reachable.idle_unready (h : pool.Reachable) (hidle : connection ∈ pool.stock.available)
    (hnot : connection.established = false) :
    connection.destroyed = true ∨ ∀ event ∈ pool.log, event.kind ≠ .ready connection.info := by
  have hfits := h.told.present (.idle, connection) (Holdings.mem_places.2 hidle)
  rcases hfits with ⟨-, hstory⟩ | ⟨hwas, -⟩
  · -- Its story has only begun.
    refine .inr fun event hevent hready => ?_
    have htold : EventType.ready ∈ story pool.holdings.kinds connection.id := by
      refine List.mem_map.2 ⟨event.kind, List.mem_filter.2 ⟨List.mem_map_of_mem hevent, ?_⟩, ?_⟩
      · simp [hready, EventKind.connection?, Connection.info]
      · rw [hready]
        rfl
    rw [hstory] at htold
    simp at htold
  · rw [Connection.wasEstablished, hnot] at hwas
    exact .inl (by simpa using hwas.symm)

/-- The connection that is created next was never told of. -/
theorem Reachable.newborn_unready (h : pool.Reachable) {info : ConnectionInfo}
    (hid : info.id = pool.stock.nextConnection) :
    ∀ event ∈ pool.log, event.kind ≠ .ready info := by
  intro event hevent hready
  have hnone := story_nil.1 (h.told.unborn _ (Nat.le_refl _)) event.kind
    (List.mem_map_of_mem hevent) info (by rw [hready]; rfl)
  exact hnone hid

/-- What a search resorts to is not established: it is dead, or was never reported ready. -/
theorem Reachable.resort_unready (h : pool.Reachable) {result : Option Connection}
    {lent : Inventory} (hevicts : pool.stock.Evicts found)
    (hresorts : found.Resorts result lent) :
    ∀ connection ∈ result, connection.established = false ∧
      (connection.destroyed = true ∨ ∀ event ∈ lent.log,
        event.kind ≠ .ready connection.info) := by
  obtain ⟨closings, hlog, hclosed⟩ := hevicts.closings
  obtain ⟨gone, network, metrics, log, hgone, -, hframe⟩ := hevicts.frame
  have hcount : found.nextConnection = pool.stock.nextConnection := by rw [hframe]
  -- None of the closings reports a connection ready, so what counts was told before.
  have hbefore : ∀ {info : ConnectionInfo}, (∀ event ∈ pool.log, event.kind ≠ .ready info) →
      ∀ event ∈ found.log, event.kind ≠ .ready info := by
    intro info hnever event hevent hready
    rw [hlog] at hevent
    rcases List.mem_append.1 hevent with hevent | hevent
    · exact hnever event hevent hready
    · have htype := hclosed event hevent
      rw [Event.type, hready] at htype
      cases htype
  cases hresorts with
  | unready idle unready =>
      rintro _ ⟨⟩
      have hthere : _ ∈ pool.stock.available :=
        hgone ▸ List.mem_append_right gone (idle ▸ List.mem_cons_self)
      exact ⟨unready, (h.idle_unready hthere unready).imp_right hbefore⟩
  | created noneIdle room =>
      rintro _ ⟨⟩
      refine ⟨rfl, .inr fun event hevent hready => ?_⟩
      rcases List.mem_append.1 hevent with hevent | hevent
      · exact hbefore (h.newborn_unready hcount) event hevent hready
      · rw [List.mem_singleton.1 hevent] at hready
        cases hready
  | nothing => simp

/-- Trying to borrow a connection does what the search for the head of the line does. If it
lends one, the search takes the same connection after the same closings and leaves the same
connections and counts. If it lends none, the search starts with the same closings too and comes
to a connection that is not established, because it was never reported ready or is dead, or to
none. -/
theorem Reachable.tried_as_searched (h : pool.Reachable) (hopen : pool.isClosed = false)
    (hnobody : pool.queue.members = []) :
    (∀ info next, pool.tryAcquire = (.ok (some info), next) →
      ∃ connection lent, pool.stock.lend = (some connection, lent) ∧ connection.info = info ∧
        next.loans = pool.loans ++ [connection] ∧ lent.Alike next.stock ∧
        ∃ closings, (∀ event ∈ closings, event.type = .closed) ∧
          lent.log = pool.log ++ closings ∧
          next.log = pool.log ++ closings ++
            [⟨pool.now, lent.snapshot, .acquisitionStarted⟩,
              ⟨pool.now, lent.snapshot, .acquired info⟩]) ∧
    ∀ next, pool.tryAcquire = (.ok none, next) →
      next.loans = pool.loans ∧
      (∃ closings, (∀ event ∈ closings, event.type = .closed) ∧ next.log = pool.log ++ closings) ∧
      ∃ result lent, pool.stock.lend = (result, lent) ∧ next.stock.Resorts result lent ∧
        ∀ connection ∈ result, connection.established = false ∧
          (connection.destroyed = true ∨
            ∀ event ∈ lent.log, event.kind ≠ .ready connection.info) := by
  obtain ⟨found, hevicts, hfirst⟩ := pool.stock.exists_evicts
  obtain ⟨closings, hlog, hclosed⟩ := hevicts.closings
  have hlend := Inventory.lend_eq hevicts hfirst
  rcases try_acquire_found hopen hnobody hevicts hfirst with
    ⟨first, rest, hidle, -, htry⟩ | ⟨hunready, htry⟩
  · rw [hidle] at hlend
    refine ⟨fun info next htried => ?_, fun next htried => ?_⟩
    · rw [htry] at htried
      cases htried
      have hnow : found.now = pool.now := (hevicts.ranked h.ranked).1
      refine ⟨_, _, hlend, rfl, rfl, ⟨rfl, rfl, rfl, rfl, rfl, rfl, rfl, rfl, rfl, rfl⟩, closings,
        hclosed, hlog, ?_⟩
      show found.log ++ [⟨found.now, _, _⟩] ++ [⟨found.now, _, _⟩] = _
      rw [hlog, hnow, List.append_assoc]
      rfl
    · rw [htry] at htried
      cases htried
  · refine ⟨fun info next htried => ?_, fun next htried => ?_⟩
    · rw [htry] at htried
      cases htried
    · rw [htry] at htried
      cases htried
      have hresorts : ∃ result lent, pool.stock.lend = (result, lent) ∧
          found.Resorts result lent := by
        cases hidle : found.available with
        | cons first rest =>
            rw [hidle] at hlend
            exact ⟨_, _, hlend, .unready hidle (hunready first (by rw [hidle]; rfl))⟩
        | nil =>
            rw [hidle] at hlend
            cases hroom : found.hasCapacity with
            | true => exact ⟨_, _, by rw [hlend, hroom]; rfl, .created hidle hroom⟩
            | false => exact ⟨_, _, by rw [hlend, hroom]; rfl, .nothing hidle hroom⟩
      obtain ⟨result, lent, hsearch, hresorts⟩ := hresorts
      exact ⟨rfl, ⟨closings, hclosed, hlog⟩, result, lent, hsearch, hresorts,
        h.resort_unready hevicts hresorts⟩

/-- The mixed pool closes the first of its idle connections and offers the second, as the search
for the head of the line would. -/
theorem mixed_tried :
    (small.run getMixed).tryAcquire.1 = .ok (some ⟨3, 1, 0, .localhost⟩) ∧
      ∃ connection lent, (small.run getMixed).stock.lend = (some connection, lent) ∧
        connection.info = ⟨3, 1, 0, .localhost⟩ ∧
        lent.Alike (small.run getMixed).tryAcquire.2.stock := by
  have hreachable : (small.run getMixed).Reachable := (Reachable.opened small_opened).run getMixed
  have hoffered : (small.run getMixed).tryAcquire.1 = .ok (some ⟨3, 1, 0, .localhost⟩) := by
    decide +kernel
  have htry : (small.run getMixed).tryAcquire =
      (.ok (some ⟨3, 1, 0, .localhost⟩), (small.run getMixed).tryAcquire.2) := by
    rw [← hoffered]
  obtain ⟨hlent, -⟩ := hreachable.tried_as_searched (by decide +kernel) (by decide +kernel)
  obtain ⟨connection, lent, hsearch, hinfo, -, halike, -⟩ := hlent _ _ htry
  exact ⟨hoffered, connection, lent, hsearch, hinfo, halike⟩

/-! ## When none is lent -/

/-- While others are in line an attempt lends none and changes nothing. -/
theorem try_acquire_queued (hopen : pool.isClosed = false) (hqueued : pool.queue.members ≠ []) :
    pool.tryAcquire = (.ok none, pool) := by
  rw [tryAcquire, if_neg (by simp [hopen]), if_neg (by simpa using hqueued)]

/-- An attempt on an open pool lends a connection if nobody is in line and the first idle
connection that may still be used is established, and then it lends that one; otherwise it lends
none. So if an established connection may still be used and nobody is in line, one is lent
unless the first that may be used is dead or was never reported ready. -/
theorem Reachable.lent_from_front (h : pool.Reachable) (hopen : pool.isClosed = false) :
    (∀ info, pool.tryAcquire.1 = .ok (some info) ↔
      pool.queue.members = [] ∧
        ∃ first ∈ pool.stock.usable.head?, first.established = true ∧ first.info = info) ∧
    ((∃ info, pool.tryAcquire.1 = .ok (some info)) ∨ pool.tryAcquire.1 = .ok none) ∧
    (pool.queue.members = [] →
      (∃ connection ∈ pool.stock.usable, connection.established = true) →
      (∃ info, pool.tryAcquire.1 = .ok (some info)) ∨
        ∃ first ∈ pool.stock.usable.head?, first.established = false ∧
          (first.destroyed = true ∨ ∀ event ∈ pool.log, event.kind ≠ .ready first.info)) := by
  by_cases hnobody : pool.queue.members = []
  case neg =>
    rw [try_acquire_queued hopen hnobody]
    exact ⟨by simp [hnobody], .inr rfl, fun hnone => absurd hnone hnobody⟩
  obtain ⟨found, hevicts, hfirst⟩ := pool.stock.exists_evicts
  have husable := h.ranked.usable_eq hevicts hfirst
  rw [husable]
  rcases try_acquire_found hopen hnobody hevicts hfirst with
    ⟨first, rest, hidle, hready, htry⟩ | ⟨hunready, htry⟩
  · rw [htry, hidle]
    exact ⟨by simp [hnobody, hready], .inl ⟨_, rfl⟩, fun _ _ => .inl ⟨_, rfl⟩⟩
  · rw [htry]
    refine ⟨fun info => ⟨by simp, ?_⟩, .inr rfl, fun _ hthere => .inr ?_⟩
    · rintro ⟨-, first, hhead, hready, -⟩
      rw [hunready first hhead] at hready
      cases hready
    · obtain ⟨connection, hmem, -⟩ := hthere
      cases hidle : found.available with
      | nil =>
          rw [hidle] at hmem
          cases hmem
      | cons first rest =>
          have hhead : first ∈ found.available.head? := by rw [hidle]; rfl
          have husing : first ∈ pool.stock.usable := husable ▸ List.mem_of_mem_head? hhead
          exact ⟨first, rfl, hunready first hhead,
            h.idle_unready (List.mem_filter.1 husing).1 (hunready first hhead)⟩

/-- The small pool gets four connections and lends them, makes a fifth for a caller that goes
away before it is established, and gets the first of the four back. -/
def getHidden : List Action :=
  openEmpty ++ addOne ++ addOne ++ addOne ++ addOne ++
    [.reserve (.call 9), .tryAcquire, .tryAcquire, .tryAcquire, .tryAcquire, .acquire 1, .enter 1,
      .elapse 10000000, .tick 0, .resume 1, .cancel 1, .release 2 false]

/-- An attempt on the mixed pool lends the first connection that may be used. One on the pool
with the hidden connection lends none, since the first was never reported ready. -/
theorem hidden_unready :
    (small.run getMixed).tryAcquire.1 = .ok (some ⟨3, 1, 0, .localhost⟩) ∧
      ∃ first ∈ (small.run getHidden).stock.usable.head?, first.established = false ∧
        (first.destroyed = true ∨
          ∀ event ∈ (small.run getHidden).log, event.kind ≠ .ready first.info) := by
  have hsmall := Reachable.opened small_opened
  obtain ⟨hlent, -, -⟩ := (hsmall.run getMixed).lent_from_front (by decide +kernel)
  obtain ⟨-, -, hunready⟩ := (hsmall.run getHidden).lent_from_front (by decide +kernel)
  refine ⟨(hlent _).2 (by decide +kernel), ?_⟩
  refine (hunready (by decide +kernel) (by decide +kernel)).resolve_left ?_
  have hnone : (small.run getHidden).tryAcquire.1 = .ok none := by decide +kernel
  rintro ⟨info, hsome⟩
  rw [hnone] at hsome
  cases hsome

/-- Nobody is in line, the pool is open and an established connection may be used, but none is
lent, since it is not the first. -/
theorem hidden_not_lent :
    (small.run getHidden).Reachable ∧ (small.run getHidden).isClosed = false ∧
      ((small.run getHidden).stock.usable.map fun connection =>
        (connection.id, connection.established)) = [(6, false), (2, true)] ∧
      ¬ ((∃ info, (small.run getHidden).tryAcquire.1 = .ok (some info)) ↔
        (small.run getHidden).queue.members = [] ∧
          ∃ connection ∈ (small.run getHidden).stock.usable, connection.established = true) := by
  have hnone : (small.run getHidden).tryAcquire.1 = .ok none := by decide +kernel
  refine ⟨(Reachable.opened small_opened).run getHidden, by decide +kernel, by decide +kernel, ?_⟩
  intro hiff
  obtain ⟨info, hsome⟩ := hiff.2 (by decide +kernel)
  rw [hnone] at hsome
  cases hsome

/-- An attempt that lends none changes nothing while others are in line. With nobody in line it
tells of the idle connections that are not to be used any more, each of which it closes, in
order and with its reason, and of nothing else. So it is silent if and only if others are in
line or all idle connections may still be used. -/
theorem Reachable.none_told (h : pool.Reachable) (hnone : pool.tryAcquire = (.ok none, next)) :
    (pool.queue.members ≠ [] → next = pool) ∧
    (pool.queue.members = [] →
      next.stock.notices = pool.stock.notices ++
        (pool.stock.due pool.stock.available).map fun evicted =>
          pool.stock.closing evicted.1 evicted.2) ∧
    (next.log = pool.log ↔ pool.queue.members ≠ [] ∨
      pool.stock.usable = pool.stock.available) := by
  have hopen : pool.isClosed = false := by
    by_contra hclosed
    rw [tryAcquire, if_pos (by simpa using hclosed)] at hnone
    cases hnone
  by_cases hnobody : pool.queue.members = []
  case neg =>
    rw [try_acquire_queued hopen hnobody] at hnone
    cases hnone
    exact ⟨fun _ => rfl, fun hempty => absurd hempty hnobody, by simp [hnobody]⟩
  obtain ⟨found, hevicts, hfirst⟩ := pool.stock.exists_evicts
  rcases try_acquire_found hopen hnobody hevicts hfirst with
    ⟨first, rest, -, -, htry⟩ | ⟨-, htry⟩
  · rw [htry] at hnone
    cases hnone
  · rw [htry] at hnone
    cases hnone
    refine ⟨fun hqueued => absurd hnobody hqueued,
      fun _ => h.ranked.evicts_due hevicts hfirst, ?_⟩
    rw [or_iff_right (not_not_intro hnobody)]
    exact h.ranked.evicts_silent hevicts hfirst

/-- The small pool gets a connection and is cleared. -/
def getOutdated : List Action :=
  openEmpty ++ addOne ++ [.clear]

/-- An attempt on the cleared pool lends none. It tells that the idle connection, which is of an
old generation, is closed as stale. -/
theorem outdated_told :
    (small.run getOutdated).tryAcquire.1 = .ok none ∧
      (small.run getOutdated).tryAcquire.2.stock.notices =
        (small.run getOutdated).stock.notices ++
          [⟨0, 1, .closed ⟨2, 0, 0, .localhost⟩ .stale⟩] := by
  have hreachable := (Reachable.opened small_opened).run getOutdated
  have hnone : (small.run getOutdated).tryAcquire.1 = .ok none := by decide +kernel
  obtain ⟨-, htold, -⟩ := hreachable.none_told (Prod.ext hnone rfl)
  have hdue : ((small.run getOutdated).stock.due (small.run getOutdated).stock.available).map
      (fun evicted => (small.run getOutdated).stock.closing evicted.1 evicted.2) =
        [⟨0, 1, .closed ⟨2, 0, 0, .localhost⟩ .stale⟩] := by decide +kernel
  exact ⟨hnone, hdue ▸ htold (by decide +kernel)⟩

/-- An attempt on the cleared pool lends none, but an event is told. -/
theorem outdated_not_silent :
    (small.run getOutdated).Reachable ∧ (small.run getOutdated).tryAcquire.1 = .ok none ∧
      (small.run getOutdated).tryAcquire.2.log ≠ (small.run getOutdated).log := by
  refine ⟨(Reachable.opened small_opened).run getOutdated, by decide +kernel, fun hsilent => ?_⟩
  have hcount := congrArg List.length hsilent
  exact absurd hcount (by decide +kernel)

end Pool

end ConnectionPool
