import ConnectionPool.Proofs.Pool.Progress
import ConnectionPool.Proofs.Reachable

/-!
# Closed for good

A pool that was closed or destroyed stays so, whatever happens to it: its line is destroyed and
empty, no connection is idle, none is created or acquired, and each connection that comes back
is closed. `Fades` says what becomes of an inventory that is `Over`, and `Move.dwindles` that
every move of the holdings is of that kind. Each way back into the pool looks at whether it is
closed, so this is by cases on the move.
-/

namespace ConnectionPool

/-- The event tells that a connection was created or acquired, or that the pool was closed. -/
def EventKind.isGrowth : EventKind → Bool
  | .created _ | .acquired _ | .poolClosed => true
  | _ => false

/-- An event that is none of growth is of another type. -/
theorem EventKind.type_of_not_growth {kind : EventKind} (h : kind.isGrowth = false) :
    kind.type ≠ .created ∧ kind.type ≠ .acquired ∧ kind.type ≠ .poolClosed := by
  cases kind with
  | created | acquired | poolClosed => cases h
  | _ => simp [EventKind.type]

namespace Inventory

/-- The inventory is that of a closed pool, and no connection is idle. -/
structure Over (stock : Inventory) : Prop where
  closed : stock.closed = true
  empty : stock.available = []

/-- What becomes of the inventory of a pool that is over, and what is told of it. -/
structure Fades (stock : Inventory) (kinds : List EventKind) (later : Inventory) : Prop where
  closed : later.closed = stock.closed
  available : later.available = stock.available
  told : later.log.map Event.kind = stock.log.map Event.kind ++ kinds
  quiet : ∀ kind ∈ kinds, kind.isGrowth = false
  checkedOut : later.checkedOut.length ≤ stock.checkedOut.length
  pending : later.pending ≤ stock.pending

variable {stock later last : Inventory} {kinds more : List EventKind}

/-- An inventory that is over stays so when it fades. -/
theorem Fades.over (h : stock.Fades kinds later) (hover : stock.Over) : later.Over :=
  ⟨h.closed.trans hover.closed, h.available.trans hover.empty⟩

/-- What was told meanwhile is what is new in the log. -/
theorem Fades.news (h : stock.Fades kinds later) :
    (later.log.drop stock.log.length).map Event.kind = kinds := by
  rw [List.map_drop, h.told, ← List.length_map Event.kind, List.drop_left]

/-- What fades first and then fades is told of in this order. -/
theorem Fades.trans (first : stock.Fades kinds later) (second : later.Fades more last) :
    stock.Fades (kinds ++ more) last where
  closed := second.closed.trans first.closed
  available := second.available.trans first.available
  told := by rw [second.told, first.told, List.append_assoc]
  quiet := by
    intro kind hkind
    rcases List.mem_append.1 hkind with hkind | hkind
    · exact first.quiet kind hkind
    · exact second.quiet kind hkind
  checkedOut := second.checkedOut.trans first.checkedOut
  pending := second.pending.trans first.pending

/-- Nothing is told, and the books are as they were or shorter. -/
theorem Fades.silent (hclosed : later.closed = stock.closed)
    (havailable : later.available = stock.available) (hlog : later.log = stock.log)
    (hout : later.checkedOut.length ≤ stock.checkedOut.length)
    (hpending : later.pending ≤ stock.pending) : stock.Fades [] later where
  closed := hclosed
  available := havailable
  told := by rw [hlog, List.append_nil]
  quiet := fun _ hkind => absurd hkind List.not_mem_nil
  checkedOut := hout
  pending := hpending

/-- One event is told that is none of growth. -/
theorem Fades.one {kind : EventKind}
    (htold : later.log.map Event.kind = stock.log.map Event.kind ++ [kind])
    (hkind : kind.isGrowth = false) (hclosed : later.closed = stock.closed)
    (havailable : later.available = stock.available) (hout : later.checkedOut = stock.checkedOut)
    (hpending : later.pending = stock.pending) : stock.Fades [kind] later where
  closed := hclosed
  available := havailable
  told := htold
  quiet := fun _ hmem => List.mem_singleton.1 hmem ▸ hkind
  checkedOut := hout ▸ Nat.le_refl _
  pending := hpending ▸ Nat.le_refl _

/-- An event is written to the log that is none of growth. -/
theorem Fades.emit (stock : Inventory) {kind : EventKind} (h : kind.isGrowth = false) :
    stock.Fades [kind] (stock.emit kind) :=
  .one (emit_kinds _ _) h rfl rfl rfl rfl

/-- A connection is discarded. -/
theorem Fades.discard (stock : Inventory) (connection : Connection) (reason : CloseReason) :
    stock.Fades [.closed connection.info reason] (stock.discard connection reason) := by
  refine .one (discard_kinds _ _ _) rfl ?_ ?_ ?_ ?_ <;> rw [discard_eq]

/-- A connection is taken off the books. -/
theorem Fades.giveBack (stock : Inventory) (connection : Connection) :
    stock.Fades [] (stock.giveBack connection) :=
  .silent rfl rfl rfl List.length_erase_le (Nat.le_refl _)

/-- A connection is no longer being established. -/
theorem Fades.settle (stock : Inventory) :
    stock.Fades [] { stock with pending := stock.pending - 1 } :=
  .silent rfl rfl rfl (Nat.le_refl _) (Nat.sub_le _ _)

end Inventory

variable {h h' last : Holdings} {kinds more : List EventKind} {given : Nat}

open Inventory (Fades)

/-- A pool that is closed wants no connection back. -/
theorem Inventory.Over.unwanted {stock : Inventory} (h : stock.Over) (connection : Connection) :
    stock.returnReason? connection ≠ none := by
  intro hwanted
  have hopen := ((stock.return_reason_none connection).1 hwanted).1
  rw [h.closed] at hopen
  cases hopen

/-- Every move of the holdings of a pool that is over makes its inventory fade. -/
theorem Move.fades (move : Move h h') (hover : h.stock.Over) :
    ∃ kinds, h.stock.Fades kinds h'.stock := by
  have hshut : h.stock.closed ≠ false := by simp [hover.closed]
  cases move with
  | started | failed | cleared | readied =>
      exact ⟨_, .one (Inventory.emit_kinds _ _) rfl rfl rfl rfl rfl⟩
  | elapsed | scripted | dialled | handled | filled =>
      exact ⟨_, .silent rfl rfl rfl (Nat.le_refl _) (Nat.le_refl _)⟩
  -- No connection is idle.
  | retired first | evicted first | reused first =>
      rw [hover.empty] at first
      cases first
  -- Only an open pool makes connections.
  | produced noneIdle isOpen => exact absurd isOpen hshut
  | reserved wanted =>
      simp only [Pool.isFilled, Bool.or_eq_false_iff] at wanted
      exact absurd wanted.1.1 hshut
  -- Whatever comes back is not wanted.
  | @reclaimed connection rest held =>
      obtain ⟨reason, hreason⟩ := Option.ne_none_iff_exists'.1 (hover.unwanted connection)
      rw [Inventory.reclaim_unwanted hreason]
      exact ⟨_, (Fades.giveBack _ connection).trans (.discard _ _ _)⟩
  | @released connection rest held known force =>
      rcases Inventory.release_known known force with ⟨hwanted, -⟩ | ⟨reason, hstock⟩
      · exact absurd hwanted (hover.unwanted connection)
      · rw [hstock]
        exact ⟨_, ((Fades.giveBack _ connection).trans (.emit _ rfl)).trans (.discard _ _ _)⟩
  | stocked held connected wanted => exact absurd wanted (hover.unwanted _)
  | forfeited | refused => exact ⟨_, (Fades.giveBack _ _).trans (.discard _ _ _)⟩
  | unwanted => exact ⟨_, ((Fades.settle _).trans (.emit _ rfl)).trans (.discard _ _ _)⟩
  | abandoned => exact ⟨_, (Fades.settle _).trans (.discard _ _ _)⟩

/-! ## What becomes of the connections -/

/-- A connection of which a passage tells nothing final is there after it, at some place. -/
theorem Passage.kept (passage : Passage h kinds h') {x : Place × Connection} (hx : x ∈ h.places) :
    (∃ y ∈ h'.places, y.2.info = x.2.info) ∨ ∃ reason, .closed x.2.info reason ∈ kinds := by
  cases passage with
  | still same => exact .inl ⟨x, same ▸ hx, rfl⟩
  | born new after => exact .inl ⟨x, after ▸ Multiset.mem_cons_of_mem hx, rfl⟩
  | lives rest before after count life =>
      rw [before, Multiset.mem_cons] at hx
      rw [after]
      rcases hx with rfl | hx
      · exact .inl ⟨_, Multiset.mem_cons_self _ _, life.info⟩
      · exact .inl ⟨x, Multiset.mem_cons_of_mem hx, rfl⟩
  | dies place before count death =>
      rw [before, Multiset.mem_cons] at hx
      rcases hx with rfl | hx
      · refine .inr ?_
        cases death with
        | closed back reason => exact ⟨reason, List.mem_singleton_self _⟩
        | returned reason | unwanted connected reason => exact ⟨reason, by simp⟩
      · exact .inl ⟨x, hx, rfl⟩

/-- What becomes of the holdings of a pool that is over, and what is told of it: each connection
is still there, or it was closed. -/
structure Holdings.Dwindles (h : Holdings) (kinds : List EventKind) (h' : Holdings) : Prop where
  stock : h.stock.Fades kinds h'.stock
  kept : ∀ x ∈ h.places,
    (∃ y ∈ h'.places, y.2.info = x.2.info) ∨ ∃ reason, .closed x.2.info reason ∈ kinds

/-- Holdings to which nothing happens. -/
theorem Holdings.Dwindles.refl (h : Holdings) : h.Dwindles [] h :=
  ⟨.silent rfl rfl rfl (Nat.le_refl _) (Nat.le_refl _), fun x hx => .inl ⟨x, hx, rfl⟩⟩

/-- What dwindles first and then dwindles is told of in this order. -/
theorem Holdings.Dwindles.trans (first : h.Dwindles kinds h') (second : h'.Dwindles more last) :
    h.Dwindles (kinds ++ more) last where
  stock := first.stock.trans second.stock
  kept := by
    intro x hx
    rcases first.kept x hx with ⟨y, hy, hinfo⟩ | ⟨reason, hclosed⟩
    · rcases second.kept y hy with ⟨z, hz, hsame⟩ | ⟨reason, hclosed⟩
      · exact .inl ⟨z, hz, hsame.trans hinfo⟩
      · rw [hinfo] at hclosed
        exact .inr ⟨reason, List.mem_append_right _ hclosed⟩
    · exact .inr ⟨reason, List.mem_append_left _ hclosed⟩

/-- Every move of the holdings of a pool that is over makes them dwindle. -/
theorem Move.dwindles (move : Move h h') (hover : h.stock.Over) :
    ∃ kinds, h.Dwindles kinds h' := by
  obtain ⟨kinds, hfades⟩ := move.fades hover
  obtain ⟨told, passage, htold⟩ := move.passage
  obtain rfl : told = kinds := List.append_cancel_left (htold.symm.trans hfades.told)
  exact ⟨told, hfades, fun x hx => passage.kept hx⟩

/-- So does every sequence of moves. -/
theorem Moves.dwindles (moves : Moves h h') (hover : h.stock.Over) :
    ∃ kinds, h.Dwindles kinds h' := by
  induction moves with
  | refl => exact ⟨[], .refl h⟩
  | tail _ move ih =>
      obtain ⟨kinds, hfirst⟩ := ih
      obtain ⟨more, hlast⟩ := move.dwindles (hfirst.stock.over hover)
      exact ⟨kinds ++ more, hfirst.trans hlast⟩

/-- Giving up idle connections changes nothing if there are none. -/
theorem Holdings.Dwindles.scrap (hover : h.stock.Over) : h.Dwindles [] h.scrap where
  stock := .silent rfl hover.empty.symm rfl (Nat.le_refl _) (Nat.le_refl _)
  kept := by
    intro x hx
    rw [h.scrap_places, hover.empty] at hx
    simp only [Multiset.coe_nil, Multiset.map_zero, Multiset.zero_add] at hx
    exact .inl ⟨x, hx, rfl⟩

/-- Every step of the holdings of a pool that is over makes them dwindle. -/
theorem Step.dwindles (step : Step h given h') (hover : h.stock.Over) :
    ∃ kinds, h.Dwindles kinds h' := by
  cases step with
  | turn turn =>
      cases turn with
      | moves moves => exact moves.dwindles hover
      | announced moves last =>
          -- Only an open pool lets a call announce its connection.
          obtain ⟨kinds, hfirst⟩ := moves.dwindles hover
          cases last with
          | mk middle held wanted => exact absurd wanted ((hfirst.stock.over hover).unwanted _)
  | closed isOpen => exact absurd isOpen (by simp [hover.closed])
  | destroyed =>
      have hshut : h.shut = h := by
        rw [Holdings.shut, ← hover.closed]
      rw [hshut]
      exact ⟨[], .scrap hover⟩
  | forsaken moves =>
      obtain ⟨kinds, hfirst⟩ := moves.dwindles hover
      exact ⟨kinds ++ [], hfirst.trans (.scrap (hfirst.stock.over hover))⟩

/-! ## A closed pool has no idle connection -/

/-- No move closes or opens a pool. -/
theorem Move.closed_eq (move : Move h h') : h'.stock.closed = h.stock.closed := by
  cases move with
  | retired | evicted | forfeited | refused | unwanted | abandoned =>
      exact Inventory.discard_closed _ _ _
  | reclaimed => exact Inventory.reclaim_closed _ _
  | released => exact Inventory.release_closed _ _ _
  | _ => rfl

/-- Every step leaves no idle connection in a pool that is closed then. -/
theorem Step.shut_empty (step : Step h given h')
    (hempty : h.stock.closed = true → h.stock.available = []) (hclosed : h'.stock.closed = true) :
    h'.stock.available = [] := by
  cases hbefore : h.stock.closed with
  | true =>
      obtain ⟨kinds, hdwindles⟩ := step.dwindles ⟨hbefore, hempty hbefore⟩
      exact hdwindles.stock.available.trans (hempty hbefore)
  | false =>
      have hmoves : ∀ {middle : Holdings}, Moves h middle → middle.stock.closed = false :=
        fun moves => moves.preserves (fun move hopen => move.closed_eq.trans hopen) hbefore
      cases step with
      | turn turn =>
          cases turn with
          | moves moves => exact absurd ((hmoves moves).symm.trans hclosed) Bool.false_ne_true
          | announced moves last =>
              cases last with
              | mk => exact absurd ((hmoves moves).symm.trans hclosed) Bool.false_ne_true
      | closed isOpen moves empty => exact empty
      | destroyed | forsaken => rfl

namespace Pool

variable {pool : Pool} {action closing : Action}

/-- A reachable pool that is closed has no idle connection. -/
theorem Reachable.shut_empty (h : pool.Reachable) (hclosed : pool.isClosed = true) :
    pool.stock.available = [] := by
  refine h.invariant (P := fun h => h.stock.closed = true → h.stock.available = []) ?_ ?_ hclosed
  · exact fun _ _ _ _ _ => rfl
  · exact fun _ step hempty => step.shut_empty hempty

/-- Closing or destroying a pool closes it. -/
theorem closing_shuts (h : pool.Coherent) (hheld : pool.held = true)
    (hclosing : closing = .close ∨ closing = .destroy) :
    (pool.after closing).isClosed = true := by
  rcases hclosing with rfl | rfl
  · refine (congrArg (fun h => h.stock.closed) (after_close h hheld).2.1).trans ?_
    show pool.close.isClosed = true
    cases hclosed : pool.isClosed with
    | true => rw [close, if_pos hclosed, hclosed]
    | false =>
        rw [close, if_neg (by simp [hclosed])]
        have hshut : pool.shut.stock.closed = true :=
          congrArg (fun h => h.stock.closed) (shut_frame h).2.1
        exact (Inventory.close_idle_frame _ _).2.trans hshut
  · exact congrArg (fun h => h.stock.closed) (after_destroy h hheld).2.1

/-- A history of a pool that is closed makes its holdings dwindle. -/
theorem Reachable.run_dwindles (h : pool.Reachable) (hover : pool.stock.Over)
    (history : List Action) :
    ∃ kinds, pool.holdings.Dwindles kinds (pool.run history).holdings := by
  induction history generalizing pool with
  | nil => exact ⟨[], .refl _⟩
  | cons action rest ih =>
      obtain ⟨kinds, hfirst⟩ := (h.step action).dwindles hover
      obtain ⟨more, hrest⟩ := ih (h.after action) (hfirst.stock.over hover)
      exact ⟨kinds ++ more, hfirst.trans hrest⟩

/-- What holds of a pool that was closed or destroyed. -/
structure Over (pool : Pool) : Prop where
  closed : pool.isClosed = true
  destroyed : pool.queue.destroyed = true
  noneIdle : pool.stock.available = []
  nobody : pool.queue.members = []

/-- What an action may still do to a pool that was closed or destroyed: it adds no connection,
acquisitions end with errors, and a connection that is no longer outside the pool was closed. -/
structure WindsDown (pool : Pool) (action : Action) : Prop where
  checkedOut : (pool.after action).stock.checkedOut.length ≤ pool.stock.checkedOut.length
  pending : (pool.after action).stock.pending ≤ pool.stock.pending
  total : (pool.after action).stock.total ≤ pool.stock.total
  failed : ∀ completion ∈ pool.ends action, completion.call ∈ pool.callIds →
    ∃ error, completion.result = .failed error
  refused : action = .tryAcquire → pool.held = true →
    (pool.perform action).1 = .offered (.error pool.stock.closedError)
  closes : ∀ connection ∈ pool.holders ++ pool.establishing,
    connection.info ∉ ((pool.after action).holders ++ (pool.after action).establishing).map
      Connection.info →
    ∃ reason, .closed connection.info reason ∈
      ((pool.after action).log.drop pool.log.length).map Event.kind

/-- A reachable pool that is closed is over. -/
theorem Reachable.over (h : pool.Reachable) (hclosed : pool.isClosed = true) : pool.Over := by
  have hcoherent := h.sound.1
  have hdestroyed : pool.queue.destroyed = true := hcoherent.shut.trans hclosed
  exact ⟨hclosed, hdestroyed, h.shut_empty hclosed, hcoherent.line.emptied hdestroyed⟩

/-- What is told of acquisitions at an action is part of what is told at all. -/
theorem tells_of_kinds {kinds : List EventKind}
    (h : (pool.after action).holdings.kinds = pool.holdings.kinds ++ kinds) :
    pool.tells action = kinds.filter EventKind.isAcquisition := by
  have hafter : (pool.after action).stock.acquisitions =
      pool.stock.acquisitions ++ kinds.filter EventKind.isAcquisition :=
    (congrArg (List.filter EventKind.isAcquisition) h).trans (List.filter_append _ _)
  rw [tells, hafter, List.drop_left]

/-- A closed pool refuses an acquisition that does not wait. -/
theorem perform_refused (hclosed : pool.isClosed = true) (hheld : pool.held = true) :
    (pool.perform .tryAcquire).1 = .offered (.error pool.stock.closedError) := by
  simp [perform, step, hheld, tryAcquire, hclosed]

/-- Whatever happens to a pool that is closed, it winds down. -/
theorem Reachable.winds_down (h : pool.Reachable) (hclosed : pool.isClosed = true)
    (action : Action) : pool.WindsDown action := by
  have hover : pool.stock.Over := ⟨hclosed, h.shut_empty hclosed⟩
  obtain ⟨kinds, hfades, hkept⟩ := (h.step action).dwindles hover
  obtain ⟨ids, deal, -⟩ := after_deal h.sound.1 action
  refine ⟨hfades.checkedOut, hfades.pending, ?_, ?_, ?_, ?_⟩
  · have hempty : (pool.after action).stock.available = [] := hfades.available.trans hover.empty
    rw [Inventory.total, Inventory.total, hempty, hover.empty]
    exact Nat.add_le_add_left hfades.checkedOut _
  · intro completion hended hcall
    obtain ⟨kind, htells, reported⟩ := deal.reported h.sound.1 hended hcall
    generalize hresult : completion.result = result at reported
    cases reported with
    | failed => exact ⟨_, rfl⟩
    | acquired info =>
        -- That would have been told, but it is growth.
        have hmem : EventKind.acquired info ∈ kinds := by
          have htold : EventKind.acquired info ∈ pool.tells action := by simp [htells]
          rw [tells_of_kinds hfades.told] at htold
          exact List.mem_of_mem_filter htold
        have hquiet := hfades.quiet _ hmem
        cases hquiet
  · rintro rfl hheld
    exact perform_refused hclosed hheld
  · intro connection hout hgone
    obtain ⟨x, hx, rfl⟩ : ∃ x ∈ pool.holdings.places, x.2 = connection := by
      rw [← Multiset.mem_map, places_connections, Multiset.mem_coe, List.append_assoc]
      exact List.mem_append_right _ hout
    rcases hkept x hx with ⟨y, hy, hinfo⟩ | ⟨reason, htold⟩
    · have hthere : y.2 ∈ (pool.after action).holders ++ (pool.after action).establishing := by
        have hmem := Multiset.mem_map_of_mem Prod.snd hy
        rw [places_connections, (h.after action).shut_empty (hfades.closed.trans hclosed)] at hmem
        exact hmem
      exact absurd (hinfo ▸ List.mem_map_of_mem hthere) hgone
    · exact ⟨reason, hfades.news ▸ htold⟩

/-- Closed is terminal. Once a pool was closed or destroyed, it is over at every moment of the
run, no connection was created or acquired since and no closing was told of since, and whatever
happens next, it winds down. -/
theorem closed_for_good {config : Config} {source : LinkSource} {network : Network}
    {now : Instant} {opened start : Pool}
    (hopened : create config source network now = .ok opened) (prior : List Action)
    (hheld : (opened.run prior).held = true)
    (hclosing : closing = .close ∨ closing = .destroy)
    (hstart : start = (opened.run prior).after closing) (later : List Action) :
    (start.run later).Over ∧
      (∀ event ∈ (start.run later).log.drop start.log.length,
        event.type ≠ .created ∧ event.type ≠ .acquired ∧ event.type ≠ .poolClosed) ∧
      ∀ action, (start.run later).WindsDown action := by
  have hprior : (opened.run prior).Reachable := (Reachable.opened hopened).run prior
  have hreachable : start.Reachable := hstart ▸ hprior.after closing
  have hclosed : start.isClosed = true :=
    hstart ▸ closing_shuts hprior.sound.1 hheld hclosing
  obtain ⟨kinds, hfades, -⟩ :=
    hreachable.run_dwindles ⟨hclosed, hreachable.shut_empty hclosed⟩ later
  have hlater : (start.run later).isClosed = true := hfades.closed.trans hclosed
  refine ⟨(hreachable.run later).over hlater, ?_, (hreachable.run later).winds_down hlater⟩
  intro event hevent
  have hkind : event.kind ∈ kinds := hfades.news ▸ List.mem_map_of_mem hevent
  exact EventKind.type_of_not_growth (hfades.quiet _ hkind)

/-- The busy small pool is closed while a call has the answer that it may have a connection and
has not looked at it. The pool is cleared as well, and once the call looks it ends with an
error. -/
theorem busy_closed :
    (small.run getBusy).held = true ∧
      (((small.run getBusy).after .close).run [.clear]).stock.available = [] ∧
      ∀ completion ∈ (((small.run getBusy).after .close).run [.clear]).ends (.resume 2),
        completion.call ∈ (((small.run getBusy).after .close).run [.clear]).callIds →
          ∃ error, completion.result = .failed error := by
  have hheld : (small.run getBusy).held = true := by decide +kernel
  obtain ⟨hover, -, hwinds⟩ :=
    closed_for_good small_opened getBusy hheld (.inl rfl) rfl [.clear]
  exact ⟨hheld, hover.noneIdle, (hwinds (.resume 2)).failed⟩

end Pool

end ConnectionPool
