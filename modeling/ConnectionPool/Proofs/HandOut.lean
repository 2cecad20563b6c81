import ConnectionPool.Proofs.Story

/-!
# What callers are given

A connection that is told to be acquired is the last word of the step that tells it, and it is
of the current generation, established and not destroyed; the pool is open then. Generations and
the clock only grow, so an idle connection that is not to be used any more never will be:
`Spent` connections are not acquired. And a connection keeps its generation, so that none from
before a clearing is acquired after it.
-/

namespace ConnectionPool

namespace Inventory

/-- The settings stay as they are, and the generation and the clock do not go back. -/
structure Later (stock later : Inventory) : Prop where
  config : later.config = stock.config
  generation : stock.generation ≤ later.generation
  now : stock.now ≤ later.now

/-- Events may have been added to the log, but none that a connection was acquired. -/
def Quiet (stock later : Inventory) : Prop :=
  ∃ events, later.log = stock.log ++ events ∧ ∀ event ∈ events, event.type ≠ .acquired

variable {stock later last : Inventory} {connection : Connection}

/-- One event is added that is not the acquisition of a connection. -/
theorem Quiet.one {event : Event} (hlog : later.log = stock.log ++ [event])
    (htype : event.type ≠ .acquired) : stock.Quiet later := by
  refine ⟨[event], hlog, ?_⟩
  intro other hother
  obtain rfl := List.mem_singleton.1 hother
  exact htype

/-- What is later than something later is later. -/
theorem Later.trans (first : stock.Later later) (second : later.Later last) :
    stock.Later last where
  config := second.config.trans first.config
  generation := first.generation.trans second.generation
  now := first.now.trans second.now

/-- No event is added. -/
theorem Quiet.none (hlog : later.log = stock.log) : stock.Quiet later :=
  ⟨[], by rw [hlog, List.append_nil], by simp⟩

/-- What is quiet first and quiet then is quiet. -/
theorem Quiet.trans (first : stock.Quiet later) (second : later.Quiet last) :
    stock.Quiet last := by
  obtain ⟨events, hlog, hevents⟩ := first
  obtain ⟨more, hmore, hother⟩ := second
  refine ⟨events ++ more, by rw [hmore, hlog, List.append_assoc], ?_⟩
  intro event hevent
  rcases List.mem_append.1 hevent with hevent | hevent
  · exact hevents event hevent
  · exact hother event hevent

/-- Discarding is told quietly, and nothing else comes of it. -/
theorem discard_quiet (stock : Inventory) (connection : Connection) (reason : CloseReason) :
    stock.Later (stock.discard connection reason) ∧
      stock.Quiet (stock.discard connection reason) := by
  rw [discard_eq]
  exact ⟨⟨rfl, Nat.le_refl _, Nat.le_refl _⟩, .one rfl (by simp [Event.type, EventKind.type])⟩

/-- Reclaiming is told quietly, and nothing else comes of it. -/
theorem reclaim_quiet (stock : Inventory) (connection : Connection) :
    stock.Later (stock.reclaim connection) ∧ stock.Quiet (stock.reclaim connection) := by
  cases hreason : stock.returnReason? connection with
  | none =>
      rw [reclaim_wanted hreason]
      exact ⟨⟨rfl, Nat.le_refl _, Nat.le_refl _⟩, .none rfl⟩
  | some reason =>
      rw [reclaim_unwanted hreason]
      obtain ⟨hlater, hquiet⟩ := discard_quiet (stock.giveBack connection) connection reason
      exact ⟨⟨hlater.config, hlater.generation, hlater.now⟩, hquiet⟩

/-- Releasing is told quietly, and nothing else comes of it. -/
theorem release_quiet (hknown : connection.id ∈ stock.checkedOut) (force : Bool) :
    stock.Later (stock.release connection force).2 ∧
      stock.Quiet (stock.release connection force).2 := by
  have htype : (EventKind.released connection.info).type ≠ .acquired := by simp [EventKind.type]
  rcases release_known hknown force with ⟨-, hstock⟩ | ⟨reason, hstock⟩
  · rw [hstock]
    exact ⟨⟨rfl, Nat.le_refl _, Nat.le_refl _⟩, .one rfl htype⟩
  · rw [hstock]
    obtain ⟨hlater, hquiet⟩ := discard_quiet
      ((stock.giveBack connection).emit (.released connection.info)) connection reason
    have hreleased : stock.Quiet ((stock.giveBack connection).emit (.released connection.info)) :=
      .one rfl htype
    exact ⟨⟨hlater.config, hlater.generation, hlater.now⟩, hreleased.trans hquiet⟩

/-- A limit that was exceeded stays exceeded. -/
theorem idle_expired_later {limit : Option Duration} {now later : Instant} (hle : now ≤ later)
    (h : connection.isIdleExpired limit now = true) :
    connection.isIdleExpired limit later = true := by
  unfold Connection.isIdleExpired at h ⊢
  split at h
  · rw [Bool.and_eq_true, decide_eq_true_iff] at h ⊢
    exact ⟨h.1, Nat.lt_of_lt_of_le h.2 (Nat.sub_le_sub_right hle _)⟩
  · cases h

end Inventory

variable {h h' : Holdings} {kinds : List EventKind} {stock : Inventory} {connection : Connection}

/-- Every move leaves the settings as they are and goes on quietly. -/
theorem Move.later (move : Move h h') :
    h.stock.Later h'.stock ∧ h.stock.Quiet h'.stock := by
  have hsame : ∀ {later : Inventory}, later.config = h.stock.config →
      later.generation = h.stock.generation → later.now = h.stock.now → h.stock.Later later :=
    fun hconfig hgeneration hnow => ⟨hconfig, hgeneration.ge, hnow.ge⟩
  cases move with
  | started | failed | readied | produced | reserved | stocked =>
      exact ⟨hsame rfl rfl rfl, .one rfl (by simp [Event.type, EventKind.type])⟩
  | cleared =>
      exact ⟨⟨rfl, Nat.le_succ _, Nat.le_refl _⟩, .one rfl (by simp [Event.type, EventKind.type])⟩
  | elapsed => exact ⟨⟨rfl, Nat.le_refl _, Nat.le_add_right _ _⟩, .none rfl⟩
  | scripted | reused | dialled | handled | filled =>
      exact ⟨hsame rfl rfl rfl, .none rfl⟩
  | retired | evicted | forfeited | refused | abandoned =>
      obtain ⟨hlater, hquiet⟩ := Inventory.discard_quiet _ _ _
      exact ⟨hsame hlater.config rfl rfl, hquiet⟩
  | @unwanted connection rest reason =>
      have hready : h.stock.Quiet ({ h.stock with pending := h.stock.pending - 1 }.emit
          (.ready connection.info)) := .one rfl (by simp [Event.type, EventKind.type])
      obtain ⟨hlater, hquiet⟩ := Inventory.discard_quiet _ connection reason
      exact ⟨hsame hlater.config rfl rfl, hready.trans hquiet⟩
  | reclaimed => exact Inventory.reclaim_quiet _ _
  | released held known force => exact Inventory.release_quiet known force

/-- A sequence of moves leaves the settings as they are and goes on quietly. -/
theorem Moves.later (moves : Moves h h') :
    h.stock.Later h'.stock ∧ h.stock.Quiet h'.stock := by
  induction moves with
  | refl => exact ⟨⟨rfl, Nat.le_refl _, Nat.le_refl _⟩, .none rfl⟩
  | tail _ move ih =>
      obtain ⟨hlater, hquiet⟩ := move.later
      exact ⟨ih.1.trans hlater, ih.2.trans hquiet⟩

/-! ## Spent connections -/

/-- Connections are at most of the current generation. -/
def Holdings.Aged (h : Holdings) : Prop :=
  ∀ x ∈ h.places, x.2.generation ≤ h.stock.generation

/-- The id was given out, and the connection that bears it, if there still is one, is not to be
used any more: it is of an old generation, or has been idle for too long. -/
structure Holdings.Spent (h : Holdings) (id : Nat) : Prop where
  issued : id < h.stock.nextConnection
  useless : ∀ x ∈ h.places, x.2.id = id → x.2.generation < h.stock.generation ∨
    x.1 = .idle ∧ x.2.isIdleExpired h.stock.config.maxIdleTime h.stock.now = true

/-- An idle connection lives on only if it has not been idle for too long. -/
theorem Life.not_expired {place' : Place} {connection' : Connection}
    (life : Life stock connection .idle kinds place' connection') :
    connection.isIdleExpired stock.config.maxIdleTime stock.now = false := by
  -- The only life that begins idle is that of a connection that may be used again.
  cases life with
  | reused isOpen usable => exact ((stock.eviction_reason_none connection).1 usable).2

/-- A passage leaves no connection of a generation to come. -/
theorem Passage.aged (passage : Passage h kinds h')
    (hgeneration : h.stock.generation ≤ h'.stock.generation) (haged : h.Aged) : h'.Aged := by
  intro x hx
  rcases passage.origin hx with hx | ⟨hnew, -⟩ | ⟨y, hy, life⟩
  · exact (haged x hx).trans hgeneration
  · rw [hnew]
    exact hgeneration
  · have hsame := congrArg ConnectionInfo.generation life.info
    exact hsame.le.trans ((haged y hy).trans hgeneration)

/-- A connection that is spent is not made new by a passage, whatever becomes of it. -/
theorem Passage.spent {id : Nat} (passage : Passage h kinds h')
    (hlater : h.stock.Later h'.stock) (hspent : h.Spent id) : h'.Spent id where
  issued := hspent.issued.trans_le passage.count_le
  useless := by
    intro x hx hid
    rcases passage.origin hx with hx | ⟨hnew, -⟩ | ⟨y, hy, life⟩
    · rw [hlater.config]
      rcases hspent.useless x hx hid with hold | ⟨hidle, hexpired⟩
      · exact .inl (hold.trans_le hlater.generation)
      · exact .inr ⟨hidle, Inventory.idle_expired_later hlater.now hexpired⟩
    · -- A newborn takes an id that was not given out.
      have hissued := hspent.issued
      rw [← hid, hnew] at hissued
      exact absurd hissued (Nat.lt_irrefl _)
    · have hsame := congrArg ConnectionInfo.generation life.info
      have hyid := (Connection.id_of_info life.info).symm.trans hid
      rcases hspent.useless y hy hyid with hold | ⟨hidle, hexpired⟩
      · exact .inl (hsame.trans_lt (hold.trans_le hlater.generation))
      · rw [hidle] at life
        rw [life.not_expired] at hexpired
        cases hexpired

/-- Announcing a connection leaves the settings, the generation and the clock as they are. -/
theorem Announced.later (announced : Announced connection h h') : h.stock.Later h'.stock := by
  cases announced with
  | mk => exact ⟨rfl, Nat.le_refl _, Nat.le_refl _⟩

/-- Every step leaves the settings as they are, and neither the generation nor the clock goes
back. -/
theorem Step.later {given : Nat} (step : Step h given h') : h.stock.Later h'.stock := by
  refine step.preserves (P := fun later => h.stock.Later later.stock) ?_ ?_ ?_ ?_ ?_
    ⟨rfl, Nat.le_refl _, Nat.le_refl _⟩
  · exact fun move hlater => hlater.trans move.later.1
  · exact fun announced hlater => hlater.trans announced.later
  · exact fun hlater => ⟨hlater.config, hlater.generation, hlater.now⟩
  · exact fun hlater => ⟨hlater.config, hlater.generation, hlater.now⟩
  · exact fun hlater => ⟨hlater.config, hlater.generation, hlater.now⟩

/-- Every step leaves no connection of a generation to come. -/
theorem Step.aged {given : Nat} (step : Step h given h') (haged : h.Aged) : h'.Aged := by
  refine step.preserves ?_ ?_ ?_ ?_ ?_ haged
  · intro h h' move haged
    obtain ⟨kinds, passage, -⟩ := move.passage
    exact passage.aged move.later.1.generation haged
  · exact fun announced haged => announced.passage.1.aged announced.later.generation haged
  · exact fun haged => haged
  · exact fun haged x hx => haged x (Holdings.mem_of_scrap hx)
  · exact fun haged => haged

/-- A connection that is spent stays so, whatever step is taken. -/
theorem Step.spent {id given : Nat} (step : Step h given h') (hspent : h.Spent id) :
    h'.Spent id := by
  refine step.preserves (P := fun h => h.Spent id) ?_ ?_ ?_ ?_ ?_ hspent
  · intro h h' move hspent
    obtain ⟨kinds, passage, -⟩ := move.passage
    exact passage.spent move.later.1 hspent
  · exact fun announced hspent => announced.passage.1.spent announced.later hspent
  · exact fun hspent => ⟨hspent.issued, hspent.useless⟩
  · exact fun hspent => ⟨hspent.issued, fun x hx => hspent.useless x (Holdings.mem_of_scrap hx)⟩
  · exact fun hspent => ⟨hspent.issued, hspent.useless⟩

/-! ## Acquired connections -/

/-- Whoever is told of a connection gets one of the current generation that is established and not
destroyed, from an open pool that has it on its books. -/
theorem Announced.usable (announced : Announced connection h h') (hcustody : h.Custody)
    (htold : h.Told) :
    h'.stock.closed = false ∧ connection.generation = h'.stock.generation ∧
      connection.established = true ∧ connection.destroyed = false ∧
      connection ∈ h'.borrowed ∧ connection.id ∈ h'.stock.checkedOut := by
  cases announced with
  | mk _ held wanted established =>
      obtain ⟨hopen, hgeneration⟩ := (h.stock.return_reason_none connection).1 wanted
      have hhere : (Place.carried, connection) ∈ h.places := by simp [Holdings.places, held]
      have hfits : Fits connection _ .carried := htold.present _ hhere
      exact ⟨hopen, hgeneration, established, (hfits.established established).1,
        Multiset.mem_cons_self _ _, hcustody.carried_known held⟩

/-- Announcing a connection is one event, which reports the current generation. -/
theorem Announced.log (announced : Announced connection h h') :
    h'.stock.log = h.stock.log ++
        [⟨h.stock.now, h.stock.snapshot, .acquired connection.info⟩] ∧
      h'.stock.generation = h.stock.generation := by
  cases announced with
  | mk => exact ⟨rfl, rfl⟩

/-- An event that tells of an acquisition is not among those that come quietly. -/
theorem Inventory.Quiet.last {stock middle later : Inventory} {event last : Event}
    (hquiet : stock.Quiet middle) (hlog : later.log = middle.log ++ [last])
    (hnew : event ∈ later.log.drop stock.log.length) (htype : event.type = .acquired) :
    event = last := by
  obtain ⟨events, hmiddle, hevents⟩ := hquiet
  rw [hlog, hmiddle, List.append_assoc, List.drop_left] at hnew
  rcases List.mem_append.1 hnew with hnew | hnew
  · exact absurd htype (hevents event hnew)
  · exact List.mem_singleton.1 hnew

/-- An event that tells of an acquisition is the last one of its step. -/
theorem Step.acquired {event : Event} {info : ConnectionInfo} {given : Nat}
    (step : Step h given h')
    (hnew : event ∈ h'.stock.log.drop h.stock.log.length) (hkind : event.kind = .acquired info) :
    ∃ middle connection, Moves h middle ∧ Announced connection middle h' ∧
      connection.info = info ∧ event.pool.generation = h'.stock.generation := by
  have htype : event.type = .acquired := by rw [Event.type, hkind]; rfl
  cases step with
  | turn turn =>
      cases turn with
      | moves moves =>
          obtain ⟨events, hlog, hevents⟩ := moves.later.2
          rw [hlog, List.drop_left] at hnew
          exact absurd htype (hevents event hnew)
      | announced moves last =>
          obtain ⟨hlog, hgeneration⟩ := last.log
          obtain rfl := moves.later.2.last hlog hnew htype
          exact ⟨_, _, moves, last, EventKind.acquired.inj hkind, hgeneration.symm⟩
  | closed isOpen moves empty =>
      have hquiet : h.stock.Quiet _ := (Inventory.Quiet.none rfl).trans moves.later.2
      obtain rfl := hquiet.last rfl hnew htype
      cases hkind
  | destroyed => simp [Holdings.scrap, Holdings.shut, Inventory.scrapIdle] at hnew
  | @forsaken middle moves =>
      obtain ⟨events, hlog, hevents⟩ := moves.later.2
      have hscrap : middle.scrap.stock.log = h.stock.log ++ events := hlog
      rw [hscrap, List.drop_left] at hnew
      exact absurd htype (hevents event hnew)

/-! ## Runs -/

namespace Pool

variable {pool : Pool}

/-- The connections of a reachable pool are at most of its generation. -/
theorem Reachable.aged (h : pool.Reachable) : pool.holdings.Aged := by
  refine h.invariant (P := Holdings.Aged) ?_ fun _ step => step.aged
  intro config source network now x hx
  have hplaces : (Holdings.opened config source network now).places = 0 := rfl
  rw [hplaces] at hx
  exact absurd hx (Multiset.notMem_zero x)

/-- What is told of an acquisition is so: the pool is open, and the connection is of its
generation, established and not destroyed, on loan and on the books. It was not spent before. -/
theorem Reachable.acquired_now {action : Action} {event : Event} {info : ConnectionInfo}
    (h : pool.Reachable) (hnew : event ∈ (pool.after action).log.drop pool.log.length)
    (hkind : event.kind = .acquired info) :
    (pool.after action).isClosed = false ∧ info.generation = event.pool.generation ∧
      (∃ connection ∈ (pool.after action).loans, connection.info = info ∧
        connection.established = true ∧ connection.destroyed = false ∧
        connection.id ∈ (pool.after action).stock.checkedOut) ∧
      ¬ pool.holdings.Spent info.id := by
  have hstep := h.step action
  obtain ⟨middle, connection, moves, announced, rfl, hgeneration⟩ :=
    hstep.acquired hnew hkind
  have hmoves : Step pool.holdings 0 middle := .turn (.moves moves)
  obtain ⟨hopen, hcurrent, hestablished, hdestroyed, hloan, hbooked⟩ :=
    announced.usable (hmoves.custody h.sound.2) (hmoves.told h.sound.2 h.told)
  refine ⟨hopen, hcurrent.trans hgeneration.symm,
    ⟨connection, hloan, rfl, hestablished, hdestroyed, hbooked⟩, ?_⟩
  intro hspent
  have hlent : (Place.lent, connection) ∈ (pool.after action).holdings.places :=
    Multiset.mem_add.2 (.inl (Multiset.mem_add.2 (.inr (Multiset.mem_map_of_mem _ hloan))))
  -- A spent connection is of an old generation or idle, and this one is neither.
  rcases (hstep.spent hspent).useless _ hlent rfl with hold | ⟨hidle, -⟩
  · exact absurd hold (by rw [hcurrent]; exact Nat.lt_irrefl _)
  · cases hidle

/-- An idle connection that has been so for too long is spent. -/
theorem Reachable.expired_spent {idle : Connection} (h : pool.Reachable)
    (hidle : idle ∈ pool.stock.available)
    (hexpired : idle.isIdleExpired pool.config.maxIdleTime pool.now = true) :
    pool.holdings.Spent idle.id := by
  have hhere : (Place.idle, idle) ∈ pool.holdings.places := by
    show (Place.idle, idle) ∈ placed pool.stock.available _ _ _ _
    rw [placed_idle]
    exact Multiset.mem_add.2 (.inl (Multiset.mem_map_of_mem _ hidle))
  have hcustody := h.sound.2
  refine ⟨(hcustody.issued _ hhere).2, fun x hx hid => .inr ?_⟩
  obtain rfl : x = (.idle, idle) := Multiset.inj_on_of_nodup_map hcustody.once x hx _ hhere hid
  exact ⟨rfl, hexpired⟩

/-- Clearing a pool ends its generation. -/
theorem Reachable.after_clear (h : pool.Reachable) (hheld : pool.held = true) :
    (pool.after .clear).holdings = pool.clear.holdings := by
  have hstep : (pool.step .clear).2 = pool.clear := by simp [Pool.step, hheld]
  have hclear := (clear_advances h.sound.1).coherent
  rw [(after_held .clear (hstep ▸ hclear) (by rw [hstep]; exact hheld)).2, hstep]

/-- A connection that was told of before the pool is cleared is spent then. -/
theorem Reachable.cleared_spent {event : Event} {old : ConnectionInfo} (h : pool.Reachable)
    (hheld : pool.held = true) (hevent : event ∈ pool.log)
    (hold : event.kind.connection? = some old) : (pool.after .clear).holdings.Spent old.id := by
  rw [h.after_clear hheld]
  refine ⟨?_, fun x hx _ => .inl (Nat.lt_succ_of_le (h.aged x hx))⟩
  refine Nat.lt_of_not_le ?_
  intro hle
  have hnone := h.told.unborn old.id hle
  exact story_nil.1 hnone event.kind (List.mem_map_of_mem hevent) old hold rfl

/-- Hand-out is safe. Whenever a step of a run tells that a connection was acquired, the pool is
open then, and the connection is of the generation that is told, established, not destroyed and
on the books. At no moment of the run before was it idle for too long, in particular not when it
was taken. And it was not told of before any clearing of the pool in that run, so that none from
before a clearing is acquired after it. -/
theorem acquired_usable {config : Config} {source : LinkSource} {network : Network}
    {now : Instant} {opened : Pool} (hopened : create config source network now = .ok opened)
    (history : List Action) (action : Action) {event : Event} {info : ConnectionInfo}
    (hnew : event ∈ ((opened.run history).after action).log.drop (opened.run history).log.length)
    (hkind : event.kind = .acquired info) :
    ((opened.run history).after action).isClosed = false ∧
      info.generation = event.pool.generation ∧
      (∃ connection ∈ ((opened.run history).after action).loans, connection.info = info ∧
        connection.established = true ∧ connection.destroyed = false ∧
        connection.id ∈ ((opened.run history).after action).stock.checkedOut) ∧
      (∀ prior later, history = prior ++ later →
        ∀ idle ∈ (opened.run prior).stock.available, idle.id = info.id →
          idle.isIdleExpired (opened.run prior).config.maxIdleTime (opened.run prior).now =
            false) ∧
      ∀ prior later, history = prior ++ .clear :: later → (opened.run prior).held = true →
        ∀ earlier ∈ (opened.run prior).log, ∀ old, earlier.kind.connection? = some old →
          old.id ≠ info.id := by
  have hreachable : opened.Reachable := .opened hopened
  obtain ⟨hopen, hgeneration, hloan, hspent⟩ :=
    (hreachable.run history).acquired_now hnew hkind
  refine ⟨hopen, hgeneration, hloan, ?_, ?_⟩
  · rintro prior later rfl idle hidle hid
    rw [Bool.eq_false_iff]
    intro hexpired
    -- It would have been spent ever since.
    refine hspent ?_
    have hprior := hreachable.run prior
    rw [run_append, ← hid]
    exact hprior.preserves (P := fun h => h.Spent idle.id) (fun _ step => step.spent) later
      (hprior.expired_spent hidle hexpired)
  · rintro prior later rfl hheld earlier hearlier old hold hid
    refine hspent ?_
    have hprior := hreachable.run prior
    rw [run_append, ← hid]
    exact (hprior.after .clear).preserves (P := fun h => h.Spent old.id)
      (fun _ step => step.spent) later (hprior.cleared_spent hheld hearlier hold)

/-- The small pool gets a connection, is cleared and connects a new one for a call. -/
def getNew : List Action :=
  openEmpty ++ addOne ++
    [.clear, .acquire 1, .enter 1, .elapse 10000000, .tick 0, .resume 1, .finishConnect 1]

/-- The connections that the small pool made before it was cleared are not the third one, which
a call acquires after that. -/
theorem new_usable :
    ((small.run getNew).after (.register 1)).isClosed = false ∧
      ∀ earlier ∈ (small.run (openEmpty ++ addOne)).log, ∀ old,
        earlier.kind.connection? = some old → old.id ≠ 3 := by
  have hnew : (⟨10000000, ⟨0, 1, 0, 1, .localhost⟩, .acquired ⟨3, 1, 0, .localhost⟩⟩ : Event) ∈
      ((small.run getNew).after (.register 1)).log.drop (small.run getNew).log.length := by
    decide +kernel
  obtain ⟨hopen, -, -, -, hcleared⟩ :=
    acquired_usable small_opened getNew (.register 1) hnew rfl
  exact ⟨hopen, hcleared (openEmpty ++ addOne) _ rfl rfl⟩

end Pool

end ConnectionPool
