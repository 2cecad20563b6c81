import ConnectionPool.Proofs.Pool.Advance

/-!
# What serving the line does

Answers with an error and callers that go away move no connection. A tick that finds a
connection for the head moves it to the call that waits there; if the waiter went away meanwhile
it is reclaimed. Read `attend_moves` first.
-/

namespace ConnectionPool

namespace Holdings

variable {h : Holdings} {final : Inventory} {connection : Connection}

/-- Evictions are moves. -/
theorem evicts_moves (hopen : h.stock.closed = false) (hevicts : h.stock.Evicts final) :
    Moves h { h with stock := final } := by
  -- Each eviction starts from holdings with another inventory, hence the induction is over all
  -- of them.
  generalize hstock : h.stock = stock at hevicts
  induction hevicts generalizing h with
  | refl =>
      subst hstock
      exact .refl
  | step hfirst hreason _ ih =>
      subst hstock
      exact .head (.evicted h hfirst hopen hreason)
        (ih (h := { h with stock := _ }) (by rw [Inventory.discard_eq]; exact hopen) rfl)

/-- A search of an open pool that lends no connection comes to moves. -/
theorem lend_none_moves (hopen : h.stock.closed = false) (hlend : h.stock.lend = (none, final)) :
    Moves h { h with stock := final } ∧ final.closed = false := by
  unfold Inventory.lend Inventory.obtain at hlend
  cases htake : h.stock.takeIdle with
  | mk result middle =>
      cases result with
      | some connection => simp [htake] at hlend
      | none =>
          obtain ⟨hevicts, -⟩ := Inventory.take_from_none rfl htake
          cases hroom : middle.hasCapacity with
          | true => simp [htake, hroom] at hlend
          | false =>
              obtain rfl : middle = final := by simpa [htake, hroom] using hlend
              exact ⟨evicts_moves hopen hevicts, hevicts.closed_eq.trans hopen⟩

/-- A connection that an open pool lends moves to a call. -/
theorem lend_some_moves (hopen : h.stock.closed = false)
    (hlend : h.stock.lend = (some connection, final)) :
    Moves h ({ h with stock := final }.carry connection) ∧ final.closed = false := by
  unfold Inventory.lend Inventory.obtain at hlend
  cases htake : h.stock.takeIdle with
  | mk result middle =>
      cases result with
      | some first =>
          obtain ⟨found, rest, hevicts, hfirst, husable, rfl⟩ :=
            Inventory.take_from_some rfl htake
          have hfound : found.closed = false := hevicts.closed_eq.trans hopen
          simp only [htake, Inventory.checkOut, Prod.mk.injEq, Option.some.injEq] at hlend
          obtain ⟨rfl, rfl⟩ := hlend
          exact ⟨(evicts_moves hopen hevicts).tail
            (.reused { h with stock := found } hfirst hfound husable), hfound⟩
      | none =>
          obtain ⟨hevicts, hempty⟩ := Inventory.take_from_none rfl htake
          have hmiddle : middle.closed = false := hevicts.closed_eq.trans hopen
          cases hroom : middle.hasCapacity with
          | false => simp [htake, hroom] at hlend
          | true =>
              simp only [htake, hroom, if_true, Inventory.checkOut, Inventory.create_eq,
                Prod.mk.injEq, Option.some.injEq] at hlend
              obtain ⟨rfl, rfl⟩ := hlend
              exact ⟨(evicts_moves hopen hevicts).tail
                (.produced { h with stock := middle } hempty hmiddle hroom), hmiddle⟩

end Holdings

namespace Pool

variable {pool next : Pool} {id : Nat} {call : Call}

/-! ## Answers -/

/-- The call after an answer for the member. -/
def answer (given : Nat × Except PoolError Connection) (call : Call) : Call :=
  match call.phase with
  | .queued member =>
      if member = given.1 then { call with phase := .answered given.2 } else call
  | _ => call

/-- Delivering changes the calls alone. -/
theorem deliver_eq (pool : Pool) (given : Nat × Except PoolError Connection) :
    pool.deliver given = { pool with calls := pool.calls.map (answer given) } :=
  rfl

/-- An answer keeps the id of the call. -/
theorem answer_id (given : Nat × Except PoolError Connection) (call : Call) :
    (answer given call).id = call.id := by
  unfold answer
  split
  · split <;> rfl
  · rfl

/-- An answer ends the wait of those who wait as the member, and of nobody else. -/
theorem answer_member (given : Nat × Except PoolError Connection) (call : Call) :
    (answer given call).phase.member? = call.phase.member?.filter fun id => id ≠ given.1 := by
  unfold answer
  cases hphase : call.phase with
  | queued member =>
      by_cases heq : member = given.1 <;> simp [Phase.member?, Option.filter, heq, hphase]
  | _ => simp [Phase.member?, hphase]

/-- A sound answer leaves every phase sound. -/
theorem answer_sound {given : Nat × Except PoolError Connection}
    (hgiven : (Phase.answered given.2).Sound) (h : call.phase.Sound) :
    (answer given call).phase.Sound := by
  unfold answer
  split
  · split
    · exact hgiven
    · exact h
  · exact h

/-- An error moves no connection. -/
theorem answer_error (member : Nat) (error : PoolError) (call : Call) :
    (answer (member, .error error) call).phase.carried? = call.phase.carried? ∧
      (answer (member, .error error) call).phase.dialled? = call.phase.dialled? := by
  unfold answer
  cases hphase : call.phase with
  | queued other =>
      by_cases heq : other = member <;> simp [Phase.carried?, Phase.dialled?, heq, hphase]
  | _ => simp [hphase]

/-- Those who still wait after the answers. -/
theorem waiting_deliver (answers : List (Nat × Except PoolError Connection)) (pool : Pool) :
    (answers.foldl deliver pool).waiting =
      pool.waiting.filter fun id => id ∉ answers.map Prod.fst := by
  induction answers generalizing pool with
  | nil => simp
  | cons given rest ih =>
      have hfirst : (pool.deliver given).waiting = pool.waiting.filter fun id =>
          id ≠ given.1 := by
        have hmember : (fun call => (answer given call).phase.member?) =
            fun call => call.phase.member?.filter fun id => id ≠ given.1 :=
          funext (answer_member given)
        simp only [deliver_eq, waiting, Multiset.filterMap_coe, List.filterMap_map,
          Function.comp_def, hmember, Multiset.filter_coe, List.filter_filterMap]
      rw [List.foldl_cons, ih, hfirst, Multiset.filter_filter]
      refine Multiset.filter_congr ?_
      intro id _
      simp [and_comm]

/-- Delivering answers changes only the phases of calls. -/
theorem deliver_frame (answers : List (Nat × Except PoolError Connection)) (pool : Pool) :
    answers.foldl deliver pool = { pool with calls := (answers.foldl deliver pool).calls } ∧
      (answers.foldl deliver pool).calls.map Call.id = pool.calls.map Call.id := by
  induction answers generalizing pool with
  | nil => exact ⟨rfl, rfl⟩
  | cons given rest ih =>
      obtain ⟨hframe, hids⟩ := ih (pool.deliver given)
      rw [List.foldl_cons]
      refine ⟨?_, hids.trans (Keyed.map_keys (answer_id given))⟩
      conv_lhs => rw [hframe]
      rfl

/-- Taking over an outcome changes the calls, the line and the timers, and nothing else. -/
theorem settle_frame (pool : Pool) (outcome : WaitQueue.Outcome Nat Connection) :
    ∃ calls timers, pool.settle outcome =
      { pool with calls := calls, queue := outcome.queue, timers := timers } := by
  obtain ⟨hframe, -⟩ := deliver_frame outcome.answers pool
  refine ⟨(outcome.answers.foldl deliver pool).calls,
    pool.timers.filter fun timer => timer.member ∉ outcome.aborted, ?_⟩
  unfold settle
  rw [hframe]

/-- Delivering sound answers leaves the phases of calls sound. -/
theorem deliver_sound (answers : List (Nat × Except PoolError Connection)) (pool : Pool)
    (hgiven : ∀ given ∈ answers, (Phase.answered given.2).Sound)
    (hsound : ∀ call ∈ pool.calls, call.phase.Sound) :
    ∀ call ∈ (answers.foldl deliver pool).calls, call.phase.Sound := by
  induction answers generalizing pool with
  | nil => exact hsound
  | cons given rest ih =>
      refine ih (pool.deliver given) (fun other hother => hgiven other (.tail _ hother)) ?_
      intro call hcall
      obtain ⟨before, hbefore, rfl⟩ := List.mem_map.1 hcall
      exact answer_sound (hgiven given List.mem_cons_self) (hsound before hbefore)

/-- A pool stays coherent when it takes over an outcome in which those who are not answered are
still in the line, also when it is closed together with the line. -/
theorem Coherent.settle {outcome : WaitQueue.Outcome Nat Connection} (h : pool.Coherent)
    (stock : Inventory) (hline : outcome.queue.Awaits (outcome.remaining pool.waiting))
    (hgiven : ∀ given ∈ outcome.answers, (Phase.answered given.2).Sound)
    (hshut : outcome.queue.destroyed = stock.closed) :
    ({ pool with stock := stock }.settle outcome).Coherent := by
  obtain ⟨hframe, hids⟩ := deliver_frame outcome.answers { pool with stock := stock }
  have hsound := deliver_sound outcome.answers { pool with stock := stock } hgiven h.phases
  have hwaiting := waiting_deliver outcome.answers { pool with stock := stock }
  unfold Pool.settle
  rw [hframe]
  exact ⟨hids ▸ h.callIds, h.owners, hids ▸ h.apart, hsound, h.fillings, hwaiting ▸ hline, hshut⟩

/-- Answers with an error that has a reason are sound. -/
theorem sound_errors {answers : List (Nat × Except PoolError Connection)} {error : PoolError}
    (herrors : ∀ given ∈ answers, given.2 = .error error) (hreason : error.reason? ≠ none) :
    ∀ given ∈ answers, (Phase.answered given.2).Sound := by
  intro given hgiven
  rw [herrors given hgiven]
  exact hreason

/-- Answers with errors move no connection. -/
theorem holdings_settle_errors {outcome : WaitQueue.Outcome Nat Connection} {error : PoolError}
    (herrors : ∀ given ∈ outcome.answers, given.2 = .error error) :
    (pool.settle outcome).holdings = pool.holdings := by
  have hdeliver : ∀ (answers : List (Nat × Except PoolError Connection)) (pool : Pool),
      (∀ given ∈ answers, given.2 = .error error) →
      (answers.foldl deliver pool).holdings = pool.holdings := by
    intro answers
    induction answers with
    | nil => exact fun _ _ => rfl
    | cons given rest ih =>
        intro pool herrors
        have hcall := answer_error given.1 error
        rw [← herrors given List.mem_cons_self] at hcall
        rw [List.foldl_cons, ih _ fun other hother =>
          herrors other (List.mem_cons_of_mem _ hother)]
        simp only [holdings, deliver_eq, Multiset.filterMap_coe, List.filterMap_map,
          Function.comp_def, fun call => (hcall call).1, fun call => (hcall call).2]
  exact hdeliver outcome.answers pool herrors

/-- Taking over an outcome without answers moves no connection. -/
theorem holdings_settle_nil (queue : WaitQueue Nat) (aborted : List Nat) :
    (pool.settle ⟨queue, [], aborted⟩).holdings = pool.holdings :=
  rfl

/-- An answer for a member goes to the one call that waits as it. -/
theorem deliver_eq_setPhase {member : Nat} (h : pool.Coherent) (hfind : pool.call? id = some call)
    (hphase : call.phase = .queued member) (given : Except PoolError Connection) :
    pool.deliver (member, given) = pool.setPhase id (.answered given) := by
  obtain ⟨rest, hcalls, -, -, hid⟩ := h.calls_split hfind
  have honce := h.line.once
  have hmember : call.phase.member? = some member := by rw [hphase]; rfl
  have hrest : member ∉ rest.filterMap fun call => call.phase.member? := by
    simp only [waiting, hcalls, Multiset.filterMap_cons, hmember, Option.map_some,
      Option.getD_some, Multiset.singleton_add] at honce
    exact (Multiset.nodup_cons.1 honce).1
  have hchange : pool.calls.map (answer (member, given)) =
      pool.calls.map fun other =>
        if other.id = id then { other with phase := .answered given } else other := by
    refine List.map_congr_left ?_
    intro other hother
    by_cases heq : other.id = id
    · have hsame : other = call := List.inj_on_of_nodup_map h.callIds hother
        (Coherent.call_mem hfind) (heq.trans hid.symm)
      rw [if_pos heq, hsame, answer, hphase]
      exact if_pos rfl
    · -- Another call waits as another member, if it waits, so the answer passes it by.
      have hmem : other ∈ rest := by
        rw [← Multiset.mem_coe, hcalls] at hother
        exact (Multiset.mem_cons.1 hother).resolve_left fun hsame => heq (hsame ▸ hid)
      rw [if_neg heq, answer]
      split
      · next queued hqueued =>
          have hne : queued ≠ member := fun hsame => hrest
            ((Multiset.mem_filterMap _ _).2 ⟨other, hmem, by rw [hqueued, hsame]; rfl⟩)
          exact if_neg hne
      · rfl
  rw [deliver_eq, hchange]
  rfl

/-- A connection that answers a listening member moves to the call that waits as it. -/
theorem holdings_settle_served {queue : WaitQueue Nat} {aborted : List Nat} {member : Nat}
    {connection : Connection} (h : pool.Coherent) (hmember : member ∈ pool.waiting) :
    (pool.settle ⟨queue, [(member, .ok connection)], aborted⟩).holdings =
      pool.holdings.carry connection := by
  obtain ⟨call, hcall, hphase⟩ := (Multiset.mem_filterMap _ _).1 hmember
  have hqueued : call.phase = .queued member := by
    cases hcase : call.phase <;> simp_all [Phase.member?]
  have hfind : pool.call? call.id = some call := Keyed.find_of_mem h.callIds hcall
  obtain ⟨hbefore, hafter⟩ := holdings_split h hfind
  show (pool.deliver (member, .ok connection)).holdings = pool.holdings.carry connection
  rw [deliver_eq_setPhase h hfind hqueued, hbefore, hqueued]
  exact hafter pool.stock _

/-! ## Callers that go away -/

/-- A waiter that goes away holds no connection. -/
theorem lose_waiter_undisturbed (h : pool.Coherent) (id : Nat) :
    pool.Undisturbed (pool.loseWaiter id) := by
  unfold loseWaiter
  cases hfind : pool.call? id with
  | none => exact .refl h
  | some call =>
      cases hphase : call.phase with
      | queued member =>
          simp only [Option.map_some, hphase]
          refine ⟨h.abandon hfind hphase, ?_, ?_, rfl⟩
          · exact holdings_removeCall h hfind (by rw [hphase]; rfl) (by rw [hphase]; rfl)
          · refine Keyed.map_keys ?_
            intro m
            split <;> rfl
      | answered answer =>
          cases answer with
          | ok _ => simpa only [Option.map_some, hphase] using Undisturbed.refl h
          | error _ =>
              simp only [Option.map_some, hphase]
              refine ⟨h.removeCall hfind (by rw [hphase]; rfl), ?_, rfl, rfl⟩
              exact holdings_removeCall h hfind (by rw [hphase]; rfl) (by rw [hphase]; rfl)
      | _ => simpa only [Option.map_some, hphase] using Undisturbed.refl h

/-- Tripwires and departures are no part of coherence and hold nothing. -/
theorem Undisturbed.congr {other : Pool} (h : pool.Undisturbed next)
    (hcalls : other.calls = next.calls) (hpopulations : other.populations = next.populations)
    (hqueue : other.queue = next.queue) (hstock : other.stock = next.stock)
    (hloans : other.loans = next.loans) (hheld : other.held = next.held) :
    pool.Undisturbed other where
  coherent := h.coherent.congr hcalls hpopulations hqueue (by rw [hstock])
  holdings := by
    rw [← h.holdings]
    simp only [Pool.holdings, hcalls, hpopulations, hstock, hloans]
  members := by rw [hqueue, h.members]
  held := hheld.trans h.held

/-- What disturbs nothing once disturbs nothing when it is done again and again. -/
theorem foldl_undisturbed {β : Type} {turn : Pool → β → Pool}
    (hturn : ∀ {pool : Pool}, pool.Coherent → ∀ b, pool.Undisturbed (turn pool b))
    (turns : List β)
    (h : pool.Coherent) : pool.Undisturbed (turns.foldl turn pool) := by
  induction turns generalizing pool with
  | nil => exact .refl h
  | cons b rest ih => exact (hturn h b).trans (ih (hturn h b).coherent)

/-- A tripwire disturbs nothing when it goes off. -/
theorem send_away_undisturbed (h : pool.Coherent) (id place : Nat) :
    pool.Undisturbed (pool.sendAway id place) := by
  unfold sendAway
  split
  · exact lose_waiter_undisturbed h id
  · exact (Undisturbed.refl h).congr rfl rfl rfl rfl rfl rfl

/-- Letting the tripwires see an event disturbs nothing. -/
theorem fire_at_undisturbed (h : pool.Coherent) (event : Event) (place : Nat) :
    pool.Undisturbed (pool.fireAt event place) := by
  have hrest : pool.Undisturbed { pool with
      tripwires := (pool.tripwires.partition fun wire => event.type == wire.type).2 } :=
    (Undisturbed.refl h).congr rfl rfl rfl rfl rfl rfl
  exact hrest.trans (foldl_undisturbed
    (fun hpool wire => send_away_undisturbed hpool wire.call place) _ hrest.coherent)

/-- Letting the tripwires see the log from some place on disturbs nothing. -/
theorem fire_undisturbed (h : pool.Coherent) (place : Nat) : pool.Undisturbed (pool.fire place) :=
  foldl_undisturbed (fun hpool seen => fire_at_undisturbed hpool seen.1 seen.2) _ h

/-- Callers that go away disturb nothing. -/
theorem lose_all_undisturbed (h : pool.Coherent) (ids : List Nat) :
    pool.Undisturbed (pool.loseAll ids) :=
  foldl_undisturbed (fun hpool id => lose_waiter_undisturbed hpool id) _ h

/-! ## Ticks and timers -/

/-- The line of an open pool asks, and has a head. -/
theorem Coherent.asks_open (h : pool.Coherent) (hasks : pool.queue.asks = true) :
    pool.stock.closed = false ∧ pool.queue.members ≠ [] := by
  unfold WaitQueue.asks at hasks
  split at hasks
  · cases hasks
  · next head rest hmembers =>
      rw [Bool.and_eq_true, Bool.not_eq_true', h.shut] at hasks
      exact ⟨hasks.1, by simp [hmembers]⟩

/-- The head of the line is offered what was found for it. The connection that was found is in
no call's hands before that, and afterwards in those of the call at the head or back with the
pool. -/
theorem serve_advances {h : Holdings} {resource : Option Connection} (hpool : pool.Coherent)
    (hmembers : pool.queue.members ≠ []) {tick : Tick Connection}
    {outcome : WaitQueue.Outcome Nat Connection}
    (hserve : pool.queue.serve resource = (tick, outcome))
    (hmoves : Moves h (resource.elim pool.holdings pool.holdings.carry)) :
    tick ≠ .stopped ∧ (pool.settle outcome).Coherent ∧
      ((∀ connection, tick ≠ .unclaimed connection) → Moves h (pool.settle outcome).holdings) ∧
      ∀ connection, tick = .unclaimed connection →
        Moves h ((pool.settle outcome).holdings.carry connection) := by
  have hline := hpool.line.serve resource
  rw [hserve] at hline
  have hsettle := hpool.settle pool.stock hline.1
  have hshut := hline.2.trans hpool.shut
  unfold WaitQueue.serve at hserve
  split at hserve
  · next hnil => exact absurd hnil hmembers
  · cases hserve
    exact ⟨by simp, hsettle (by simp) hshut, fun _ => by rwa [holdings_settle_nil], by simp⟩
  · next head rest connection hhead =>
      cases hlistening : head.listening with
      | true =>
          simp only [hlistening, if_true, Prod.mk.injEq] at hserve
          obtain ⟨rfl, rfl⟩ := hserve
          have hmember : head.id ∈ pool.waiting :=
            (hpool.line.listening _).2 ⟨head, by rw [hhead]; simp, rfl, hlistening⟩
          have hsound : (Phase.answered (.ok connection)).Sound := trivial
          refine ⟨by simp, hsettle (by simpa using hsound) hshut, fun _ => ?_, by simp⟩
          rwa [holdings_settle_served hpool hmember]
      | false =>
          simp only [hlistening, Bool.false_eq_true, if_false, Prod.mk.injEq] at hserve
          obtain ⟨rfl, rfl⟩ := hserve
          -- Nobody listens, so the connection is left to the run loop.
          refine ⟨by simp, hsettle (by simp) hshut, fun h => absurd rfl (h connection), ?_⟩
          rintro _ ⟨⟩
          rwa [holdings_settle_nil]

/-- Attending to the head of the line once. -/
theorem attend_moves (h : pool.Coherent) (lost : List Nat) :
    (pool.attend lost).2.Coherent ∧ Moves pool.holdings (pool.attend lost).2.holdings := by
  unfold attend
  cases hasks : pool.queue.asks with
  | false =>
      have hline := h.line.pass (α := Connection) hasks
      have herrors := WaitQueue.pass_errors (α := Connection) pool.queue
      rw [if_neg (by simp)]
      cases hpass : (pool.queue.pass : Tick Connection × _) with
      | mk tick outcome =>
          rw [hpass] at hline herrors
          have hsettle : (pool.settle outcome).Coherent ∧
              Moves pool.holdings (pool.settle outcome).holdings :=
            ⟨h.settle pool.stock hline.1 (sound_errors herrors (by simp [WaitQueue.closedError,
              PoolError.reason?])) (hline.2.trans h.shut), by rw [holdings_settle_errors herrors]⟩
          cases tick <;> exact hsettle
  | true =>
      obtain ⟨hopen, hmembers⟩ := h.asks_open hasks
      rw [if_pos rfl]
      cases hlend : pool.stock.lend with
      | mk resource stock =>
          have hmoves : Moves pool.holdings (resource.elim { pool with stock := stock }.holdings
                { pool with stock := stock }.holdings.carry) ∧ stock.closed = false := by
            cases resource with
            | none => exact Holdings.lend_none_moves (h := pool.holdings) hopen hlend
            | some connection => exact Holdings.lend_some_moves (h := pool.holdings) hopen hlend
          have hlent : { pool with stock := stock }.Coherent :=
            h.congr rfl rfl rfl (hmoves.2.trans hopen.symm)
          -- Callers may go away before the head is served, the head's own among them, but they
          -- take no connection with them.
          have hfired := fire_undisturbed hlent pool.log.length
          have hleft := hfired.trans (lose_all_undisturbed hfired.coherent lost)
          dsimp only
          generalize ({ pool with stock := stock }.fire pool.log.length).loseAll lost = left
            at hleft ⊢
          have hhead : left.queue.members ≠ [] := by
            intro hnil
            have := hleft.members
            rw [hnil, List.map_nil] at this
            exact hmembers (List.map_eq_nil_iff.1 this.symm)
          cases hserve : left.queue.serve resource with
          | mk tick outcome =>
              obtain ⟨hgoes, hcoherent, hserved, hunclaimed⟩ :=
                serve_advances hleft.coherent hhead hserve (h := pool.holdings)
                  (by rw [hleft.holdings]; exact hmoves.1)
              cases tick with
              | stopped => exact absurd rfl hgoes
              | unclaimed connection =>
                  exact ⟨hcoherent.congr rfl rfl rfl (Inventory.reclaim_closed _ _),
                    (hunclaimed connection rfl).tail (.reclaimed _ rfl)⟩
              | _ => exact ⟨hcoherent, hserved (by simp)⟩

/-- A tick of a run loop attends to the head of the line, if it is due. -/
theorem tick_advances (h : pool.Coherent) (id : Nat) (lost : List Nat) :
    pool.Advances (pool.tick id lost) := by
  unfold tick
  split
  · exact .refl h
  · split
    · obtain ⟨hcoherent, hmoves⟩ := attend_moves h lost
      split
      · next next hattend =>
          rw [hattend] at hcoherent hmoves
          exact ⟨hcoherent.congr rfl rfl rfl rfl, .moves hmoves⟩
      · next next hattend =>
          rw [hattend] at hcoherent hmoves
          exact ⟨hcoherent.congr rfl rfl rfl rfl, .moves hmoves⟩
    · exact .refl h

/-- A timer that ends a wait moves no connection. -/
theorem expire_advances (h : pool.Coherent) (member : Nat) :
    pool.Advances (pool.expire member) := by
  unfold expire
  split
  · dsimp only
    have hrest : { pool with
        timers := pool.timers.filter fun timer => timer.member != member }.Coherent :=
      h.congr rfl rfl rfl rfl
    split
    · next outcome hexpire =>
        have hline := h.line.expire hexpire
        have herrors := WaitQueue.expire_errors hexpire
        have hsound := sound_errors herrors (by simp [WaitQueue.timeoutError, PoolError.reason?])
        refine ⟨hrest.settle pool.stock hline.1 hsound (hline.2.trans h.shut), .moves ?_⟩
        rw [holdings_settle_errors herrors]
        exact .refl
    · exact ⟨hrest, .moves .refl⟩
  · exact .refl h

end Pool

end ConnectionPool
