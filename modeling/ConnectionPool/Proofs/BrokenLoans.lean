import ConnectionPool.Proofs.Pool.Endings
import ConnectionPool.Proofs.Pool.Lending
import ConnectionPool.Proofs.Pool.Queueing
import ConnectionPool.Proofs.Reachable
import Mathlib.Data.List.Induction

/-!
# Connections that borrowers destroy

The pool closes every connection that it destroys itself. A connection that is destroyed and
still there was destroyed by a borrower while it was on loan: `Reachable.destroyed_before`.
Giving it back does not close it, so it may become idle and go to the next caller, who then
fails as if its connect had failed although none was tried. `dead_by_borrowers` says that this
is the only way.
-/

namespace ConnectionPool

variable {h h' : Holdings} {connection connection' : Connection}

/-! ## What moves destroy -/

/-- Writing does not destroy. -/
theorem Connection.write_destroyed (connection : Connection) (bytes : Nat) (network : Network)
    (now : Instant) :
    (connection.write bytes network now).2.1.destroyed = connection.destroyed := by
  unfold write
  split
  · rfl
  · split <;> rfl

/-- Establishing does not destroy. -/
theorem Connection.establish_destroyed (connection : Connection) (network : Network)
    (now : Instant) :
    (connection.establish network now).2.1.destroyed = connection.destroyed := by
  unfold establish
  split
  · rfl
  · exact connection.connect_destroyed network now

/-- A connection is destroyed in its life on loan only. -/
theorem Life.destroyed {stock : Inventory} {place place' : Place} {kinds : List EventKind}
    (life : Life stock connection place kinds place' connection') :
    connection'.destroyed = connection.destroyed ∨ place = .lent := by
  cases life with
  | reused | reclaimed | readied | announced | stocked => exact .inl rfl
  | dialled | filled => exact .inl (Connection.connect_destroyed _ _ _)
  | handled | returned => exact .inr rfl

/-- No connection is put on loan by a move. -/
theorem Move.borrowers (move : Move h h') :
    ∀ loan ∈ h'.borrowed, ∃ before ∈ h.borrowed, before.id = loan.id := by
  have hkept : ∀ {loans : Multiset Connection}, loans ≤ h.borrowed →
      ∀ loan ∈ loans, ∃ before ∈ h.borrowed, before.id = loan.id :=
    fun hle loan hloan => ⟨loan, Multiset.mem_of_le hle hloan, rfl⟩
  cases move with
  | @handled connection changed network rest held change =>
      intro loan hloan
      rcases Multiset.mem_cons.1 hloan with rfl | hloan
      · exact ⟨connection, held ▸ Multiset.mem_cons_self _ _,
          (Connection.id_of_info change.info).symm⟩
      · exact ⟨loan, held ▸ Multiset.mem_cons_of_mem hloan, rfl⟩
  | released held => exact hkept (held ▸ Multiset.le_cons_self _ _)
  | _ => exact hkept le_rfl

/-- The connections that are destroyed were so before or were on loan then, and no others are on
loan. -/
structure Holdings.Spoils (h h' : Holdings) : Prop where
  destroyed : ∀ x ∈ h'.places, x.2.destroyed = true →
    (∃ y ∈ h.places, y.2.id = x.2.id ∧ y.2.destroyed = true) ∨
      ∃ loan ∈ h.borrowed, loan.id = x.2.id
  borrowed : ∀ loan ∈ h'.borrowed, ∃ before ∈ h.borrowed, before.id = loan.id

/-- Nothing was destroyed and nothing lent. -/
theorem Holdings.Spoils.refl (h : Holdings) : h.Spoils h :=
  ⟨fun x hx hdead => .inl ⟨x, hx, rfl, hdead⟩, fun loan hloan => ⟨loan, hloan, rfl⟩⟩

/-- Where nothing becomes of connections but that some go, none is destroyed. -/
theorem Holdings.Spoils.leave {last : Holdings} (hspoils : h.Spoils h')
    (hplaces : ∀ x ∈ last.places, x ∈ h'.places) (hborrowed : last.borrowed = h'.borrowed) :
    h.Spoils last :=
  ⟨fun x hx => hspoils.destroyed x (hplaces x hx), hborrowed ▸ hspoils.borrowed⟩

/-- What becomes of a connection in a passage destroys it if it is on loan only. -/
theorem Passage.spoils {start : Holdings} {kinds : List EventKind} (passage : Passage h kinds h')
    (hspoils : start.Spoils h) : ∀ x ∈ h'.places, x.2.destroyed = true →
      (∃ y ∈ start.places, y.2.id = x.2.id ∧ y.2.destroyed = true) ∨
        ∃ loan ∈ start.borrowed, loan.id = x.2.id := by
  intro x hx hdead
  rcases passage.origin hx with hbefore | ⟨hnew, -⟩ | ⟨⟨place, connection⟩, hbefore, life⟩
  · exact hspoils.destroyed x hbefore hdead
  · rw [hnew] at hdead
    cases hdead
  · have hid : x.2.id = connection.id := Connection.id_of_info life.info
    rw [hid]
    rcases life.destroyed with hsame | hlent
    · exact hspoils.destroyed (place, connection) hbefore (hsame.symm.trans hdead)
    · obtain rfl : place = .lent := hlent
      exact .inr (hspoils.borrowed connection (Holdings.mem_places.1 hbefore))

/-- A sequence of moves destroys connections on loan only. -/
theorem Moves.spoils {start : Holdings} (moves : Moves h h') (hspoils : start.Spoils h) :
    start.Spoils h' := by
  refine moves.preserves (fun move hspoils => ?_) hspoils
  obtain ⟨kinds, passage, -⟩ := move.passage
  refine ⟨passage.spoils hspoils, fun loan hloan => ?_⟩
  obtain ⟨before, hbefore, hid⟩ := move.borrowers loan hloan
  obtain ⟨first, hfirst, hsame⟩ := hspoils.borrowed before hbefore
  exact ⟨first, hfirst, hsame.trans hid⟩

/-- A step destroys connections on loan only. -/
theorem Step.spoils {given : Nat} (step : Step h given h') : ∀ x ∈ h'.places,
    x.2.destroyed = true → (∃ y ∈ h.places, y.2.id = x.2.id ∧ y.2.destroyed = true) ∨
      ∃ loan ∈ h.borrowed, loan.id = x.2.id := by
  have hshut : h.Spoils h.shut := (Holdings.Spoils.refl h).leave (fun _ hx => hx) rfl
  cases step with
  | turn turn =>
      cases turn with
      | moves moves => exact (moves.spoils (.refl h)).destroyed
      | announced moves last => exact last.passage.1.spoils (moves.spoils (.refl h))
  | closed isOpen moves empty => exact (moves.spoils hshut).destroyed
  | destroyed => exact fun x hx => hshut.destroyed x (Holdings.mem_of_scrap hx)
  | forsaken moves =>
      exact fun x hx => (moves.spoils (.refl h)).destroyed x (Holdings.mem_of_scrap hx)

/-! ## What actions destroy -/

namespace Pool

variable {pool next opened : Pool} {action : Action} {id : Nat}

/-- What events set off and the end of a pool put no connection anywhere. -/
theorem mem_after_places (h : (pool.step action).2.Coherent) {x : Place × Connection}
    (hx : x ∈ (pool.after action).holdings.places) :
    x ∈ (pool.step action).2.holdings.places := by
  have hfire := fire_undisturbed h pool.log.length
  rw [← hfire.holdings]
  cases halive : ((pool.step action).2.fire pool.log.length).isAlive with
  | true =>
      have hsame : pool.after action = (pool.step action).2.fire pool.log.length := if_pos halive
      exact hsame ▸ hx
  | false =>
      obtain ⟨-, hscrap⟩ := collect_frame hfire.coherent halive
      exact Holdings.mem_of_scrap (hscrap ▸ hx)

/-- A loan that its borrower changes is at its place, and so are the other connections. -/
theorem set_loan_places (hbooked : pool.Booked) (hfind : pool.loan? id = some connection)
    {network : Network} (hid : connection'.id = connection.id) {x : Place × Connection}
    (hx : x ∈ (pool.setLoan connection' network).holdings.places) :
    x ∈ pool.holdings.places ∨ x = (.lent, connection') := by
  obtain ⟨rest, hloans, hset, -⟩ := loans_split hbooked hfind
  obtain ⟨place, other⟩ := x
  have hmem := Holdings.mem_places.1 hx
  cases place with
  | lent =>
      have hlent : other ∈ ((pool.setLoan connection' network).loans : Multiset Connection) :=
        hmem
      rw [hset connection' network hid, Multiset.mem_cons] at hlent
      rcases hlent with rfl | hrest
      · exact .inr rfl
      · refine .inl (Holdings.mem_places.2 ?_)
        show other ∈ (pool.loans : Multiset Connection)
        exact hloans ▸ Multiset.mem_cons_of_mem hrest
  | idle | carried | dialled | filling => exact .inl (Holdings.mem_places.2 hmem)

/-- A connection that a borrower gives back becomes idle if anything, and the others are where
they were. -/
theorem release_loan_places (hbooked : pool.Booked) (force : Bool) {x : Place × Connection}
    (hx : x ∈ (pool.releaseLoan id force).2.holdings.places) :
    x ∈ pool.holdings.places ∨
      ∃ loan ∈ pool.loans, x = (.idle, loan.makeAvailable pool.now) := by
  cases hfind : pool.loan? id with
  | none =>
      rw [releaseLoan, hfind] at hx
      exact .inl hx
  | some loan =>
      have hloan : loan ∈ pool.loans := List.mem_of_find?_eq_some hfind
      have hnext : (pool.releaseLoan id force).2 =
          { pool.removeLoan id with stock := (pool.stock.release loan force).2 } := by
        rw [releaseLoan, hfind]
      rw [hnext] at hx
      obtain ⟨place, other⟩ := x
      have hmem := Holdings.mem_places.1 hx
      cases place with
      | idle =>
          have hidle : other ∈ (pool.stock.release loan force).2.available := hmem
          rcases Inventory.release_known (hbooked.known loan hloan) force with
            ⟨-, hstock⟩ | ⟨reason, hstock⟩
          · rw [hstock] at hidle
            rcases List.mem_append.1 hidle with hbefore | hback
            · exact .inl (Holdings.mem_places.2 hbefore)
            · exact .inr ⟨loan, hloan, by rw [List.mem_singleton.1 hback]; rfl⟩
          · rw [hstock, Inventory.discard_eq] at hidle
            exact .inl (Holdings.mem_places.2 hidle)
      | lent =>
          have hlent : other ∈ (pool.removeLoan id).loans := hmem
          exact .inl (Holdings.mem_places.2 (List.mem_of_mem_filter hlent))
      | carried | dialled | filling => exact .inl (Holdings.mem_places.2 hmem)

/-- A connection that a borrower breaks is one on loan that is not destroyed yet. -/
def Breaks (pool : Pool) (action : Action) (id : Nat) : Prop :=
  action = .destroyConnection id ∧ ∃ loan ∈ pool.loans, loan.id = id ∧ loan.destroyed = false

/-- A loan that its borrower changes is destroyed if it was so, or if that is what its borrower
does. -/
theorem set_loan_destroyed (hbooked : pool.Booked) (hfind : pool.loan? id = some connection)
    {network : Network} (hid : connection'.id = connection.id)
    (hchange : connection'.destroyed = connection.destroyed ∨ action = .destroyConnection id)
    {x : Place × Connection} (hx : x ∈ (pool.setLoan connection' network).holdings.places)
    (hdead : x.2.destroyed = true) :
    (∃ y ∈ pool.holdings.places, y.2.id = x.2.id ∧ y.2.destroyed = true) ∨
      pool.Breaks action x.2.id := by
  have hloan : connection ∈ pool.loans := List.mem_of_find?_eq_some hfind
  have hfound : connection.id = id := by simpa using List.find?_some hfind
  rcases set_loan_places hbooked hfind hid hx with hbefore | rfl
  · exact .inl ⟨x, hbefore, rfl, hdead⟩
  · cases hbefore : connection.destroyed with
    | true => exact .inl ⟨(.lent, connection), Holdings.mem_places.2 hloan, hid.symm, hbefore⟩
    | false =>
        rcases hchange with hsame | rfl
        · rw [hsame, hbefore] at hdead
          cases hdead
        · rw [hid, hfound]
          exact .inr ⟨rfl, connection, hloan, hfound, hbefore⟩

/-- What a borrower does destroys a connection if it is to destroy it. -/
theorem borrowers_destroyed (hbooked : pool.Booked) (haction : action.isBorrowers = true)
    {x : Place × Connection} (hx : x ∈ (pool.step action).2.holdings.places)
    (hdead : x.2.destroyed = true) :
    (∃ y ∈ pool.holdings.places, y.2.id = x.2.id ∧ y.2.destroyed = true) ∨
      pool.Breaks action x.2.id := by
  have hback : ∀ {id : Nat} {force : Bool}, x ∈ (pool.releaseLoan id force).2.holdings.places →
      ∃ y ∈ pool.holdings.places, y.2.id = x.2.id ∧ y.2.destroyed = true := by
    intro id force hx
    rcases release_loan_places hbooked force hx with hbefore | ⟨loan, hloan, rfl⟩
    · exact ⟨x, hbefore, rfl, hdead⟩
    · exact ⟨(.lent, loan), Holdings.mem_places.2 hloan, rfl, hdead⟩
  cases action with
  | release id force =>
      rw [step_release] at hx
      split at hx
      · exact .inl (hback hx)
      · exact .inl ⟨x, hx, rfl, hdead⟩
  | drop id => exact .inl (hback hx)
  | write id bytes =>
      rw [step_write, writeLoan] at hx
      split at hx
      · exact .inl ⟨x, hx, rfl, hdead⟩
      · next loan hfind =>
          exact set_loan_destroyed hbooked hfind
            (Connection.id_of_info (loan.write_info pool.stock.network pool.now bytes))
            (.inl (loan.write_destroyed bytes pool.stock.network pool.now)) hx hdead
  | establish id =>
      rw [step_establish, establishLoan] at hx
      split at hx
      · exact .inl ⟨x, hx, rfl, hdead⟩
      · next loan hfind =>
          exact set_loan_destroyed hbooked hfind
            (Connection.id_of_info (loan.establish_info pool.stock.network pool.now))
            (.inl (loan.establish_destroyed pool.stock.network pool.now)) hx hdead
  | destroyConnection id =>
      simp only [step, destroyLoan] at hx
      split at hx
      · exact .inl ⟨x, hx, rfl, hdead⟩
      · next loan hfind =>
          exact set_loan_destroyed hbooked hfind
            (Connection.id_of_info (loan.destroy_info pool.stock.network)) (.inr rfl) hx hdead
  | _ => cases haction

/-- A connection that is destroyed after an action was so before, or its borrower breaks it. -/
theorem Reachable.destroyed_before (h : pool.Reachable) (action : Action) {x : Place × Connection}
    (hx : x ∈ (pool.after action).holdings.places) (hdead : x.2.destroyed = true) :
    (∃ y ∈ pool.holdings.places, y.2.id = x.2.id ∧ y.2.destroyed = true) ∨
      pool.Breaks action x.2.id := by
  obtain ⟨hcoherent, hcustody⟩ := h.sound
  have hbooked := hcustody.loans_booked
  cases haction : action.isBorrowers with
  | true =>
      have hadvances : pool.Advances (pool.step action).2 :=
        step_advances hcoherent hbooked (by rintro rfl; cases haction)
          (by rintro rfl; cases haction)
      exact borrowers_destroyed hbooked haction (mem_after_places hadvances.coherent hx) hdead
  | false =>
      rcases (h.step action).spoils x hx hdead with hbefore | ⟨loan, hloan, hid⟩
      · exact .inl hbefore
      · -- The loan is still there as it was, so it is this connection.
        obtain ⟨new, hnew⟩ : pool.Lends (pool.after action) := after_lends haction
        have hstill : (Place.lent, loan) ∈ (pool.after action).holdings.places := by
          refine Holdings.mem_places.2 ?_
          show loan ∈ ((pool.after action).loans : Multiset Connection)
          rw [hnew]
          exact List.mem_append_left _ hloan
        obtain rfl := Multiset.inj_on_of_nodup_map (h.after action).sound.2.once _ hstill _ hx hid
        exact .inl ⟨(.lent, loan), Holdings.mem_places.2 hloan, rfl, hdead⟩

/-- The borrower of the connection destroyed it in the history, while it was on loan. -/
def BrokeIn (opened : Pool) (history : List Action) (id : Nat) : Prop :=
  ∃ prior action later, history = prior ++ action :: later ∧ (opened.run prior).Breaks action id

/-- What happened in a history happened in it when it goes on. -/
theorem BrokeIn.append {history : List Action} (h : opened.BrokeIn history id)
    (more : List Action) : opened.BrokeIn (history ++ more) id := by
  obtain ⟨prior, action, later, rfl, hbreaks⟩ := h
  exact ⟨prior, action, later ++ more, by simp, hbreaks⟩

/-- A connection that is destroyed and still there was destroyed by its borrower. -/
theorem destroyed_by_borrower {config : Config} {source : LinkSource} {network : Network}
    {now : Instant} (hcreate : create config source network now = .ok opened)
    (history : List Action) : ∀ x ∈ (opened.run history).holdings.places, x.2.destroyed = true →
      opened.BrokeIn history x.2.id := by
  induction history using List.reverseRecOn with
  | nil =>
      intro x hx
      have hnone : (opened.run []).holdings.places = 0 := by
        show opened.holdings.places = 0
        rw [(create_coherent hcreate).2]
        rfl
      rw [hnone] at hx
      exact absurd hx (Multiset.notMem_zero x)
  | append_singleton prior action ih =>
      intro x hx hdead
      have hlast : opened.run (prior ++ [action]) = (opened.run prior).after action :=
        run_append opened prior [action]
      rw [hlast] at hx
      have hreachable := (Reachable.opened hcreate).run prior
      rcases hreachable.destroyed_before action hx hdead with ⟨y, hy, hid, hbefore⟩ | hbreaks
      · exact hid ▸ (ih y hy hbefore).append [action]
      · exact ⟨prior, action, [], rfl, hbreaks⟩

/-! ## Acquisitions that fail with a connect -/

/-- No call is answered in line that its connect failed. -/
theorem Reachable.answer_reason (h : pool.Reachable) : ∀ call ∈ pool.calls, ∀ error,
    call.phase = .answered (.error error) → error.reason? ≠ some .connectionError := by
  induction h with
  | opened hcreate =>
      unfold create at hcreate
      split at hcreate
      · cases hcreate
      · cases hcreate
        exact fun call hcall => absurd hcall List.not_mem_nil
  | @after pool h action ih =>
      intro call hcall error hphase
      have hages : ∀ {next : Pool}, pool.Ages next → call ∈ next.calls →
          error.reason? ≠ some .connectionError := by
        intro next hages hcall
        rcases hages call hcall with ⟨before, hbefore, -, hproceeds⟩ | ⟨-, hnew⟩
        · rw [hphase] at hproceeds
          generalize hbegan : before.phase = phase at hproceeds
          cases hproceeds with
          | still => exact ih before hbefore error hbegan
          | refused reason => exact reason
          | onward _ after => cases after
        · rw [hphase] at hnew
          cases hnew
      rcases (after_arranged h.sound.1 action).ages_or_joins with
        ⟨hnobody, -⟩ | ⟨id, front, -, hjoins⟩
      · exact hages hnobody hcall
      · rcases hjoins.mem_calls hcall with ⟨-, hqueued⟩ | ⟨hbefore, -⟩
        · rw [hphase] at hqueued
          cases hqueued
        · exact ih call hbefore error hphase

/-- The call has a connection whose connect failed like this, or it was answered with one that
is destroyed. -/
def Unconnected (call : Call) (error : LinkError) : Prop :=
  (∃ connection, call.phase = .connected connection (.error error)) ∨
    ∃ connection, call.phase = .answered (.ok connection) ∧ connection.destroyed = true ∧
      error = .destroyed

/-- An acquisition fails with a connect only if its connect failed or it was answered with a
destroyed connection. -/
theorem Reachable.connect_failure (h : pool.Reachable) {completion : Completion}
    (hended : completion ∈ pool.ends action) (hcall : completion.call ∈ pool.callIds)
    {poolId : UInt32} {address : Address} {error : LinkError}
    (hresult : completion.result = .failed (.connect poolId address error)) :
    ∃ call, pool.call? completion.call = some call ∧ Unconnected call error := by
  obtain ⟨-, hends⟩ := h.sound.1.ended_by hended hcall
  rw [hresult] at hends
  cases hends with
  | answered here answer =>
      exact absurd rfl (h.answer_reason _ (Coherent.call_mem here) _ answer)
  | unconnected here outcome => exact ⟨_, here, .inl ⟨_, outcome⟩⟩
  | destroyed here answer dead => exact ⟨_, here, .inr ⟨_, answer, dead, rfl⟩⟩

/-- Whatever happens to a pool, a connection that is destroyed and still there, at whatever
place, was destroyed by its borrower while it was on loan. An acquisition fails with a connect
only if its own connect failed, or if it was answered with a connection that a borrower
destroyed. -/
theorem dead_by_borrowers {config : Config} {source : LinkSource} {network : Network}
    {now : Instant} (hcreate : create config source network now = .ok opened)
    (history : List Action) :
    (∀ connection ∈ (opened.run history).connections, connection.destroyed = true →
        opened.BrokeIn history connection.id) ∧
      ∀ action, ∀ completion ∈ (opened.run history).ends action,
        completion.call ∈ (opened.run history).callIds →
        ∀ poolId address error, completion.result = .failed (.connect poolId address error) →
          ∃ call, (opened.run history).call? completion.call = some call ∧
            ((∃ connection, call.phase = .connected connection (.error error)) ∨
              ∃ connection, call.phase = .answered (.ok connection) ∧
                connection.destroyed = true ∧ opened.BrokeIn history connection.id) := by
  have hbroken : ∀ connection ∈ (opened.run history).connections, connection.destroyed = true →
      opened.BrokeIn history connection.id := by
    intro connection hmem hdead
    obtain ⟨place, hplace⟩ := mem_connections.1 hmem
    exact destroyed_by_borrower hcreate history (place, connection) hplace hdead
  refine ⟨hbroken, fun action completion hended hcall poolId address error hresult => ?_⟩
  have hreachable := (Reachable.opened hcreate).run history
  obtain ⟨call, hfind, hcause⟩ := hreachable.connect_failure hended hcall hresult
  refine ⟨call, hfind, hcause.imp_right ?_⟩
  rintro ⟨connection, hphase, hdead, -⟩
  refine ⟨connection, hphase, hdead, hbroken connection ?_ hdead⟩
  have hheld : connection ∈ (opened.run history).calls.filterMap fun call =>
      call.phase.connection? :=
    List.mem_filterMap.2 ⟨call, Coherent.call_mem hfind, by rw [hphase]; rfl⟩
  exact List.mem_append_left _ (List.mem_append_right _ (List.mem_append_left _ hheld))

/-- The small pool makes a connection and lends it; its borrower destroys it and gives it back. -/
def breakOneLoan : List Action :=
  openEmpty ++ addOne ++
    [.acquire 1, .enter 1, .elapse 10000000, .tick 0, .resume 1, .destroyConnection 2,
      .release 2 false]

/-- The next caller is answered. -/
def askAgain : List Action :=
  [.acquire 2, .enter 2, .elapse 10000000, .tick 0]

/-- A destroyed connection is idle, and the next caller fails with it although the script lets
every connect succeed, none was tried and there is room for a new connection. -/
theorem broken_loan_idle :
    ((small.run breakOneLoan).stock.available.map fun connection =>
        (connection.id, connection.destroyed)) = [(2, true)] ∧
      (small.run (breakOneLoan ++ askAgain)).ends (.resume 2) =
        [⟨20000000, 2, .failed (.connect 0 .localhost .destroyed)⟩] ∧
      (small.run (breakOneLoan ++ askAgain)).stock.network.failNext = 0 ∧
      (small.run (breakOneLoan ++ askAgain)).stock.network.failAll = false ∧
      (small.run (breakOneLoan ++ askAgain)).stock.network.connects =
        (small.run breakOneLoan).stock.network.connects ∧
      (small.run (breakOneLoan ++ askAgain)).stock.hasCapacity = true :=
  ⟨by decide +kernel, by decide +kernel, by decide +kernel, by decide +kernel, by decide +kernel,
    by decide +kernel⟩

/-- The borrower of the connection destroyed it on loan, and the second call, which fails, was
answered with a connection that its borrower destroyed. -/
theorem small_dead_by_borrower :
    small.BrokeIn breakOneLoan 2 ∧
      ∃ call, (small.run (breakOneLoan ++ askAgain)).call? 2 = some call ∧
        ∃ connection, call.phase = .answered (.ok connection) ∧
          small.BrokeIn (breakOneLoan ++ askAgain) connection.id := by
  obtain ⟨hbroken, -⟩ := dead_by_borrowers small_opened breakOneLoan
  obtain ⟨-, hfails⟩ := dead_by_borrowers small_opened (breakOneLoan ++ askAgain)
  obtain ⟨connection, hmem, hdead, hid⟩ : ∃ connection ∈ (small.run breakOneLoan).connections,
      connection.destroyed = true ∧ connection.id = 2 := by decide +kernel
  have hended : ⟨20000000, 2, .failed (.connect 0 .localhost .destroyed)⟩ ∈
      (small.run (breakOneLoan ++ askAgain)).ends (.resume 2) := by decide +kernel
  obtain ⟨call, hfind, hcause⟩ := hfails (.resume 2) _ hended (by decide +kernel) _ _ _ rfl
  have hundialled : (((small.run (breakOneLoan ++ askAgain)).call? 2).bind fun call =>
      call.phase.dialled?) = none := by decide +kernel
  refine ⟨hid ▸ hbroken connection hmem hdead, call, hfind, ?_⟩
  rcases hcause with ⟨dialled, hphase⟩ | ⟨lent, hphase, -, hbroke⟩
  · rw [hfind, Option.bind_some, hphase] at hundialled
    cases hundialled
  · exact ⟨lent, hphase, hbroke⟩

end Pool

end ConnectionPool
