import ConnectionPool.Proofs.Pool.Service

/-!
# What a turn of an acquisition does

Each turn of a call advances the pool: it enters the line, looks at its answer, connects what it
was given, registers it, or is given up. `announce_advances` is the heart of it: whatever
brought the call to an established connection, announcing it is the last thing in the turn, and
a connection that the pool has no use for any more is reclaimed instead.
-/

namespace ConnectionPool.Pool

variable {pool next : Pool} {id : Nat} {call : Call} {connection : Connection}

/-- An id that no call has can be given to a new call. -/
theorem start_acquire_advances (h : pool.Coherent) (id : Nat) :
    pool.Advances (pool.startAcquire id) := by
  unfold startAcquire
  split
  · next hfree =>
      simp only [isPending, Bool.and_eq_true, Bool.not_eq_true', Bool.or_eq_false_iff,
        Option.isSome_eq_false_iff, Option.isNone_iff_eq_none] at hfree
      have hfresh : ∀ call ∈ pool.calls, call.id ≠ id := by
        simpa [call?] using hfree.2.1
      have hunowned : .call id ∉ pool.populations.map Population.owner := by
        simpa [population?] using hfree.2.2
      have hnew : ∀ {α : Type} (f : Phase → Option α), f (.entering false) = none →
          ((pool.calls ++ [⟨id, pool.config.waitQueueTimeout.map (pool.now + ·),
            .entering false⟩] : List Call) : Multiset Call).filterMap (fun call => f call.phase) =
              (pool.calls : Multiset Call).filterMap fun call => f call.phase := by
        intro α f hf
        simp [hf]
      cases pool.deadlineFits with
      | false =>
          rw [if_neg Bool.false_ne_true, List.append_nil]
          exact ⟨h.congr rfl rfl rfl rfl, .moves (.single (.started pool.holdings))⟩
      | true =>
          rw [if_pos rfl]
          constructor
          · refine ⟨?_, h.owners, ?_, ?_, h.fillings, ?_, h.shut⟩
            · exact Keyed.nodup_snoc h.callIds hfresh
            · intro other hother
              rw [List.map_append, List.mem_append] at hother
              rcases hother with hother | hother
              · exact h.apart other hother
              · exact List.mem_singleton.1 hother ▸ hunowned
            · intro call hcall
              rcases List.mem_append.1 hcall with hcall | hcall
              · exact h.phases call hcall
              · obtain rfl := List.mem_singleton.1 hcall
                trivial
            · rw [waiting, hnew Phase.member? rfl]
              exact h.line
          · refine .moves (.single ?_)
            have hmove := Move.started pool.holdings
            simpa only [holdings, hnew Phase.carried? rfl, hnew Phase.dialled? rfl] using hmove
  · exact .refl h

/-- The calls of an acquisition that begins are those that there were and its own. -/
theorem mem_start_acquire (hcall : call ∈ (pool.startAcquire id).calls) :
    call ∈ pool.calls ∨
      call = ⟨id, pool.config.waitQueueTimeout.map (pool.now + ·), .entering false⟩ := by
  unfold startAcquire at hcall
  split at hcall
  · refine (List.mem_append.1 hcall).imp_right fun hnew => ?_
    split at hnew
    · exact List.mem_singleton.1 hnew
    · cases hnew
  · exact .inl hcall

/-- A call that holds no connection and does not wait in line ends with an error. -/
theorem fail_call_advances (h : pool.Coherent) (hfind : pool.call? id = some call)
    (hmember : call.phase.member? = none) (hcarried : call.phase.carried? = none)
    (hdialled : call.phase.dialled? = none) (error : PoolError) :
    pool.Advances (pool.failCall id error) := by
  refine ⟨h.failCall hfind hmember error, .moves (.single ?_)⟩
  rw [← holdings_removeCall h hfind hcarried hdialled]
  exact .failed (pool.removeCall id).holdings error

/-- A call that is in the line waits there. -/
theorem join_line_advances {joined : Pool} {member : Nat} (h : pool.Coherent)
    (hfind : pool.call? id = some call) (hphase : call.phase.member? = none)
    (hcarried : call.phase.carried? = none) (hdialled : call.phase.dialled? = none)
    (hcalls : joined.calls = pool.calls) (hpopulations : joined.populations = pool.populations)
    (hstock : joined.stock = pool.stock) (hloans : joined.loans = pool.loans)
    (hline : joined.queue.Awaits (member ::ₘ pool.waiting))
    (hshut : joined.queue.destroyed = pool.queue.destroyed) :
    pool.Advances (joined.setPhase id (.queued member)) := by
  have hset : ∀ phase, (joined.setPhase id phase).calls = (pool.setPhase id phase).calls := by
    intro phase
    unfold setPhase
    rw [hcalls]
  obtain ⟨rest, hsplit, hchange, -, -⟩ := h.calls_split hfind
  constructor
  · have hafter : ((joined.setPhase id (.queued member)).calls : Multiset Call) =
        { call with phase := .queued member } ::ₘ rest := by
      rw [hset]
      exact hchange _
    refine h.replace hsplit hafter rfl trivial hpopulations ?_ ?_
    · have hmember : (Phase.queued member).member? = some member := rfl
      have hwaiting : (joined.setPhase id (.queued member)).waiting =
          member ::ₘ pool.waiting := by
        simp [waiting, hset, hchange, hsplit, hmember, hphase]
      rw [hwaiting]
      exact hline
    · exact hshut.trans (h.shut.trans (congrArg Inventory.closed hstock).symm)
  · refine .moves ?_
    have hsame : (joined.setPhase id (.queued member)).holdings = pool.holdings := by
      have hqueued : (pool.setPhase id (.queued member)).holdings = pool.holdings :=
        holdings_setPhase h hfind hcarried.symm hdialled.symm
      rw [← hqueued]
      simp only [holdings, hset, setPhase_stock, setPhase_loans, setPhase_populations, hstock,
        hloans, hpopulations]
    rw [hsame]

/-- A call enters the line, or ends because it cannot. -/
theorem enter_advances (h : pool.Coherent) (id : Nat) : pool.Advances (pool.enter id) := by
  unfold enter
  split
  · next deadline readmitted hfind =>
      split
      · exact fail_call_advances h hfind rfl rfl rfl _
      · split
        · exact fail_call_advances h hfind rfl rfl rfl _
        · next admission queue hin =>
            have hletIn := WaitQueue.admitted_ok hin
            obtain ⟨hline, hshut⟩ := h.line.let_in hletIn
            cases deadline with
            | none =>
                dsimp only
                split
                · exact join_line_advances h hfind rfl rfl rfl rfl rfl rfl rfl hline hshut
                · exact join_line_advances h hfind rfl rfl rfl rfl rfl rfl rfl hline hshut
            | some deadline =>
                -- The timer is armed on the line that the call is in already.
                obtain ⟨harmed, hkept⟩ := hline.arm admission.member admission.member
                dsimp only
                split
                · exact join_line_advances h hfind rfl rfl rfl rfl rfl rfl rfl harmed
                    (hkept.trans hshut)
                · exact join_line_advances h hfind rfl rfl rfl rfl rfl rfl rfl harmed
                    (hkept.trans hshut)
  · exact .refl h

/-- A call whose connection could not be established ends, once the connection is closed. -/
theorem give_up_advances {s : Holdings} (h : pool.Coherent) (hfind : pool.call? id = some call)
    (hmember : call.phase.member? = none) (error : LinkError)
    (hmove : Move s { (pool.removeCall id).holdings with
      stock := (pool.stock.giveBack connection).discard connection .unknown }) :
    (pool.giveUp id connection error).Coherent ∧
      Turn s (pool.giveUp id connection error).holdings := by
  refine ⟨(h.removeCall hfind hmember).congr rfl rfl rfl ?_, .moves ?_⟩
  · exact Inventory.discard_closed (pool.stock.giveBack connection) connection .unknown
  · exact (Relation.ReflTransGen.single hmove).tail (.failed _ _)

/-- A connection that goes on loan is with the borrowers. -/
theorem holdings_lent (pool : Pool) (stock : Inventory) (connection : Connection) :
    { pool with stock := stock, loans := pool.loans ++ [connection] }.holdings =
      { pool.holdings with
        stock := stock, borrowed := connection ::ₘ pool.holdings.borrowed } := by
  have hloans : ((pool.loans ++ [connection] : List Connection) : Multiset Connection) =
      connection ::ₘ (pool.loans : Multiset Connection) :=
    Multiset.coe_eq_coe.2 (List.perm_append_singleton connection pool.loans)
  simp only [holdings, hloans]

/-- A call announces the established connection that it holds, as the last thing that happens,
or has it closed because the pool has no use for it any more. -/
theorem announce_advances {s : Holdings} (h : pool.Coherent)
    (hfind : pool.call? id = some call) (hmember : call.phase.member? = none)
    (hestablished : connection.established = true)
    (hmoves : Moves s ((pool.removeCall id).holdings.carry connection)) :
    (pool.announce id connection).Coherent ∧
      Turn s (pool.announce id connection).holdings := by
  unfold announce
  split
  · next reason hreason =>
      -- The pool was cleared or closed while the call connected, so nobody is told of the
      -- connection.
      rw [← Inventory.reclaim_unwanted hreason]
      have hclosed := Inventory.reclaim_closed pool.stock connection
      have hback := hmoves.tail (.reclaimed _ (Holdings.carry_carried _ _))
      dsimp only
      split
      · exact ⟨(h.removeCall hfind hmember).congr rfl rfl rfl hclosed,
          .moves (hback.tail (.failed _ _))⟩
      · have hentering : (pool.setPhase id (.entering true)).Coherent :=
          h.setPhase hfind hmember rfl trivial
        refine ⟨hentering.congr rfl rfl rfl hclosed, .moves ?_⟩
        rw [(holdings_split h hfind).2]
        exact hback
  · next hwanted =>
      refine ⟨(h.removeCall hfind hmember).congr rfl rfl rfl rfl, ?_⟩
      have hlast : Announced connection ((pool.removeCall id).holdings.carry connection)
          { (pool.removeCall id).holdings with
            stock := pool.stock.succeed connection
            borrowed := connection ::ₘ (pool.removeCall id).holdings.borrowed } :=
        .mk _ (Holdings.carry_carried _ _) hwanted hestablished
      rw [← holdings_lent (pool.removeCall id)] at hlast
      exact .announced hmoves hlast

/-- Establishing at once succeeds for an established connection only. -/
theorem establish_now_ok (h : connection.establishNow? = some (.ok ())) :
    connection.established = true := by
  unfold Connection.establishNow? at h
  cases hestablished : connection.established with
  | true => rfl
  | false =>
      rw [hestablished] at h
      cases hdestroyed : connection.destroyed <;> simp [hdestroyed] at h

/-- Establishing at once fails for a connection only that is not established. -/
theorem establish_now_error {error : LinkError}
    (h : connection.establishNow? = some (.error error)) :
    connection.established = false := by
  unfold Connection.establishNow? at h
  cases hestablished : connection.established with
  | true => simp [hestablished] at h
  | false => rfl

/-- A call looks at its answer. -/
theorem resume_advances (h : pool.Coherent) (id : Nat) : pool.Advances (pool.resume id) := by
  unfold resume
  split
  · next hfind => exact fail_call_advances h hfind rfl rfl rfl _
  · next deadline connection hfind =>
      have hbefore : pool.holdings = (pool.removeCall id).holdings.carry connection :=
        (holdings_split h hfind).1
      split
      · next hnow =>
          obtain ⟨hcoherent, hturn⟩ := announce_advances (s := pool.holdings) h hfind rfl
            (establish_now_ok hnow) (by rw [hbefore])
          exact ⟨hcoherent, hturn⟩
      · next error hnow =>
          have hmove : Move pool.holdings { (pool.removeCall id).holdings with
              stock := (pool.stock.giveBack connection).discard connection .unknown } := by
            rw [hbefore]
            exact .forfeited _ (Holdings.carry_carried _ _) (establish_now_error hnow)
          obtain ⟨hcoherent, hturn⟩ := give_up_advances h hfind rfl error hmove
          exact ⟨hcoherent, hturn⟩
      · next hnow =>
          refine ⟨h.setPhase hfind rfl rfl hnow, ?_⟩
          have hsame : (pool.setPhase id (.connecting connection
              (pool.now + connection.link.delay pool.stock.network))).holdings = pool.holdings :=
            holdings_setPhase h hfind rfl rfl
          rw [hsame]
          exact .moves .refl
  · exact .refl h

/-- The connect of a call comes to an end. -/
theorem finish_connect_advances (h : pool.Coherent) (id : Nat) :
    pool.Advances (pool.finishConnect id) := by
  unfold finishConnect
  split
  · next deadline connection due hfind =>
      obtain ⟨hbefore, hafter⟩ := holdings_split h hfind
      have hneeded : connection.establishNow? = none := h.phases _ (Coherent.call_mem hfind)
      split
      · have hset : (pool.setPhase id (.connected
            (connection.connect pool.stock.network pool.now).2.1
            (connection.connect pool.stock.network pool.now).1)).Coherent :=
          h.setPhase hfind rfl rfl (connection.connect_established pool.stock.network
            pool.now hneeded)
        refine ⟨hset.congr rfl rfl rfl rfl, .moves (.single ?_)⟩
        rw [hbefore, hafter]
        exact .dialled _ (Holdings.carry_carried _ _) hneeded
      · exact .refl h
  · exact .refl h

/-- A call registers the outcome of its connect. -/
theorem register_advances (h : pool.Coherent) (id : Nat) : pool.Advances (pool.register id) := by
  unfold register
  split
  · next deadline connection hfind =>
      have hestablished : connection.established = true := h.phases _ (Coherent.call_mem hfind)
      have htold := h.withStock (pool.stock.emit (.ready connection.info)) rfl
      have hready : Moves pool.holdings
          (({ pool with stock := pool.stock.emit (.ready connection.info) }.removeCall
            id).holdings.carry connection) := by
        rw [(holdings_split h hfind).1]
        exact .single (.readied _ rfl hestablished)
      obtain ⟨hcoherent, hturn⟩ := announce_advances htold hfind rfl hestablished hready
      exact ⟨hcoherent, hturn⟩
  · next deadline connection error hfind =>
      have hfailed : connection.established = false := h.phases _ (Coherent.call_mem hfind)
      have hmove : Move pool.holdings { (pool.removeCall id).holdings with
          stock := (pool.stock.giveBack connection).discard connection .unknown } := by
        rw [(holdings_split h hfind).1]
        exact .refused _ rfl hfailed
      obtain ⟨hcoherent, hturn⟩ := give_up_advances h hfind rfl error hmove
      exact ⟨hcoherent, hturn⟩
  · exact .refl h

/-- A call that holds a connection is given up, and the connection is reclaimed. -/
theorem cancel_carrying_moves (h : pool.Coherent) (hfind : pool.call? id = some call)
    (hmember : call.phase.member? = none) (hcarried : call.phase.carried? = some connection)
    (hdialled : call.phase.dialled? = none) :
    { pool.removeCall id with stock := pool.stock.reclaim connection }.Coherent ∧
      Moves pool.holdings
        { pool.removeCall id with stock := pool.stock.reclaim connection }.holdings := by
  refine ⟨(h.removeCall hfind hmember).congr rfl rfl rfl (Inventory.reclaim_closed _ _),
    .single ?_⟩
  have hbefore : pool.holdings = (pool.removeCall id).holdings.carry connection := by
    rw [(holdings_split h hfind).1, Holdings.withPhase, hcarried, hdialled]
    rfl
  rw [hbefore]
  exact .reclaimed _ (Holdings.carry_carried _ _)

/-- A call is given up where it waits. -/
theorem cancel_acquire_moves (h : pool.Coherent) (id : Nat) :
    (pool.cancelAcquire id).Coherent ∧ Moves pool.holdings (pool.cancelAcquire id).holdings := by
  unfold cancelAcquire
  cases hfind : pool.call? id with
  | none => exact ⟨h, .refl⟩
  | some call =>
      cases hphase : call.phase with
      | entering | connected =>
          simp only [Option.map_some, hphase]
          exact ⟨h, .refl⟩
      | queued member =>
          simp only [Option.map_some, hphase]
          refine ⟨h.abandon hfind hphase, ?_⟩
          have hsame := holdings_removeCall h hfind (by rw [hphase]; rfl) (by rw [hphase]; rfl)
          rw [← hsame]
          exact .refl
      | answered answer =>
          cases answer with
          | error =>
              simp only [Option.map_some, hphase]
              refine ⟨h.removeCall hfind (by rw [hphase]; rfl), ?_⟩
              rw [holdings_removeCall h hfind (by rw [hphase]; rfl) (by rw [hphase]; rfl)]
          | ok connection =>
              simp only [Option.map_some, hphase]
              exact cancel_carrying_moves h hfind (by rw [hphase]; rfl) (by rw [hphase]; rfl)
                (by rw [hphase]; rfl)
      | connecting connection due =>
          simp only [Option.map_some, hphase]
          exact cancel_carrying_moves h hfind (by rw [hphase]; rfl) (by rw [hphase]; rfl)
            (by rw [hphase]; rfl)

/-- An acquisition that does not wait: it fails in a closed pool, and lends an established idle
connection or none otherwise. -/
theorem try_acquire_advances (h : pool.Coherent) : pool.Advances pool.tryAcquire.2 := by
  unfold tryAcquire
  cases hclosed : pool.isClosed with
  | true =>
      refine ⟨h.congr rfl rfl rfl rfl, .moves ?_⟩
      exact (Relation.ReflTransGen.single (.started pool.holdings)).tail (.failed _ _)
  | false =>
      rw [if_neg (by simp)]
      split
      · split
        · next connection stock hlend =>
            obtain ⟨found, first, rest, hevicts, hfirst, husable, hestablished, rfl, rfl⟩ :=
              Inventory.lend_from_some rfl hlend
            have hopen : found.closed = false := hevicts.closed_eq.trans hclosed
            refine ⟨h.congr rfl rfl rfl (hopen.trans hclosed.symm), ?_⟩
            have hlent : Moves pool.holdings { pool.holdings with
                stock := ({ found with available := rest }.checkOut first).2.emit
                  .acquisitionStarted
                carried := first.markInUse ::ₘ pool.holdings.carried } :=
              ((Holdings.evicts_moves (h := pool.holdings) hclosed hevicts).tail
                (.reused _ hfirst hopen husable)).tail (.started _)
            rw [holdings_lent]
            exact .announced hlent
              (.mk _ rfl (found.return_reason_of_usable first hopen husable) hestablished)
        · next stock hlend =>
            obtain ⟨hevicts, -⟩ := Inventory.lend_from_none rfl hlend
            exact ⟨h.congr rfl rfl rfl hevicts.closed_eq,
              .moves (Holdings.evicts_moves (h := pool.holdings) hclosed hevicts)⟩
      · exact .refl h

end ConnectionPool.Pool
