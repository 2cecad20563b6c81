import ConnectionPool.Proofs.Pool.Queueing

/-!
# Timers and deadlines

A member that is let in gets a timer of its own, and the timer goes when the member leaves the
line and not before. `KeepsTime` says what an action in which nobody joins the line does to
timers and deadlines, and `Enters` what becomes of a call that does join it; `after_timed`
proves that there is nothing else. Only a timer that is due tells a call that it has waited too
long.
-/

namespace ConnectionPool

namespace WaitQueue

variable {α : Type} {queue : WaitQueue Nat}

/-- The timers of members bear the ids of the members. -/
def OwnTimers (queue : WaitQueue Nat) : Prop :=
  ∀ m ∈ queue.members, ∀ timer ∈ m.timer, timer = m.id

/-- Who is in line after the outcome was there before, and its timer is not aborted. -/
structure Outcome.Spares (outcome : Outcome Nat α) (queue : WaitQueue Nat) : Prop where
  members : ∀ m ∈ outcome.queue.members, m ∈ queue.members
  last : outcome.queue.lastMember = queue.lastMember
  timers : ∀ m ∈ outcome.queue.members, m.id ∉ outcome.aborted

/-- Where nobody leaves the line and no timer is aborted, everyone is spared. -/
theorem Outcome.Spares.all {outcome : Outcome Nat α}
    (hmembers : outcome.queue.members = queue.members)
    (hlast : outcome.queue.lastMember = queue.lastMember) (haborted : outcome.aborted = []) :
    outcome.Spares queue where
  members := fun _ hm => hmembers ▸ hm
  last := hlast
  timers := by simp [haborted]

/-- Where the line is emptied there is nobody to be spared. -/
theorem Outcome.Spares.none {outcome : Outcome Nat α} (hmembers : outcome.queue.members = [])
    (hlast : outcome.queue.lastMember = queue.lastMember) : outcome.Spares queue where
  members := by simp [hmembers]
  last := hlast
  timers := by simp [hmembers]

/-- When the head leaves the line its own timer is aborted. -/
theorem behead_spares (hown : queue.OwnTimers) (hids : queue.ids.Nodup) {head : Member Nat}
    {rest : List (Member Nat)} (hmembers : queue.members = head :: rest)
    (answers : List (Nat × Except PoolError α)) :
    (⟨{ queue with members := rest }, answers, head.timer.toList⟩ :
      Outcome Nat α).Spares queue where
  members := fun m hm => hmembers ▸ List.mem_cons_of_mem head hm
  last := rfl
  timers := by
    intro m hm haborted
    have htimer : head.timer = some m.id := by simpa using haborted
    have hsame : m.id = head.id := hown head (hmembers ▸ List.mem_cons_self) m.id htimer
    rw [ids, hmembers, List.map_cons, List.nodup_cons] at hids
    exact hids.1 (hsame ▸ List.mem_map_of_mem hm)

/-- A tick that asks for no resource spares who stays in line. -/
theorem pass_spares (hown : queue.OwnTimers) (hids : queue.ids.Nodup) :
    (queue.pass : Tick α × Outcome Nat α).2.Spares queue := by
  unfold pass
  split
  · exact .none rfl rfl
  · split
    · exact .all rfl rfl rfl
    · next hmembers => exact behead_spares hown hids hmembers _

/-- A tick that asks for a resource spares who stays in line. -/
theorem serve_spares (hown : queue.OwnTimers) (hids : queue.ids.Nodup) (resource : Option α) :
    (queue.serve resource).2.Spares queue := by
  unfold serve
  split
  · exact .all rfl rfl rfl
  · exact .all rfl rfl rfl
  · next hmembers => split <;> exact behead_spares hown hids hmembers _

/-- A member whose time is over leaves the line, and no timer is aborted. -/
theorem expire_spares {member : Nat} {outcome : Outcome Nat α}
    (hexpire : queue.expire member = some outcome) :
    outcome.Spares queue ∧ ∀ m ∈ outcome.queue.members, m.id ≠ member := by
  unfold expire at hexpire
  obtain ⟨m, -, rfl⟩ := Option.map_eq_some_iff.1 hexpire
  refine ⟨⟨fun m hm => List.mem_of_mem_filter hm, rfl, by simp⟩, fun m hm => ?_⟩
  simpa using (List.mem_filter.1 hm).2

/-- A request that is let in and armed has a timer of its own; the others are as they were. -/
theorem arm_let_in {front : Bool} {admission : Admission} {next : WaitQueue Nat}
    (hin : queue.letIn front = .ok (admission, next)) :
    (next.arm admission.member admission.member).2 = [] ∧
      ∀ m ∈ (next.arm admission.member admission.member).1.members,
        m ∈ queue.members ∨ m.id = admission.member ∧ m.timer = some admission.member := by
  obtain ⟨-, hmembers, -⟩ := let_in_ok hin
  have hqueued : next.isQueued admission.member = true :=
    List.any_eq_true.2 ⟨_, hmembers.mem_iff.2 List.mem_cons_self, beq_self_eq_true _⟩
  rw [arm, if_pos hqueued]
  refine ⟨rfl, fun m hm => ?_⟩
  obtain ⟨before, hbefore, rfl⟩ := List.mem_map.1 hm
  split
  · next hnew => exact .inr ⟨hnew, rfl⟩
  · next hold =>
      refine .inl ((let_in_members hin before hbefore).resolve_right fun hnew => hold ?_)
      rw [hnew]

end WaitQueue

/-- A call in this phase was told that it has waited too long. -/
def Phase.TimedOut (phase : Phase) : Prop :=
  ∃ poolId address, phase = .answered (.error (.waitQueueTimeout poolId address))

/-- How a call gets on while nobody joins the line. Only these members may be told that they
have waited too long. -/
inductive Phase.Bides (late : Nat → Prop) : Phase → Phase → Prop where
  | still {phase : Phase} : Bides late phase phase
  | free {phase next : Phase} (out : ∀ member, next ≠ .queued member) (intime : ¬ next.TimedOut) :
      Bides late phase next
  | late {member : Nat} {error : PoolError} (due : late member) :
      Bides late (.queued member) (.answered (.error error))

/-- A call gets on and gets on again. -/
theorem Phase.Bides.trans {late : Nat → Prop} {phase middle next : Phase}
    (first : phase.Bides late middle) (second : middle.Bides late next) :
    phase.Bides late next := by
  cases second with
  | still => exact first
  | free out intime => exact .free out intime
  | late due =>
      cases first with
      | still => exact .late due
      | free out _ => exact absurd rfl (out _)

namespace Pool

variable {pool middle next start : Pool} {late : Nat → Prop} {id : Nat} {action : Action}

/-- Nobody joins the line. Calls keep their deadlines and those in line their timers, and only
these members may be told that they have waited too long. -/
structure KeepsTime (late : Nat → Prop) (pool next : Pool) : Prop where
  last : next.queue.lastMember = pool.queue.lastMember
  members : ∀ m ∈ next.queue.members,
    ∃ before ∈ pool.queue.members, before.id = m.id ∧ before.timer = m.timer
  timers : ∀ timer ∈ next.timers, timer ∈ pool.timers
  armed : ∀ m ∈ next.queue.members, ∀ timer ∈ pool.timers, timer.member = m.id →
    timer ∈ next.timers
  calls : ∀ call ∈ next.calls, ∃ before ∈ pool.calls, before.id = call.id ∧
    before.deadline = call.deadline ∧ before.phase.Bides late call.phase

/-- First nobody joins the line and then nobody does. -/
theorem KeepsTime.trans (first : pool.KeepsTime late middle)
    (second : middle.KeepsTime late next) :
    pool.KeepsTime late next where
  last := second.last.trans first.last
  members := by
    intro m hm
    obtain ⟨between, hbetween, hid, htimer⟩ := second.members m hm
    obtain ⟨before, hbefore, hfirst, hsame⟩ := first.members between hbetween
    exact ⟨before, hbefore, hfirst.trans hid, hsame.trans htimer⟩
  timers := fun timer htimer => first.timers timer (second.timers timer htimer)
  armed := by
    intro m hm timer htimer hmember
    obtain ⟨between, hbetween, hid, -⟩ := second.members m hm
    exact second.armed m hm timer
      (first.armed between hbetween timer htimer (hmember.trans hid.symm)) hmember
  calls := by
    intro call hcall
    obtain ⟨between, hbetween, hid, hdeadline, hlater⟩ := second.calls call hcall
    obtain ⟨before, hbefore, hfirst, hsame, hbides⟩ := first.calls between hbetween
    exact ⟨before, hbefore, hfirst.trans hid, hsame.trans hdeadline, hbides.trans hlater⟩

/-- The line and its timers stay, and calls may go away. -/
theorem KeepsTime.of_same (hqueue : next.queue = pool.queue) (htimers : next.timers = pool.timers)
    (hcalls : ∀ call ∈ next.calls, call ∈ pool.calls) : pool.KeepsTime late next where
  last := by rw [hqueue]
  members := fun m hm => ⟨m, hqueue ▸ hm, rfl, rfl⟩
  timers := fun _ htimer => htimers ▸ htimer
  armed := fun _ _ _ htimer _ => htimers ▸ htimer
  calls := fun call hcall => ⟨call, hcalls call hcall, rfl, rfl, .still⟩

/-- Nothing happens. -/
theorem KeepsTime.refl (pool : Pool) : pool.KeepsTime late pool :=
  .of_same rfl rfl fun _ hcall => hcall

/-- What is apart from the line is apart from its timers. -/
theorem Apart.keepsTime (h : pool.Apart next) : pool.KeepsTime late next :=
  .of_same h.queue h.timers fun _ hcall => h.calls ▸ hcall

/-! ## Callers that go away -/

/-- A call that waits as the member goes away, and the member stays in line with its timer. -/
theorem abandon_keeps_time (pool : Pool) (id member : Nat) :
    pool.KeepsTime late { pool.removeCall id with queue := pool.queue.abandon member } where
  last := rfl
  members := by
    intro m hm
    obtain ⟨before, hbefore, rfl⟩ := List.mem_map.1 hm
    refine ⟨before, hbefore, ?_⟩
    split <;> exact ⟨rfl, rfl⟩
  timers := fun _ htimer => htimer
  armed := fun _ _ _ htimer _ => htimer
  calls := fun call hcall => ⟨call, List.mem_of_mem_filter hcall, rfl, rfl, .still⟩

/-- A caller may go away while it waits. -/
theorem lose_waiter_keeps_time (pool : Pool) (id : Nat) :
    pool.KeepsTime late (pool.loseWaiter id) := by
  unfold loseWaiter
  split
  · exact abandon_keeps_time _ _ _
  · exact .of_same rfl rfl fun _ hcall => List.mem_of_mem_filter hcall
  · exact .refl _

/-- Several callers may go away. -/
theorem lose_all_keeps_time (pool : Pool) (ids : List Nat) :
    pool.KeepsTime late (pool.loseAll ids) :=
  List.foldlRecOn _ _ (.refl pool) fun _ hpool id _ => hpool.trans (lose_waiter_keeps_time _ id)

/-- Events may make callers go away. -/
theorem fire_keeps_time (pool : Pool) (place : Nat) : pool.KeepsTime late (pool.fire place) := by
  refine List.foldlRecOn _ _ (.refl pool) fun _ hpool seen _ => hpool.trans ?_
  refine List.foldlRecOn _ _ (.of_same rfl rfl fun _ hcall => hcall) ?_
  intro _ hpool wire _
  refine hpool.trans ?_
  unfold sendAway
  split
  · exact lose_waiter_keeps_time _ _
  · exact .of_same rfl rfl fun _ hcall => hcall

/-- A caller gives up its own call. -/
theorem cancel_acquire_keeps_time (pool : Pool) (id : Nat) :
    pool.KeepsTime late (pool.cancelAcquire id) := by
  unfold cancelAcquire
  split
  · exact abandon_keeps_time _ _ _
  · exact .of_same rfl rfl fun _ hcall => List.mem_of_mem_filter hcall
  · exact .of_same rfl rfl fun _ hcall => List.mem_of_mem_filter hcall
  · exact .of_same rfl rfl fun _ hcall => List.mem_of_mem_filter hcall
  · exact .refl _

/-- With a pool that nobody has a part in go its line and its timers. -/
theorem collect_keeps_time (pool : Pool) : pool.KeepsTime late pool.collect := by
  unfold collect
  split
  · exact .refl _
  · exact ⟨rfl, by simp, by simp, by simp, fun call hcall => ⟨call, hcall, rfl, rfl, .still⟩⟩

/-! ## Turns of calls -/

/-- A call moves on, and neither waits in line then nor was told that it has waited too long. -/
theorem set_phase_keeps_time {phase : Phase} (pool : Pool) (id : Nat)
    (hout : ∀ member, phase ≠ .queued member) (hintime : ¬ phase.TimedOut) :
    pool.KeepsTime late (pool.setPhase id phase) where
  last := rfl
  members := fun m hm => ⟨m, hm, rfl, rfl⟩
  timers := fun _ htimer => htimer
  armed := fun _ _ _ htimer _ => htimer
  calls := by
    intro call hcall
    obtain ⟨before, hbefore, rfl⟩ := List.mem_map.1 hcall
    refine ⟨before, hbefore, ?_⟩
    split
    · exact ⟨rfl, rfl, .free hout hintime⟩
    · exact ⟨rfl, rfl, .still⟩

/-- A call ends with an error. -/
theorem fail_call_keeps_time (pool : Pool) (id : Nat) (error : PoolError) :
    pool.KeepsTime late (pool.failCall id error) :=
  .of_same rfl rfl fun _ hcall => List.mem_of_mem_filter hcall

/-- What happens to the connections is no matter of the line. -/
theorem stock_keeps_time (pool : Pool) (stock : Inventory) :
    pool.KeepsTime late { pool with stock := stock } :=
  .of_same rfl rfl fun _ hcall => hcall

/-- A call with an established connection ends, or is to enter again. -/
theorem announce_keeps_time (pool : Pool) (id : Nat) (connection : Connection) :
    pool.KeepsTime late (pool.announce id connection) := by
  unfold announce
  split
  · dsimp only
    split
    · exact (stock_keeps_time pool _).trans (fail_call_keeps_time _ id _)
    · exact (stock_keeps_time pool _).trans
        (set_phase_keeps_time _ id (by simp) (by simp [Phase.TimedOut]))
  · exact .of_same rfl rfl fun _ hcall => List.mem_of_mem_filter hcall

/-- A call looks at its answer. -/
theorem resume_keeps_time (pool : Pool) (id : Nat) : pool.KeepsTime late (pool.resume id) := by
  unfold resume
  split
  · exact fail_call_keeps_time pool id _
  · split
    · exact announce_keeps_time pool id _
    · exact (stock_keeps_time pool _).trans (fail_call_keeps_time _ id _)
    · exact set_phase_keeps_time pool id (by simp) (by simp [Phase.TimedOut])
  · exact .refl pool

/-- The connect of a call comes to an end. -/
theorem finish_connect_keeps_time (pool : Pool) (id : Nat) :
    pool.KeepsTime late (pool.finishConnect id) := by
  unfold finishConnect
  split
  · split
    · exact (stock_keeps_time pool _).trans
        (set_phase_keeps_time _ id (by simp) (by simp [Phase.TimedOut]))
    · exact .refl pool
  · exact .refl pool

/-- A call registers the outcome of its connect. -/
theorem register_keeps_time (pool : Pool) (id : Nat) : pool.KeepsTime late
    (pool.register id) := by
  unfold register
  split
  · exact (stock_keeps_time pool _).trans (announce_keeps_time _ id _)
  · exact (stock_keeps_time pool _).trans (fail_call_keeps_time _ id _)
  · exact .refl pool

/-! ## Turns of run loops and timers -/

/-- The timer of the member is due. -/
def Late (pool : Pool) (member : Nat) : Prop :=
  ∃ timer ∈ pool.timers, timer.member = member ∧ timer.deadline ≤ pool.now

/-- Taking over an outcome that spares who stays in line, when the timers of others may be gone
already. -/
theorem settle_keeps_time {outcome : WaitQueue.Outcome Nat Connection}
    (hcalls : start.calls = pool.calls) (hspares : outcome.Spares pool.queue)
    (htimers : ∀ timer ∈ start.timers, timer ∈ pool.timers)
    (harmed : ∀ m ∈ outcome.queue.members, ∀ timer ∈ pool.timers, timer.member = m.id →
      timer ∈ start.timers)
    (hlate : ∀ member error, (member, .error error) ∈ outcome.answers →
      late member ∨ ∀ poolId address, error ≠ .waitQueueTimeout poolId address) :
    pool.KeepsTime late (start.settle outcome) where
  last := hspares.last
  members := fun m hm => ⟨m, hspares.members m hm, rfl, rfl⟩
  timers := by
    intro timer htimer
    rw [settle, (deliver_frame outcome.answers start).1] at htimer
    exact htimers timer (List.mem_of_mem_filter htimer)
  armed := by
    intro m hm timer htimer hmember
    rw [settle, (deliver_frame outcome.answers start).1]
    refine List.mem_filter.2 ⟨harmed m hm timer htimer hmember, ?_⟩
    rw [hmember]
    exact decide_eq_true (hspares.timers m hm)
  calls := by
    intro call hcall
    obtain ⟨before, hbefore, hid, hdeadline, hsame⟩ :=
      deliver_calls outcome.answers start call hcall
    refine ⟨before, hcalls ▸ hbefore, hid, hdeadline, ?_⟩
    rcases hsame with rfl | ⟨⟨member, answer⟩, hgiven, hqueued, hanswered⟩
    · exact .still
    · rw [hqueued, hanswered]
      cases answer with
      | ok connection => exact .free (by simp) (by simp [Phase.TimedOut])
      | error error =>
          rcases hlate member error hgiven with hdue | hother
          · exact .late hdue
          · refine .free (by simp) ?_
            rintro ⟨poolId, address, hphase⟩
            cases hphase
            exact hother poolId address rfl

/-- Taking over an outcome without timeouts that spares who stays in line. -/
theorem settle_intime {outcome : WaitQueue.Outcome Nat Connection}
    (hspares : outcome.Spares pool.queue)
    (hintime : ∀ member error, (member, .error error) ∈ outcome.answers →
      ∀ poolId address, error ≠ .waitQueueTimeout poolId address) :
    pool.KeepsTime late (pool.settle outcome) :=
  settle_keeps_time rfl hspares (fun _ htimer => htimer) (fun _ _ _ htimer _ => htimer)
    fun member error hgiven => .inr (hintime member error hgiven)

/-- When the line is shut, nobody is told that it has waited too long. -/
theorem shut_keeps_time (pool : Pool) :
    pool.KeepsTime late (pool.settle pool.queue.destroy) := by
  refine settle_intime (.none rfl rfl) fun member error hgiven poolId address herror => ?_
  have hclosed := WaitQueue.drain_errors _ _ hgiven
  cases herror
  cases hclosed

/-- Nobody is told anything as a member that no call waits as. -/
theorem deliver_unheard {member : Nat} (hnobody : member ∉ pool.waiting)
    (answer : Except PoolError Connection) : pool.deliver (member, answer) = pool := by
  have hcalls : (pool.deliver (member, answer)).calls = pool.calls := by
    refine (List.map_congr_left fun call hcall => ?_).trans (List.map_id' pool.calls)
    split
    · next waited hphase =>
        refine if_neg fun hsame => hnobody ?_
        exact mem_waiting.2 ⟨call.id, call, hcall, rfl, hphase.trans (congrArg _ hsame)⟩
    · rfl
  show { pool with calls := (pool.deliver (member, answer)).calls } = pool
  rw [hcalls]

/-- What a timer that is due does: its member leaves the line, whoever waits as it is told that
it has waited too long, and the timer is spent. -/
theorem expire_eq {member : Nat} (h : pool.Coherent) (hdue : pool.Late member) :
    pool.expire member =
      { pool.deliver (member, .error pool.queue.timeoutError) with
        queue := { pool.queue with
          members := pool.queue.members.filter fun m => m.id != member }
        timers := pool.timers.filter fun timer => timer.member != member } := by
  have hany : (pool.timers.any fun timer =>
      timer.member == member && decide (timer.deadline ≤ pool.now)) = true := by
    obtain ⟨timer, htimer, hmember, hlate⟩ := hdue
    exact List.any_eq_true.2 ⟨timer, htimer, by simp [hmember, hlate]⟩
  have hheard : member ∈ pool.waiting ↔
      ∃ m ∈ pool.queue.members, m.id = member ∧ m.listening = true := h.line.listening member
  unfold expire
  rw [if_pos hany]
  unfold WaitQueue.expire
  cases hfind : pool.queue.members.find? fun m => m.id == member with
  | none =>
      have habsent : ∀ m ∈ pool.queue.members, m.id ≠ member := by
        simpa using List.find?_eq_none.1 hfind
      have hnobody : member ∉ pool.waiting := by
        rw [hheard]
        rintro ⟨m, hm, hid, -⟩
        exact habsent m hm hid
      have hline : (pool.queue.members.filter fun m => m.id != member) = pool.queue.members :=
        List.filter_eq_self.2 fun m hm => bne_iff_ne.2 (habsent m hm)
      rw [deliver_unheard hnobody, hline]
      rfl
  | some m =>
      have hm := List.mem_of_find?_eq_some hfind
      have hid : m.id = member := by simpa using List.find?_some hfind
      rw [Option.map_some]
      unfold settle
      cases hlistening : m.listening with
      | true => simp [deliver]
      | false =>
          have hnobody : member ∉ pool.waiting := by
            rw [hheard]
            rintro ⟨other, hother, hsame, hhears⟩
            rw [List.inj_on_of_nodup_map h.line.ids hother hm (hsame.trans hid.symm),
              hlistening] at hhears
            cases hhears
          rw [deliver_unheard hnobody]
          simp

/-- A timer that is due ends the wait of its member. -/
theorem expire_keeps_time (pool : Pool) (member : Nat) :
    pool.KeepsTime pool.Late (pool.expire member) := by
  unfold expire
  split
  · next hdue =>
      obtain ⟨timer, htimer, hdue⟩ := List.any_eq_true.1 hdue
      rw [Bool.and_eq_true, beq_iff_eq, decide_eq_true_eq] at hdue
      have hothers : ∀ m : Member Nat, m.id ≠ member → ∀ other ∈ pool.timers,
          other.member = m.id → other ∈ pool.timers.filter fun timer => timer.member != member :=
        fun m hm other hother hmember =>
          List.mem_filter.2 ⟨hother, bne_iff_ne.2 fun hsame => hm (hmember.symm.trans hsame)⟩
      dsimp only
      split
      · next outcome hexpire =>
          obtain ⟨hspares, hgone⟩ := WaitQueue.expire_spares hexpire
          refine settle_keeps_time rfl hspares (fun _ hkept => List.mem_of_mem_filter hkept)
            (fun m hm => hothers m (hgone m hm)) fun other error hgiven => .inl ?_
          have hmember : other = member := by
            unfold WaitQueue.expire at hexpire
            obtain ⟨m, -, rfl⟩ := Option.map_eq_some_iff.1 hexpire
            dsimp only at hgiven
            split at hgiven
            · exact congrArg Prod.fst (List.mem_singleton.1 hgiven)
            · cases hgiven
          exact ⟨timer, htimer, hdue.1.trans hmember.symm, hdue.2⟩
      · next hnobody =>
          have hgone : ∀ m ∈ pool.queue.members, m.id ≠ member := by
            simpa [WaitQueue.expire] using hnobody
          exact ⟨rfl, fun m hm => ⟨m, hm, rfl, rfl⟩, fun _ hkept => List.mem_of_mem_filter hkept,
            fun m hm => hothers m (hgone m hm),
            fun call hcall => ⟨call, hcall, rfl, rfl, .still⟩⟩
  · exact .refl pool

/-- Timers are the members' own as long as nobody joins the line. -/
theorem KeepsTime.own (h : pool.KeepsTime late next) (hown : pool.queue.OwnTimers) :
    next.queue.OwnTimers := by
  intro m hm timer htimer
  obtain ⟨before, hbefore, hid, hsame⟩ := h.members m hm
  rw [← hsame] at htimer
  exact (hown before hbefore timer htimer).trans hid

/-- Attending to the head of the line tells nobody that it has waited too long. -/
theorem attend_keeps_time (h : pool.Coherent) (hown : pool.queue.OwnTimers) (lost : List Nat) :
    pool.KeepsTime late (pool.attend lost).2 := by
  unfold attend
  cases hasks : pool.queue.asks with
  | false =>
      have hsettled : pool.KeepsTime late
          (pool.settle (pool.queue.pass : Tick Connection × _).2) := by
        refine settle_intime (WaitQueue.pass_spares hown h.line.ids) ?_
        intro member error hgiven poolId address herror
        have hclosed := WaitQueue.pass_errors _ _ hgiven
        cases herror
        cases hclosed
      rw [if_neg Bool.false_ne_true]
      generalize (pool.queue.pass : Tick Connection × _) = passed at hsettled ⊢
      obtain ⟨tick, outcome⟩ := passed
      cases tick <;> exact hsettled
  | true =>
      rw [if_pos rfl]
      cases pool.stock.lend with
      | mk resource stock =>
          dsimp only
          have hfired : pool.KeepsTime late
              (({ pool with stock := stock }.fire pool.log.length).loseAll lost) :=
            ((stock_keeps_time pool stock).trans (fire_keeps_time _ _)).trans
              (lose_all_keeps_time _ lost)
          have hids := (searched_thins pool stock pool.log.length lost).ids
          generalize ({ pool with stock := stock }.fire pool.log.length).loseAll lost = fired
            at hfired hids ⊢
          have hserved : fired.KeepsTime late (fired.settle (fired.queue.serve resource).2) := by
            refine settle_intime (WaitQueue.serve_spares (hfired.own hown) (hids ▸ h.line.ids)
              resource) fun member error hgiven => ?_
            obtain ⟨found, hfound⟩ := WaitQueue.serve_ok _ hgiven
            cases hfound
          have hsettled := hfired.trans hserved
          generalize fired.queue.serve resource = served at hsettled ⊢
          obtain ⟨tick, outcome⟩ := served
          cases tick with
          | unclaimed connection => exact hsettled.trans (stock_keeps_time _ _)
          | stopped | requeued | discarded | served => exact hsettled

/-- A tick tells nobody that it has waited too long. -/
theorem tick_keeps_time (h : pool.Coherent) (hown : pool.queue.OwnTimers) (runLoop : Nat)
    (lost : List Nat) : pool.KeepsTime late (pool.tick runLoop lost) := by
  unfold tick
  split
  · exact .refl pool
  · split
    · have hattend : pool.KeepsTime late (pool.attend lost).2 := attend_keeps_time h hown lost
      split
      · next heq =>
          rw [heq] at hattend
          exact hattend.trans (.of_same rfl rfl fun _ hcall => hcall)
      · next heq =>
          rw [heq] at hattend
          exact hattend.trans (.of_same rfl rfl fun _ hcall => hcall)
    · exact .refl pool

/-- Closing a pool tells nobody that it has waited too long. -/
theorem close_keeps_time (pool : Pool) : pool.KeepsTime late pool.close := by
  unfold close
  split
  · exact .refl pool
  · have hclosed : pool.KeepsTime late
        ({ pool with stock := { pool.stock with closed := true } }.settle pool.queue.destroy) :=
      (stock_keeps_time pool _).trans (shut_keeps_time _)
    exact hclosed.trans (.of_same rfl rfl fun _ hcall => hcall)

/-- Destroying a pool tells nobody that it has waited too long. -/
theorem destroy_keeps_time (pool : Pool) : pool.KeepsTime late pool.destroy := by
  have hstopped : pool.KeepsTime late pool.stopped := .of_same rfl rfl fun _ hcall => hcall
  have hshut := hstopped.trans (shut_keeps_time pool.stopped)
  exact hshut.trans ⟨rfl, fun m hm => ⟨m, hm, rfl, rfl⟩, fun _ htimer => htimer,
    fun _ _ _ htimer _ => htimer, fun call hcall => ⟨call, hcall, rfl, rfl, .still⟩⟩

/-! ## Who joins the line -/

/-- The call joins the line under a new id. If it has a deadline, a timer for that is armed, and
nothing else happens to timers. -/
structure Enters (pool next : Pool) (id : Nat) : Prop where
  call : ∃ call, pool.call? id = some call ∧ next.timers = pool.timers ++
    (call.deadline.map fun deadline => ⟨next.queue.lastMember, deadline⟩).toList
  last : next.queue.lastMember = pool.queue.lastMember + 1
  members : ∀ m ∈ next.queue.members, m ∈ pool.queue.members ∨
    m.id = next.queue.lastMember ∧ ∀ timer ∈ m.timer, timer = m.id
  calls : next.calls = (pool.setPhase id (.queued next.queue.lastMember)).calls

/-- A call that was let in has joined the line, also when a run loop was started for it. -/
theorem enters_of_let_in {joined : Pool} {admission : Admission} {queue : WaitQueue Nat}
    {front : Bool} {call : Call} (hfind : pool.call? id = some call)
    (hin : pool.queue.letIn front = .ok (admission, queue))
    (hlast : joined.queue.lastMember = queue.lastMember) (hcalls : joined.calls = pool.calls)
    (htimers : joined.timers = pool.timers ++
      (call.deadline.map fun deadline => ⟨admission.member, deadline⟩).toList)
    (hmembers : ∀ m ∈ joined.queue.members, m ∈ pool.queue.members ∨
      m.id = admission.member ∧ ∀ timer ∈ m.timer, timer = m.id) :
    pool.Enters (joined.setPhase id (.queued admission.member)) id := by
  obtain ⟨hmember, -, hnew, -⟩ := WaitQueue.let_in_ok hin
  have hnext : (joined.setPhase id (.queued admission.member)).queue.lastMember =
      admission.member := hlast.trans hnew
  refine ⟨⟨call, hfind, hnext ▸ htimers⟩, hnext.trans hmember, hnext ▸ hmembers, ?_⟩
  rw [hnext, setPhase, setPhase, hcalls]

/-- A call that comes to the line joins it, or it ends. -/
theorem enter_timed (pool : Pool) (id : Nat) :
    pool.KeepsTime late (pool.enter id) ∨ pool.Enters (pool.enter id) id := by
  unfold enter
  split
  · next deadline readmitted hfind =>
      split
      · exact .inl (fail_call_keeps_time pool id _)
      · split
        · exact .inl (fail_call_keeps_time pool id _)
        · next admission queue hin =>
            have hletIn := WaitQueue.admitted_ok hin
            right
            cases deadline with
            | none =>
                have hmembers : ∀ m ∈ queue.members, m ∈ pool.queue.members ∨
                    m.id = admission.member ∧ ∀ timer ∈ m.timer, timer = m.id := by
                  intro m hm
                  refine (WaitQueue.let_in_members hletIn m hm).imp_right ?_
                  rintro rfl
                  exact ⟨rfl, by simp⟩
                have htimers : pool.timers = pool.timers ++ [] := (List.append_nil _).symm
                dsimp only
                split <;> exact enters_of_let_in hfind hletIn rfl rfl htimers hmembers
            | some deadline =>
                obtain ⟨hkept, hown⟩ := WaitQueue.arm_let_in hletIn
                have hmembers : ∀ m ∈ (queue.arm admission.member admission.member).1.members,
                    m ∈ pool.queue.members ∨
                      m.id = admission.member ∧ ∀ timer ∈ m.timer, timer = m.id := by
                  intro m hm
                  refine (hown m hm).imp_right fun ⟨hid, htimer⟩ => ⟨hid, ?_⟩
                  simp [htimer, hid]
                have htimers : ({ pool with queue := queue }.armTimer admission.member
                    deadline).timers = pool.timers ++ [⟨admission.member, deadline⟩] := by
                  rw [armTimer]
                  exact if_pos hkept
                have hlast := (WaitQueue.arm_kept queue admission.member admission.member).1
                dsimp only
                split <;> exact enters_of_let_in hfind hletIn hlast rfl htimers hmembers
  · exact .inl (.refl pool)

/-- What an action does to timers and deadlines: nobody joins the line, perhaps after an
acquisition began, or a call joins the line. -/
inductive Timed (pool : Pool) : Action → Pool → Prop where
  | keeps {action : Action} {next : Pool} (h : pool.KeepsTime pool.Late next)
      (idle : ∀ id, action = .acquire id → (pool.held && !pool.isPending id) = false) :
      Timed pool action next
  | begins {id : Nat} {next : Pool} (made : (pool.held && !pool.isPending id) = true)
      (h : (pool.startAcquire id).KeepsTime (pool.startAcquire id).Late next) :
      Timed pool (.acquire id) next
  | enters {id : Nat} {next : Pool} (h : pool.Enters next id) : Timed pool (.enter id) next

/-- What an action does to timers and deadlines by itself. -/
theorem step_timed (h : pool.Coherent) (hown : pool.queue.OwnTimers) (action : Action) :
    pool.Timed action (pool.step action).2 := by
  have hkeeps : ∀ {action : Action} {next : Pool}, pool.KeepsTime pool.Late next →
      (∀ id, action ≠ .acquire id) → pool.Timed action next :=
    fun hkeeps hother => .keeps hkeeps fun id hsame => absurd hsame (hother id)
  cases hapart : action.isApart with
  | true =>
      refine hkeeps (step_apart pool hapart).keepsTime ?_
      rintro id rfl
      cases hapart
  | false =>
      cases action with
      | acquire id =>
          cases hmade : pool.held && !pool.isPending id with
          | true => exact .begins hmade (.refl _)
          | false =>
              refine .keeps ?_ ?_
              · rw [step, startAcquire, if_neg (by simp [hmade])]
                exact .refl pool
              · rintro other ⟨⟩
                exact hmade
      | cancel id =>
          have habandoned := abandon_population_apart (pool.cancelAcquire id) (.call id)
          exact hkeeps ((cancel_acquire_keeps_time pool id).trans habandoned.keepsTime) (by simp)
      | close =>
          refine hkeeps ?_ (by simp)
          simp only [step]
          split
          · exact close_keeps_time pool
          · exact .refl pool
      | destroy =>
          refine hkeeps ?_ (by simp)
          simp only [step]
          split
          · exact destroy_keeps_time pool
          · exact .refl pool
      | enter id =>
          rcases enter_timed pool id with hkept | henters
          · exact hkeeps hkept (by simp)
          · exact .enters henters
      | resume id => exact hkeeps (resume_keeps_time pool id) (by simp)
      | finishConnect id => exact hkeeps (finish_connect_keeps_time pool id) (by simp)
      | register id => exact hkeeps (register_keeps_time pool id) (by simp)
      | tick runLoop lost => exact hkeeps (tick_keeps_time h hown runLoop lost) (by simp)
      | expire member => exact hkeeps (expire_keeps_time pool member) (by simp)
      | _ => cases hapart

/-- What an action does to timers and deadlines, whatever its events set off. -/
theorem after_timed (h : pool.Coherent) (hown : pool.queue.OwnTimers) (action : Action) :
    pool.Timed action (pool.after action) := by
  have hrest : ∀ {late : Nat → Prop},
      (pool.step action).2.KeepsTime late (pool.after action) :=
    (fire_keeps_time _ _).trans (collect_keeps_time _)
  have htimed := step_timed h hown action
  generalize hnext : (pool.step action).2 = next at htimed hrest
  cases htimed with
  | keeps hkeeps idle => exact .keeps (hkeeps.trans hrest) idle
  | begins made hkeeps => exact .begins made (hkeeps.trans hrest)
  | @enters id _ henters =>
      subst hnext
      -- Nothing is told of a call that joins the line, so nothing is set off.
      rcases (step_arranged h (.enter id)).ages_or_joins with
        ⟨-, -, hsame⟩ | ⟨_, readmitted, ⟨⟩, hjoins⟩
      · have hlast := henters.last
        omega
      · rw [hjoins.after]
        exact .enters henters

end Pool

end ConnectionPool
