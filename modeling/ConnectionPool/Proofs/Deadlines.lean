import ConnectionPool.Proofs.HandOut
import ConnectionPool.Proofs.Pool.Endings
import ConnectionPool.Proofs.Pool.Timing
import ConnectionPool.Proofs.Settling

/-!
# Nobody waits in line past the deadline

A diary is kept beside a pool: when the acquisition of each call began, and for each member that
was let in when the acquisition began that it was let in for. The pool is `Dated` by it: whoever
is in line has a timer for the instant at which the waiting time since then is over, however
often the call was let in, and no timer is for another instant. No timer is due in a settled
pool, so nobody in line is past the deadline; and who is told that it has waited too long has.
-/

namespace ConnectionPool

/-- When the acquisitions of calls began, and when those began that members were let in for. -/
structure Diary where
  begun : Nat → Option Instant := fun _ => none
  letIn : Nat → Option Instant := fun _ => none

namespace Diary

variable {diary : Diary} {id call member : Nat} {now : Instant}

/-- The acquisition of the call begins at the instant. -/
def begin (diary : Diary) (id : Nat) (now : Instant) : Diary :=
  { diary with begun := Function.update diary.begun id (some now) }

/-- The member is let in for the acquisition of the call. -/
def enter (diary : Diary) (member id : Nat) : Diary :=
  { diary with letIn := Function.update diary.letIn member (diary.begun id) }

/-- The instant of an acquisition that begins is noted. -/
theorem begin_self : (diary.begin id now).begun id = some now :=
  Function.update_self ..

/-- When other acquisitions began is not forgotten. -/
theorem begin_other (h : call ≠ id) : (diary.begin id now).begun call = diary.begun call :=
  Function.update_of_ne h ..

/-- For a member that is let in, the instant of its call is noted. -/
theorem enter_self : (diary.enter member id).letIn member = diary.begun id :=
  Function.update_self ..

/-- When the acquisitions of other members began is not forgotten. -/
theorem enter_other {other : Nat} (h : other ≠ member) :
    (diary.enter member id).letIn other = diary.letIn other :=
  Function.update_of_ne h ..

end Diary

namespace Pool

variable {pool next opened : Pool} {diary : Diary} {id : Nat} {action : Action}

/-- The diary after an action. The instant is noted when an acquisition begins, and when a
member is let in the instant that is noted for its call. -/
def note (pool : Pool) (diary : Diary) : Action → Diary
  | .acquire id =>
      if pool.held && !pool.isPending id then diary.begin id pool.now else diary
  | .enter id =>
      let next := pool.after (.enter id)
      if next.queue.lastMember = pool.queue.lastMember then diary
      else diary.enter next.queue.lastMember id
  | _ => diary

/-- The diary after a history that begins in the pool. -/
def diaryAfter (pool : Pool) (diary : Diary) : List Action → Diary
  | [] => diary
  | action :: rest => (pool.after action).diaryAfter (pool.note diary action) rest

/-- The pool agrees with the diary: each call has the deadline that follows from when it began,
and each member in line the timer. There are no other timers, and who was told that it has
waited too long has. -/
structure Dated (diary : Diary) (pool : Pool) : Prop where
  calls : ∀ call ∈ pool.calls, ∃ start, diary.begun call.id = some start ∧
    call.deadline = pool.config.waitQueueTimeout.map (start + ·)
  waits : ∀ call ∈ pool.calls, ∀ member, call.phase = .queued member →
    diary.letIn member = diary.begun call.id
  line : ∀ m ∈ pool.queue.members, ∃ start, diary.letIn m.id = some start ∧
    ∀ wait, pool.config.waitQueueTimeout = some wait → ⟨m.id, start + wait⟩ ∈ pool.timers
  timers : ∀ timer ∈ pool.timers, timer.member ≤ pool.queue.lastMember ∧
    ∃ start wait, pool.config.waitQueueTimeout = some wait ∧
      diary.letIn timer.member = some start ∧ timer.deadline = start + wait
  own : pool.queue.OwnTimers
  late : ∀ call ∈ pool.calls, call.phase.TimedOut → ∃ start wait,
    pool.config.waitQueueTimeout = some wait ∧ diary.begun call.id = some start ∧
      start + wait ≤ pool.now

/-! ## The diary agrees with the pool -/

/-- While nobody joins the line the pool goes on to agree with the diary. -/
theorem Dated.keep (h : pool.Dated diary) (hkeeps : pool.KeepsTime pool.Late next)
    (hlater : pool.stock.Later next.stock) : next.Dated diary := by
  have hconfig : next.config = pool.config := hlater.config
  refine ⟨?_, ?_, ?_, ?_, hkeeps.own h.own, ?_⟩
  · intro call hcall
    obtain ⟨before, hbefore, hid, hdeadline, -⟩ := hkeeps.calls call hcall
    rw [← hid, ← hdeadline, hconfig]
    exact h.calls before hbefore
  · intro call hcall member hphase
    obtain ⟨before, hbefore, hid, -, hbides⟩ := hkeeps.calls call hcall
    rw [hphase] at hbides
    generalize hbegan : before.phase = phase at hbides
    cases hbides with
    | still => exact hid ▸ h.waits before hbefore member hbegan
    | free out => exact absurd rfl (out member)
  · intro m hm
    obtain ⟨before, hbefore, hid, -⟩ := hkeeps.members m hm
    obtain ⟨start, hstart, htimer⟩ := h.line before hbefore
    rw [hid] at hstart htimer
    refine ⟨start, hstart, fun wait hwait => ?_⟩
    exact hkeeps.armed m hm _ (htimer wait (hconfig ▸ hwait)) rfl
  · intro timer htimer
    rw [hkeeps.last, hconfig]
    exact h.timers timer (hkeeps.timers timer htimer)
  · intro call hcall hlate
    obtain ⟨before, hbefore, hid, -, hbides⟩ := hkeeps.calls call hcall
    rw [← hid, hconfig]
    have hnow : pool.now ≤ next.now := hlater.now
    generalize hbegan : before.phase = phase at hbides
    generalize call.phase = told at hbides hlate
    cases hbides with
    | still =>
        obtain ⟨start, wait, hwait, hstart, hdue⟩ := h.late before hbefore (hbegan ▸ hlate)
        exact ⟨start, wait, hwait, hstart, hdue.trans hnow⟩
    | free _ intime => exact absurd hlate intime
    | @late member _ due =>
        -- Its own timer is due, which is for its own deadline.
        obtain ⟨timer, htimer, rfl, hdue⟩ := due
        obtain ⟨-, start, wait, hwait, hletIn, hdeadline⟩ := h.timers timer htimer
        have hstart := h.waits before hbefore timer.member hbegan
        exact ⟨start, wait, hwait, hstart ▸ hletIn, hdeadline ▸ hdue.trans hnow⟩

/-- When an acquisition begins, its instant is noted. -/
theorem Dated.begin (h : pool.Dated diary) (hmade : (pool.held && !pool.isPending id) = true) :
    (pool.startAcquire id).Dated (diary.begin id pool.now) := by
  have hold : ∀ call ∈ pool.calls, (diary.begin id pool.now).begun call.id =
      diary.begun call.id := by
    rw [Bool.and_eq_true, Bool.not_eq_true', isPending, Bool.or_eq_false_iff] at hmade
    have hfresh : ∀ call ∈ pool.calls, call.id ≠ id := by simpa [call?] using hmade.2.1
    exact fun call hcall => Diary.begin_other (hfresh call hcall)
  have hcalls : ∀ call ∈ (pool.startAcquire id).calls, call ∈ pool.calls ∨
      call = ⟨id, pool.config.waitQueueTimeout.map (pool.now + ·), .entering false⟩ :=
    fun _ hcall => mem_start_acquire hcall
  have hframe : (pool.startAcquire id).config = pool.config ∧
      (pool.startAcquire id).queue = pool.queue ∧ (pool.startAcquire id).timers = pool.timers ∧
      (pool.startAcquire id).now = pool.now := by
    rw [startAcquire, if_pos hmade]
    exact ⟨rfl, rfl, rfl, rfl⟩
  obtain ⟨hconfig, hqueue, htimers, hnow⟩ := hframe
  refine ⟨?_, ?_, ?_, ?_, hqueue ▸ h.own, ?_⟩
  · intro call hcall
    rw [hconfig]
    rcases hcalls call hcall with hcall | rfl
    · rw [hold call hcall]
      exact h.calls call hcall
    · exact ⟨pool.now, Diary.begin_self, rfl⟩
  · intro call hcall member hphase
    rcases hcalls call hcall with hcall | rfl
    · rw [hold call hcall]
      exact h.waits call hcall member hphase
    · cases hphase
  · rw [hconfig, hqueue, htimers]
    exact h.line
  · rw [hconfig, hqueue, htimers]
    exact h.timers
  · intro call hcall hlate
    rw [hconfig, hnow]
    rcases hcalls call hcall with hcall | rfl
    · rw [hold call hcall]
      exact h.late call hcall hlate
    · obtain ⟨poolId, address, hphase⟩ := hlate
      cases hphase

/-- When a call joins the line, the instant at which it began is noted for the member too. -/
theorem Dated.enter (h : pool.Dated diary) (hcoherent : pool.Coherent)
    (henters : pool.Enters next id) (hlater : pool.stock.Later next.stock) :
    next.Dated (diary.enter next.queue.lastMember id) := by
  have hconfig : next.config = pool.config := hlater.config
  have hold : ∀ member ≤ pool.queue.lastMember,
      (diary.enter next.queue.lastMember id).letIn member = diary.letIn member := by
    intro member hmember
    refine Diary.enter_other ?_
    have hlast := henters.last
    omega
  obtain ⟨entering, hfind, htimers⟩ := henters.call
  have hentering : entering.id = id := by simpa using List.find?_some hfind
  obtain ⟨start, hstart, hdeadline⟩ := h.calls entering (Coherent.call_mem hfind)
  rw [hentering] at hstart
  refine ⟨?_, ?_, ?_, ?_, ?_, ?_⟩
  · intro call hcall
    rw [henters.calls] at hcall
    obtain ⟨before, hbefore, rfl⟩ := List.mem_map.1 hcall
    rw [hconfig]
    split <;> exact h.calls before hbefore
  · intro call hcall member hphase
    rw [henters.calls] at hcall
    obtain ⟨before, hbefore, rfl⟩ := List.mem_map.1 hcall
    split at hphase
    · next hid =>
        obtain rfl := Phase.queued.inj hphase
        rw [if_pos hid, Diary.enter_self]
        exact congrArg diary.begun hid.symm
    · next hid =>
        have hwaits : pool.WaitsAs before.id member := ⟨before, hbefore, rfl, hphase⟩
        rw [if_neg hid, hold member (hwaits.queued hcoherent).2]
        exact h.waits before hbefore member hphase
  · intro m hm
    rw [hconfig, htimers]
    rcases henters.members m hm with hm | ⟨hid, -⟩
    · rw [hold m.id (hcoherent.line.below m hm)]
      obtain ⟨start, hstart, htimer⟩ := h.line m hm
      exact ⟨start, hstart, fun wait hwait => List.mem_append_left _ (htimer wait hwait)⟩
    · rw [hid, Diary.enter_self]
      refine ⟨start, hstart, fun wait hwait => List.mem_append_right _ ?_⟩
      simp [hdeadline, hwait]
  · intro timer htimer
    rw [htimers] at htimer
    rw [hconfig]
    rcases List.mem_append.1 htimer with htimer | htimer
    · obtain ⟨hmember, hdated⟩ := h.timers timer htimer
      rw [hold timer.member hmember]
      exact ⟨hmember.trans (henters.last ▸ Nat.le_succ _), hdated⟩
    · rw [hdeadline] at htimer
      cases hwait : pool.config.waitQueueTimeout with
      | none =>
          rw [hwait] at htimer
          cases htimer
      | some wait =>
          rw [hwait] at htimer
          obtain rfl := List.mem_singleton.1 htimer
          exact ⟨Nat.le_refl _, start, wait, rfl, Diary.enter_self.trans hstart, rfl⟩
  · intro m hm timer htimer
    rcases henters.members m hm with hm | ⟨-, hown⟩
    · exact h.own m hm timer htimer
    · exact hown timer htimer
  · intro call hcall hlate
    rw [henters.calls] at hcall
    obtain ⟨before, hbefore, rfl⟩ := List.mem_map.1 hcall
    rw [hconfig]
    split at hlate
    · obtain ⟨poolId, address, hphase⟩ := hlate
      cases hphase
    · next hid =>
        obtain ⟨start, wait, hwait, hstart, hdue⟩ := h.late before hbefore hlate
        rw [if_neg hid]
        exact ⟨start, wait, hwait, hstart, hdue.trans hlater.now⟩

/-- The pool agrees with the diary after every action. -/
theorem Dated.after (h : pool.Dated diary) (hreachable : pool.Reachable) (action : Action) :
    (pool.after action).Dated (pool.note diary action) := by
  have hlater : pool.stock.Later (pool.after action).stock := (hreachable.step action).later
  have htimed := after_timed hreachable.sound.1 h.own action
  generalize hnext : pool.after action = next at htimed hlater
  cases htimed with
  | keeps hkeeps idle =>
      have hsame : pool.note diary action = diary := by
        cases action with
        | acquire id => exact if_neg (by rw [idle id rfl]; exact Bool.false_ne_true)
        | enter id => exact if_pos (hnext ▸ hkeeps.last)
        | _ => rfl
      rw [hsame]
      exact h.keep hkeeps hlater
  | @begins id _ made hkeeps =>
      rw [note, if_pos made]
      refine (h.begin made).keep hkeeps ?_
      rw [startAcquire, if_pos made]
      exact ⟨hlater.config, hlater.generation, hlater.now⟩
  | @enters id _ henters =>
      have hmoved : next.queue.lastMember ≠ pool.queue.lastMember := by
        have hlast := henters.last
        omega
      rw [note, hnext, if_neg hmoved]
      exact h.enter hreachable.sound.1 henters hlater

/-- The pool agrees with the diary after every history. -/
theorem Dated.run (h : pool.Dated diary) (hreachable : pool.Reachable) (history : List Action) :
    (pool.run history).Dated (pool.diaryAfter diary history) := by
  induction history generalizing pool diary with
  | nil => exact h
  | cons action rest ih => exact ih (h.after hreachable action) (hreachable.after action)

/-- A pool that was opened just now agrees with the empty diary. -/
theorem opened_dated {config : Config} {source : LinkSource} {network : Network} {now : Instant}
    (hcreate : create config source network now = .ok pool) : pool.Dated {} := by
  unfold create at hcreate
  split at hcreate
  · cases hcreate
  · cases hcreate
    exact ⟨by simp, by simp, by simp [WaitQueue.empty], by simp,
      by simp [WaitQueue.OwnTimers, WaitQueue.empty], by simp⟩

/-! ## Acquisitions that wait too long -/

/-- An acquisition that fails with a timeout was told that it has waited too long, and it fails
now. -/
theorem Reachable.late_failure (h : pool.Reachable) {completion : Completion}
    (hended : completion ∈ pool.ends action) (hcall : completion.call ∈ pool.callIds)
    {poolId : UInt32} {address : Address}
    (hresult : completion.result = .failed (.waitQueueTimeout poolId address)) :
    completion.time = pool.now ∧
      ∃ call ∈ pool.calls, call.id = completion.call ∧ call.phase.TimedOut := by
  obtain ⟨htime, hends⟩ := h.sound.1.ended_by hended hcall
  rw [hresult] at hends
  cases hends with
  | answered here answer =>
      have hid := by simpa using List.find?_some here
      exact ⟨htime, _, Coherent.call_mem here, hid, poolId, address, answer⟩

/-! ## Waits that end -/

/-- The wait of the member is to end now. When its timer has its turn the member leaves the
line, and the call that waits as it is to look at its answer now, which ends it with a timeout. -/
structure TimesOut (pool : Pool) (member : Nat) : Prop where
  due : pool.Due (.expire member)
  leaves : member ∉ (pool.after (.expire member)).queue.ids
  told : ∀ id, pool.WaitsAs id member → (pool.after (.expire member)).Due (.resume id) ∧
    (pool.after (.expire member)).ends (.resume id) =
      [⟨pool.now, id, .failed pool.queue.timeoutError⟩]

/-- A call that was answered with an error ends with it when it looks. -/
theorem resume_error {call : Call} {error : PoolError} (h : pool.Coherent)
    (hcall : call ∈ pool.calls) (hphase : call.phase = .answered (.error error)) :
    pool.Due (.resume call.id) ∧
      pool.ends (.resume call.id) = [⟨pool.now, call.id, .failed error⟩] := by
  obtain ⟨id, deadline, phase⟩ := call
  obtain rfl : phase = .answered (.error error) := hphase
  have hfind : pool.call? id = some ⟨id, deadline, .answered (.error error)⟩ :=
    Keyed.find_of_mem h.callIds hcall
  refine ⟨.call hcall rfl, ends_of_results ?_⟩
  simp only [step, resume, hfind]
  rfl

/-- Nothing is told when a timer has its turn, so that nothing is set off. -/
theorem after_expire {member : Nat} (h : pool.Coherent) (hdue : pool.Late member) :
    pool.after (.expire member) = (pool.expire member).collect := by
  have hlog : (pool.expire member).log = pool.log := by
    rw [expire_eq h hdue]
    rfl
  show ((pool.expire member).fire pool.log.length).collect = _
  rw [fire_silent hlog]

/-- A timer that is due ends the wait of its member. -/
theorem Late.timesOut {member : Nat} (hdue : pool.Late member) (h : pool.Reachable) :
    pool.TimesOut member := by
  have hcoherent := h.sound.1
  have hafter := after_expire hcoherent hdue
  have hexpired := expire_eq hcoherent hdue
  refine ⟨?_, ?_, ?_⟩
  · obtain ⟨timer, htimer, rfl, hlate⟩ := hdue
    exact .timer htimer hlate
  · have hleft : member ∉ (pool.expire member).queue.ids := by
      rw [hexpired]
      simp [WaitQueue.ids]
    rw [hafter, collect]
    split
    · exact hleft
    · exact List.not_mem_nil
  · rintro id ⟨call, hcall, rfl, hphase⟩
    have hanswered : { call with phase := .answered (.error pool.queue.timeoutError) } ∈
        (pool.expire member).calls := by
      rw [hexpired]
      refine List.mem_map.2 ⟨call, hcall, ?_⟩
      rw [hphase]
      exact if_pos rfl
    have halive : (pool.expire member).isAlive = true := by
      have hcalls := List.ne_nil_of_mem hanswered
      simp [isAlive, hcalls]
    have hsame : pool.after (.expire member) = pool.expire member := by
      rw [hafter, collect, if_pos halive]
    have hnow : (pool.expire member).now = pool.now := by
      rw [hexpired]
      rfl
    rw [← hsame] at hanswered hnow
    rw [← hnow]
    have hends := resume_error (h.after (.expire member)).sound.1 hanswered rfl
    exact hends

/-! ## What follows -/

/-- No timer is due in a settled pool. -/
theorem settled_timers (h : pool.ready? = none) :
    ∀ timer ∈ pool.timers, pool.now < timer.deadline :=
  fun _ htimer => Nat.not_le.1 fun hdue => settled_iff.1 h _ (.timer htimer hdue)

/-- The diary tells of each member in line when the acquisition began that it was let in for.
Once the waiting time since then is over, the wait of the member is to end. What is due at an
instant comes to an end in whatever order it is taken, and then the pool is settled: the waiting
time is not over for anybody who is still in line. Whoever is let in gets a timer for the end of
that time, and who fails with a timeout does so after that. -/
structure Punctual (pool : Pool) (diary : Diary) (wait : Duration) : Prop where
  belongs : ∀ id member, pool.WaitsAs id member → diary.letIn member = diary.begun id
  expires : ∀ member ∈ pool.queue.members, ∀ start, diary.letIn member.id = some start →
    start + wait ≤ pool.now → pool.TimesOut member.id
  settles : ∃ actions, pool.AllDue actions ∧ (pool.run actions).now = pool.now ∧
    (pool.run actions).ready? = none
  finite : ∀ schedule : Nat → Action, ∃ n,
    ¬ (pool.run ((List.range n).map schedule)).Due (schedule n)
  settled : pool.ready? = none → ∀ member ∈ pool.queue.members,
    ∃ start, diary.letIn member.id = some start ∧ pool.now < start + wait
  armed : ∀ id next, pool.after (.enter id) = next →
    next.queue.lastMember ≠ pool.queue.lastMember → ∃ start, diary.begun id = some start ∧
      next.timers = pool.timers ++ [⟨next.queue.lastMember, start + wait⟩]
  timedOut : ∀ action, ∀ completion ∈ pool.ends action, completion.call ∈ pool.callIds →
    ∀ poolId address, completion.result = .failed (.waitQueueTimeout poolId address) →
      ∃ start, diary.begun completion.call = some start ∧ start + wait ≤ completion.time

/-- A reachable pool that agrees with the diary is punctual. -/
theorem Dated.punctual {wait : Duration} (h : pool.Dated diary) (hreachable : pool.Reachable)
    (hwait : pool.config.waitQueueTimeout = some wait) : pool.Punctual diary wait := by
  refine ⟨?_, ?_, hreachable.settles, hreachable.no_endless_schedule, ?_, ?_, ?_⟩
  · rintro id member ⟨call, hcall, rfl, hphase⟩
    exact h.waits call hcall member hphase
  · intro member hmember start hstart hover
    obtain ⟨begun, hbegun, htimer⟩ := h.line member hmember
    obtain rfl : begun = start := Option.some.inj (hbegun.symm.trans hstart)
    exact Late.timesOut ⟨_, htimer wait hwait, rfl, hover⟩ hreachable
  · intro hready member hmember
    obtain ⟨start, hstart, htimer⟩ := h.line member hmember
    exact ⟨start, hstart, settled_timers hready _ (htimer wait hwait)⟩
  · rintro id next hnext hmoved
    have htimed := after_timed hreachable.sound.1 h.own (.enter id)
    rw [hnext] at htimed
    cases htimed with
    | keeps hkeeps => exact absurd hkeeps.last hmoved
    | enters henters =>
        obtain ⟨call, hfind, htimers⟩ := henters.call
        have hid : call.id = id := by simpa using List.find?_some hfind
        obtain ⟨start, hstart, hdeadline⟩ := h.calls call (Coherent.call_mem hfind)
        refine ⟨start, hid ▸ hstart, ?_⟩
        rw [htimers, hdeadline, hwait]
        rfl
  · intro action completion hended hcall poolId address hresult
    obtain ⟨htime, call, hmem, hid, hlate⟩ := hreachable.late_failure hended hcall hresult
    obtain ⟨start, other, hother, hstart, hdue⟩ := h.late call hmem hlate
    obtain rfl : other = wait := Option.some.inj (hother.symm.trans hwait)
    exact ⟨start, hid ▸ hstart, htime ▸ hdue⟩

/-- Whatever happens to a pool with a waiting time, everybody for whom that time is over,
counted from when the acquisition began, is to leave the line and to fail with a timeout at that
instant. Every instant can be settled, and then that time is not over for anybody in line. All
admissions of an acquisition are armed for the same instant, also when that has passed, and an
acquisition that fails with a timeout fails at that instant or later. -/
theorem always_punctual {config : Config} {source : LinkSource} {network : Network}
    {now : Instant}
    {wait : Duration} (hcreate : create config source network now = .ok opened)
    (hwait : config.waitQueueTimeout = some wait) (history : List Action) :
    (opened.run history).Punctual (opened.diaryAfter {} history) wait := by
  have hreachable := (Reachable.opened hcreate).run history
  have hconfig : (opened.run history).config = config := by
    refine (Reachable.opened hcreate).preserves
      (P := fun h => h.stock.config = config) ?_ history ?_
    · exact fun _ step hsame => step.later.config.trans hsame
    · rw [(create_coherent hcreate).2]
      rfl
  exact ((opened_dated hcreate).run (.opened hcreate) history).punctual hreachable
    ((congrArg Config.waitQueueTimeout hconfig).trans hwait)

/-- A pool in which nobody waits in line for more than 100 ms, when it is opened. -/
def brisk : Pool where
  stock := ({
      config := { waitQueueTimeout := some 100000000 }
      source := .simulated
      network := {}
      now := 0 } : Inventory).emit
    (.poolCreated ({ waitQueueTimeout := some 100000000 } : Config).options)
  queue := .empty 0 0 .localhost
  populations := [⟨.opening, 0, .reserving⟩]
  openedAt := 0

/-- The brisk pool is what opening one comes to. -/
theorem brisk_opened : create { waitQueueTimeout := some 100000000 } .simulated
    {} 0 = .ok brisk :=
  rfl

/-- A call is served after 10 ms, and the pool is cleared while it connects, which takes 120
ms. -/
def clearWhileConnecting : List Action :=
  [.reserve .opening, .connectDelay 120000000, .acquire 1, .enter 1, .elapse 10000000, .tick 0,
    .resume 1, .clear, .elapse 120000000, .finishConnect 1, .register 1]

/-- The call comes back when its time is over. Its timer is for the instant that it was for at
first, so that its wait ends at once. -/
theorem comes_back_late :
    (brisk.run clearWhileConnecting).now = 130000000 ∧
      ((brisk.run clearWhileConnecting).after (.enter 1)).timers = [⟨2, 100000000⟩] ∧
      (brisk.run (clearWhileConnecting ++ [.enter 1])).TimesOut 2 := by
  have hpunctual := always_punctual brisk_opened rfl clearWhileConnecting
  have hlast : ((brisk.run clearWhileConnecting).after (.enter 1)).queue.lastMember = 2 := by
    decide +kernel
  have hnobody : (brisk.run clearWhileConnecting).timers = [] := by decide +kernel
  have hbegun : (brisk.diaryAfter {} clearWhileConnecting).begun 1 = some 0 := by decide +kernel
  obtain ⟨start, hstart, htimers⟩ := hpunctual.armed 1 _ rfl (by decide +kernel)
  obtain rfl : start = 0 := Option.some.inj (hstart.symm.trans hbegun)
  rw [hlast, hnobody] at htimers
  have hback := always_punctual brisk_opened rfl (clearWhileConnecting ++ [.enter 1])
  have hover := hback.expires ⟨2, true, some 2⟩ (by decide +kernel) 0 (by decide +kernel)
    (by decide +kernel)
  exact ⟨by decide +kernel, htimers, hover⟩

end Pool

end ConnectionPool
