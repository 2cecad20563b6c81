import ConnectionPool.Recorder

/-!
# Nobody sleeps through an event

A recorder is told of events by handlers, any number of them at the same time: a handler puts
its event on record, and then it gives notice. Others wait at the recorder, each step by step,
until enough events of a type are on record or their time is up. A history of the watch is any
sequence of these moves.

A watcher takes note of the notices before it counts. So if it has counted too few, and enough
are on record now, then the event that made them enough came after the count, and so does its
notice, which the watcher has not taken note of. `Watcher.Alert` says this, and every move keeps
it. Hence nobody who could go on is left asleep, and a waiter for whom enough is on record
returns after three steps of its own, whatever happens between them: `no_event_missed`.
-/

namespace ConnectionPool

variable {recorder : Recorder} {watcher : Watcher} {unannounced : Nat}

/-! ## Watchers -/

/-- Putting an event on record takes none of the others away. -/
theorem Recorder.count_push (recorder : Recorder) (event : Event) (typeName : String) :
    recorder.count typeName ≤ (recorder.push event).count typeName := by
  rw [count, count, push, List.countP_append]
  exact Nat.le_add_right _ _

/-- The notices that a watcher in this phase has taken note of. -/
def WatchPhase.noted? : WatchPhase → Option Nat
  | .checking notices | .lacking notices | .suspended notices => some notices
  | .starting | .reached => none

/-- The notices that a watcher has taken note of which has counted too few. -/
def WatchPhase.missed? : WatchPhase → Option Nat
  | .lacking notices | .suspended notices => some notices
  | .starting | .checking _ | .reached => none

/-- How many steps a watcher in this phase has to go until it is done, if nothing keeps it from
that. -/
def WatchPhase.stepsToGo : WatchPhase → Nat
  | .lacking _ | .suspended _ => 3
  | .starting => 2
  | .checking _ => 1
  | .reached => 0

/-- That is three steps at most. -/
theorem WatchPhase.steps_le (phase : WatchPhase) : phase.stepsToGo ≤ 3 := by
  cases phase <;> simp [stepsToGo]

/-- A watcher that has counted too few has taken note of the notices. -/
theorem WatchPhase.missed_noted {phase : WatchPhase} {notices : Nat}
    (h : phase.missed? = some notices) :
    phase.noted? = some notices := by
  cases phase <;> first | exact h | cases h

namespace Watcher

/-- Enough events are on record for the watcher. -/
def Served (recorder : Recorder) (watcher : Watcher) : Prop :=
  watcher.count ≤ recorder.count watcher.typeName

instance (recorder : Recorder) (watcher : Watcher) : Decidable (watcher.Served recorder) :=
  inferInstanceAs (Decidable (_ ≤ _))

/-- The watcher is suspended, and no notice was given since it took note of them: there is
nothing to wake it. -/
def Asleep (recorder : Recorder) (watcher : Watcher) : Prop :=
  ∃ notices, watcher.phase = .suspended notices ∧ recorder.notices ≤ notices

/-- The watcher has noted no notice that was not given; if it has counted too few and enough
events are on record now, then notice was given since or is still to be given; and it is done
only if enough events are on record. -/
structure Alert (recorder : Recorder) (unannounced : Nat) (watcher : Watcher) : Prop where
  noted : ∀ notices, watcher.phase.noted? = some notices → notices ≤ recorder.notices
  told : ∀ notices, watcher.phase.missed? = some notices → watcher.Served recorder →
    notices < recorder.notices ∨ 0 < unannounced
  seen : watcher.phase = .reached → watcher.Served recorder

/-- Nothing keeps the watcher from being done: enough events are on record, and if it has
counted too few, notice was given since. -/
structure Due (recorder : Recorder) (watcher : Watcher) : Prop where
  served : watcher.Served recorder
  told : ∀ notices, watcher.phase.missed? = some notices → notices < recorder.notices

/-- Who is served stays so when an event is put on record. -/
theorem Served.push (h : watcher.Served recorder) (event : Event) :
    watcher.Served (recorder.push event) :=
  Nat.le_trans h (recorder.count_push event watcher.typeName)

/-- A watcher that counts enough events is done. -/
theorem step_served {notices : Nat} (hphase : watcher.phase = .checking notices)
    (hserved : watcher.Served recorder) :
    watcher.step recorder = { watcher with phase := .reached } := by
  rw [step, hphase]
  exact if_pos hserved

/-- A watcher that has counted too few starts again when notice was given since. -/
theorem step_told {notices : Nat} (hphase : watcher.phase.missed? = some notices)
    (hgiven : notices < recorder.notices) : watcher.step recorder =
      { watcher with phase := .starting } := by
  obtain ⟨typeName, count, phase⟩ := watcher
  cases phase <;> cases hphase <;> exact if_pos hgiven

/-- A watcher that has no step to go is done. -/
theorem done_of_no_step (h : watcher.phase.stepsToGo = 0) : watcher.isDone = true := by
  cases hphase : watcher.phase with
  | reached => rw [isDone, hphase]; rfl
  | starting | checking | lacking | suspended => rw [hphase] at h; cases h

/-- A watcher is alert at first. -/
theorem starting_alert (typeName : String) (count : Nat) :
    Alert recorder unannounced { typeName := typeName, count := count } :=
  ⟨nofun, nofun, nofun⟩

namespace Alert

/-- A handler has put an event on record, whose notice is to come. -/
theorem push (h : watcher.Alert recorder unannounced) (event : Event) :
    watcher.Alert (recorder.push event) (unannounced + 1) :=
  ⟨h.noted, fun _ _ _ => .inr (Nat.succ_pos _), fun hphase => (h.seen hphase).push event⟩

/-- A handler gives notice: everyone who has counted too few took note of fewer notices than
there are then. -/
theorem notify (h : watcher.Alert recorder unannounced) (left : Nat) :
    watcher.Alert recorder.notify left := by
  refine ⟨fun notices hphase => Nat.le_succ_of_le (h.noted notices hphase),
    fun notices hphase _ => .inl ?_, h.seen⟩
  exact Nat.lt_succ_of_le (h.noted notices (WatchPhase.missed_noted hphase))

/-- A step of the watcher keeps it alert. -/
theorem step (h : watcher.Alert recorder unannounced) :
    (watcher.step recorder).Alert recorder unannounced := by
  cases hphase : watcher.phase with
  | starting =>
      -- It takes note of all notices that were given.
      rw [Watcher.step, hphase]
      exact ⟨fun _ hnoted => Nat.le_of_eq (Option.some.inj hnoted).symm, nofun, nofun⟩
  | checking notices =>
      by_cases hserved : watcher.Served recorder
      · rw [step_served hphase hserved]
        exact ⟨nofun, nofun, fun _ => hserved⟩
      · have hlacks : watcher.step recorder = { watcher with phase := .lacking notices } := by
          rw [Watcher.step, hphase]
          exact if_neg hserved
        rw [hlacks]
        have hnoted := h.noted notices (by rw [hphase]; rfl)
        exact ⟨fun _ heq => Option.some.inj heq ▸ hnoted,
          fun _ _ hnow => absurd hnow hserved, nofun⟩
  | lacking notices =>
      by_cases hgiven : notices < recorder.notices
      · rw [step_told (by rw [hphase]; rfl) hgiven]
        exact starting_alert _ _
      · have hsleeps : watcher.step recorder = { watcher with phase := .suspended notices } := by
          rw [Watcher.step, hphase]
          exact if_neg hgiven
        rw [hsleeps]
        obtain ⟨hnoted, htold, -⟩ := h
        rw [hphase] at hnoted htold
        exact ⟨hnoted, htold, nofun⟩
  | suspended notices =>
      by_cases hgiven : notices < recorder.notices
      · rw [step_told (by rw [hphase]; rfl) hgiven]
        exact starting_alert _ _
      · have hstays : watcher.step recorder = watcher := by
          rw [Watcher.step, hphase]
          exact if_neg hgiven
        rwa [hstays]
  | reached =>
      have hstays : watcher.step recorder = watcher := by rw [Watcher.step, hphase]
      rwa [hstays]

/-- When all notice has been given, an alert watcher that is served is due. -/
theorem due (h : watcher.Alert recorder 0) (hserved : watcher.Served recorder) :
    watcher.Due recorder :=
  ⟨hserved, fun notices hphase => (h.told notices hphase hserved).resolve_right (Nat.lt_irrefl 0)⟩

end Alert

namespace Due

/-- A watcher that is due is not asleep. -/
theorem awake (h : watcher.Due recorder) : ¬watcher.Asleep recorder := by
  rintro ⟨notices, hphase, hnone⟩
  exact Nat.not_lt.2 hnone (h.told notices (by rw [hphase]; rfl))

/-- Another event on record keeps nobody from being done. -/
theorem push (h : watcher.Due recorder) (event : Event) : watcher.Due (recorder.push event) :=
  ⟨h.served.push event, h.told⟩

/-- Another notice keeps nobody from being done. -/
theorem notify (h : watcher.Due recorder) : watcher.Due recorder.notify :=
  ⟨h.served, fun notices hphase => Nat.lt_succ_of_lt (h.told notices hphase)⟩

/-- A step of a watcher that is due takes it one step further. -/
theorem step (h : watcher.Due recorder) :
    (watcher.step recorder).Due recorder ∧
      (watcher.step recorder).phase.stepsToGo = watcher.phase.stepsToGo - 1 := by
  cases hphase : watcher.phase with
  | starting =>
      rw [Watcher.step, hphase]
      exact ⟨⟨h.served, nofun⟩, rfl⟩
  | checking notices =>
      rw [step_served hphase h.served]
      exact ⟨⟨h.served, nofun⟩, rfl⟩
  | lacking notices | suspended notices =>
      have hmissed : watcher.phase.missed? = some notices := by rw [hphase]; rfl
      rw [step_told hmissed (h.told notices hmissed)]
      exact ⟨⟨h.served, nofun⟩, rfl⟩
  | reached =>
      have hstays : watcher.step recorder = watcher := by rw [Watcher.step, hphase]
      rw [hstays, hphase]
      exact ⟨h, rfl⟩

/-- A watcher that is due is done when it is run until it sleeps or is done. -/
theorem poll (h : watcher.Due recorder) : (watcher.poll recorder).isDone = true := by
  obtain ⟨h₁, hgo₁⟩ := h.step
  obtain ⟨h₂, hgo₂⟩ := h₁.step
  obtain ⟨h₃, hgo₃⟩ := h₂.step
  obtain ⟨-, hgo₄⟩ := h₃.step
  have hle := watcher.phase.steps_le
  exact done_of_no_step (by rw [Watcher.poll]; omega)

end Due

end Watcher

/-! ## Watches -/

/-- Someone who waits at a recorder until an instant at most. -/
structure Waiter where
  watcher : Watcher
  deadline : Instant
  gaveUp : Bool := false
  deriving DecidableEq, Repr

namespace Waiter

/-- What the waiter has returned, if it has: whether it saw enough events. -/
def result? (waiter : Waiter) : Option Bool :=
  if waiter.watcher.isDone then some true else if waiter.gaveUp then some false else none

/-- One step of the waiter. -/
def step (recorder : Recorder) (waiter : Waiter) : Waiter :=
  if waiter.gaveUp then waiter else { waiter with watcher := waiter.watcher.step recorder }

/-- Give up at the deadline or later, having gone to sleep. -/
def giveUp (now : Instant) (waiter : Waiter) : Waiter :=
  match waiter.watcher.phase with
  | .suspended _ => if waiter.deadline ≤ now then { waiter with gaveUp := true } else waiter
  | _ => waiter

end Waiter

/-- A recorder and those who wait at it. `unannounced` counts the handlers that have put their
event on record and are still to give notice. -/
structure Watch where
  recorder : Recorder
  unannounced : Nat
  now : Instant
  waiters : List Waiter := []

/-- What can happen next: a handler puts an event on record, or gives notice; someone comes to
wait, takes a step or gives up; or time passes. Waiters are known by their place in the list. -/
inductive Watch.Move where
  | push (event : Event)
  | notify
  | wait (typeName : String) (count : Nat) (timeout : Duration)
  | step (waiter : Nat)
  | giveUp (waiter : Nat)
  | elapse (span : Duration)
  deriving DecidableEq, Repr

namespace Watch

/-- The watch after a move. Without a handler that is still to give notice, none is given. -/
def after (watch : Watch) : Move → Watch
  | .push event =>
      { watch with recorder := watch.recorder.push event, unannounced := watch.unannounced + 1 }
  | .notify =>
      if watch.unannounced = 0 then watch
      else { watch with recorder := watch.recorder.notify, unannounced := watch.unannounced - 1 }
  | .wait typeName count timeout =>
      { watch with
        waiters := watch.waiters ++
          [{ watcher := { typeName := typeName, count := count }
             deadline := watch.now + timeout }] }
  | .step waiter =>
      { watch with waiters := watch.waiters.modify waiter (Waiter.step watch.recorder) }
  | .giveUp waiter =>
      { watch with waiters := watch.waiters.modify waiter (Waiter.giveUp watch.now) }
  | .elapse span => { watch with now := watch.now + span }

/-- Where no notice is due, none is given. -/
theorem after_notify_none {watch : Watch} (h : watch.unannounced = 0) :
    watch.after .notify = watch :=
  if_pos h

/-- Where notice is due, a handler gives it. -/
theorem after_notify {watch : Watch} (h : watch.unannounced ≠ 0) :
    watch.after .notify =
      { watch with recorder := watch.recorder.notify, unannounced := watch.unannounced - 1 } :=
  if_neg h

/-- The watch after a history of moves. -/
def run (watch : Watch) (moves : List Move) : Watch :=
  moves.foldl after watch

/-- A history goes on where its first part ends. -/
theorem run_append (watch : Watch) (prior later : List Move) :
    watch.run (prior ++ later) = (watch.run prior).run later :=
  List.foldl_append

variable {watch : Watch} {id : Nat}

/-- All who wait are alert. -/
def IsAlert (watch : Watch) : Prop :=
  ∀ waiter ∈ watch.waiters, waiter.watcher.Alert watch.recorder watch.unannounced

/-- Changing one waiter keeps all of them alert if the change does. -/
theorem IsAlert.modify (h : watch.IsAlert) (id : Nat) {change : Waiter → Waiter}
    (hchange : ∀ waiter, waiter.watcher.Alert watch.recorder watch.unannounced →
      (change waiter).watcher.Alert watch.recorder watch.unannounced) :
    IsAlert { watch with waiters := watch.waiters.modify id change } := by
  intro waiter hmem
  obtain ⟨i, hi⟩ := List.mem_iff_getElem?.1 hmem
  rw [List.getElem?_modify] at hi
  obtain ⟨before, hbefore, rfl⟩ := Option.map_eq_some_iff.1 hi
  have halert := h before (List.mem_of_getElem? hbefore)
  split
  · exact hchange before halert
  · exact halert

/-- Giving up is no step of the watcher. -/
theorem give_up_watcher (now : Instant) (waiter : Waiter) :
    (waiter.giveUp now).watcher = waiter.watcher := by
  unfold Waiter.giveUp
  split
  · split <;> rfl
  · rfl

/-- Every move keeps all who wait alert. -/
theorem IsAlert.after (h : watch.IsAlert) (move : Move) : (watch.after move).IsAlert := by
  cases move with
  | push event => exact fun waiter hmem => (h waiter hmem).push event
  | notify =>
      by_cases hnone : watch.unannounced = 0
      · rwa [after_notify_none hnone]
      · rw [after_notify hnone]
        exact fun waiter hmem => (h waiter hmem).notify _
  | wait typeName count timeout =>
      intro waiter hmem
      rcases List.mem_append.1 hmem with hmem | hmem
      · exact h waiter hmem
      · obtain rfl := List.mem_singleton.1 hmem
        exact Watcher.starting_alert typeName count
  | step id =>
      refine h.modify id fun waiter halert => ?_
      unfold Waiter.step
      split
      · exact halert
      · exact halert.step
  | giveUp id => exact h.modify id fun waiter halert => by rwa [give_up_watcher]
  | elapse span => exact h

/-- So does every history. -/
theorem IsAlert.run (h : watch.IsAlert) (moves : List Move) : (watch.run moves).IsAlert := by
  induction moves generalizing watch with
  | nil => exact h
  | cons move rest ih => exact ih (h.after move)

/-- Time does not go back. -/
theorem now_le_after (watch : Watch) (move : Move) : watch.now ≤ (watch.after move).now := by
  cases move with
  | notify =>
      have hsame : (watch.after .notify).now = watch.now := by
        by_cases hnone : watch.unannounced = 0
        · rw [after_notify_none hnone]
        · rw [after_notify hnone]
      exact Nat.le_of_eq hsame.symm
  | elapse span => exact Nat.le_add_right _ _
  | push | wait | step | giveUp => exact Nat.le_refl _

/-- Nor in a history. -/
theorem now_le_run (watch : Watch) (moves : List Move) : watch.now ≤ (watch.run moves).now := by
  induction moves generalizing watch with
  | nil => exact Nat.le_refl _
  | cons move rest ih => exact Nat.le_trans (watch.now_le_after move) (ih _)

/-- Someone has a place among those who wait, has not given up, has until the deadline, is due
and has so many steps to go. -/
def Proceeds (watch : Watch) (id : Nat) (deadline : Instant) (steps : Nat) : Prop :=
  ∃ waiter, watch.waiters[id]? = some waiter ∧ waiter.gaveUp = false ∧
    waiter.deadline = deadline ∧
    waiter.watcher.Due watch.recorder ∧ waiter.watcher.phase.stepsToGo = steps

/-- Whatever move is made before the deadline, whoever is due stays so, and goes on if it was
its step. -/
theorem Proceeds.after {deadline : Instant} {steps : Nat}
    (h : watch.Proceeds id deadline steps) (move : Move)
    (hintime : (watch.after move).now < deadline) :
    (watch.after move).Proceeds id deadline (steps - [move].count (.step id)) := by
  obtain ⟨waiter, hplace, hstays, hdeadline, hdue, hsteps⟩ := h
  cases move with
  | push event => exact ⟨waiter, hplace, hstays, hdeadline, hdue.push event, hsteps⟩
  | notify =>
      by_cases hnone : watch.unannounced = 0
      · rw [after_notify_none hnone]
        exact ⟨waiter, hplace, hstays, hdeadline, hdue, hsteps⟩
      · rw [after_notify hnone]
        exact ⟨waiter, hplace, hstays, hdeadline, hdue.notify, hsteps⟩
  | wait typeName count timeout =>
      have hlt := (List.getElem?_eq_some_iff.1 hplace).1
      exact ⟨waiter, (List.getElem?_append_left hlt).trans hplace, hstays,
        hdeadline, hdue, hsteps⟩
  | step other =>
      by_cases heq : other = id
      · subst heq
        obtain ⟨hnext, hgo⟩ := hdue.step
        refine ⟨{ waiter with watcher := waiter.watcher.step watch.recorder }, ?_, hstays,
          hdeadline, hnext, ?_⟩
        · simp [Watch.after, hplace, Waiter.step, hstays]
        · simp [hgo, hsteps]
      · refine ⟨waiter, ?_, hstays, hdeadline, hdue, ?_⟩
        · simp [Watch.after, hplace, heq]
        · simp [hsteps, heq]
  | giveUp other =>
      -- Before its deadline nobody gives up.
      have hearly : ¬waiter.deadline ≤ watch.now := by rw [hdeadline]; exact Nat.not_le.2 hintime
      have hsame : waiter.giveUp watch.now = waiter := by
        unfold Waiter.giveUp
        split
        · exact if_neg hearly
        · rfl
      refine ⟨waiter, ?_, hstays, hdeadline, hdue, hsteps⟩
      simp [Watch.after, List.getElem?_modify, hplace, hsame]
  | elapse span => exact ⟨waiter, hplace, hstays, hdeadline, hdue, hsteps⟩

/-- Whatever happens before the deadline, whoever is due stays so and has all the steps behind
it that it took. -/
theorem Proceeds.run {deadline : Instant} {steps : Nat} (h : watch.Proceeds id deadline steps)
    (moves : List Move)
    (hintime : (watch.run moves).now < deadline) :
    (watch.run moves).Proceeds id deadline (steps - moves.count (.step id)) := by
  induction moves generalizing watch steps with
  | nil => exact h
  | cons move rest ih =>
      have hnext := h.after move (Nat.lt_of_le_of_lt (now_le_run _ rest) hintime)
      have hlast := ih hnext hintime
      rwa [Nat.sub_sub, ← List.count_append, List.singleton_append] at hlast

/-- A watch at which nobody waits yet. Events are on record, and handlers may be about to give
notice. -/
def opened (recorder : Recorder) (unannounced : Nat) (now : Instant) : Watch :=
  { recorder := recorder, unannounced := unannounced, now := now }

/-- No event is missed, however handlers and waiters take turns. When no handler is still to
give notice, nobody is left asleep for whom enough events are on record. Whoever has not given
up by then returns that it saw them, as soon as it is run, and also if other moves come between
its next three steps, as long as its time is not up. And nobody returns that it saw enough
events unless they are on record. -/
theorem no_event_missed (recorder : Recorder) (unannounced : Nat) (now : Instant)
    (moves : List Move) :
    let watch := (opened recorder unannounced now).run moves
    (watch.unannounced = 0 → ∀ waiter ∈ watch.waiters, waiter.watcher.Served watch.recorder →
      ¬waiter.watcher.Asleep watch.recorder ∧
        (waiter.watcher.poll watch.recorder).isDone = true) ∧
    (watch.unannounced = 0 → ∀ (id : Nat) (waiter : Waiter), watch.waiters[id]? = some waiter →
      waiter.gaveUp = false → waiter.watcher.Served watch.recorder → ∀ later : List Move,
        (watch.run later).now < waiter.deadline → 3 ≤ later.count (.step id) →
          ∃ next, (watch.run later).waiters[id]? = some next ∧ next.result? = some true) ∧
    (∀ waiter ∈ watch.waiters, waiter.result? = some true →
      waiter.watcher.Served watch.recorder) := by
  intro watch
  have halert : watch.IsAlert := IsAlert.run (fun _ hmem => absurd hmem List.not_mem_nil) moves
  have hdue : watch.unannounced = 0 → ∀ waiter ∈ watch.waiters,
      waiter.watcher.Served watch.recorder →
      waiter.watcher.Due watch.recorder :=
    fun hannounced waiter hmem hserved => (hannounced ▸ halert waiter hmem).due hserved
  refine ⟨fun hannounced waiter hmem hserved => ?_, ?_, ?_⟩
  · have hready := hdue hannounced waiter hmem hserved
    exact ⟨hready.awake, hready.poll⟩
  · intro hannounced id waiter hplace hstays hserved later hintime hsteps
    have hready := hdue hannounced waiter (List.mem_of_getElem? hplace) hserved
    have hproceeds : watch.Proceeds id waiter.deadline waiter.watcher.phase.stepsToGo :=
      ⟨waiter, hplace, hstays, rfl, hready, rfl⟩
    obtain ⟨next, hnext, -, -, -, hgo⟩ := hproceeds.run later hintime
    have hle := waiter.watcher.phase.steps_le
    have hdone : next.watcher.isDone = true := Watcher.done_of_no_step (by omega)
    exact ⟨next, hnext, by rw [Waiter.result?, if_pos hdone]⟩
  · intro waiter hmem hresult
    refine (halert waiter hmem).seen ?_
    unfold Waiter.result? at hresult
    split at hresult
    case isTrue hdone => exact beq_iff_eq.1 hdone
    case isFalse => split at hresult <;> cases hresult

/-- Someone is suspended when the event is put on record for which it waits, and is woken by its
notice. Other moves come between its steps, and it returns before its time is up. -/
theorem suspended_woken :
    let event : Event := ⟨0, ⟨0, 0, 0, 0, Address.localhost⟩, .poolCleared⟩
    let moves : List Move :=
      [.wait "connectionPoolCleared" 1 10, .step 0, .step 0, .step 0, .push event, .notify]
    let later : List Move := [.step 0, .push event, .step 0, .elapse 9, .step 0]
    let watch := (opened {} 0 0).run moves
    let waiter : Waiter := ⟨⟨"connectionPoolCleared", 1, .suspended 0⟩, 10, false⟩
    (watch.unannounced = 0 ∧ watch.waiters[0]? = some waiter ∧ waiter ∈ watch.waiters ∧
      waiter.watcher.Served watch.recorder ∧ (watch.run later).now < waiter.deadline ∧
      3 ≤ later.count (.step 0)) ∧
    ¬waiter.watcher.Asleep watch.recorder ∧ (waiter.watcher.poll watch.recorder).isDone = true ∧
    ∃ next, (watch.run later).waiters[0]? = some next ∧ next.result? = some true ∧
      next.watcher.Served (watch.run later).recorder := by
  intro event moves later watch waiter
  have hannounced : watch.unannounced = 0 := by decide +kernel
  have hplace : watch.waiters[0]? = some waiter := by decide +kernel
  have hserved : waiter.watcher.Served watch.recorder := by decide +kernel
  have hintime : (watch.run later).now < waiter.deadline := by decide +kernel
  have hsteps : 3 ≤ later.count (.step 0) := by decide +kernel
  have hmem := List.mem_of_getElem? hplace
  obtain ⟨hawake, hreturns, -⟩ := no_event_missed {} 0 0 moves
  obtain ⟨-, -, hseen⟩ := no_event_missed {} 0 0 (moves ++ later)
  obtain ⟨hnot, hpoll⟩ := hawake hannounced waiter hmem hserved
  obtain ⟨next, hnext, hresult⟩ := hreturns hannounced 0 waiter hplace rfl hserved later
    hintime hsteps
  rw [run_append] at hseen
  exact ⟨⟨hannounced, hplace, hmem, hserved, hintime, hsteps⟩, hnot, hpoll, next, hnext, hresult,
    hseen next (List.mem_of_getElem? hnext) hresult⟩

end Watch

end ConnectionPool
