import ConnectionPool.Proofs.QueueLimit
import Mathlib.Data.List.Induction

/-!
# Timers are aborted in time

A member of the line may have a timer that is to end its wait. `Minds` says what one act does to
the timers: who stays in line keeps the timer that it has, the timers of those who are released
are aborted, and so is a timer that comes for a member which is not in line. From this step, by
induction over the acts, `Kept` says which timers are in the line and which were aborted; the
result is `aborted_exactly`.
-/

namespace ConnectionPool.WaitQueue

variable {τ α : Type} {queue : WaitQueue τ}

/-! ## The line with its timers -/

/-- The members in line by their ids, each with its timer. -/
def line (queue : WaitQueue τ) : List (Nat × Option τ) :=
  queue.members.map fun member => (member.id, member.timer)

/-- The ids in line are those of the line with its timers. -/
theorem line_ids (queue : WaitQueue τ) : queue.line.map Prod.fst = queue.ids := by
  rw [line, List.map_map]
  rfl

/-- Whoever is in line with a timer is in line. -/
theorem mem_ids_of_line {entry : Nat × Option τ} (hentry : entry ∈ queue.line) :
    entry.1 ∈ queue.ids := by
  rw [← line_ids]
  exact List.mem_map_of_mem hentry

/-- The timers in line. -/
theorem mem_timers {timer : τ} : timer ∈ queue.timers ↔ ∃ id, (id, some timer) ∈ queue.line := by
  simp only [timers, line, List.mem_filterMap, List.mem_map, Prod.mk.injEq]
  constructor
  · rintro ⟨member, hmember, htimer⟩
    exact ⟨member.id, member, hmember, rfl, htimer⟩
  · rintro ⟨id, member, hmember, -, htimer⟩
    exact ⟨member, hmember, htimer⟩

/-- Those who are still in line have kept their timers. -/
theorem mem_line_of_subset {next : WaitQueue τ} (hids : queue.ids.Nodup)
    (hline : next.line ⊆ queue.line) {entry : Nat × Option τ} :
    entry ∈ next.line ↔ entry ∈ queue.line ∧ entry.1 ∈ next.ids := by
  refine ⟨fun h => ⟨hline h, mem_ids_of_line h⟩, fun ⟨hentry, hid⟩ => ?_⟩
  rw [← line_ids] at hid hids
  obtain ⟨other, hother, hsame⟩ := List.mem_map.1 hid
  rwa [← List.inj_on_of_nodup_map hids (hline hother) hentry hsame]

/-- Those who have left the line had their timers there. -/
theorem mem_gone {next : WaitQueue τ} {gone : List (Nat × Option τ)} (hids : queue.ids.Nodup)
    (hline : queue.line.Perm (next.line ++ gone)) {entry : Nat × Option τ} :
    entry ∈ gone ↔ entry ∈ queue.line ∧ entry.1 ∉ next.ids := by
  have hsplit : (next.ids ++ gone.map Prod.fst).Nodup := by
    rw [← line_ids, ← List.map_append, ← (hline.map Prod.fst).nodup_iff, line_ids]
    exact hids
  rw [hline.mem_iff, List.mem_append]
  constructor
  · intro hgone
    refine ⟨.inr hgone, fun hid => ?_⟩
    exact (List.nodup_append.1 hsplit).2.2 _ hid _ (List.mem_map_of_mem hgone) rfl
  · rintro ⟨hstays | hgone, hid⟩
    · exact absurd (mem_ids_of_line hstays) hid
    · exact hgone

/-- A waiter that goes away leaves its timer in the line. -/
theorem abandon_line (queue : WaitQueue τ) (member : Nat) :
    (queue.abandon member).line = queue.line := by
  rw [line, abandon, List.map_map]
  refine List.map_congr_left fun m _ => ?_
  dsimp only [Function.comp_apply]
  split <;> rfl

/-- Waiters that go away one after the other leave their timers in the line. -/
theorem abandon_all_line (queue : WaitQueue τ) (lost : List Nat) :
    (lost.foldl abandon queue).line = queue.line := by
  induction lost generalizing queue with
  | nil => rfl
  | cons member rest ih => rw [List.foldl_cons, ih, abandon_line]

/-- A request that is let in drives nobody out of the line. -/
theorem let_in_stays {front : Bool} {admission : Admission} {next : WaitQueue τ} {id : Nat}
    (hin : queue.letIn front = .ok (admission, next)) (hid : id ∈ queue.ids) : id ∈ next.ids := by
  obtain ⟨-, hmembers, -⟩ := let_in_ok hin
  exact (hmembers.map Member.id).mem_iff.2 (List.mem_cons_of_mem _ hid)

/-- Only a member whose time is over leaves the line by that. -/
theorem expire_leaves {member id : Nat} {outcome : Outcome τ α}
    (hexpire : queue.expire member = some outcome) (hid : id ∈ queue.ids)
    (hleft : id ∉ outcome.queue.ids) : id = member := by
  unfold expire at hexpire
  obtain ⟨found, -, rfl⟩ := Option.map_eq_some_iff.1 hexpire
  obtain ⟨m, hm, rfl⟩ := List.mem_map.1 hid
  by_contra hother
  exact hleft (List.mem_map_of_mem (List.mem_filter.2 ⟨hm, by simpa using hother⟩))

/-- Some members leave the line with their timers, and these are aborted. -/
def Outcome.Aborts (outcome : Outcome τ α) (queue : WaitQueue τ) : Prop :=
  ∃ gone, queue.line.Perm (outcome.queue.line ++ gone) ∧ outcome.aborted = gone.filterMap Prod.snd

/-- Draining the line aborts all timers. -/
theorem drain_aborts (queue : WaitQueue τ) : (queue.drain : Outcome τ α).Aborts queue := by
  refine ⟨queue.line, .refl _, ?_⟩
  rw [line, List.filterMap_map]
  rfl

/-- The head that leaves the line has its timer aborted. -/
theorem behead_aborts {head : Member τ} {rest : List (Member τ)}
    {answers : List (Nat × Except PoolError α)} (hmembers : queue.members = head :: rest) :
    (⟨{ queue with members := rest }, answers, head.timer.toList⟩ :
      Outcome τ α).Aborts queue := by
  refine ⟨[(head.id, head.timer)], ?_, ?_⟩
  · rw [line, hmembers, List.map_cons]
    exact (List.perm_append_singleton _ _).symm
  · cases head.timer <;> rfl

/-- Where nobody leaves the line no timer is aborted. -/
theorem still_aborts {next : WaitQueue τ} {answers : List (Nat × Except PoolError α)}
    (hline : next.line = queue.line) : (⟨next, answers, []⟩ : Outcome τ α).Aborts queue :=
  ⟨[], by rw [hline, List.append_nil], rfl⟩

/-- A tick that asks for nothing aborts the timers of those whom it lets out. -/
theorem pass_aborts (queue : WaitQueue τ) : (queue.pass :
    Tick α × Outcome τ α).2.Aborts queue := by
  unfold pass
  split
  · exact drain_aborts (α := α) queue
  · split
    · exact still_aborts rfl
    · next head rest hmembers => exact behead_aborts hmembers

/-- A tick that asks aborts the timer of the head, if it lets it out. -/
theorem serve_aborts (queue : WaitQueue τ) (resource : Option α) :
    (queue.serve resource).2.Aborts queue := by
  unfold serve
  split
  · exact still_aborts rfl
  · exact still_aborts rfl
  · next head rest resource hmembers =>
      split
      · exact behead_aborts hmembers
      · exact behead_aborts hmembers

/-- A tick aborts the timers of those whom it lets out. -/
theorem run_once_aborts (queue : WaitQueue τ) (lost : List Nat) (resource : Option α) :
    (queue.runOnce lost resource).2.Aborts queue := by
  unfold runOnce
  split
  · obtain ⟨gone, hline, haborted⟩ := serve_aborts (lost.foldl abandon queue) resource
    rw [abandon_all_line] at hline
    exact ⟨gone, hline, haborted⟩
  · exact pass_aborts queue

/-- Everyone's timer is aborted when the queue is destroyed. -/
theorem destroy_aborts (queue : WaitQueue τ) : (queue.destroy : Outcome τ α).Aborts queue :=
  drain_aborts (α := α) { queue with destroyed := true }

/-- A member whose time is over leaves the line, and no timer is aborted. -/
theorem expire_aborts {member : Nat} {outcome : Outcome τ α}
    (hexpire : queue.expire member = some outcome) :
    outcome.queue.line ⊆ queue.line ∧ outcome.aborted = [] := by
  unfold expire at hexpire
  obtain ⟨found, -, rfl⟩ := Option.map_eq_some_iff.1 hexpire
  exact ⟨List.map_subset _ (List.filter_subset_self _), rfl⟩

/-- The timer that comes with an act. -/
def Act.timer? : Act τ α → Option τ
  | .arm _ timer => some timer
  | _ => none

namespace Account

/-! ## What acts do to timers -/

/-- The timers that an act aborts. -/
def aborted (account : Account τ α) (act : Act τ α) : List τ :=
  (account.effect act).aborted

/-- The member in line on which an act arms a timer, and the timer. -/
def armed (account : Account τ α) : Act τ α → List (Nat × τ)
  | .arm member timer => if account.queue.isQueued member then [(member, timer)] else []
  | _ => []

/-- The timer of an act that arms it on a member which is not in line. -/
def missed (account : Account τ α) : Act τ α → List τ
  | .arm member timer => if account.queue.isQueued member then [] else [timer]
  | _ => []

/-- The members that are in line before an act and are not so after it. -/
def leavers (account : Account τ α) (act : Act τ α) : List Nat :=
  account.queue.ids.filter (· ∉ (account.after act).queue.ids)

/-- The members that leave the line because their time is over. -/
def expired (account : Account τ α) : Act τ α → List Nat
  | .expire member => account.leavers (.expire member)
  | _ => []

/-- The members that leave the line in another way. -/
def released (account : Account τ α) : Act τ α → List Nat
  | .expire _ => []
  | act => account.leavers act

/-- How a member leaves the line: its time is over, or everyone is told that the pool is closed,
or a tick serves it, or finds that its receiver is gone, before it asks for a resource or after
that. -/
inductive WayOut (account : Account τ α) (member : Nat) : Act τ α → Prop where
  | timedOut : WayOut account member (.expire member)
  | closed : WayOut account member .destroy
  | stopped (resource : Option α) (lost : List Nat) (destroyed : account.queue.destroyed = true) :
      WayOut account member (.tick resource lost)
  | served (resource : Option α) (lost : List Nat)
      (first : account.queue.ids.head? = some member)
      (tick : (account.queue.runOnce lost resource).1 = .served) :
      WayOut account member (.tick resource lost)
  | unclaimed (resource : Option α) (lost : List Nat) (found : α)
      (first : account.queue.ids.head? = some member)
      (tick : (account.queue.runOnce lost resource).1 = .unclaimed found) :
      WayOut account member (.tick resource lost)
  | discarded (resource : Option α) (lost : List Nat)
      (first : account.queue.ids.head? = some member)
      (tick : (account.queue.runOnce lost resource).1 = .discarded) :
      WayOut account member (.tick resource lost)

variable {account : Account τ α} {act : Act τ α} {member : Nat} {timer : τ}

/-- The member is in line if it is queued. -/
theorem is_queued_iff : account.queue.isQueued member = true ↔ member ∈ account.queue.ids := by
  simp [isQueued, ids]

/-- Who leaves the line was in it and is not so any more. -/
theorem mem_leavers :
    member ∈ account.leavers act ↔
      member ∈ account.queue.ids ∧ member ∉ (account.after act).queue.ids := by
  simp [leavers]

/-- Timers are armed on members that are in line. -/
theorem armed_in_line {entry : Nat × τ} (hentry : entry ∈ account.armed act) :
    entry.1 ∈ account.queue.ids := by
  cases act with
  | arm member timer =>
      simp only [armed] at hentry
      split at hentry
      · next hqueued =>
          rw [List.mem_singleton.1 hentry]
          exact is_queued_iff.1 hqueued
      · cases hentry
  | enter | enterFront | tick | expire | destroy | markStopped | drop => cases hentry

/-- Whoever leaves the line is released or its time is over. -/
theorem mem_leavers_cases :
    member ∈ account.leavers act ↔
      member ∈ account.released act ∨ member ∈ account.expired act := by
  cases act <;> simp [released, expired]

/-- Nobody is released by an act by which the time of members is over. -/
theorem released_not_expired (hreleased : member ∈ account.released act) :
    member ∉ account.expired act := by
  cases act with
  | expire => cases hreleased
  | enter | enterFront | tick | arm | destroy | markStopped | drop => exact List.not_mem_nil

/-- What an act does to timers. Those who stay in line keep their timers, unless the act arms
one on them. The act aborts the timers of those whom it releases, and the one that it is to arm
on nobody in line. -/
structure Minds (account : Account τ α) (act : Act τ α) : Prop where
  stay : ∀ id timer, (id, some timer) ∈ (account.after act).queue.line ↔
    (id, timer) ∈ account.armed act ∨
      (id, some timer) ∈ account.queue.line ∧ id ∈ (account.after act).queue.ids ∧
        id ∉ (account.armed act).map Prod.fst
  aborts : ∀ timer, timer ∈ account.aborted act ↔
    timer ∈ account.missed act ∨ ∃ id ∈ account.released act,
      (id, some timer) ∈ account.queue.line

/-- No timer comes with the act, and whoever leaves the line by it is released. -/
structure Plain (account : Account τ α) (act : Act τ α) : Prop where
  armed : account.armed act = []
  missed : account.missed act = []
  released : account.released act = account.leavers act

/-- Where no timer comes and the line is a part of what it was, those who stay keep their
timers. -/
theorem stay_of_subset (hids : account.queue.ids.Nodup)
    (hline : (account.after act).queue.line ⊆ account.queue.line)
    (harmed : account.armed act = [])
    (id : Nat) (timer : τ) :
    (id, some timer) ∈ (account.after act).queue.line ↔
      (id, timer) ∈ account.armed act ∨
        (id, some timer) ∈ account.queue.line ∧ id ∈ (account.after act).queue.ids ∧
          id ∉ (account.armed act).map Prod.fst := by
  rw [mem_line_of_subset hids hline, harmed]
  simp

/-- An act whose outcome aborts the timers of those whom it lets out. -/
theorem Minds.of_aborts {outcome : Outcome τ α} (hids : account.queue.ids.Nodup)
    (houtcome : outcome.Aborts account.queue) (hqueue : (account.after act).queue = outcome.queue)
    (haborted : account.aborted act = outcome.aborted) (hplain : account.Plain act) :
    account.Minds act := by
  obtain ⟨gone, hline, hgone⟩ := houtcome
  rw [← hqueue] at hline
  refine ⟨stay_of_subset hids ?_ hplain.armed, fun timer => ?_⟩
  · exact fun entry hentry => hline.mem_iff.2 (List.mem_append_left _ hentry)
  · rw [haborted, hgone, hplain.missed, hplain.released]
    simp only [List.mem_filterMap, List.not_mem_nil, false_or, mem_leavers, Prod.exists,
      exists_eq_right, mem_gone hids hline]
    constructor
    · rintro ⟨id, hentry, hid⟩
      exact ⟨id, ⟨mem_ids_of_line hentry, hid⟩, hentry⟩
    · rintro ⟨id, ⟨-, hid⟩, hentry⟩
      exact ⟨id, hentry, hid⟩

/-- An act that leaves the line and its timers as they are. -/
theorem Minds.still (hids : account.queue.ids.Nodup)
    (hline : (account.after act).queue.line = account.queue.line)
    (haborted : account.aborted act = []) (hplain : account.Plain act) : account.Minds act := by
  have hsame : (⟨(account.after act).queue, [], []⟩ : Outcome τ α).Aborts account.queue :=
    still_aborts hline
  exact .of_aborts hids hsame rfl haborted hplain

/-- A request that is let in has no timer yet. -/
theorem Minds.let_in {front : Bool} {admission : Admission} {queue : WaitQueue τ}
    (hin : account.queue.letIn front = .ok (admission, queue))
    (hqueue : (account.after act).queue = queue) (haborted : account.aborted act = [])
    (hplain : account.Plain act) : account.Minds act := by
  obtain ⟨-, hmembers, -⟩ := let_in_ok hin
  have hline : (account.after act).queue.line.Perm
      ((admission.member, none) :: account.queue.line) := by
    rw [hqueue]
    exact hmembers.map fun member => (member.id, member.timer)
  have hstays : ∀ id ∈ account.queue.ids, id ∈ (account.after act).queue.ids :=
    fun id hid => hqueue ▸ let_in_stays hin hid
  refine ⟨fun id timer => ?_, fun timer => ?_⟩
  · rw [hline.mem_iff, hplain.armed]
    simp only [List.mem_cons, Prod.mk.injEq, reduceCtorEq, and_false, false_or, List.not_mem_nil,
      List.map_nil, not_false_eq_true, and_true]
    exact ⟨fun hentry => ⟨hentry, hstays id (mem_ids_of_line hentry)⟩, And.left⟩
  · rw [haborted, hplain.missed, hplain.released]
    simp only [List.not_mem_nil, false_or, mem_leavers, false_iff]
    rintro ⟨id, ⟨hid, hgone⟩, -⟩
    exact hgone (hstays id hid)

/-- A request that comes to the line leaves the timers in it as they are. -/
theorem Minds.request {result : Except PoolError (Admission × WaitQueue τ)} {front : Bool}
    (hids : account.queue.ids.Nodup)
    (hin : ∀ admitted, result = .ok admitted → account.queue.letIn front = .ok admitted)
    (hafter : account.after act = account.enroll result) (haborted : account.aborted act = [])
    (hplain : account.Plain act) : account.Minds act := by
  cases result with
  | error error =>
      have hsame : (account.after act).queue.line = account.queue.line := by rw [hafter, enroll]
      exact .still hids hsame haborted hplain
  | ok admitted =>
      have hqueue : (account.after act).queue = admitted.2 := by rw [hafter, enroll]
      exact .let_in (hin admitted rfl) hqueue haborted hplain

/-- A timer that is armed on a member in line is its timer from then on, and any other is
aborted. -/
theorem Minds.arm (hids : account.queue.ids.Nodup) (member : Nat) (timer : τ) :
    account.Minds (.arm member timer) := by
  cases hqueued : account.queue.isQueued member with
  | false =>
      have hmissed : account.queue.arm member timer = (account.queue, [timer]) := by
        rw [WaitQueue.arm, if_neg (by simp [hqueued])]
      have hafter : account.after (.arm member timer) = account := by rw [after, hmissed]
      refine ⟨stay_of_subset hids (by rw [hafter]; exact List.Subset.refl _) ?_, fun other => ?_⟩
      · simp [armed, hqueued]
      · simp [aborted, effect, hmissed, missed, hqueued, released, leavers, hafter]
  | true =>
      have harm : (account.queue.arm member timer).1.line = account.queue.line.map fun entry =>
          if entry.1 = member then (entry.1, some timer) else entry := by
        rw [WaitQueue.arm, if_pos hqueued, line, line, List.map_map, List.map_map]
        refine List.map_congr_left fun m _ => ?_
        dsimp only [Function.comp_apply]
        split <;> rfl
      have hsame : (account.after (.arm member timer)).queue.ids = account.queue.ids :=
        arm_ids account.queue member timer
      refine ⟨fun id other => ?_, fun other => ?_⟩
      · have hthere := is_queued_iff.1 hqueued
        rw [hsame, after, harm]
        simp only [armed, hqueued, if_true, List.map_cons, List.map_nil, List.mem_singleton,
          Prod.mk.injEq, List.mem_map]
        constructor
        · rintro ⟨entry, hentry, heq⟩
          by_cases hmember : entry.1 = member
          · rw [if_pos hmember, Prod.mk.injEq] at heq
            exact .inl ⟨heq.1.symm.trans hmember, (Option.some.inj heq.2).symm⟩
          · rw [if_neg hmember] at heq
            subst heq
            exact .inr ⟨hentry, mem_ids_of_line hentry, hmember⟩
        · rintro (⟨rfl, rfl⟩ | ⟨hentry, -, hother⟩)
          · rw [← line_ids] at hthere
            obtain ⟨entry, hentry, rfl⟩ := List.mem_map.1 hthere
            exact ⟨entry, hentry, if_pos rfl⟩
          · exact ⟨_, hentry, if_neg hother⟩
      · have hnobody : account.leavers (.arm member timer) = [] := by
          rw [leavers, hsame]
          simp
        simp [aborted, effect, WaitQueue.arm, missed, hqueued, released, hnobody]

/-- A tick leaves the queue of its outcome. -/
theorem after_tick_queue (account : Account τ α) (resource : Option α) (lost : List Nat) :
    (account.after (.tick resource lost)).queue =
      (account.queue.runOnce lost resource).2.queue := by
  simp only [after]
  split <;> rfl

/-- Every act minds the timers in line. -/
theorem Balanced.minds (h : account.Balanced) (act : Act τ α) : account.Minds act := by
  have hids := h.ids_nodup
  cases act with
  | enter => exact .request hids (fun _ hin => enter_ok hin) rfl rfl ⟨rfl, rfl, rfl⟩
  | enterFront => exact .request hids (fun _ hin => hin) rfl rfl ⟨rfl, rfl, rfl⟩
  | tick resource lost =>
      have haborts := run_once_aborts account.queue lost resource
      exact .of_aborts hids haborts (after_tick_queue account resource lost) rfl ⟨rfl, rfl, rfl⟩
  | expire member =>
      -- The timer of the member is the one that fires, and nobody is released.
      have hexpire : (account.after (.expire member)).queue.line ⊆ account.queue.line ∧
          account.aborted (.expire member) = [] := by
        cases hexpire : (account.queue.expire member : Option (Outcome τ α)) with
        | none => simp [Account.after, aborted, effect, hexpire]
        | some outcome =>
            simp only [Account.after, aborted, effect, hexpire]
            exact expire_aborts hexpire
      refine ⟨stay_of_subset hids hexpire.1 rfl, fun timer => ?_⟩
      rw [hexpire.2]
      simp [missed, released]
  | arm member timer => exact .arm hids member timer
  | destroy => exact .of_aborts hids (destroy_aborts account.queue) rfl rfl ⟨rfl, rfl, rfl⟩
  | markStopped => exact .still hids rfl rfl ⟨rfl, rfl, rfl⟩
  | drop member =>
      refine .still hids ?_ rfl ⟨rfl, rfl, rfl⟩
      simp only [Account.after, Account.drop]
      split
      · exact abandon_line account.queue member
      · rfl

/-! ## Any acts -/

variable {first : Account τ α} {acts : List (Act τ α)}

theorem run_snoc (first : Account τ α) (acts : List (Act τ α)) (act : Act τ α) :
    first.run (acts ++ [act]) = (first.run acts).after act := by
  rw [run, List.foldl_append, ← run]
  rfl

theorem gather_snoc {β : Type} (look : Account τ α → Act τ α → List β) (first : Account τ α)
    (acts : List (Act τ α)) (act : Act τ α) :
    first.gather look (acts ++ [act]) = first.gather look acts ++ look (first.run acts) act := by
  induction acts generalizing first with
  | nil => simp [gather, run]
  | cons other rest ih =>
      rw [List.cons_append, gather, gather, ih, List.append_assoc]
      rfl

/-- The timers that come with acts are those that are armed and those that find nobody in line. -/
theorem timers_perm (first : Account τ α) (acts : List (Act τ α)) :
    ((first.gather armed acts).map Prod.snd ++ first.gather missed acts).Perm
      (acts.filterMap Act.timer?) := by
  induction acts generalizing first with
  | nil => exact .refl _
  | cons act rest ih =>
      have hrest := ih (first.after act)
      rw [gather, gather, List.map_append]
      cases act with
      | arm member timer =>
          have htimer : (Act.arm member timer : Act τ α).timer? = some timer := rfl
          rw [List.filterMap_cons_some htimer]
          cases hqueued : first.queue.isQueued member with
          | true => simpa [armed, missed, hqueued] using hrest
          | false =>
              simp only [armed, missed, hqueued, Bool.false_eq_true, if_false, List.map_nil,
                List.nil_append, List.singleton_append]
              exact List.perm_middle.trans (hrest.cons timer)
      | enter | enterFront | tick | expire | destroy | markStopped | drop => exact hrest

/-- What becomes of timers in the course of acts: those that were armed on members in line are
their timers; those that found nobody in line were aborted, and so were those of members that
were released. -/
structure Kept (first : Account τ α) (acts : List (Act τ α)) : Prop where
  timers : ∀ id timer, (id, some timer) ∈ (first.run acts).queue.line ↔
    (id, timer) ∈ first.gather armed acts ∧ id ∈ (first.run acts).queue.ids
  aborts : ∀ timer, timer ∈ first.gather aborted acts ↔ timer ∈ first.gather missed acts ∨
    ∃ id ∈ first.gather released acts, (id, timer) ∈ first.gather armed acts
  known : ∀ entry ∈ first.gather armed acts, entry.1 ∈ (first.run acts).admitted
  gone : ∀ id, id ∈ first.gather released acts ∨ id ∈ first.gather expired acts →
    id ∈ (first.run acts).admitted ∧ id ∉ (first.run acts).queue.ids
  apart : ∀ id ∈ first.gather released acts, id ∉ first.gather expired acts

/-- One more act keeps the account of the timers. -/
theorem Kept.snoc (h : first.Kept acts) (hbalanced : (first.run acts).Balanced) (act : Act τ α)
    (honce : ((first.gather armed (acts ++ [act])).map Prod.fst).Nodup) :
    first.Kept (acts ++ [act]) := by
  have hminds := hbalanced.minds act
  have hshift := hbalanced.shifts act
  have hadmitted : ∀ id ∈ (first.run acts).queue.ids, id ∈ (first.run acts).admitted :=
    fun id hid => hbalanced.known id (List.mem_append_left _ hid)
  have hleaves : ∀ id, id ∈ (first.run acts).released act ∨ id ∈ (first.run acts).expired act →
      id ∈ (first.run acts).queue.ids ∧ id ∉ ((first.run acts).after act).queue.ids :=
    fun id hid => mem_leavers.1 (mem_leavers_cases.2 hid)
  have hstays : ∀ entry ∈ (first.run acts).armed act,
      entry.1 ∈ ((first.run acts).after act).queue.ids :=
    fun entry hentry => mem_ids_of_line ((hminds.stay entry.1 entry.2).2 (.inl hentry))
  rw [gather_snoc, List.map_append, List.nodup_append] at honce
  refine ⟨fun id timer => ?_, fun timer => ?_, fun entry hentry => ?_, fun id hid => ?_,
    fun id hreleased hexpired => ?_⟩
  · rw [run_snoc, gather_snoc, hminds.stay, h.timers, List.mem_append]
    constructor
    · rintro (hnew | ⟨⟨hold, -⟩, hid, -⟩)
      · exact ⟨.inr hnew, hstays _ hnew⟩
      · exact ⟨.inl hold, hid⟩
    · rintro ⟨hold | hnew, hid⟩
      · -- Whoever had its timer before and is in line now was there all the time,
        -- and is not armed again.
        have hbefore : id ∈ (first.run acts).queue.ids := by
          by_contra hgone
          exact hshift.gone (h.known _ hold) hgone hid
        refine .inr ⟨⟨hold, hbefore⟩, hid, fun hagain => ?_⟩
        exact honce.2.2 _ (List.mem_map_of_mem hold) _ hagain rfl
      · exact .inl hnew
  · simp only [gather_snoc, List.mem_append, h.aborts, hminds.aborts, h.timers]
    constructor
    · rintro ((hmissed | ⟨id, hid, harmed⟩) | hmissed | ⟨id, hid, harmed, -⟩)
      · exact .inl (.inl hmissed)
      · exact .inr ⟨id, .inl hid, .inl harmed⟩
      · exact .inl (.inr hmissed)
      · exact .inr ⟨id, .inr hid, .inl harmed⟩
    · rintro ((hmissed | hmissed) | ⟨id, hid | hid, harmed | harmed⟩)
      · exact .inl (.inl hmissed)
      · exact .inr (.inl hmissed)
      · exact .inl (.inr ⟨id, hid, harmed⟩)
      · exact absurd (armed_in_line harmed) (h.gone id (.inl hid)).2
      · exact .inr (.inr ⟨id, hid, harmed, (hleaves id (.inl hid)).1⟩)
      · exact absurd (hstays _ harmed) (hleaves id (.inl hid)).2
  · rw [gather_snoc, List.mem_append] at hentry
    rw [run_snoc]
    rcases hentry with hold | hnew
    · exact hshift.admitted (h.known entry hold)
    · exact hshift.admitted (hadmitted _ (armed_in_line hnew))
  · rw [gather_snoc, gather_snoc, List.mem_append, List.mem_append] at hid
    rw [run_snoc]
    rcases or_or_or_comm.1 hid with hold | hnew
    · obtain ⟨hknown, hgone⟩ := h.gone id hold
      exact ⟨hshift.admitted hknown, hshift.gone hknown hgone⟩
    · obtain ⟨hbefore, hgone⟩ := hleaves id hnew
      exact ⟨hshift.admitted (hadmitted id hbefore), hgone⟩
  · rw [gather_snoc, List.mem_append] at hreleased hexpired
    rcases hreleased with hreleased | hreleased <;> rcases hexpired with hexpired | hexpired
    · exact h.apart id hreleased hexpired
    · exact (h.gone id (.inl hreleased)).2 (hleaves id (.inr hexpired)).1
    · exact (h.gone id (.inr hexpired)).2 (hleaves id (.inl hreleased)).1
    · exact released_not_expired hreleased hexpired

/-- The account of the timers is kept in the course of any acts. -/
theorem kept_run (hbalanced : first.Balanced) (hnone : first.queue.members = [])
    (honce : ((first.gather armed acts).map Prod.fst).Nodup) : first.Kept acts := by
  induction acts using List.reverseRecOn with
  | nil => exact ⟨by simp [run, gather, line, hnone], by simp [gather], by simp [gather],
      by simp [gather], by simp [gather]⟩
  | append_singleton acts act ih =>
      have hbefore : ((first.gather armed acts).map Prod.fst).Nodup := by
        rw [gather_snoc, List.map_append] at honce
        exact (List.nodup_append.1 honce).1
      exact (ih hbefore).snoc (hbalanced.run acts) act honce

/-- Timers are armed once each, so each is armed on one member, or finds nobody in line. -/
theorem armed_distinct (hdistinct : (acts.filterMap Act.timer?).Nodup) {member : Nat}
    {timer : τ} (harmed : (member, timer) ∈ first.gather armed acts) :
    timer ∉ first.gather missed acts ∧
      ∀ other, (other, timer) ∈ first.gather armed acts → other = member := by
  rw [← (timers_perm first acts).nodup_iff, List.nodup_append] at hdistinct
  obtain ⟨harms, -, hdisjoint⟩ := hdistinct
  refine ⟨fun hmissed => ?_, fun other hother => ?_⟩
  · exact hdisjoint timer (List.mem_map_of_mem harmed) timer hmissed rfl
  · exact congrArg Prod.fst (List.inj_on_of_nodup_map harms hother harmed rfl)

/-! ## Ways out of the line -/

/-- A tick that asks lets out nobody but the head, which is served or turns out to be gone. -/
theorem serve_way_out {queue : WaitQueue τ} {resource : Option α} (hid : member ∈ queue.ids)
    (hleft : member ∉ (queue.serve resource).2.queue.ids) :
    queue.ids.head? = some member ∧ ((queue.serve resource).1 = .served ∨
      ∃ found, (queue.serve resource).1 = .unclaimed found) := by
  unfold serve at hleft ⊢
  split at hleft
  · exact absurd hid hleft
  · exact absurd hid hleft
  · next head rest resource hmembers =>
      have hrest : member ∉ rest.map Member.id := by
        split at hleft <;> exact hleft
      rw [ids, hmembers, List.map_cons, List.mem_cons] at hid
      rw [ids, hmembers]
      obtain rfl := hid.resolve_right hrest
      cases head.listening with
      | true => exact ⟨rfl, .inl rfl⟩
      | false => exact ⟨rfl, .inr ⟨resource, rfl⟩⟩

/-- A tick that asks for nothing lets out nobody but the head, unless the queue is destroyed. -/
theorem pass_way_out {queue : WaitQueue τ} (hid : member ∈ queue.ids)
    (hleft : member ∉ (queue.pass : Tick α × Outcome τ α).2.queue.ids) :
    queue.destroyed = true ∨
      queue.ids.head? = some member ∧ (queue.pass : Tick α × Outcome τ α).1 = .discarded := by
  unfold pass at hleft ⊢
  split at hleft
  · next hgone => exact .inl hgone
  · next hopen =>
      rw [if_neg hopen]
      split at hleft
      · exact absurd hid hleft
      · next head rest hmembers =>
          rw [ids, hmembers, List.map_cons, List.mem_cons] at hid
          rw [ids, hmembers]
          obtain rfl := hid.resolve_right hleft
          exact .inr ⟨rfl, rfl⟩

/-- A request that comes to the line drives nobody out of it. -/
theorem enroll_stays {result : Except PoolError (Admission × WaitQueue τ)} {front : Bool}
    (hin : ∀ admitted, result = .ok admitted → account.queue.letIn front = .ok admitted)
    (hid : member ∈ account.queue.ids) : member ∈ (account.enroll result).queue.ids := by
  cases result with
  | error error => exact hid
  | ok admitted => exact let_in_stays (hin admitted rfl) hid

/-- A member leaves the line in one of these ways. -/
theorem way_out (hleft : member ∈ account.leavers act) : account.WayOut member act := by
  obtain ⟨hid, hleft⟩ := mem_leavers.1 hleft
  cases act with
  | enter => exact absurd (enroll_stays (fun _ hin => enter_ok hin) hid) hleft
  | enterFront => exact absurd (enroll_stays (fun _ hin => hin) hid) hleft
  | tick resource lost =>
      rw [after_tick_queue] at hleft
      cases hasks : account.queue.asks with
      | true =>
          have htick : account.queue.runOnce lost resource =
              (lost.foldl abandon account.queue).serve resource := if_pos hasks
          rw [← abandon_all_ids account.queue lost] at hid
          rw [htick] at hleft
          obtain ⟨hfirst, hserved | ⟨found, hunclaimed⟩⟩ := serve_way_out hid hleft
          · rw [abandon_all_ids] at hfirst
            exact .served resource lost hfirst (htick ▸ hserved)
          · rw [abandon_all_ids] at hfirst
            exact .unclaimed resource lost found hfirst (htick ▸ hunclaimed)
      | false =>
          have htick : account.queue.runOnce lost resource = account.queue.pass :=
            if_neg (by simp [hasks])
          rw [htick] at hleft
          rcases pass_way_out hid hleft with hgone | ⟨hfirst, hdiscarded⟩
          · exact .stopped resource lost hgone
          · exact .discarded resource lost hfirst (htick ▸ hdiscarded)
  | expire other =>
      cases hexpire : (account.queue.expire other : Option (Outcome τ α)) with
      | none =>
          simp only [after, hexpire] at hleft
          exact absurd hid hleft
      | some outcome =>
          simp only [after, hexpire] at hleft
          rw [expire_leaves hexpire hid hleft]
          exact .timedOut
  | arm other timer => exact absurd hid (by rwa [after, arm_ids] at hleft)
  | destroy => exact .closed
  | markStopped => exact absurd hid hleft
  | drop other =>
      simp only [after, drop] at hleft
      split at hleft
      · exact absurd hid (by rwa [abandon_ids] at hleft)
      · exact absurd hid hleft

/-- The timers that are aborted are exactly those that have no wait to end any more. In the
course of any acts in which all timers are different and no member is armed twice, these are the
timers that came for a member which was not in line, and the timers of members that left the
line in any way but because their time was over. The timer of a member that is in line, or left
it because its time was over, is not aborted. Once the queue itself is gone, the timers of those
in line are aborted too. -/
theorem aborted_exactly (maxSize : Nat) (poolId : UInt32) (address : Address)
    (first : Account τ α) (hfirst : first = start maxSize poolId address) (acts : List (Act τ α))
    (hdistinct : (acts.filterMap Act.timer?).Nodup)
    (honce : ((first.gather armed acts).map Prod.fst).Nodup) :
    (∀ timer, timer ∈ first.gather aborted acts ↔
        timer ∈ first.gather missed acts ∨
          ∃ member ∈ first.gather released acts, (member, timer) ∈ first.gather armed acts) ∧
      (∀ member timer, (member, timer) ∈ first.gather armed acts →
        member ∈ (first.run acts).queue.ids ∨ member ∈ first.gather expired acts →
          timer ∉ first.gather aborted acts) ∧
      (∀ timer, timer ∈ first.gather aborted acts ++ (first.run acts).queue.timers ↔
        timer ∈ first.gather aborted acts ∨
          ∃ member ∈ (first.run acts).queue.ids, (member, timer) ∈ first.gather armed acts) ∧
      ∀ act, ∀ member ∈ (first.run acts).leavers act, (first.run acts).WayOut member act := by
  subst hfirst
  have hkept := kept_run (.start maxSize poolId address) rfl honce
  refine ⟨hkept.aborts, ?_, fun timer => ?_, fun act member hleft => way_out hleft⟩
  · intro member timer harmed hthere haborted
    rcases (hkept.aborts timer).1 haborted with hmissed | ⟨other, hreleased, hother⟩
    · exact (armed_distinct hdistinct harmed).1 hmissed
    · obtain rfl := (armed_distinct hdistinct harmed).2 other hother
      rcases hthere with hqueued | hexpired
      · exact (hkept.gone other (.inl hreleased)).2 hqueued
      · exact hkept.apart other hreleased hexpired
  · simp only [List.mem_append, mem_timers, hkept.timers]
    refine or_congr_right ⟨?_, ?_⟩
    · rintro ⟨member, harmed, hid⟩
      exact ⟨member, hid, harmed⟩
    · rintro ⟨member, hid, harmed⟩
      exact ⟨member, harmed, hid⟩

/-- Four requests enter, each with its timer, and one timer comes for nobody. The first request
is served, the time of the second is over, and the third stays first in line. -/
def fourArmed : List (Act Nat Nat) :=
  [.enter, .arm 1 10, .enter, .arm 2 20, .arm 7 70, .enter, .arm 3 30, .enter, .arm 4 40,
    .tick (some 5) [], .expire 2, .tick none []]

/-- The timer of the first request and the one that came for nobody are aborted; those of the
others are not, though those of the two in line are once the queue is gone. -/
theorem two_aborted :
    (start 0 0 .localhost).gather aborted fourArmed = [70, 10] ∧
      20 ∉ (start 0 0 .localhost).gather aborted fourArmed ∧
      30 ∉ (start 0 0 .localhost).gather aborted fourArmed ∧
      40 ∈ (start 0 0 .localhost).gather aborted fourArmed ++
        ((start 0 0 .localhost).run fourArmed).queue.timers := by
  obtain ⟨-, hkept, hgone, -⟩ :=
    aborted_exactly 0 0 .localhost _ rfl fourArmed (by decide) (by decide)
  refine ⟨by decide, hkept 2 20 (by decide) (.inr (by decide)),
    hkept 3 30 (by decide) (.inl (by decide)),
    (hgone 40).2 (.inr ⟨4, by decide, by decide⟩)⟩

end Account

end ConnectionPool.WaitQueue
