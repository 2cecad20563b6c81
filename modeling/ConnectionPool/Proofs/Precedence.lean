import ConnectionPool.Proofs.Settlement

/-!
# First come, first served

`Shifts` says what one act does to the line: members may leave it, or one joins it under a new
id, behind or ahead of all the others. From this step, by induction over the acts: two members
that are both in line keep their order, and whoever left the line does not come back. A tick
hands what it finds to the first in line, so nobody is served before those ahead of him have
left: this is `first_come_first_served`.
-/

namespace ConnectionPool.WaitQueue

variable {τ α : Type}

/-- The one member is in line ahead of the other. -/
def Ahead (queue : WaitQueue τ) (first second : Nat) : Prop :=
  [first, second].Sublist queue.ids

instance (queue : WaitQueue τ) (first second : Nat) : Decidable (queue.Ahead first second) :=
  inferInstanceAs (Decidable ([first, second].Sublist queue.ids))

/-! ## The order of a line -/

section Order

variable {queue next : WaitQueue τ} {first second : Nat}

/-- Who is ahead of somebody is in line, and so is the other. -/
theorem Ahead.mem (h : queue.Ahead first second) : first ∈ queue.ids ∧ second ∈ queue.ids :=
  ⟨h.subset (by simp), h.subset (by simp)⟩

/-- Of two different members one is ahead of the other. -/
theorem ahead_total (hfirst : first ∈ queue.ids) (hsecond : second ∈ queue.ids)
    (hne : first ≠ second) : queue.Ahead first second ∨ queue.Ahead second first := by
  unfold Ahead
  generalize queue.ids = ids at hfirst hsecond
  induction ids with
  | nil => cases hfirst
  | cons head rest ih =>
      rcases List.mem_cons.1 hfirst with rfl | hlater
      · have hrest := (List.mem_cons.1 hsecond).resolve_left hne.symm
        exact .inl ((List.singleton_sublist.2 hrest).cons_cons _)
      · rcases List.mem_cons.1 hsecond with rfl | hrest
        · exact .inr ((List.singleton_sublist.2 hlater).cons_cons _)
        · exact (ih hlater hrest).imp (·.cons _) (·.cons _)

/-- Nobody is ahead of the first in line. -/
theorem not_ahead_head {head : Nat} {rest : List Nat} (hids : queue.ids.Nodup)
    (hline : queue.ids = head :: rest) : ¬ queue.Ahead first head := by
  intro h
  rw [Ahead, hline] at h
  rw [hline] at hids
  -- Wherever the pair starts, the head comes a second time.
  have hagain : head ∈ rest := by
    cases h with
    | cons _ hrest => exact hrest.subset (by simp)
    | cons_cons _ hrest => exact List.singleton_sublist.1 hrest
  exact (List.nodup_cons.1 hids).1 hagain

/-- The first in line is ahead of all the others. -/
theorem head_ahead {head : Nat} {rest : List Nat} (hline : queue.ids = head :: rest)
    (hsecond : second ∈ rest) : queue.Ahead head second := by
  rw [Ahead, hline]
  exact (List.singleton_sublist.2 hsecond).cons_cons head

/-- All the others are ahead of the last in line. -/
theorem ahead_last {last : Nat} {others : List Nat} (hline : queue.ids = others ++ [last])
    (hfirst : first ∈ others) : queue.Ahead first last := by
  rw [Ahead, hline]
  exact (List.singleton_sublist.2 hfirst).append (.refl [last])

/-- If one member is ahead of another, the other is not ahead of it. -/
theorem Ahead.asymm (hids : queue.ids.Nodup) (h : queue.Ahead first second) :
    ¬ queue.Ahead second first := by
  unfold Ahead at h ⊢
  generalize queue.ids = ids at hids h
  induction ids with
  | nil => cases h
  | cons head rest ih =>
      obtain ⟨hhead, hrest⟩ := List.nodup_cons.1 hids
      intro hother
      -- Only one of the two pairs can start at the head, and then the head comes a second time.
      cases h with
      | cons _ h =>
          cases hother with
          | cons _ hother => exact ih hrest h hother
          | cons_cons => exact hhead (h.subset (by simp))
      | cons_cons _ h =>
          cases hother with
          | cons _ hother => exact hhead (hother.subset (by simp))
          | cons_cons => exact hhead (List.singleton_sublist.1 h)

/-- Members that are in line before and after others left have the same order. -/
theorem ahead_iff_of_sublist (hids : queue.ids.Nodup) (hline : next.ids.Sublist queue.ids)
    (hfirst : first ∈ next.ids) (hsecond : second ∈ next.ids) :
    next.Ahead first second ↔ queue.Ahead first second := by
  refine ⟨fun h => h.trans hline, fun h => ?_⟩
  have hne : first ≠ second := by
    rintro rfl
    exact h.asymm hids h
  rcases ahead_total hfirst hsecond hne with hsame | hother
  · exact hsame
  · exact absurd (hother.trans hline) (h.asymm hids)

end Order

/-! ## What the operations do to the line -/

section Operations

variable {queue : WaitQueue τ}

/-- A request that is let in goes ahead of everyone in line, or behind. -/
theorem let_in_ids {front : Bool} {admission : Admission} {next : WaitQueue τ}
    (hin : queue.letIn front = .ok (admission, next)) :
    next.ids = if front then admission.member :: queue.ids
      else queue.ids ++ [admission.member] := by
  unfold letIn at hin
  split at hin
  · cases hin
  · cases hin
    cases front with
    | true => rfl
    | false => simp [ids]

/-- A waiter that goes away leaves the order of the line as it is. -/
@[simp]
theorem abandon_ids (queue : WaitQueue τ) (member : Nat) :
    (queue.abandon member).ids = queue.ids := by
  refine Keyed.map_keys ?_
  intro m
  split <;> rfl

/-- A timer that is armed leaves the order of the line as it is. -/
@[simp]
theorem arm_ids (queue : WaitQueue τ) (member : Nat) (timer : τ) :
    (queue.arm member timer).1.ids = queue.ids := by
  unfold arm
  split
  · refine Keyed.map_keys ?_
    intro m
    split <;> rfl
  · rfl

/-- A timer that is armed gives out no id and stops no run loop. -/
theorem arm_kept (queue : WaitQueue τ) (member : Nat) (timer : τ) :
    (queue.arm member timer).1.lastMember = queue.lastMember ∧
      (queue.arm member timer).1.running = queue.running := by
  unfold arm
  split <;> exact ⟨rfl, rfl⟩

/-- A member whose time is over leaves the line. -/
theorem expire_ids {member : Nat} {outcome : Outcome τ α}
    (hexpire : queue.expire member = some outcome) : outcome.queue.ids.Sublist queue.ids := by
  unfold expire at hexpire
  obtain ⟨found, -, rfl⟩ := Option.map_eq_some_iff.1 hexpire
  exact List.filter_sublist.map _

/-- A queue that is destroyed has nobody in line. -/
theorem destroy_ids (queue : WaitQueue τ) :
    (queue.destroy : Outcome τ α).queue.ids.Sublist queue.ids :=
  List.nil_sublist _

/-- A member that is not in line has no time left to be over. -/
theorem expire_absent {member : Nat} (habsent : member ∉ queue.ids) :
    (queue.expire member : Option (Outcome τ α)) = none := by
  have hnone : (queue.members.find? fun m => m.id == member) = none := by
    refine List.find?_eq_none.2 fun m hm heq => habsent ?_
    rw [← eq_of_beq heq]
    exact List.mem_map_of_mem hm
  rw [expire, hnone, Option.map_none]

/-- A tick that asks for nothing lets members out of the line, and nobody in. -/
theorem pass_ids (queue : WaitQueue τ) :
    (queue.pass : Tick α × Outcome τ α).2.queue.ids.Sublist queue.ids := by
  unfold pass
  split
  · exact List.nil_sublist _
  · split
    · exact .refl _
    · next head rest hmembers =>
        rw [ids, ids, hmembers, List.map_cons]
        exact List.sublist_cons_self _ _

/-- A tick that asks lets out the head at most. -/
theorem serve_ids (queue : WaitQueue τ) (resource : Option α) :
    (queue.serve resource).2.queue.ids.Sublist queue.ids := by
  unfold serve
  split
  · exact .refl _
  · exact .refl _
  · next head rest resource hmembers =>
      have hrest : (rest.map Member.id).Sublist queue.ids := by
        rw [ids, hmembers, List.map_cons]
        exact List.sublist_cons_self _ _
      cases head.listening <;> exact hrest

/-- Only the first in line is handed a resource, and leaves the line with it. -/
theorem serve_first {resource : Option α} {member : Nat} {found : α}
    (hgiven : (member, .ok found) ∈ (queue.serve resource).2.answers) :
    resource = some found ∧ queue.ids = member :: (queue.serve resource).2.queue.ids := by
  unfold serve at hgiven ⊢
  split at hgiven
  · cases hgiven
  · cases hgiven
  · next head rest resource hmembers =>
      cases hlistening : head.listening with
      | true =>
          simp only [hlistening, if_true, List.mem_singleton, Prod.mk.injEq, Except.ok.injEq]
            at hgiven
          obtain ⟨rfl, rfl⟩ := hgiven
          simp [ids, hmembers]
      | false => simp [hlistening] at hgiven

/-- Waiters that go away one after the other leave the order of the line as it is. -/
theorem abandon_all_ids (queue : WaitQueue τ) (lost : List Nat) :
    (lost.foldl abandon queue).ids = queue.ids := by
  induction lost generalizing queue with
  | nil => rfl
  | cons member rest ih => rw [List.foldl_cons, ih, abandon_ids]

/-- A tick that asks gives no errors. -/
theorem serve_ok (queue : WaitQueue τ) {resource : Option α} {given : Nat × Except PoolError α}
    (hgiven : given ∈ (queue.serve resource).2.answers) : ∃ found, given.2 = .ok found := by
  unfold serve at hgiven
  split at hgiven
  · cases hgiven
  · cases hgiven
  · next head rest resource _ =>
      cases hlistening : head.listening with
      | true =>
          simp only [hlistening, if_true, List.mem_singleton] at hgiven
          exact ⟨resource, hgiven ▸ rfl⟩
      | false => simp [hlistening] at hgiven

/-- A tick hands what it finds to the first in line, who leaves the line with it, and to nobody
else. -/
theorem run_once_first {lost : List Nat} {resource : Option α} {member : Nat} {found : α}
    (hgiven : (member, .ok found) ∈ (queue.runOnce lost resource).2.answers) :
    resource = some found ∧
      queue.ids = member :: (queue.runOnce lost resource).2.queue.ids := by
  unfold runOnce at hgiven ⊢
  split at hgiven
  · next hasks =>
      rw [← abandon_all_ids queue lost, if_pos hasks]
      exact serve_first hgiven
  · have herror := pass_errors queue _ hgiven
    cases herror

/-! ## The pool of a queue -/

/-- The pool that the queue is of, and its address. -/
def ofPool (queue : WaitQueue τ) : UInt32 × Address :=
  (queue.poolId, queue.address)

/-- What a queue is made with: its greatest size, and its pool. -/
def settings (queue : WaitQueue τ) : Nat × UInt32 × Address :=
  (queue.maxSize, queue.ofPool)

/-- A request that is let in leaves the settings of the queue. -/
theorem let_in_settings {front : Bool} {admitted : Admission × WaitQueue τ}
    (hin : queue.letIn front = .ok admitted) : admitted.2.settings = queue.settings := by
  unfold letIn at hin
  split at hin
  · cases hin
  · cases hin
    rfl

/-- A tick leaves the settings of the queue. -/
theorem run_once_settings (queue : WaitQueue τ) (lost : List Nat) (resource : Option α) :
    (queue.runOnce lost resource).2.queue.settings = queue.settings := by
  have hlost : (lost.foldl abandon queue).settings = queue.settings := by
    induction lost generalizing queue with
    | nil => rfl
    | cons member rest ih => exact ih _
  unfold runOnce
  split
  · rw [← hlost]
    unfold serve
    split
    · rfl
    · rfl
    · split <;> rfl
  · unfold pass
    split
    · rfl
    · split <;> rfl

/-- A member whose time is over leaves the settings of the queue. -/
theorem expire_settings {member : Nat} {outcome : Outcome τ α}
    (hexpire : queue.expire member = some outcome) : outcome.queue.settings = queue.settings := by
  unfold expire at hexpire
  obtain ⟨found, -, rfl⟩ := Option.map_eq_some_iff.1 hexpire
  rfl

end Operations

namespace Account

/-! ## Acts -/

/-- What an act does to the line. Members may leave it and keep their order; or one that was
never let in before joins it, behind everyone in line or ahead of everyone. -/
inductive Shifts (account : Account τ α) : Act τ α → Account τ α → Prop where
  | leave {act : Act τ α} {next : Account τ α}
      (line : next.queue.ids.Sublist account.queue.ids)
      (nobody : next.admitted = account.admitted) : Shifts account act next
  | behind {next : Account τ α} (id : Nat) (fresh : id ∉ account.admitted)
      (line : next.queue.ids = account.queue.ids ++ [id])
      (joined : next.admitted = account.admitted ++ [id]) : Shifts account .enter next
  | ahead {next : Account τ α} (id : Nat) (fresh : id ∉ account.admitted)
      (line : next.queue.ids = id :: account.queue.ids)
      (joined : next.admitted = account.admitted ++ [id]) : Shifts account .enterFront next

variable {account next : Account τ α} {act : Act τ α} {first second id : Nat}

/-- Nobody who was let in is forgotten. -/
theorem Shifts.admitted (h : account.Shifts act next) (hid : id ∈ account.admitted) :
    id ∈ next.admitted := by
  cases h with
  | leave line nobody => exact nobody ▸ hid
  | behind _ _ _ joined | ahead _ _ _ joined => exact joined ▸ List.mem_append_left _ hid

/-- Who was let in and is not in line does not come back. -/
theorem Shifts.gone (h : account.Shifts act next) (hid : id ∈ account.admitted)
    (hgone : id ∉ account.queue.ids) : id ∉ next.queue.ids := by
  cases h with
  | leave line => exact fun hback => hgone (line.subset hback)
  | behind new fresh line =>
      rw [line, List.mem_append, List.mem_singleton]
      rintro (hback | rfl)
      · exact hgone hback
      · exact fresh hid
  | ahead new fresh line =>
      rw [line, List.mem_cons]
      rintro (rfl | hback)
      · exact fresh hid
      · exact hgone hback

/-- Two members that are in line before and after an act keep their order. -/
theorem Shifts.order (h : account.Shifts act next) (hids : account.queue.ids.Nodup)
    (hnext : next.queue.ids.Nodup) (hfirst : first ∈ account.queue.ids)
    (hsecond : second ∈ account.queue.ids) (hfirst' : first ∈ next.queue.ids)
    (hsecond' : second ∈ next.queue.ids) :
    account.queue.Ahead first second ↔ next.queue.Ahead first second := by
  -- Of the two lines one is the other without some members.
  cases h with
  | leave line => exact (ahead_iff_of_sublist hids line hfirst' hsecond').symm
  | behind _ _ line =>
      have hsub : account.queue.ids.Sublist next.queue.ids := line ▸ List.sublist_append_left _ _
      exact ahead_iff_of_sublist hnext hsub hfirst hsecond
  | ahead _ _ line =>
      have hsub : account.queue.ids.Sublist next.queue.ids := line ▸ List.sublist_cons_self _ _
      exact ahead_iff_of_sublist hnext hsub hfirst hsecond

/-- An id that is given out next was never given out. -/
theorem Balanced.fresh (h : account.Balanced) : account.queue.lastMember + 1 ∉ account.admitted :=
  fun hid => Nat.not_succ_le_self _ (h.issued _ hid)

/-- Dropped receivers let nobody in and answer nobody. -/
theorem drop_all_rest (account : Account τ α) (lost : List Nat) :
    (lost.foldl drop account).admitted = account.admitted ∧
      (lost.foldl drop account).answers = account.answers := by
  induction lost generalizing account with
  | nil => exact ⟨rfl, rfl⟩
  | cons member rest ih =>
      have hdrop : (account.drop member).admitted = account.admitted ∧
          (account.drop member).answers = account.answers := by
        unfold Account.drop
        split <;> exact ⟨rfl, rfl⟩
      rw [List.foldl_cons, (ih _).1, (ih _).2]
      exact hdrop

/-- A tick lets members out of the line, and nobody in. -/
theorem tick_ids (account : Account τ α) (resource : Option α) (lost : List Nat) :
    (account.after (.tick resource lost)).queue.ids.Sublist account.queue.ids ∧
      (account.after (.tick resource lost)).admitted = account.admitted := by
  unfold Account.after runOnce
  cases account.queue.asks with
  | true =>
      refine ⟨?_, (drop_all_rest account lost).1⟩
      rw [← abandon_all_ids account.queue lost]
      exact serve_ids _ resource
  | false => exact ⟨pass_ids account.queue, rfl⟩

/-- Every act shifts the line. -/
theorem Balanced.shifts (h : account.Balanced) (act : Act τ α) :
    account.Shifts act (account.after act) := by
  cases act with
  | enter =>
      cases hin : account.queue.enter with
      | error error =>
          simp only [Account.after, hin, enroll]
          exact .leave (.refl _) rfl
      | ok admitted =>
          obtain ⟨admission, queue⟩ := admitted
          have hletIn := enter_ok hin
          simp only [Account.after, hin, enroll]
          refine .behind admission.member ?_ (let_in_ids hletIn) rfl
          rw [(let_in_ok hletIn).1]
          exact h.fresh
  | enterFront =>
      cases hin : account.queue.enterFront with
      | error error =>
          simp only [Account.after, hin, enroll]
          exact .leave (.refl _) rfl
      | ok admitted =>
          obtain ⟨admission, queue⟩ := admitted
          simp only [Account.after, hin, enroll]
          refine .ahead admission.member ?_ (let_in_ids hin) rfl
          rw [(let_in_ok hin).1]
          exact h.fresh
  | tick resource lost =>
      obtain ⟨hline, hnobody⟩ := account.tick_ids resource lost
      exact .leave hline hnobody
  | expire member =>
      simp only [Account.after]
      split
      · exact .leave (.refl _) rfl
      · next hexpire => exact .leave (expire_ids hexpire) rfl
  | arm member timer => exact .leave (by rw [Account.after, arm_ids]) rfl
  | destroy => exact .leave (destroy_ids (α := α) account.queue) rfl
  | markStopped => exact .leave (.refl _) rfl
  | drop member =>
      simp only [Account.after, Account.drop]
      split
      · exact .leave (by rw [abandon_ids]) rfl
      · exact .leave (.refl _) rfl

/-! ## Any acts -/

/-- Who was let in and is not in line does not come back, whatever happens. -/
theorem Balanced.run_gone (h : account.Balanced) (hid : id ∈ account.admitted)
    (hgone : id ∉ account.queue.ids) (later : List (Act τ α)) :
    id ∉ (account.run later).queue.ids := by
  induction later generalizing account with
  | nil => exact hgone
  | cons act rest ih =>
      have hshift := h.shifts act
      exact ih (h.after act).1 (hshift.admitted hid) (hshift.gone hid hgone)

/-- Two members that are in line at two moments have the same order at both. -/
theorem Balanced.run_order (h : account.Balanced) (hfirst : first ∈ account.queue.ids)
    (hsecond : second ∈ account.queue.ids) (later : List (Act τ α))
    (hfirst' : first ∈ (account.run later).queue.ids)
    (hsecond' : second ∈ (account.run later).queue.ids) :
    account.queue.Ahead first second ↔ (account.run later).queue.Ahead first second := by
  induction later generalizing account with
  | nil => exact Iff.rfl
  | cons act rest ih =>
      have hnext := (h.after act).1
      -- Who is in line at the end was in line all the time.
      have hstays : ∀ {id : Nat}, id ∈ account.queue.ids →
          id ∈ (account.run (act :: rest)).queue.ids →
          id ∈ (account.after act).queue.ids := by
        intro id hid hend
        by_contra hgone
        have hknown := (h.shifts act).admitted (h.known id (List.mem_append_left _ hid))
        exact hnext.run_gone hknown hgone rest hend
      have hfirstStays := hstays hfirst hfirst'
      have hsecondStays := hstays hsecond hsecond'
      exact ((h.shifts act).order h.ids_nodup hnext.ids_nodup hfirst hsecond hfirstStays
        hsecondStays).trans (ih hnext hfirstStays hsecondStays hfirst' hsecond')

/-- Nobody who was let in is forgotten, whatever happens. -/
theorem Balanced.run_admitted (h : account.Balanced) (hid : id ∈ account.admitted)
    (later : List (Act τ α)) : id ∈ (account.run later).admitted := by
  induction later generalizing account with
  | nil => exact hid
  | cons act rest ih => exact ih (h.after act).1 ((h.shifts act).admitted hid)

/-! ## What the answers say -/

/-- What somebody is told who was in line: here is a resource, or the time is over, or the pool
is closed. -/
def Verdict (poolId : UInt32) (address : Address) (answer : Except PoolError α) : Prop :=
  (∃ resource, answer = .ok resource) ∨ answer = .error (.waitQueueTimeout poolId address) ∨
    answer = .error (.poolClosed poolId address)

/-- The queue is the one of this pool, and every answer it gave is a verdict. -/
structure Told (poolId : UInt32) (address : Address) (account : Account τ α) : Prop where
  pool : account.queue.ofPool = (poolId, address)
  answers : ∀ given ∈ account.answers, Verdict poolId address given.2

/-- A request that comes to the line leaves the settings of the queue. -/
theorem enroll_settings {result : Except PoolError (Admission × WaitQueue τ)} {front : Bool}
    (hin : ∀ admitted, result = .ok admitted → account.queue.letIn front = .ok admitted) :
    (account.enroll result).queue.settings = account.queue.settings := by
  cases result with
  | error error => rfl
  | ok admitted => exact let_in_settings (hin admitted rfl)

/-- An act leaves the settings of the queue. -/
theorem after_settings (account : Account τ α) (act : Act τ α) :
    (account.after act).queue.settings = account.queue.settings := by
  cases act with
  | enter => exact enroll_settings fun _ hin => enter_ok hin
  | enterFront => exact enroll_settings fun _ hin => hin
  | tick resource lost =>
      simp only [Account.after]
      split <;> exact run_once_settings _ lost resource
  | expire member =>
      simp only [Account.after]
      split
      · rfl
      · next hexpire => exact expire_settings hexpire
  | arm member timer =>
      simp only [Account.after, arm]
      split <;> rfl
  | destroy => rfl
  | markStopped => rfl
  | drop member =>
      simp only [Account.after, Account.drop]
      split <;> rfl

/-- A request that comes to the line answers nobody. -/
theorem enroll_answers (account : Account τ α)
    (result : Except PoolError (Admission × WaitQueue τ)) :
    (account.enroll result).answers = account.answers := by
  cases result <;> rfl

/-- An answer was given before, or it hands the first in line what the tick found, or it is one
of two errors. -/
theorem after_answers (account : Account τ α) (act : Act τ α) {given : Nat × Except PoolError α}
    (hgiven : given ∈ (account.after act).answers) :
    given ∈ account.answers ∨
      (∃ lost found, act = .tick (some found) lost ∧ given.2 = .ok found ∧
        account.queue.ids = given.1 :: (account.after act).queue.ids) ∨
      given.2 = .error account.queue.timeoutError ∨
        given.2 = .error account.queue.closedError := by
  cases act with
  | enter => exact .inl (enroll_answers account _ ▸ hgiven)
  | enterFront => exact .inl (enroll_answers account _ ▸ hgiven)
  | tick resource lost =>
      simp only [Account.after] at hgiven ⊢
      cases hasks : account.queue.asks with
      | true =>
          simp only [hasks, if_true, settle, (drop_all_rest account lost).2, List.mem_append]
            at hgiven ⊢
          refine hgiven.imp_right fun hgiven => .inl ?_
          obtain ⟨found, hfound⟩ : ∃ found, given.2 = .ok found := by
            rw [runOnce, if_pos hasks] at hgiven
            exact serve_ok _ hgiven
          have hhanded : (given.1, .ok found) ∈ (account.queue.runOnce lost
              resource).2.answers := by
            rw [← hfound]
            exact hgiven
          obtain ⟨hresource, hfirst⟩ := run_once_first hhanded
          exact ⟨lost, found, by rw [hresource], hfound, hfirst⟩
      | false =>
          simp only [hasks, Bool.false_eq_true, if_false, settle, List.mem_append] at hgiven ⊢
          rw [runOnce, hasks] at hgiven
          exact hgiven.imp_right fun hgiven => .inr (.inr (pass_errors _ _ hgiven))
  | expire member =>
      simp only [Account.after] at hgiven
      split at hgiven
      · exact .inl hgiven
      · next hexpire =>
          refine (List.mem_append.1 hgiven).imp_right fun hgiven => ?_
          exact .inr (.inl (expire_errors hexpire _ hgiven))
  | arm member timer => exact .inl hgiven
  | destroy =>
      refine (List.mem_append.1 hgiven).imp_right fun hgiven => ?_
      exact .inr (.inr (drain_errors _ _ hgiven))
  | markStopped => exact .inl hgiven
  | drop member => exact .inl ((drop_all_rest account [member]).2 ▸ hgiven)

variable {poolId : UInt32} {address : Address}

/-- The errors of the queue are verdicts. -/
theorem Told.after (h : account.Told poolId address) (act : Act τ α) :
    (account.after act).Told poolId address where
  pool := (congrArg Prod.snd (after_settings account act)).trans h.pool
  answers := by
    obtain ⟨hpool, haddress⟩ := Prod.mk.inj h.pool
    intro given hgiven
    rcases after_answers account act hgiven with hbefore | ⟨-, found, -, hfound, -⟩
      | herror | herror
    · exact h.answers given hbefore
    · exact .inl ⟨found, hfound⟩
    · exact .inr (.inl (by rw [herror, timeoutError, hpool, haddress]))
    · exact .inr (.inr (by rw [herror, closedError, hpool, haddress]))

/-- Whatever happens, the answers are verdicts. -/
theorem Told.run (h : account.Told poolId address) (acts : List (Act τ α)) :
    (account.run acts).Told poolId address := by
  induction acts generalizing account with
  | nil => exact h
  | cons act rest ih => exact ih (h.after act)

/-! ## First come, first served -/

/-- The member has left the line: it was served, or its time was over, or the pool was closed,
or its receiver was dropped. -/
def Departed (poolId : UInt32) (address : Address) (account : Account τ α) (id : Nat) : Prop :=
  id ∉ account.queue.ids ∧
    ((∃ answer, (id, answer) ∈ account.answers ∧ Verdict poolId address answer) ∨
      id ∈ account.dropped)

/-- Who was let in and is not in line has departed. -/
theorem Balanced.departed (h : account.Balanced) (htold : account.Told poolId address)
    (hid : id ∈ account.admitted) (hgone : id ∉ account.queue.ids) :
    account.Departed poolId address id := by
  refine ⟨hgone, (h.accounted id hid).imp_left fun hsettled => ?_⟩
  obtain ⟨given, hgiven, rfl⟩ := List.mem_map.1 ((List.mem_append.1 hsettled).resolve_left hgone)
  exact ⟨given.2, hgiven, htold.answers given hgiven⟩

/-- Nobody is served before those who are ahead of him have departed. -/
theorem Balanced.served_in_order (h : account.Balanced) (htold : account.Told poolId address)
    (hahead : account.queue.Ahead first second) (later : List (Act τ α)) {lost : List Nat}
    {resource : Option α} {found : α}
    (hserved : (second, .ok found) ∈ ((account.run later).queue.runOnce lost
      resource).2.answers) :
    (account.run later).Departed poolId address first := by
  obtain ⟨hfirst, hsecond⟩ := hahead.mem
  have hlater := h.run later
  obtain ⟨-, hline⟩ := run_once_first hserved
  have hhead : second ∈ (account.run later).queue.ids := hline ▸ List.mem_cons_self
  have hadmitted := h.run_admitted (h.known first (List.mem_append_left _ hfirst)) later
  refine hlater.departed (htold.run later) hadmitted fun hstays => ?_
  have hstill := (h.run_order hfirst hsecond later hstays hhead).1 hahead
  exact not_ahead_head hlater.ids_nodup hline hstill

/-- The timer of a member that has left the line changes nothing when it fires. -/
theorem Balanced.late_timer (h : account.Balanced) (hid : id ∈ account.admitted)
    (hgone : id ∉ account.queue.ids) (later : List (Act τ α)) :
    (account.run later).after (.expire id) = account.run later := by
  simp only [Account.after, expire_absent (h.run_gone hid hgone later)]

/-- Those in line are served in order. After any acts, no id was given out twice; who enters has
a new id and is behind everyone in line, who enters at the front is ahead of everyone, and no
act does more to the line than to let members out or one in. Two members that are both in line
now and later have the same order. Only a tick hands out a resource, to the first in line. So
nobody is served before those who were ahead of him have departed, and the timer of who has left
the line changes nothing when it fires, whoever was let in since. -/
theorem first_come_first_served (maxSize : Nat) (poolId : UInt32) (address : Address)
    (acts : List (Act τ α)) (account : Account τ α)
    (haccount : account = (start maxSize poolId address).run acts) :
    account.admitted.Nodup ∧
      (∀ admission queue, account.queue.enter = .ok (admission, queue) →
        admission.member ∉ account.admitted ∧
          queue.ids = account.queue.ids ++ [admission.member]) ∧
      (∀ admission queue, account.queue.enterFront = .ok (admission, queue) →
        admission.member ∉ account.admitted ∧
          queue.ids = admission.member :: account.queue.ids) ∧
      (∀ act, account.Shifts act (account.after act)) ∧
      (∀ first second later, first ∈ account.queue.ids → second ∈ account.queue.ids →
        first ∈ (account.run later).queue.ids → second ∈ (account.run later).queue.ids →
        (account.queue.Ahead first second ↔ (account.run later).queue.Ahead first second)) ∧
      (∀ act id found, (id, .ok found) ∈ (account.after act).answers →
        (id, .ok found) ∈ account.answers ∨
          ∃ lost, act = .tick (some found) lost ∧
            account.queue.ids = id :: (account.after act).queue.ids) ∧
      (∀ first second later lost (resource : Option α) (found : α),
        account.queue.Ahead first second →
        (second, .ok found) ∈ ((account.run later).queue.runOnce lost resource).2.answers →
        (account.run later).Departed poolId address first) ∧
      ∀ id later, id ∈ account.admitted → id ∉ account.queue.ids →
        (account.run later).after (.expire id) = account.run later := by
  have hbalanced : account.Balanced := haccount ▸ (Balanced.start maxSize poolId address).run acts
  have htold : account.Told poolId address := by
    have hstart : (start maxSize poolId address : Account τ α).Told poolId address :=
      ⟨rfl, by simp [start]⟩
    exact haccount ▸ hstart.run acts
  refine ⟨hbalanced.admittedOnce, ?_, ?_, hbalanced.shifts, ?_, ?_, ?_, ?_⟩
  · intro admission queue hin
    have hletIn := enter_ok hin
    exact ⟨(let_in_ok hletIn).1 ▸ hbalanced.fresh, let_in_ids hletIn⟩
  · intro admission queue hin
    exact ⟨(let_in_ok hin).1 ▸ hbalanced.fresh, let_in_ids hin⟩
  · intro first second later hfirst hsecond
    exact hbalanced.run_order hfirst hsecond later
  · intro act id found hgiven
    rcases after_answers account act hgiven with hbefore | ⟨lost, other, hact, hfound, hline⟩ |
      herror | herror
    · exact .inl hbefore
    · cases hfound
      exact .inr ⟨lost, hact, hline⟩
    · cases herror
    · cases herror
  · intro first second later lost resource found hahead hserved
    exact hbalanced.served_in_order htold hahead later hserved
  · intro id later hid hgone
    exact hbalanced.late_timer hid hgone later

/-- Two requests enter, and a third one that was served before goes ahead of them. -/
def threeEnter : List (Act Nat Nat) :=
  [.enter, .enter, .enterFront]

/-- The third request is served first, and the second once the time of the first is over. -/
theorem second_after_first :
    ((start 0 0 .localhost).run threeEnter).queue.ids = [3, 1, 2] ∧
      (((start 0 0 .localhost).run threeEnter).run [.tick (some 7) [], .expire 1]).Departed 0
        .localhost 1 := by
  obtain ⟨-, -, -, -, -, -, hserved, -⟩ := first_come_first_served 0 0 .localhost threeEnter _ rfl
  refine ⟨rfl, hserved 1 2 _ [] (some 8) 8 ?_ ?_⟩
  · exact (List.Sublist.refl _).cons 3
  · exact List.mem_singleton_self _

end Account

end ConnectionPool.WaitQueue
