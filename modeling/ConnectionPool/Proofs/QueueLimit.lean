import ConnectionPool.Proofs.Precedence

/-!
# Room in the line

A queue with a greatest size keeps new requests out while it is full, but a request that was
served before comes back to the head of the line, whatever its size. So the two kinds of member
are counted apart: `Roomy` says that the members that entered at the end are never more than the
limit. Then the line is longer than the limit by no more members than have come back: this is
`room_in_line`.

It also says that a request that is kept out leaves no trace. `requestSteps` is a request that
comes to the line step by step, where an error takes nothing back; and `effects` are the results
of acts, which are the same with the refused request among the acts and without it.
-/

namespace ConnectionPool.WaitQueue

variable {τ α : Type} {queue : WaitQueue τ}

/-! ## Who is let in -/

/-- A request comes to the line: to its head if it was served before, and to its end otherwise. -/
def request (queue : WaitQueue τ) (front : Bool) : Except PoolError (Admission × WaitQueue τ) :=
  if front then queue.enterFront else queue.enter

/-- The act of a request that comes to the line. -/
def Act.request (front : Bool) : Act τ α :=
  if front then .enterFront else .enter

/-- A request comes to the line, step by step. What was done before an error is not taken back. -/
def requestSteps (front : Bool) : StateM (WaitQueue τ) (Except PoolError Admission) := do
  if !front && (← get).isFull && !(← get).destroyed then return .error (← get).fullError
  if (← get).destroyed then return .error (← get).closedError
  modify fun queue => { queue with lastMember := queue.lastMember + 1 }
  let member : Member τ := ⟨(← get).lastMember, true, none⟩
  modify fun queue =>
    { queue with members := if front then member :: queue.members else queue.members ++ [member] }
  let startRunLoop := !(← get).running
  modify fun queue => { queue with running := true }
  return .ok ⟨member.id, startRunLoop⟩

/-- The steps come to the request: they end with its admission in the queue that it leaves, or
with its error in the queue as it was. -/
theorem request_steps_eq (queue : WaitQueue τ) (front : Bool) :
    (requestSteps front).run queue =
      match queue.request front with
      | .ok (admission, next) => (.ok admission, next)
      | .error error => (.error error, queue) := by
  cases front <;> cases hfull : queue.isFull <;> cases hgone : queue.destroyed <;>
    simp [requestSteps, request, enter, enterFront, letIn, hfull, hgone] <;> rfl

/-- The queue is full if it is as long as its greatest size. -/
theorem is_full_iff (hlimit : 0 < queue.maxSize) :
    queue.isFull = true ↔ queue.maxSize ≤ queue.members.length := by
  simp [isFull, hlimit]

/-- A request is let in unless the queue is destroyed. -/
theorem let_in_ok_iff {front : Bool} :
    (∃ admitted, queue.letIn front = .ok admitted) ↔ queue.destroyed = false := by
  unfold letIn
  cases queue.destroyed <;> simp

/-- A request is kept out because the pool is closed exactly if the queue is destroyed. -/
theorem let_in_closed_iff {front : Bool} :
    queue.letIn front = .error queue.closedError ↔ queue.destroyed = true := by
  unfold letIn
  cases queue.destroyed <;> simp

/-- A new request is kept out because the pool is closed exactly if the queue is destroyed. -/
theorem enter_closed_iff : queue.enter = .error queue.closedError ↔ queue.destroyed = true := by
  unfold enter
  split
  · next hfull =>
      rw [Bool.and_eq_true, Bool.not_eq_true'] at hfull
      simp [hfull.2, fullError, closedError]
  · exact let_in_closed_iff

/-- A new request is kept out because the line is full exactly if it is, and the queue is not
destroyed. -/
theorem enter_full_iff (hlimit : 0 < queue.maxSize) :
    queue.enter = .error queue.fullError ↔
      queue.destroyed = false ∧ queue.maxSize ≤ queue.members.length := by
  rw [← is_full_iff hlimit]
  unfold enter
  split
  · next hfull =>
      rw [Bool.and_eq_true, Bool.not_eq_true'] at hfull
      simp [hfull]
  · next hroom =>
      refine ⟨fun herror => ?_, fun ⟨hopen, hfull⟩ => absurd ?_ hroom⟩
      · have hclosed := let_in_error herror
        cases hclosed
      · simp [hopen, hfull]

/-- A new request is let in exactly if the queue is not destroyed and has room. -/
theorem enter_ok_iff (hlimit : 0 < queue.maxSize) :
    (∃ admitted, queue.enter = .ok admitted) ↔
      queue.destroyed = false ∧ queue.members.length < queue.maxSize := by
  rw [← Nat.not_le, ← is_full_iff hlimit]
  unfold enter
  cases hfull : queue.isFull with
  | true => cases hgone : queue.destroyed <;> simp [letIn, hgone]
  | false => simpa using let_in_ok_iff

namespace Account

/-! ## What acts come to -/

/-- What an act reports to the one who performs it. -/
inductive Report (α : Type) where
  | admission (result : Except PoolError Admission)
  | tick (asked : Bool) (tick : Tick α)
  | expired (found : Bool)
  | done

/-- What an act comes to: its report, the answers it gives and the timers it aborts. -/
structure Effect (τ α : Type) where
  report : Report α
  answers : List (Nat × Except PoolError α)
  aborted : List τ

/-- The effect of an act. -/
def effect (account : Account τ α) : Act τ α → Effect τ α
  | .enter => ⟨.admission (account.queue.enter.map Prod.fst), [], []⟩
  | .enterFront => ⟨.admission (account.queue.enterFront.map Prod.fst), [], []⟩
  | .tick resource lost =>
      let (tick, outcome) := account.queue.runOnce lost resource
      ⟨.tick account.queue.asks tick, outcome.answers, outcome.aborted⟩
  | .expire member =>
      match account.queue.expire member with
      | none => ⟨.expired false, [], []⟩
      | some outcome => ⟨.expired true, outcome.answers, outcome.aborted⟩
  | .arm member timer => ⟨.done, [], (account.queue.arm member timer).2⟩
  | .destroy =>
      let outcome : Outcome τ α := account.queue.destroy
      ⟨.done, outcome.answers, outcome.aborted⟩
  | .markStopped => ⟨.done, [], []⟩
  | .drop _ => ⟨.done, [], []⟩

/-- What there is to see at each of the acts, one after the other. -/
def gather {β : Type} (look : Account τ α → Act τ α → List β) (account : Account τ α) :
    List (Act τ α) → List β
  | [] => []
  | act :: rest => look account act ++ gather look (account.after act) rest

/-- The effects of acts. -/
def effects (account : Account τ α) (acts : List (Act τ α)) : List (Effect τ α) :=
  account.gather (fun account act => [account.effect act]) acts

/-- The member that a request becomes, if it is let in. -/
def newcomer (result : Except PoolError (Admission × WaitQueue τ)) : List Nat :=
  match result with
  | .ok (admission, _) => [admission.member]
  | .error _ => []

/-- The member that an act lets in at the end of the line. -/
def entered (account : Account τ α) : Act τ α → List Nat
  | .enter => newcomer account.queue.enter
  | _ => []

/-- The member that an act lets in at the head of the line. -/
def returned (account : Account τ α) : Act τ α → List Nat
  | .enterFront => newcomer account.queue.enterFront
  | _ => []

variable {account : Account τ α}

/-- A request that is refused leaves the account as it was, and reports the error. -/
theorem refused_unchanged {front : Bool} {error : PoolError}
    (hrefused : account.queue.request front = .error error) :
    account.after (.request front) = account ∧
      account.effect (.request front) = ⟨.admission (.error error), [], []⟩ := by
  cases front with
  | true =>
      have hfront : account.queue.enterFront = .error error := hrefused
      exact ⟨by simp [Act.request, after, hfront, enroll],
        by simp [Act.request, effect, hfront, Except.map]⟩
  | false =>
      have henter : account.queue.enter = .error error := hrefused
      exact ⟨by simp [Act.request, after, henter, enroll],
        by simp [Act.request, effect, henter, Except.map]⟩

/-! ## The two kinds of member -/

/-- The members in line that entered at its end are no more than the limit, and all others came
back. -/
structure Roomy (maxSize : Nat) (entered returned : List Nat) (account : Account τ α) : Prop where
  limit : account.queue.maxSize = maxSize
  room : (account.queue.ids.filter (· ∈ entered)).length ≤ maxSize
  origin : ∀ id ∈ account.queue.ids, id ∈ entered ∨ id ∈ returned
  known : ∀ id ∈ entered, id ∈ account.admitted

/-- Acts leave the settings of the queue. -/
theorem run_settings (account : Account τ α) (acts : List (Act τ α)) :
    (account.run acts).queue.settings = account.queue.settings := by
  induction acts generalizing account with
  | nil => rfl
  | cons act rest ih => exact (ih (account.after act)).trans (after_settings account act)

variable {maxSize : Nat} {seen back : List Nat}

/-- Where members leave and nobody comes, there is room as before. -/
theorem Roomy.leave {next : Account τ α} (h : account.Roomy maxSize seen back)
    (hsize : next.queue.maxSize = account.queue.maxSize)
    (hline : next.queue.ids.Sublist account.queue.ids)
    (hnobody : next.admitted = account.admitted) :
    next.Roomy maxSize seen back where
  limit := hsize.trans h.limit
  room := (hline.filter _).length_le.trans h.room
  origin := fun id hid => h.origin id (hline.subset hid)
  known := hnobody ▸ h.known

/-- A member that entered at the end of the line found room there. -/
theorem Roomy.enter {admission : Admission} {queue : WaitQueue τ}
    (h : account.Roomy maxSize seen back)
    (hlimit : 0 < maxSize) (hin : account.queue.enter = .ok (admission, queue)) :
    (account.enroll (.ok (admission, queue))).Roomy maxSize
    (seen ++ [admission.member]) back := by
  have hids : queue.ids = account.queue.ids ++ [admission.member] := let_in_ids (enter_ok hin)
  have hsize : queue.maxSize = maxSize :=
    (congrArg Prod.fst (let_in_settings (enter_ok hin))).trans h.limit
  have hroom : account.queue.members.length < maxSize := by
    have hlet := (enter_ok_iff (h.limit.symm ▸ hlimit)).1 ⟨_, hin⟩
    exact h.limit ▸ hlet.2
  refine ⟨hsize, ?_, ?_, ?_⟩
  · -- The whole line is no longer than the limit.
    calc (queue.ids.filter (· ∈ seen ++ [admission.member])).length
        ≤ queue.ids.length := List.length_filter_le _ _
      _ = account.queue.members.length + 1 := by rw [hids]; simp [ids]
      _ ≤ maxSize := hroom
  · intro id hid
    rw [show (account.enroll (.ok (admission, queue))).queue.ids = _ from hids,
      List.mem_append] at hid
    rcases hid with hid | hid
    · exact (h.origin id hid).imp_left (List.mem_append_left _)
    · exact .inl (List.mem_append_right _ hid)
  · intro id hid
    rcases List.mem_append.1 hid with hid | hid
    · exact List.mem_append_left _ (h.known id hid)
    · exact List.mem_append_right _ hid

/-- A member that comes back to the head of the line is not one of those that entered at its
end. -/
theorem Roomy.enter_front {admission : Admission} {queue : WaitQueue τ}
    (h : account.Roomy maxSize seen back) (hbalanced : account.Balanced)
    (hin : account.queue.enterFront = .ok (admission, queue)) :
    (account.enroll (.ok (admission, queue))).Roomy maxSize seen
    (back ++ [admission.member]) := by
  have hids : queue.ids = admission.member :: account.queue.ids := let_in_ids hin
  have hsize : queue.maxSize = maxSize := (congrArg Prod.fst (let_in_settings hin)).trans h.limit
  have hfresh : admission.member ∉ seen := by
    intro hseen
    rw [(let_in_ok hin).1] at hseen
    exact hbalanced.fresh (h.known _ hseen)
  refine ⟨hsize, ?_, ?_, ?_⟩
  · show (queue.ids.filter (· ∈ seen)).length ≤ maxSize
    rw [hids, List.filter_cons_of_neg (by simpa using hfresh)]
    exact h.room
  · intro id hid
    rw [show (account.enroll (.ok (admission, queue))).queue.ids = _ from hids,
      List.mem_cons] at hid
    rcases hid with rfl | hid
    · exact .inr (List.mem_append_right _ (List.mem_singleton_self _))
    · exact (h.origin id hid).imp_right (List.mem_append_left _)
  · exact fun id hid => List.mem_append_left _ (h.known id hid)

/-- Every act leaves room in the line. -/
theorem Roomy.after (h : account.Roomy maxSize seen back) (hlimit : 0 < maxSize)
    (hbalanced : account.Balanced) (act : Act τ α) :
    (account.after act).Roomy maxSize (seen ++ account.entered act)
    (back ++ account.returned act) := by
  have hshift := hbalanced.shifts act
  have hsize : (account.after act).queue.maxSize = account.queue.maxSize :=
    congrArg Prod.fst (after_settings account act)
  cases act with
  | enter =>
      simp only [Account.after, entered, returned, List.append_nil]
      cases hin : account.queue.enter with
      | error error =>
          rw [newcomer, List.append_nil]
          exact h
      | ok admitted => exact h.enter hlimit hin
  | enterFront =>
      simp only [Account.after, entered, returned, List.append_nil]
      cases hin : account.queue.enterFront with
      | error error =>
          rw [newcomer, List.append_nil]
          exact h
      | ok admitted => exact h.enter_front hbalanced hin
  | tick | expire | arm | destroy | markStopped | drop =>
      simp only [entered, returned, List.append_nil]
      cases hshift with
      | leave line nobody => exact h.leave hsize line nobody

/-- There is room in the line after any acts. -/
theorem Roomy.run (h : account.Roomy maxSize seen back) (hlimit : 0 < maxSize)
    (hbalanced : account.Balanced) (acts : List (Act τ α)) :
    (account.run acts).Roomy maxSize (seen ++ account.gather entered acts)
      (back ++ account.gather returned acts) := by
  induction acts generalizing account seen back with
  | nil =>
      rw [gather, gather, List.append_nil, List.append_nil]
      exact h
  | cons act rest ih =>
      have hrest := ih (h.after hlimit hbalanced act) (hbalanced.after act).1
      rw [gather, gather, ← List.append_assoc, ← List.append_assoc]
      exact hrest

/-- The line is longer than the limit by no more members than have come back. -/
theorem Roomy.length_le (h : account.Roomy maxSize seen back) :
    account.queue.members.length ≤ maxSize + (account.queue.ids.filter (· ∈ back)).length := by
  have hothers : (account.queue.ids.filter fun id => !decide (id ∈ seen)).length ≤
      (account.queue.ids.filter (· ∈ back)).length := by
    rw [← List.countP_eq_length_filter, ← List.countP_eq_length_filter]
    refine List.countP_mono_left fun id hid hother => ?_
    rw [Bool.not_eq_true', decide_eq_false_iff_not] at hother
    exact decide_eq_true ((h.origin id hid).resolve_left hother)
  calc account.queue.members.length
      = account.queue.ids.length := (List.length_map _).symm
    _ = (account.queue.ids.filter (· ∈ seen)).length +
          (account.queue.ids.filter fun id => !decide (id ∈ seen)).length :=
        List.length_eq_length_filter_add _
    _ ≤ maxSize + (account.queue.ids.filter (· ∈ back)).length := Nat.add_le_add h.room hothers

/-- There is nobody in a queue that was just made. -/
theorem start_roomy (maxSize : Nat) (poolId : UInt32) (address : Address) :
    (start maxSize poolId address : Account τ α).Roomy maxSize [] [] where
  limit := rfl
  room := Nat.zero_le _
  origin := by simp [start, empty, ids]
  known := by simp

/-- The line has room for new requests up to its limit, and a request that is kept out leaves no
trace. After any acts at a queue with a greatest size, the members in line that entered at its
end are no more than that, and the line is longer than that by no more members than have come
back to its head. A new request is kept out because the line is full exactly if the queue is not
destroyed and the line is as long as its limit at least; any request is kept out because the
pool is closed exactly if the queue is destroyed; and all others are let in. A request that is
kept out, done step by step, ends in the queue as it was. Whatever happens later, the account
and the effects of the later acts are the same without it. -/
theorem room_in_line (maxSize : Nat) (poolId : UInt32) (address : Address) (hlimit : 0 < maxSize)
    (acts : List (Act τ α)) (account : Account τ α)
    (haccount : account = (start maxSize poolId address).run acts) :
    (account.queue.ids.filter
        (· ∈ (start maxSize poolId address).gather entered acts)).length ≤ maxSize ∧
      account.queue.members.length ≤ maxSize +
        (account.queue.ids.filter
          (· ∈ (start maxSize poolId address).gather returned acts)).length ∧
      (account.queue.enter = .error (.waitQueueFull poolId address) ↔
        account.queue.destroyed = false ∧ maxSize ≤ account.queue.members.length) ∧
      (account.queue.enter = .error (.poolClosed poolId address) ↔
        account.queue.destroyed = true) ∧
      ((∃ admitted, account.queue.enter = .ok admitted) ↔
        account.queue.destroyed = false ∧ account.queue.members.length < maxSize) ∧
      (account.queue.enterFront = .error (.poolClosed poolId address) ↔
        account.queue.destroyed = true) ∧
      ((∃ admitted, account.queue.enterFront = .ok admitted) ↔ account.queue.destroyed = false) ∧
      ∀ front error, account.queue.request front = .error error →
        (requestSteps front).run account.queue = (.error error, account.queue) ∧
          account.after (.request front) = account ∧
          ∀ later, account.run (.request front :: later) = account.run later ∧
            account.effects (.request front :: later) =
              ⟨.admission (.error error), [], []⟩ :: account.effects later := by
  have hroomy : account.Roomy maxSize ((start maxSize poolId address).gather entered acts)
      ((start maxSize poolId address).gather returned acts) := by
    have hrun := (start_roomy maxSize poolId address).run hlimit
      (.start maxSize poolId address) acts
    exact haccount ▸ hrun
  have hsettings : account.queue.settings = (maxSize, poolId, address) :=
    haccount ▸ run_settings (start maxSize poolId address) acts
  obtain ⟨hsize, hpool⟩ := Prod.mk.inj hsettings
  obtain ⟨hid, haddress⟩ := Prod.mk.inj hpool
  have hfull : account.queue.fullError = .waitQueueFull poolId address := by
    rw [fullError, hid, haddress]
  have hclosed : account.queue.closedError = .poolClosed poolId address := by
    rw [closedError, hid, haddress]
  subst hsize
  refine ⟨hroomy.room, hroomy.length_le, ?_, ?_, enter_ok_iff hlimit, ?_, let_in_ok_iff, ?_⟩
  · rw [← hfull]
    exact enter_full_iff hlimit
  · rw [← hclosed]
    exact enter_closed_iff
  · rw [← hclosed]
    exact let_in_closed_iff
  · intro front error hrefused
    obtain ⟨hafter, heffect⟩ := refused_unchanged hrefused
    refine ⟨?_, hafter, fun later => ⟨?_, ?_⟩⟩
    · rw [request_steps_eq, hrefused]
    · rw [run, List.foldl_cons, hafter, run]
    · rw [effects, gather, hafter, heffect, effects]
      rfl

/-- A request enters a queue that has room for one, and another one that was served before goes
ahead of it. -/
def oneEnters : List (Act Nat Nat) :=
  [.enter, .enterFront]

/-- The line is one longer than its limit, and a third request is kept out of it without a
trace. -/
theorem one_past_limit :
    ((start 1 0 .localhost).run oneEnters).queue.ids = [2, 1] ∧
      ((start 1 0 .localhost).run oneEnters).queue.enter = .error (.waitQueueFull 0 .localhost) ∧
      ((start 1 0 .localhost).run oneEnters).after .enter =
        (start 1 0 .localhost).run oneEnters := by
  obtain ⟨-, -, hfull, -, -, -, -, hrefused⟩ :=
    room_in_line 1 0 .localhost Nat.one_pos oneEnters _ rfl
  have henter := hfull.2 ⟨rfl, Nat.le_succ 1⟩
  exact ⟨rfl, henter, (hrefused false _ henter).2.1⟩

end Account

end ConnectionPool.WaitQueue
