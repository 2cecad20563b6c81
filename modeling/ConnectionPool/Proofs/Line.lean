import ConnectionPool.Proofs.Keyed
import ConnectionPool.WaitQueue.Basic
import Mathlib.Data.Multiset.Filter
import Mathlib.Data.Multiset.UnionInter

/-!
# The line and those who wait in it

`Awaits queue waiting` says that the listening members of a queue are exactly those in
`waiting`, each of them once. Letting a request in adds it, and every operation with an outcome
takes away those whom it answers, so nobody waits for an answer that cannot come.
-/

namespace ConnectionPool.WaitQueue

variable {τ α : Type}

/-- The listening members of the queue are exactly those who wait, each member has its own id,
and nobody is left in a destroyed queue. -/
structure Awaits (queue : WaitQueue τ) (waiting : Multiset Nat) : Prop where
  ids : (queue.members.map Member.id).Nodup
  below : ∀ member ∈ queue.members, member.id ≤ queue.lastMember
  once : waiting.Nodup
  listening : ∀ id, id ∈ waiting ↔ ∃ member ∈ queue.members, member.id = id ∧ member.listening
  emptied : queue.destroyed = true → queue.members = []

/-- Those who still wait after an outcome: all but those that it answers. -/
def Outcome.remaining (outcome : Outcome τ α) (waiting : Multiset Nat) : Multiset Nat :=
  waiting.filter fun id => id ∉ outcome.answers.map Prod.fst

variable {queue : WaitQueue τ} {waiting : Multiset Nat}

/-- A request that is let in joins the others under a new id, and listens. The queue is not
destroyed. -/
theorem let_in_ok {front : Bool} {admission : Admission} {next : WaitQueue τ}
    (hin : queue.letIn front = .ok (admission, next)) :
    admission.member = queue.lastMember + 1 ∧
      next.members.Perm (⟨admission.member, true, none⟩ :: queue.members) ∧
      next.lastMember = admission.member ∧ next.destroyed = false ∧ queue.destroyed = false := by
  unfold letIn at hin
  split at hin
  · cases hin
  · next hthere =>
      have hopen : queue.destroyed = false := by simpa using hthere
      simp only [Except.ok.injEq, Prod.mk.injEq] at hin
      obtain ⟨rfl, rfl⟩ := hin
      refine ⟨rfl, ?_, rfl, hopen, hopen⟩
      cases front with
      | true => exact .refl _
      | false => exact List.perm_append_comm

/-- A request is kept out of a destroyed queue only. -/
theorem let_in_error {front : Bool} {error : PoolError} (hin : queue.letIn front = .error error) :
    error = queue.closedError := by
  unfold letIn at hin
  split at hin
  · exact (Except.error.inj hin).symm
  · cases hin

/-- A new request is kept out of a destroyed or a full queue only. -/
theorem enter_error {error : PoolError} (hin : queue.enter = .error error) :
    error = queue.closedError ∨ error = queue.fullError := by
  unfold enter at hin
  split at hin
  · exact .inr (Except.error.inj hin).symm
  · exact .inl (let_in_error hin)

/-- A new request that gets into the line is let in at its end. -/
theorem enter_ok {admitted : Admission × WaitQueue τ} (hin : queue.enter = .ok admitted) :
    queue.letIn false = .ok admitted := by
  unfold enter at hin
  split at hin
  · cases hin
  · exact hin

/-- Whoever comes to the line, for the first time or again, is let in if it gets in. -/
theorem admitted_ok {readmitted : Bool} {admitted : Admission × WaitQueue τ}
    (hin : (if readmitted then queue.enterFront else queue.enter) = .ok admitted) :
    queue.letIn readmitted = .ok admitted := by
  cases readmitted with
  | true => exact hin
  | false => exact enter_ok hin

/-- Who is in the line after a request was let in was there before or is the request. -/
theorem let_in_members {front : Bool} {admission : Admission} {next : WaitQueue τ}
    (hin : queue.letIn front = .ok (admission, next)) :
    ∀ m ∈ next.members, m ∈ queue.members ∨ m = ⟨admission.member, true, none⟩ := by
  obtain ⟨-, hmembers, -⟩ := let_in_ok hin
  exact fun m hm => (List.mem_cons.1 (hmembers.mem_iff.1 hm)).symm

namespace Awaits

/-- Whoever is in the line has an id that was given out. -/
theorem lt_next (h : queue.Awaits waiting) {id : Nat} (hid : id ∈ waiting) :
    id < queue.lastMember + 1 := by
  obtain ⟨member, hmember, rfl, _⟩ := (h.listening id).1 hid
  exact Nat.lt_succ_of_le (h.below member hmember)

/-- A request that is let in waits in addition, and the queue is not destroyed. -/
theorem let_in {front : Bool} {admission : Admission} {next : WaitQueue τ}
    (h : queue.Awaits waiting) (hin : queue.letIn front = .ok (admission, next)) :
    next.Awaits (admission.member ::ₘ waiting) ∧ next.destroyed = queue.destroyed := by
  obtain ⟨hnew, hmembers, hlast, hdestroyed, hopen⟩ := let_in_ok hin
  refine ⟨⟨?_, ?_, ?_, ?_, ?_⟩, hdestroyed.trans hopen.symm⟩
  · -- The id was never given out, so no member has it.
    rw [(hmembers.map Member.id).nodup_iff, List.map_cons, List.nodup_cons]
    refine ⟨fun hid => ?_, h.ids⟩
    obtain ⟨member, hmember, heq⟩ := List.mem_map.1 hid
    have hbelow := h.below member hmember
    have hsame : member.id = admission.member := heq
    omega
  · intro member hmember
    rw [hlast, hnew]
    rcases List.mem_cons.1 (hmembers.mem_iff.1 hmember) with rfl | hmember
    · exact hnew.le
    · exact Nat.le_succ_of_le (h.below member hmember)
  · refine Multiset.nodup_cons.2 ⟨fun hid => ?_, h.once⟩
    have hbelow := h.lt_next hid
    omega
  · intro id
    rw [Multiset.mem_cons, h.listening id]
    simp only [hmembers.mem_iff, List.mem_cons, or_and_right, exists_or, exists_eq_left, and_true,
      eq_comm]
  · exact fun hgone => absurd (hgone.symm.trans hdestroyed) (by decide)

/-- Arming a timer changes neither who is in the line nor who listens. -/
theorem arm (h : queue.Awaits waiting) (member : Nat) (timer : τ) :
    (queue.arm member timer).1.Awaits waiting ∧
      (queue.arm member timer).1.destroyed = queue.destroyed := by
  unfold WaitQueue.arm
  split
  · have hid : ∀ m : Member τ,
        (if m.id = member then { m with timer := some timer } else m).id = m.id := by
      intro m
      split <;> rfl
    have hlistening : ∀ m : Member τ,
        (if m.id = member then { m with timer := some timer } else m).listening =
          m.listening := by
      intro m
      split <;> rfl
    refine ⟨⟨?_, ?_, h.once, ?_, ?_⟩, rfl⟩
    · simpa [Function.comp_def, hid] using h.ids
    · simpa [hid] using h.below
    · simpa [hid, hlistening] using h.listening
    · exact fun hgone => List.map_eq_nil_iff.2 (h.emptied hgone)
  · exact ⟨h, rfl⟩

/-- A waiter that goes away is no longer awaited. -/
theorem abandon {member : Nat} (h : queue.Awaits (member ::ₘ waiting)) :
    (queue.abandon member).Awaits waiting := by
  have hid : ∀ m : Member τ,
      (if m.id = member then { m with listening := false } else m).id = m.id := by
    intro m
    split <;> rfl
  -- The member keeps its place in the line, where it listens no more.
  have honce := Multiset.nodup_cons.1 h.once
  refine ⟨?_, ?_, honce.2, ?_, fun hgone => List.map_eq_nil_iff.2 (h.emptied hgone)⟩
  · simpa [WaitQueue.abandon, Function.comp_def, hid] using h.ids
  · simpa [WaitQueue.abandon, hid] using h.below
  · intro id
    have hlistening := h.listening id
    simp only [WaitQueue.abandon, List.mem_map, exists_exists_and_eq_and, hid]
    constructor
    · intro hmem
      obtain ⟨m, hm, rfl, hm'⟩ := hlistening.1 (Multiset.mem_cons_of_mem hmem)
      have hne : m.id ≠ member := fun heq => honce.1 (heq ▸ hmem)
      exact ⟨m, hm, rfl, by rwa [if_neg hne]⟩
    · rintro ⟨m, hm, rfl, hm'⟩
      by_cases heq : m.id = member
      · simp [heq] at hm'
      · rw [if_neg heq] at hm'
        exact (Multiset.mem_cons.1 (hlistening.2 ⟨m, hm, rfl, hm'⟩)).resolve_left heq

/-- A member that does not listen is not awaited. -/
theorem not_mem_of_deaf (h : queue.Awaits waiting) {member : Member τ}
    (hmember : member ∈ queue.members) (hdeaf : member.listening = false) :
    member.id ∉ waiting := by
  intro hid
  obtain ⟨other, hother, heq, hlistening⟩ := (h.listening member.id).1 hid
  have hsame : other = member := List.inj_on_of_nodup_map h.ids hother hmember heq
  rw [hsame, hdeaf] at hlistening
  cases hlistening

/-- Those who wait are others than a member that does not listen. -/
theorem without_deaf (h : queue.Awaits waiting) {member : Member τ}
    (hmember : member ∈ queue.members) (hdeaf : member.listening = false) :
    (waiting.filter fun id => id ≠ member.id) = waiting := by
  rw [Multiset.filter_eq_self]
  intro id hid heq
  exact h.not_mem_of_deaf hmember hdeaf (heq ▸ hid)

/-- A member that leaves the line is no longer awaited. -/
theorem remove (h : queue.Awaits waiting) (member : Nat) :
    { queue with members := queue.members.filter fun m => m.id != member }.Awaits
      (waiting.filter fun id => id ≠ member) := by
  refine ⟨?_, ?_, h.once.filter _, ?_, fun hgone => by simp [h.emptied hgone]⟩
  · exact h.ids.sublist (List.filter_sublist.map _)
  · exact fun m hm => h.below m (List.mem_of_mem_filter hm)
  · intro id
    rw [Multiset.mem_filter, h.listening id]
    constructor
    · rintro ⟨⟨m, hm, rfl, hm'⟩, hne⟩
      exact ⟨m, List.mem_filter.2 ⟨hm, by simpa using hne⟩, rfl, hm'⟩
    · rintro ⟨m, hm, rfl, hm'⟩
      obtain ⟨hm, hne⟩ := List.mem_filter.1 hm
      exact ⟨⟨m, hm, rfl, hm'⟩, by simpa using hne⟩

/-- The head that leaves the line is no longer awaited. -/
theorem behead (h : queue.Awaits waiting) {head : Member τ} {rest : List (Member τ)}
    (hmembers : queue.members = head :: rest) :
    { queue with members := rest }.Awaits (waiting.filter fun id => id ≠ head.id) := by
  have hids := h.ids
  rw [hmembers, List.map_cons, List.nodup_cons] at hids
  have hrest : (queue.members.filter fun m => m.id != head.id) = rest := by
    rw [hmembers, List.filter_cons_of_neg (by simp), List.filter_eq_self]
    intro m hm
    exact bne_iff_ne.2 fun heq => hids.1 (heq ▸ List.mem_map_of_mem hm)
  rw [← hrest]
  exact h.remove head.id

/-- A head that does not listen leaves the line unnoticed. -/
theorem behead_deaf (h : queue.Awaits waiting) {head : Member τ} {rest : List (Member τ)}
    (hmembers : queue.members = head :: rest) (hdeaf : head.listening = false) :
    { queue with members := rest }.Awaits waiting := by
  have hhead : head ∈ queue.members := by rw [hmembers]; exact List.mem_cons_self
  have hrest := h.behead hmembers
  rw [h.without_deaf hhead hdeaf] at hrest
  exact hrest

/-- Without answers everyone still waits. -/
theorem remaining_nil (queue : WaitQueue τ) (aborted : List τ) :
    (⟨queue, [], aborted⟩ : Outcome τ α).remaining waiting = waiting := by
  simp [Outcome.remaining]

/-- An expired member is answered if it listens. -/
theorem expire {member : Nat} {outcome : Outcome τ α} (h : queue.Awaits waiting)
    (hexpire : queue.expire member = some outcome) :
    outcome.queue.Awaits (outcome.remaining waiting) ∧
      outcome.queue.destroyed = queue.destroyed := by
  unfold WaitQueue.expire at hexpire
  obtain ⟨m, hfind, rfl⟩ := Option.map_eq_some_iff.1 hexpire
  have hm : m ∈ queue.members := List.mem_of_find?_eq_some hfind
  obtain rfl : m.id = member := by simpa using List.find?_some hfind
  have hremoved := h.remove m.id
  refine ⟨?_, rfl⟩
  cases hlistening : m.listening with
  | true => simpa [Outcome.remaining, hlistening] using hremoved
  | false =>
      rw [h.without_deaf hm hlistening] at hremoved
      simpa [Outcome.remaining, hlistening] using hremoved

/-- Draining the line answers everyone who waits. -/
theorem drain (h : queue.Awaits waiting) :
    (queue.drain : Outcome τ α).queue.Awaits ((queue.drain : Outcome τ α).remaining waiting) := by
  have hnone : (queue.drain : Outcome τ α).remaining waiting = 0 := by
    refine Multiset.filter_eq_nil.2 fun id hid => not_not.2 ?_
    obtain ⟨member, hmember, rfl, hlistening⟩ := (h.listening id).1 hid
    simp only [WaitQueue.drain, List.mem_map, List.mem_filterMap]
    exact ⟨_, ⟨member, hmember, by rw [if_pos hlistening]⟩, rfl⟩
  rw [hnone]
  exact ⟨List.nodup_nil, by simp [WaitQueue.drain], Multiset.nodup_zero,
    by simp [WaitQueue.drain], fun _ => rfl⟩

/-- Everyone is answered when the queue is destroyed. -/
theorem destroy (h : queue.Awaits waiting) :
    (queue.destroy : Outcome τ α).queue.Awaits
      ((queue.destroy : Outcome τ α).remaining waiting) := by
  have hdrain := h.drain (α := α)
  exact ⟨hdrain.ids, hdrain.below, hdrain.once, hdrain.listening, fun _ => rfl⟩

/-- Noting that the run loop is gone ends no wait. -/
theorem markStopped (h : queue.Awaits waiting) : queue.markStopped.Awaits waiting :=
  ⟨h.ids, h.below, h.once, h.listening, h.emptied⟩

/-- A tick that asks for no resource answers only when it empties a destroyed queue. -/
theorem pass (h : queue.Awaits waiting) (hasks : queue.asks = false) :
    (queue.pass : Tick α × Outcome τ α).2.queue.Awaits
        ((queue.pass : Tick α × Outcome τ α).2.remaining waiting) ∧
      (queue.pass : Tick α × Outcome τ α).2.queue.destroyed = queue.destroyed := by
  unfold WaitQueue.pass
  split
  · have hdrain := h.drain (α := α)
    exact ⟨hdrain.markStopped, rfl⟩
  · next hdestroyed =>
      split
      · rw [remaining_nil]
        exact ⟨h.markStopped, rfl⟩
      · next head rest hmembers =>
          have hdeaf : head.listening = false := by
            simpa [asks, hmembers, hdestroyed] using hasks
          rw [remaining_nil]
          exact ⟨h.behead_deaf hmembers hdeaf, rfl⟩

/-- A tick that asks for a resource answers the head if it listens and there is a resource. -/
theorem serve (h : queue.Awaits waiting) (resource : Option α) :
    (queue.serve resource).2.queue.Awaits ((queue.serve resource).2.remaining waiting) ∧
      (queue.serve resource).2.queue.destroyed = queue.destroyed := by
  unfold WaitQueue.serve
  split
  · rw [remaining_nil]
    exact ⟨h, rfl⟩
  · rw [remaining_nil]
    exact ⟨h, rfl⟩
  · next head rest resource hmembers =>
      cases hlistening : head.listening with
      | true =>
          have hrest := h.behead hmembers
          exact ⟨by simpa [Outcome.remaining, hlistening] using hrest, by simp⟩
      | false =>
          have hrest := h.behead_deaf hmembers hlistening
          exact ⟨by simpa [Outcome.remaining, hlistening] using hrest, by simp⟩

end Awaits

/-! ## Answers without a resource -/

/-- Draining gives out the error of a closed pool only. -/
theorem drain_errors (queue : WaitQueue τ) :
    ∀ given ∈ (queue.drain : Outcome τ α).answers, given.2 = .error queue.closedError := by
  intro given hgiven
  obtain ⟨member, -, hanswer⟩ := List.mem_filterMap.1 hgiven
  split at hanswer
  · cases hanswer
    rfl
  · cases hanswer

/-- A tick that asks for no resource gives out the error of a closed pool only. -/
theorem pass_errors (queue : WaitQueue τ) :
    ∀ given ∈ (queue.pass : Tick α × Outcome τ α).2.answers,
      given.2 = .error queue.closedError := by
  unfold pass
  split
  · exact drain_errors queue
  · split <;> simp

/-- An expired member gets the error of a timeout. -/
theorem expire_errors {member : Nat} {outcome : Outcome τ α}
    (hexpire : queue.expire member = some outcome) :
    ∀ given ∈ outcome.answers, given.2 = .error queue.timeoutError := by
  unfold expire at hexpire
  obtain ⟨m, -, rfl⟩ := Option.map_eq_some_iff.1 hexpire
  intro given hgiven
  dsimp only at hgiven
  split at hgiven
  · exact congrArg Prod.snd (List.mem_singleton.1 hgiven)
  · cases hgiven

end ConnectionPool.WaitQueue
