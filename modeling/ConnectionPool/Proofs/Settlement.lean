import ConnectionPool.Proofs.Line
import Mathlib.Data.List.Perm.Basic

/-!
# Settled once, and nothing lost

An `Account` is a wait queue with what has come of it: who was let in, whose receiver was
dropped, which answers were given, and what became of the resources that were found. It is kept
through any acts at the queue, and it balances after all of them: whoever was let in is in line,
or has one answer, or went away; and every resource was handed to one receiver or handed back.

`Outcome.Releases` says what the operations with an outcome have in common, and `attempt` is a
tick that performs the asking for a resource itself.
-/

namespace ConnectionPool

/-- Settle the member. The answer comes back if nobody listens. -/
def Member.finish {τ α : Type} (member : Member τ) (answer : Except PoolError α) :
    Except (Except PoolError α) Unit :=
  if member.listening then .ok () else .error answer

/-- The resource that a tick hands back. -/
def Tick.unclaimed? {α : Type} : Tick α → Option α
  | .unclaimed resource => some resource
  | _ => none

namespace WaitQueue

variable {τ α : Type}

/-- The ids of the members, in line. -/
def ids (queue : WaitQueue τ) : List Nat :=
  queue.members.map Member.id

/-- The resources among the answers. -/
def handed (answers : List (Nat × Except PoolError α)) : List α :=
  answers.filterMap fun given => given.2.toOption

/-! ## Asking for a resource -/

/-- Settle the head with the resource that was found for it, and see whether the resource comes
back. A head that comes back with an error would count as served. -/
def settleHead (queue : WaitQueue τ) (resource : Option α) : Tick α × Outcome τ α :=
  match queue.members, resource with
  | [], _ => (.stopped, ⟨queue, [], []⟩)
  | _ :: _, none => (.requeued, ⟨queue, [], []⟩)
  | head :: rest, some resource =>
      let queue := { queue with members := rest }
      match head.finish (.ok resource) with
      | .ok () => (.served, ⟨queue, [(head.id, .ok resource)], head.timer.toList⟩)
      | .error (.ok resource) => (.unclaimed resource, ⟨queue, [], head.timer.toList⟩)
      | .error (.error _) => (.served, ⟨queue, [], head.timer.toList⟩)

/-- One tick that asks by performing `acquire`, which says which members stopped listening
meanwhile and what was found. -/
def attempt {m : Type → Type} [Monad m] (queue : WaitQueue τ)
    (acquire : m (List Nat × Option α)) : m (Tick α × Outcome τ α) :=
  if queue.destroyed then
    let outcome : Outcome τ α := queue.drain
    pure (.stopped, { outcome with queue := outcome.queue.markStopped })
  else
    match queue.members with
    | [] => pure (.stopped, ⟨queue.markStopped, [], []⟩)
    | head :: rest =>
        if head.listening then do
          let (lost, resource) ← acquire
          pure ((lost.foldl abandon queue).settleHead resource)
        else pure (.discarded, ⟨{ queue with members := rest }, [], head.timer.toList⟩)

/-- A resource that comes back does not come back as an error. -/
theorem finish_ok_ne_error (member : Member τ) (resource : α) (error : PoolError) :
    member.finish (.ok resource) ≠ .error (.error error) := by
  unfold Member.finish
  split <;> simp

/-- Settling the head comes to serving it. -/
theorem settle_head_eq (queue : WaitQueue τ) (resource : Option α) :
    queue.settleHead resource = queue.serve resource := by
  unfold settleHead serve
  cases queue.members with
  | nil => rfl
  | cons head rest =>
      cases resource with
      | none => rfl
      | some resource => cases hlistening : head.listening <;> simp [Member.finish, hlistening]

/-- A tick asks at most once: it performs `acquire` and gives the head what was found if it
asks, and passes without performing it otherwise. -/
theorem attempt_eq {m : Type → Type} [Monad m] [LawfulMonad m] (queue : WaitQueue τ)
    (acquire : m (List Nat × Option α)) :
    queue.attempt acquire =
      if queue.asks then (fun found => queue.runOnce found.1 found.2) <$> acquire
      else pure queue.pass := by
  cases hasks : queue.asks with
  | true =>
      have hrun : ∀ (lost : List Nat) (resource : Option α),
          queue.runOnce lost resource = (lost.foldl abandon queue).settleHead resource := by
        intro lost resource
        rw [runOnce, if_pos hasks, settle_head_eq]
      unfold attempt
      cases hmembers : queue.members with
      | nil => simp [asks, hmembers] at hasks
      | cons head rest =>
          obtain ⟨hopen, hlistening⟩ :
              queue.destroyed = false ∧ head.listening = true := by
            simpa [asks, hmembers] using hasks
          rw [if_neg (by simp [hopen])]
          simp only [hlistening, hrun, if_true, bind_pure_comp]
  | false =>
      unfold asks at hasks
      unfold attempt pass
      cases hdestroyed : queue.destroyed with
      | true => simp
      | false =>
          cases hmembers : queue.members with
          | nil => simp
          | cons head rest =>
              have hdeaf : head.listening = false := by simpa [hmembers, hdestroyed] using hasks
              simp [hdeaf]

/-! ## What operations have in common -/

/-- The operation lets some members out of the line. It answers those of them that listen, in
any order, and nobody else. -/
structure Outcome.Releases (outcome : Outcome τ α) (queue : WaitQueue τ)
    (gone : List (Member τ)) : Prop where
  members : queue.members.Perm (outcome.queue.members ++ gone)
  answered : outcome.answers.map Prod.fst = (gone.filter Member.listening).map Member.id
  last : outcome.queue.lastMember = queue.lastMember

variable {queue : WaitQueue τ}

/-- Draining lets everyone out. -/
theorem drain_releases (queue : WaitQueue τ) :
    (queue.drain : Outcome τ α).Releases queue queue.members where
  members := .refl _
  answered := by
    have hanswer : ∀ member : Member τ,
        ((if member.listening then some (member.id, .error queue.closedError) else none :
          Option (Nat × Except PoolError α)).map Prod.fst) =
          if member.listening then some member.id else none := by
      intro member
      split <;> rfl
    simp only [drain, List.map_filterMap, hanswer]
    induction queue.members with
    | nil => rfl
    | cons member rest ih => cases hlistening : member.listening <;> simp [hlistening, ih]
  last := rfl

/-- A member whose time is over is let out. -/
theorem expire_releases {member : Nat} {outcome : Outcome τ α} (hids : queue.ids.Nodup)
    (hexpire : queue.expire member = some outcome) : ∃ gone, outcome.Releases queue gone := by
  unfold expire at hexpire
  obtain ⟨found, hfind, rfl⟩ := Option.map_eq_some_iff.1 hexpire
  obtain ⟨rest, hmembers, -, hkeep, hid⟩ := Keyed.find_split hids hfind
  refine ⟨[found], ?_, ?_, rfl⟩
  · refine Multiset.coe_eq_coe.1 ?_
    rw [← Multiset.coe_add, hkeep _ fun _ => bne_iff_ne, hmembers, Multiset.coe_singleton,
      Multiset.add_comm, Multiset.singleton_add]
  · cases hlistening : found.listening <;> simp [hlistening, hid]

/-- A tick that asks for nothing lets out everyone, nobody, or a head that does not listen. -/
theorem pass_releases (hasks : queue.asks = false) :
    ∃ gone, (queue.pass : Tick α × Outcome τ α).2.Releases queue gone := by
  unfold pass
  split
  · have hdrain := drain_releases (α := α) queue
    exact ⟨queue.members, hdrain.members, hdrain.answered, rfl⟩
  · next hdestroyed =>
      split
      · exact ⟨[], by simp [markStopped], rfl, rfl⟩
      · next head rest hmembers =>
          have hdeaf : head.listening = false := by
            simpa [asks, hmembers, hdestroyed] using hasks
          refine ⟨[head], ?_, by simp [hdeaf], rfl⟩
          rw [hmembers]
          exact (List.perm_append_singleton head rest).symm

/-- A tick that asks lets out the head, if something was found for it. -/
theorem serve_releases (queue : WaitQueue τ) (resource : Option α) :
    ∃ gone, (queue.serve resource).2.Releases queue gone := by
  unfold serve
  split
  · exact ⟨[], by simp, rfl, rfl⟩
  · exact ⟨[], by simp, rfl, rfl⟩
  · next head rest resource hmembers =>
      have hperm : queue.members.Perm (rest ++ [head]) := by
        rw [hmembers]
        exact (List.perm_append_singleton head rest).symm
      cases hlistening : head.listening with
      | true => exact ⟨[head], by simpa using hperm, by simp [hlistening], by simp⟩
      | false => exact ⟨[head], by simpa using hperm, by simp [hlistening], by simp⟩

/-- Waiters that go away one after the other are heard of no more. -/
theorem abandon_all (queue : WaitQueue τ) (lost : List Nat) :
    (lost.foldl abandon queue).members = queue.members.map fun member =>
      if member.id ∈ lost then { member with listening := false } else member := by
  induction lost generalizing queue with
  | nil => simp
  | cons first rest ih =>
      rw [List.foldl_cons, ih, abandon, List.map_map]
      refine List.map_congr_left ?_
      intro member _
      by_cases hfirst : member.id = first <;> by_cases hrest : member.id ∈ rest <;>
        simp [hfirst, hrest]

/-- Errors hand out no resource. -/
theorem handed_errors {answers : List (Nat × Except PoolError α)} {error : PoolError}
    (herrors : ∀ given ∈ answers, given.2 = .error error) : handed answers = [] := by
  refine List.filterMap_eq_nil_iff.2 ?_
  intro given hgiven
  rw [herrors given hgiven]
  rfl

/-- What was found for a head is handed to it or handed back. -/
theorem serve_handed (resource : Option α) (hmembers : queue.members ≠ []) :
    handed (queue.serve resource).2.answers ++ (queue.serve resource).1.unclaimed?.toList =
      resource.toList := by
  unfold serve
  split
  · next hnil => exact absurd hnil hmembers
  · rfl
  · next head rest resource _ =>
      cases hlistening : head.listening <;> rfl

/-- Only a listening head is handed a resource, if it still listens when the resource is there. -/
theorem serve_head {head : Member τ} {rest : List (Member τ)} (resource : α)
    (hmembers : queue.members = head :: rest) :
    if head.listening then
      (queue.serve (some resource)).1 = .served ∧
        (queue.serve (some resource)).2.answers = [(head.id, .ok resource)]
    else
      (queue.serve (some resource)).1 = .unclaimed resource ∧
        (queue.serve (some resource)).2.answers = [] := by
  unfold serve
  rw [hmembers]
  cases hlistening : head.listening <;> simp [hlistening]

/-! ## Accounts -/

/-- What may happen to a queue: an operation, or a receiver that is dropped. A tick finds
`resource` if it asks, and the receivers of the members in `lost` are dropped while it asks. -/
inductive Act (τ α : Type) where
  | enter
  | enterFront
  | tick (resource : Option α) (lost : List Nat)
  | expire (member : Nat)
  | arm (member : Nat) (timer : τ)
  | destroy
  | markStopped
  | drop (member : Nat)

/-- A queue with what has come of it: the members that were let in, those whose receivers were
dropped, the answers that were given, the resources that were found and those that were handed
back. -/
structure Account (τ α : Type) where
  queue : WaitQueue τ
  admitted : List Nat
  dropped : List Nat
  answers : List (Nat × Except PoolError α)
  found : List α
  unclaimed : List α

namespace Account

/-- The account of a queue that nobody has been in. -/
def start (maxSize : Nat) (poolId : UInt32) (address : Address) : Account τ α :=
  ⟨empty maxSize poolId address, [], [], [], [], []⟩

/-- The members that were answered. -/
def answered (account : Account τ α) : List Nat :=
  account.answers.map Prod.fst

/-- Enter a request, unless it was refused. -/
def enroll (account : Account τ α) (result : Except PoolError (Admission × WaitQueue τ)) :
    Account τ α :=
  match result with
  | .error _ => account
  | .ok (admission, queue) =>
      { account with queue := queue, admitted := account.admitted ++ [admission.member] }

/-- Enter that the receiver of the member was dropped, if it ever got one. -/
def drop (account : Account τ α) (member : Nat) : Account τ α :=
  if member ∈ account.admitted then
    { account with
      queue := account.queue.abandon member, dropped := account.dropped ++ [member] }
  else account

/-- Enter an outcome, with what was found for it and what was handed back. -/
def settle (account : Account τ α) (outcome : Outcome τ α) (found unclaimed : List α) :
    Account τ α :=
  { account with
    queue := outcome.queue
    answers := account.answers ++ outcome.answers
    found := account.found ++ found
    unclaimed := account.unclaimed ++ unclaimed }

/-- The account after an act. -/
def after (account : Account τ α) : Act τ α → Account τ α
  | .enter => account.enroll account.queue.enter
  | .enterFront => account.enroll account.queue.enterFront
  | .tick resource lost =>
      let (tick, outcome) := account.queue.runOnce lost resource
      if account.queue.asks then
        (lost.foldl drop account).settle outcome resource.toList tick.unclaimed?.toList
      else account.settle outcome [] tick.unclaimed?.toList
  | .expire member =>
      match account.queue.expire member with
      | none => account
      | some outcome => account.settle outcome [] []
  | .arm member timer => { account with queue := (account.queue.arm member timer).1 }
  | .destroy => account.settle account.queue.destroy [] []
  | .markStopped => { account with queue := account.queue.markStopped }
  | .drop member => account.drop member

/-- The account after acts. -/
def run (account : Account τ α) (acts : List (Act τ α)) : Account τ α :=
  acts.foldl after account

/-- The account balances. Every member that was let in is in line, or was answered, or its
receiver was dropped; it is never in line and answered, nor answered twice; it listens as long
as its receiver is there; and every resource that was found was handed to a member or handed
back. -/
structure Balanced (account : Account τ α) : Prop where
  admittedOnce : account.admitted.Nodup
  issued : ∀ id ∈ account.admitted, id ≤ account.queue.lastMember
  once : (account.queue.ids ++ account.answered).Nodup
  known : ∀ id ∈ account.queue.ids ++ account.answered, id ∈ account.admitted
  accounted : ∀ id ∈ account.admitted,
    id ∈ account.queue.ids ++ account.answered ∨ id ∈ account.dropped
  listening : ∀ member ∈ account.queue.members,
    member.listening = true ↔ member.id ∉ account.dropped
  droppers : ∀ id ∈ account.dropped, id ∈ account.admitted
  resources : account.found.Perm (handed account.answers ++ account.unclaimed)

/-- What an act does for those in line. Its answers go to members that leave the line, and of
those that leave it answers exactly the ones whose receivers are there. -/
structure Attends (account next : Account τ α)
    (given : List (Nat × Except PoolError α)) : Prop where
  answers : next.answers = account.answers ++ given
  leaving : ∀ id ∈ given.map Prod.fst, id ∈ account.queue.ids ∧ id ∉ next.queue.ids
  left : ∀ id ∈ account.queue.ids, id ∉ next.queue.ids →
    (id ∈ given.map Prod.fst ↔ id ∉ next.dropped)

variable {account next : Account τ α}

/-- An act that lets nobody out of the line has nobody to attend to. -/
theorem Attends.nobody (hanswers : next.answers = account.answers)
    (hids : ∀ id ∈ account.queue.ids, id ∈ next.queue.ids) : account.Attends next [] where
  answers := by rw [hanswers, List.append_nil]
  leaving := by simp
  left := fun id hid hgone => absurd (hids id hid) hgone

/-- What receivers that are dropped before do to the account is no matter of whom it attends
to. -/
theorem Attends.of_same {middle : Account τ α} {given : List (Nat × Except PoolError α)}
    (h : middle.Attends next given) (hids : middle.queue.ids = account.queue.ids)
    (hanswers : middle.answers = account.answers) : account.Attends next given where
  answers := hanswers ▸ h.answers
  leaving := hids ▸ h.leaving
  left := hids ▸ h.left

namespace Balanced

/-- The members in line have different ids. -/
theorem ids_nodup (h : account.Balanced) : account.queue.ids.Nodup :=
  (List.nodup_append.1 h.once).1

/-- Only the ids in line, who listens, and the last id matter of the queue. -/
theorem congr {queue : WaitQueue τ} (h : account.Balanced) (hids : queue.ids = account.queue.ids)
    (hlistening : ∀ member ∈ queue.members, ∃ other ∈ account.queue.members,
      other.id = member.id ∧ other.listening = member.listening)
    (hlast : queue.lastMember = account.queue.lastMember) :
    { account with queue := queue }.Balanced where
  admittedOnce := h.admittedOnce
  issued := hlast ▸ h.issued
  once := hids ▸ h.once
  known := hids ▸ h.known
  accounted := hids ▸ h.accounted
  listening := by
    intro member hmember
    obtain ⟨other, hother, hid, hsame⟩ := hlistening member hmember
    rw [← hid, ← hsame]
    exact h.listening other hother
  droppers := h.droppers
  resources := h.resources

/-- A request that is let in is in line and was not answered. -/
theorem let_in {front : Bool} {admission : Admission} {queue : WaitQueue τ} (h : account.Balanced)
    (hin : account.queue.letIn front = .ok (admission, queue)) :
    (account.enroll (.ok (admission, queue))).Balanced ∧
      ∀ id ∈ account.queue.ids, id ∈ queue.ids := by
  obtain ⟨hnew, hmembers, hlast, -⟩ := let_in_ok hin
  have hids : queue.ids.Perm (admission.member :: account.queue.ids) := hmembers.map Member.id
  have hline : ((account.enroll (.ok (admission, queue))).queue.ids ++ account.answered).Perm
      (admission.member :: (account.queue.ids ++ account.answered)) := hids.append_right _
  -- The new id was not given out before.
  have hfresh : admission.member ∉ account.admitted := by
    intro hid
    have hissued := h.issued _ hid
    omega
  refine ⟨⟨?_, ?_, ?_, ?_, ?_, ?_, ?_, h.resources⟩,
    fun id hid => hids.mem_iff.2 (List.mem_cons_of_mem _ hid)⟩
  · refine (List.perm_append_singleton _ _).nodup_iff.2 ?_
    exact List.nodup_cons.2 ⟨hfresh, h.admittedOnce⟩
  · intro id hid
    show id ≤ queue.lastMember
    rcases List.mem_append.1 hid with hid | hid
    · have hissued := h.issued id hid
      omega
    · exact (List.mem_singleton.1 hid).trans_le hlast.ge
  · refine hline.nodup_iff.2 (List.nodup_cons.2 ⟨fun hid => hfresh (h.known _ hid), h.once⟩)
  · intro id hid
    rcases List.mem_cons.1 (hline.mem_iff.1 hid) with rfl | hid
    · exact List.mem_append_right _ (List.mem_singleton_self _)
    · exact List.mem_append_left _ (h.known id hid)
  · intro id hid
    rcases List.mem_append.1 hid with hid | hid
    · refine (h.accounted id hid).imp_left ?_
      exact fun hid => hline.mem_iff.2 (List.mem_cons_of_mem _ hid)
    · exact .inl (hline.mem_iff.2 (List.mem_cons.2 (.inl (List.mem_singleton.1 hid))))
  · intro member hmember
    rcases List.mem_cons.1 (hmembers.mem_iff.1 hmember) with rfl | hmember
    · exact ⟨fun _ hid => hfresh (h.droppers _ hid), fun _ => rfl⟩
    · exact h.listening member hmember
  · exact fun id hid => List.mem_append_left _ (h.droppers id hid)

/-- A receiver that is dropped leaves its member in line, where it listens no more. -/
theorem drop (h : account.Balanced) (member : Nat) :
    (account.drop member).Balanced ∧ (account.drop member).queue.ids = account.queue.ids ∧
      (account.drop member).answers = account.answers := by
  unfold Account.drop
  split
  · next hknown =>
      have hid : ∀ m : Member τ,
          (if m.id = member then { m with listening := false } else m).id = m.id := by
        intro m
        split <;> rfl
      have hids : (account.queue.abandon member).ids = account.queue.ids :=
        Keyed.map_keys hid
      refine ⟨⟨h.admittedOnce, h.issued, ?_, ?_, ?_, ?_, ?_, h.resources⟩, hids, rfl⟩
      · exact hids ▸ h.once
      · exact hids ▸ h.known
      · exact fun id hid => hids ▸ (h.accounted id hid).imp_right (List.mem_append_left _)
      · intro m hm
        obtain ⟨before, hbefore, rfl⟩ := List.mem_map.1 hm
        rw [hid, List.mem_append, List.mem_singleton]
        by_cases hsame : before.id = member
        · simp [hsame]
        · rw [if_neg hsame, h.listening before hbefore]
          simp [hsame]
      · intro id hid
        rcases List.mem_append.1 hid with hid | hid
        · exact h.droppers id hid
        · exact List.mem_singleton.1 hid ▸ hknown
  · exact ⟨h, rfl, rfl⟩

/-- Those whom an outcome lets out of the line leave it answered, or because their receivers were
dropped. -/
theorem settle {outcome : Outcome τ α} {gone : List (Member τ)} {found unclaimed : List α}
    (h : account.Balanced) (hout : outcome.Releases account.queue gone)
    (hfound : handed outcome.answers ++ unclaimed = found) :
    (account.settle outcome found unclaimed).Balanced ∧
      account.Attends (account.settle outcome found unclaimed) outcome.answers := by
  have hids : account.queue.ids.Perm (outcome.queue.ids ++ gone.map Member.id) := by
    have hmap := hout.members.map Member.id
    rwa [List.map_append] at hmap
  have hids_nodup := hids.nodup_iff.1 h.ids_nodup
  have hgone : ∀ member ∈ gone, member ∈ account.queue.members := fun member hmember =>
    hout.members.mem_iff.2 (List.mem_append_right _ hmember)
  -- Of the members that are let out, those are answered whose receivers are there.
  have hanswered : ∀ id, id ∈ outcome.answers.map Prod.fst ↔
      id ∈ gone.map Member.id ∧ id ∉ account.dropped := by
    intro id
    rw [hout.answered]
    simp only [List.mem_map, List.mem_filter]
    constructor
    · rintro ⟨member, ⟨hmember, hlistening⟩, rfl⟩
      exact ⟨⟨member, hmember, rfl⟩, (h.listening member (hgone member hmember)).1 hlistening⟩
    · rintro ⟨⟨member, hmember, rfl⟩, hthere⟩
      exact ⟨member, ⟨hmember, (h.listening member (hgone member hmember)).2 hthere⟩, rfl⟩
  have hsub : (outcome.answers.map Prod.fst).Sublist (gone.map Member.id) := by
    rw [hout.answered]
    exact List.filter_sublist.map _
  refine ⟨⟨h.admittedOnce, hout.last ▸ h.issued, ?_, ?_, ?_, ?_, h.droppers, ?_⟩, rfl, ?_, ?_⟩
  · have honce := ((hids.append_right account.answered).nodup_iff).1 h.once
    rw [List.append_assoc] at honce
    refine List.Nodup.sublist ?_ (((List.perm_append_comm.append_left _).nodup_iff).1 honce)
    simp only [Account.settle, answered, List.map_append]
    exact (List.Sublist.refl _).append ((List.Sublist.refl _).append hsub)
  · intro id hid
    simp only [Account.settle, answered, List.map_append, List.mem_append] at hid
    refine h.known id ?_
    rw [List.mem_append, hids.mem_iff, List.mem_append]
    rcases hid with hid | hid | hid
    · exact .inl (.inl hid)
    · exact .inr hid
    · exact .inl (.inr (hsub.subset hid))
  · intro id hid
    rcases h.accounted id hid with hid | hid
    · simp only [Account.settle, answered, List.map_append, List.mem_append]
      rw [List.mem_append, hids.mem_iff, List.mem_append] at hid
      rcases hid with (hid | hid) | hid
      · exact .inl (.inl hid)
      · by_cases hdropped : id ∈ account.dropped
        · exact .inr hdropped
        · exact .inl (.inr (.inr ((hanswered id).2 ⟨hid, hdropped⟩)))
      · exact .inl (.inr (.inl hid))
    · exact .inr hid
  · exact fun member hmember =>
      h.listening member (hout.members.mem_iff.2 (List.mem_append_left _ hmember))
  · have hparts : handed (account.answers ++ outcome.answers) =
        handed account.answers ++ handed outcome.answers := List.filterMap_append
    simp only [Account.settle, ← hfound, hparts, List.append_assoc]
    refine (h.resources.append_right _).trans ?_
    rw [List.append_assoc]
    refine List.Perm.append_left _ ?_
    rw [← List.append_assoc, ← List.append_assoc]
    exact List.perm_append_comm.append_right _
  · intro id hid
    have hout := hsub.subset hid
    refine ⟨hids.mem_iff.2 (List.mem_append_right _ hout), fun hin => ?_⟩
    exact (List.nodup_append.1 hids_nodup).2.2 id hin id hout rfl
  · intro id hid hleft
    rw [hanswered id]
    refine ⟨fun hgiven => hgiven.2, fun hthere => ⟨?_, hthere⟩⟩
    exact (List.mem_append.1 (hids.mem_iff.1 hid)).resolve_left hleft

/-- An outcome that answers with errors only needs no resource. -/
theorem settle_errors {outcome : Outcome τ α} {gone : List (Member τ)} {error : PoolError}
    (h : account.Balanced) (hout : outcome.Releases account.queue gone)
    (herrors : ∀ given ∈ outcome.answers, given.2 = .error error) :
    (account.settle outcome [] []).Balanced ∧
      account.Attends (account.settle outcome [] []) outcome.answers :=
  h.settle hout (by rw [handed_errors herrors, List.append_nil])

/-- The queue after a receiver was dropped. -/
theorem drop_queue (h : account.Balanced) (member : Nat) :
    (account.drop member).queue = account.queue.abandon member := by
  unfold Account.drop
  split
  · rfl
  · next hunknown =>
      -- Without a receiver there is no such member in line.
      have hsame : ∀ m ∈ account.queue.members,
          (if m.id = member then { m with listening := false } else m) = m := by
        rintro m hm
        refine if_neg ?_
        rintro rfl
        exact hunknown (h.known _ (List.mem_append_left _ (List.mem_map_of_mem hm)))
      simp only [abandon, List.map_congr_left hsame, List.map_id']

/-- Receivers that are dropped one after the other leave the line and the answers as they are. -/
theorem drop_all (h : account.Balanced) (lost : List Nat) :
    (lost.foldl Account.drop account).Balanced ∧
      (lost.foldl Account.drop account).queue = lost.foldl abandon account.queue ∧
      (lost.foldl Account.drop account).queue.ids = account.queue.ids ∧
      (lost.foldl Account.drop account).answers = account.answers := by
  induction lost generalizing account with
  | nil => exact ⟨h, rfl, rfl, rfl⟩
  | cons member rest ih =>
      obtain ⟨hdrop, hids, hanswers⟩ := h.drop member
      obtain ⟨hrest, hqueue, hids', hanswers'⟩ := ih hdrop
      rw [h.drop_queue member] at hqueue
      exact ⟨hrest, hqueue, hids'.trans hids, hanswers'.trans hanswers⟩

/-- A request that comes to the line is let in or refused. -/
theorem request {result : Except PoolError (Admission × WaitQueue τ)} (h : account.Balanced)
    (front : Bool)
    (hin : ∀ admitted, result = .ok admitted → account.queue.letIn front = .ok admitted) :
    (account.enroll result).Balanced ∧ account.Attends (account.enroll result) [] := by
  cases result with
  | error error => exact ⟨h, .nobody rfl fun _ hid => hid⟩
  | ok admitted =>
      obtain ⟨hbalanced, hids⟩ := h.let_in (hin admitted rfl)
      exact ⟨hbalanced, .nobody rfl hids⟩

/-- A tick hands what was found for the head to it, or back. -/
theorem tick (h : account.Balanced) (resource : Option α) (lost : List Nat) :
    (account.after (.tick resource lost)).Balanced ∧
      ∃ given, account.Attends (account.after (.tick resource lost)) given := by
  unfold Account.after runOnce
  cases hasks : account.queue.asks with
  | true =>
      obtain ⟨hdrop, hqueue, hids, hanswers⟩ := h.drop_all lost
      have hmembers : (lost.foldl Account.drop account).queue.members ≠ [] := by
        intro hnil
        rw [ids, hnil, List.map_nil, ids, eq_comm, List.map_eq_nil_iff] at hids
        simp [asks, hids] at hasks
      obtain ⟨gone, hout⟩ := serve_releases (lost.foldl Account.drop account).queue resource
      obtain ⟨hbalanced, hattends⟩ := hdrop.settle hout (serve_handed resource hmembers)
      rw [hqueue] at hbalanced hattends
      exact ⟨hbalanced, _, hattends.of_same hids hanswers⟩
  | false =>
      have hnone : (account.queue.pass : Tick α × Outcome τ α).1.unclaimed? = none := by
        unfold pass
        split
        · rfl
        · split <;> rfl
      obtain ⟨gone, hout⟩ := pass_releases (α := α) hasks
      obtain ⟨hbalanced, hattends⟩ := h.settle_errors hout (pass_errors account.queue)
      simp only [Bool.false_eq_true, if_false, hnone, Option.toList_none]
      exact ⟨hbalanced, _, hattends⟩

/-- Every act leaves the account balanced, and attends to those who are in line. -/
theorem after (h : account.Balanced) (act : Act τ α) :
    (account.after act).Balanced ∧ ∃ given, account.Attends (account.after act) given := by
  cases act with
  | enter =>
      obtain ⟨hbalanced, hattends⟩ := h.request false fun _ hin => enter_ok hin
      exact ⟨hbalanced, _, hattends⟩
  | enterFront =>
      obtain ⟨hbalanced, hattends⟩ := h.request true fun _ hin => hin
      exact ⟨hbalanced, _, hattends⟩
  | tick resource lost => exact h.tick resource lost
  | expire member =>
      simp only [Account.after]
      split
      · exact ⟨h, _, .nobody rfl fun _ hid => hid⟩
      · next outcome hexpire =>
          obtain ⟨gone, hout⟩ := expire_releases h.ids_nodup hexpire
          obtain ⟨hbalanced, hattends⟩ := h.settle_errors hout (expire_errors hexpire)
          exact ⟨hbalanced, _, hattends⟩
  | arm member timer =>
      have hsame : ∀ m : Member τ,
          (if m.id = member then { m with timer := some timer } else m).id = m.id ∧
            (if m.id = member then { m with timer := some timer } else m).listening =
              m.listening := by
        intro m
        split <;> exact ⟨rfl, rfl⟩
      simp only [Account.after, WaitQueue.arm]
      split
      · have hids : (account.queue.members.map fun m =>
            if m.id = member then { m with timer := some timer } else m).map Member.id =
              account.queue.ids := Keyed.map_keys fun m => (hsame m).1
        refine ⟨h.congr hids ?_ rfl, _, .nobody rfl fun id hid => ?_⟩
        · intro m hm
          obtain ⟨before, hbefore, rfl⟩ := List.mem_map.1 hm
          exact ⟨before, hbefore, (hsame before).1.symm, (hsame before).2.symm⟩
        · show id ∈ List.map _ _
          rw [hids]
          exact hid
      · exact ⟨h, _, .nobody rfl fun _ hid => hid⟩
  | destroy =>
      have hdrain := drain_releases (α := α) { account.queue with destroyed := true }
      have hout : (account.queue.destroy : Outcome τ α).Releases account.queue
          account.queue.members := ⟨hdrain.members, hdrain.answered, hdrain.last⟩
      obtain ⟨hbalanced, hattends⟩ := h.settle_errors hout (drain_errors _)
      exact ⟨hbalanced, _, hattends⟩
  | markStopped =>
      refine ⟨h.congr rfl ?_ rfl, _, .nobody rfl fun _ hid => hid⟩
      exact fun m hm => ⟨m, hm, rfl, rfl⟩
  | drop member =>
      obtain ⟨hbalanced, hids, hanswers⟩ := h.drop member
      exact ⟨hbalanced, _, .nobody hanswers fun _ hid => hids ▸ hid⟩

/-- The account of a queue that nobody has been in balances. -/
theorem start (maxSize : Nat) (poolId : UInt32) (address : Address) :
    (Account.start maxSize poolId address : Account τ α).Balanced where
  admittedOnce := List.nodup_nil
  issued := by simp [Account.start]
  once := List.nodup_nil
  known := by simp [Account.start, empty, ids, answered]
  accounted := by simp [Account.start]
  listening := by simp [Account.start, empty]
  droppers := by simp [Account.start]
  resources := .refl _

/-- The account balances after any acts. -/
theorem run (h : account.Balanced) (acts : List (Act τ α)) : (account.run acts).Balanced := by
  induction acts generalizing account with
  | nil => exact h
  | cons act rest ih => exact ih (h.after act).1

/-- A tick asks if the queue is not destroyed and the receiver of the head is there. -/
theorem asks_iff (h : account.Balanced) :
    account.queue.asks = true ↔ account.queue.destroyed = false ∧
      ∃ head, account.queue.members.head? = some head ∧ head.id ∉ account.dropped := by
  unfold asks
  cases hmembers : account.queue.members with
  | nil => simp
  | cons head rest =>
      have hhead := h.listening head (by rw [hmembers]; exact List.mem_cons_self)
      simp [hhead]

/-- What a tick finds for the head goes to it if its receiver is still there then, and is handed
back otherwise. -/
theorem found_for_head (h : account.Balanced) (hasks : account.queue.asks = true)
    (resource : α) (lost : List Nat) :
    ∃ head, account.queue.members.head? = some head ∧
      if head.id ∈ lost then
        (account.queue.runOnce lost (some resource)).1 = .unclaimed resource ∧
          (account.queue.runOnce lost (some resource)).2.answers = []
      else
        (account.queue.runOnce lost (some resource)).1 = .served ∧
          (account.queue.runOnce lost (some resource)).2.answers = [(head.id, .ok resource)] := by
  obtain ⟨-, head, hhead, hthere⟩ := h.asks_iff.1 hasks
  obtain ⟨rest, hmembers⟩ := List.head?_eq_some_iff.1 hhead
  have hlistening : head.listening = true :=
    (h.listening head (by rw [hmembers]; exact List.mem_cons_self)).2 hthere
  have hlater := abandon_all account.queue lost
  rw [hmembers, List.map_cons] at hlater
  have hserve := serve_head resource hlater
  rw [runOnce, if_pos hasks]
  refine ⟨head, hhead, ?_⟩
  by_cases hlost : head.id ∈ lost
  · rw [if_pos hlost] at hserve ⊢
    exact hserve
  · rw [if_neg hlost, if_pos hlistening] at hserve
    rw [if_neg hlost]
    exact hserve

end Balanced

/-- Whoever is in line is settled once, and no resource is lost. After any acts the account
balances, and the next act answers those that leave the line whose receivers are there, and
nobody else. A tick asks for a resource at most once, and only if the receiver of the head is
there; what it finds goes to the head, or is handed back if the head's receiver was dropped
meanwhile. It does not come back as an error. -/
theorem settled_once {m : Type → Type} [Monad m] [LawfulMonad m] (maxSize : Nat) (poolId : UInt32)
    (address : Address) (acts : List (Act τ α)) (account : Account τ α)
    (haccount : account = (start maxSize poolId address).run acts) :
    account.Balanced ∧
      (∀ act, ∃ given, account.Attends (account.after act) given) ∧
      (∀ acquire : m (List Nat × Option α), account.queue.attempt acquire =
        if account.queue.asks then
          (fun found => account.queue.runOnce found.1 found.2) <$> acquire
        else pure account.queue.pass) ∧
      (account.queue.asks = true ↔ account.queue.destroyed = false ∧
        ∃ head, account.queue.members.head? = some head ∧ head.id ∉ account.dropped) ∧
      (account.queue.asks = true → ∀ (resource : α) (lost : List Nat),
        ∃ head, account.queue.members.head? = some head ∧
          if head.id ∈ lost then
            (account.queue.runOnce lost (some resource)).1 = .unclaimed resource ∧
              (account.queue.runOnce lost (some resource)).2.answers = []
          else
            (account.queue.runOnce lost (some resource)).1 = .served ∧
              (account.queue.runOnce lost (some resource)).2.answers =
                [(head.id, .ok resource)]) ∧
      ∀ (member : Member τ) (resource : α) (error : PoolError),
        member.finish (.ok resource) ≠ .error (.error error) := by
  have hbalanced : account.Balanced := haccount ▸ (Balanced.start maxSize poolId address).run acts
  refine ⟨hbalanced, ?_, ?_, hbalanced.asks_iff, ?_, ?_⟩
  · exact fun act => (hbalanced.after act).2
  · exact fun acquire => attempt_eq account.queue acquire
  · exact fun hasks resource lost => hbalanced.found_for_head hasks resource lost
  · exact fun member resource error => finish_ok_ne_error member resource error

/-- Two requests enter, and the receiver of the first is dropped while a resource is found for
it. -/
def twoEnter : List (Act Nat Nat) :=
  [.enter, .enter, .tick (some 7) [1]]

/-- The resource that was found for the first request is handed back, and the next one, for
which the tick asks once, goes to the second. -/
theorem second_settled :
    ((start 0 0 .localhost).run twoEnter).unclaimed = [7] ∧
      ((start 0 0 .localhost).run twoEnter).Balanced ∧
      ((((start 0 0 .localhost).run twoEnter).queue.attempt
        fun asked => pure (([], some 8), asked + 1) : StateM Nat (Tick Nat × Outcome Nat Nat)).run
          0).2 = 1 := by
  obtain ⟨hbalanced, -, hattempt, -, -, -⟩ :=
    settled_once (m := StateM Nat) 0 0 .localhost twoEnter _ rfl
  refine ⟨rfl, hbalanced, ?_⟩
  rw [hattempt]
  rfl

end Account

end WaitQueue

end ConnectionPool
