import ConnectionPool.Proofs.HandOut
import ConnectionPool.Proofs.Ledger
import Mathlib.Algebra.Order.Group.Multiset

/-!
# Every acquisition has one outcome

A chronicle is kept beside a pool: for each acquisition that was begun, what its call told in
its own turns and where it stands, and for each one that did not wait the reply and what was
told. `Dealt` says what an action does to the attempts and is proved by cases on it;
`Kept.after` then needs no more of the pool. At any time every attempt has told that it began
and, once it returned, how, and nothing else is told of acquisitions: this is
`attempts_settled`.

An acquisition whose deadline is beyond the latest instant of the clock has no outcome: it
breaks off when it has told that it began. Nothing keeps such a limit from being set,
`far_limit_breaks_off`.
-/

namespace ConnectionPool

/-- Where an attempt to acquire a connection stands. -/
inductive Standing where
  | pending
  | returned (completion : Completion)
  | givenUp
  | brokenOff

/-- The attempt is not over. -/
def Standing.isPending : Standing → Bool
  | .pending => true
  | _ => false

/-- The caller gave the attempt up. -/
def Standing.isGivenUp : Standing → Bool
  | .givenUp => true
  | _ => false

/-- The attempt broke off when it had begun. -/
def Standing.isBrokenOff : Standing → Bool
  | .brokenOff => true
  | _ => false

/-- The completion of an attempt that returned. -/
def Standing.completions : Standing → List Completion
  | .returned completion => [completion]
  | _ => []

/-- An attempt to acquire a connection: its call, what that told in its own turns, and where it
stands. -/
structure Attempt where
  call : Nat
  told : List EventKind
  standing : Standing

/-- An attempt that does not wait: the reply, and what was told. -/
structure Offer where
  reply : Reply
  told : List EventKind

/-- All attempts that were made at a pool, and the populations that ended for callers. -/
structure Chronicle where
  attempts : List Attempt := []
  offers : List Offer := []
  fills : List Completion := []

/-- The completion of an attempt that returned. -/
def Attempt.completions (attempt : Attempt) : List Completion :=
  attempt.standing.completions

/-- An attempt tells that it begins and, when it returns, how. -/
inductive Attempt.WellTold : Attempt → Prop where
  | pending (call : Nat) : WellTold ⟨call, [.acquisitionStarted], .pending⟩
  | returned {completion : Completion} {kind : EventKind}
      (reported : Reported completion.result kind) :
      WellTold ⟨completion.call, [.acquisitionStarted, kind], .returned completion⟩
  | givenUp (call : Nat) : WellTold ⟨call, [.acquisitionStarted], .givenUp⟩
  | brokenOff (call : Nat) : WellTold ⟨call, [.acquisitionStarted], .brokenOff⟩

namespace Pool

/-- What the call tells at the action: all that is told of acquisitions, if the turn is its
own. -/
def tellsOf (pool : Pool) (action : Action) (id : Nat) : List EventKind :=
  if action.caller? = some id then pool.tells action else []

/-- The action begins an acquisition for the call, and the clock does not have its deadline. -/
def breaksOff (pool : Pool) (action : Action) (id : Nat) : Bool :=
  action == .acquire id && (pool.held && !pool.isPending id) && !pool.deadlineFits

/-- Where the attempt of the call stands after the action. If the call is not there any more, it
returned, broke off or was given up. -/
def standing (pool : Pool) (action : Action) (id : Nat) : Standing :=
  if id ∈ (pool.after action).callIds then .pending
  else
    match (pool.ends action).find? fun completion => completion.call == id with
    | some completion => .returned completion
    | none => if pool.breaksOff action id then .brokenOff else .givenUp

/-- The attempt that begins at the action. There has to be a handle, and the id must not be in
use. -/
def begins (pool : Pool) : Action → List Attempt
  | .acquire id =>
      if pool.held && !pool.isPending id then
        [⟨id, pool.tells (.acquire id), pool.standing (.acquire id) id⟩]
      else []
  | _ => []

/-- The attempt that does not wait and is made at the action. -/
def offers (pool : Pool) : Action → List Offer
  | .tryAcquire => [⟨(pool.perform .tryAcquire).1, pool.tells .tryAcquire⟩]
  | _ => []

/-- The populations that end for callers at the action. -/
def fills (pool : Pool) (action : Action) : List Completion :=
  (pool.ends action).filter fun completion => completion.call ∉ pool.callIds

end Pool

/-- What becomes of an attempt at an action. -/
def Attempt.after (attempt : Attempt) (pool : Pool) (action : Action) : Attempt :=
  if attempt.standing.isPending then
    { attempt with
      told := attempt.told ++ pool.tellsOf action attempt.call
      standing := pool.standing action attempt.call }
  else attempt

/-- The chronicle after an action at the pool. -/
def Chronicle.after (chronicle : Chronicle) (pool : Pool) (action : Action) : Chronicle where
  attempts := (chronicle.attempts.map fun attempt => attempt.after pool action) ++
    pool.begins action
  offers := chronicle.offers ++ pool.offers action
  fills := chronicle.fills ++ pool.fills action

/-- The chronicle after a history that begins in the pool. -/
def Chronicle.run (chronicle : Chronicle) (pool : Pool) : List Action → Chronicle
  | [] => chronicle
  | action :: rest => (chronicle.after pool action).run (pool.after action) rest

namespace Pool

variable {pool : Pool} {action : Action} {id : Nat} {ids : List Nat} {told : List EventKind}
  {ended : List Completion} {excused : Nat → Prop}

/-! ## Where attempts stand -/

/-- An attempt is pending as long as its call is there. -/
theorem standing_pending (pool : Pool) (action : Action) (id : Nat) :
    (pool.standing action id).isPending = decide (id ∈ (pool.after action).callIds) := by
  unfold standing
  split
  · next hthere => simp [Standing.isPending, hthere]
  · next hgone =>
      rw [decide_eq_false hgone]
      split
      · rfl
      · split <;> rfl

/-- The attempt of the call did not return. -/
def Unended (pool : Pool) (action : Action) (id : Nat) : Prop :=
  ∀ completion, pool.standing action id ≠ .returned completion

/-- An attempt that did not return has no completion. -/
theorem Unended.completions (h : pool.Unended action id) :
    (pool.standing action id).completions = [] := by
  cases hstanding : pool.standing action id with
  | returned completion => exact absurd hstanding (h completion)
  | pending | givenUp | brokenOff => rfl

/-- An attempt that did not return told that it began and nothing more. -/
theorem Unended.wellTold (h : pool.Unended action id) :
    Attempt.WellTold ⟨id, [.acquisitionStarted], pool.standing action id⟩ := by
  cases hstanding : pool.standing action id with
  | returned completion => exact absurd hstanding (h completion)
  | pending => exact .pending id
  | givenUp => exact .givenUp id
  | brokenOff => exact .brokenOff id

/-- An attempt whose call does not come to an end did not return. -/
theorem standing_unended (hnone : ∀ completion ∈ pool.ends action, completion.call ≠ id) :
    pool.Unended action id := by
  intro completion hreturned
  unfold standing at hreturned
  split at hreturned
  · cases hreturned
  · split at hreturned
    · next other hfind =>
        exact hnone other (List.mem_of_find?_eq_some hfind) (by simpa using List.find?_some hfind)
    · split at hreturned <;> cases hreturned

/-- An attempt whose call comes to an end and is not there any more returned. -/
theorem standing_ended {completion : Completion} (hends : pool.ends action = [completion])
    (hgone : completion.call ∉ (pool.after action).callIds) :
    pool.standing action completion.call = .returned completion := by
  rw [standing, if_neg hgone, hends, List.find?_cons_of_pos (by simp)]

/-- The call of an attempt that is given up is not there any more, did not come to an end and
did not break off. -/
theorem standing_given_up (h : pool.standing action id = .givenUp) :
    id ∉ (pool.after action).callIds ∧ (∀ completion ∈ pool.ends action, completion.call ≠ id) ∧
      pool.breaksOff action id = false := by
  unfold standing at h
  split at h
  · cases h
  · next hgone =>
      split at h
      · cases h
      · next hfind =>
          split at h
          · cases h
          · next hfits => exact ⟨hgone, by simpa using hfind, by simpa using hfits⟩

/-- An attempt that broke off has no deadline that the clock could tell. -/
theorem standing_broken_off (h : pool.standing action id = .brokenOff) :
    pool.deadlineFits = false := by
  unfold standing at h
  split at h
  · cases h
  · split at h
    · cases h
    · split at h
      · next hbreaks =>
          rw [breaksOff, Bool.and_eq_true, Bool.not_eq_true'] at hbreaks
          exact hbreaks.2
      · cases h

/-- Where the clock does not have the deadlines it never will. -/
theorem deadline_fits_never {next : Pool} (hlater : pool.stock.Later next.stock)
    (h : pool.deadlineFits = false) : next.deadlineFits = false := by
  have hconfig : next.config = pool.config := hlater.config
  unfold deadlineFits at h ⊢
  rw [hconfig]
  cases hwait : pool.config.waitQueueTimeout with
  | none =>
      rw [hwait] at h
      cases h
  | some wait =>
      rw [hwait] at h
      rw [Option.all_some, Option.isSome_eq_false_iff, Option.isNone_iff_eq_none] at h ⊢
      exact Instant.add_none_later hlater.now h

/-- An attempt that begins stands where its call does. -/
theorem begins_standing :
    ∀ attempt ∈ pool.begins action, attempt.standing = pool.standing action attempt.call := by
  intro attempt hattempt
  cases action with
  | acquire id =>
      rw [begins] at hattempt
      split at hattempt
      · obtain rfl := List.mem_singleton.1 hattempt
        rfl
      · cases hattempt
  | _ => cases hattempt

/-! ## What an action does to the attempts -/

/-- What the call of a pending attempt does at an action: it tells nothing and does not return,
or it returns and tells how. -/
inductive Turns (pool : Pool) (action : Action) (id : Nat) : Prop where
  | goesOn (silent : pool.tellsOf action id = []) (unended : pool.Unended action id)
  | returns {completion : Completion} {kind : EventKind} (own : completion.call = id)
      (standing : pool.standing action id = .returned completion)
      (told : pool.tellsOf action id = [kind]) (reported : Reported completion.result kind)

/-- What an action does to the attempts: nobody but those that begin joins the calls, each
attempt tells what it has to, nobody else tells anything, only attempts and populations have
completions, and who gives up is excused. -/
structure Dealt (pool : Pool) (action : Action) : Prop where
  calls : (pool.after action).callIds.Sublist
    (pool.callIds ++ (pool.begins action).map Attempt.call)
  fresh : (pool.callIds ++ (pool.begins action).map Attempt.call).Nodup
  begun : ∀ attempt ∈ pool.begins action, attempt.WellTold
  offered : ∀ offer ∈ pool.offers action, Offered offer.reply offer.told
  turns : ∀ id ∈ pool.callIds, pool.Turns action id
  told : (pool.tells action).Perm (pool.callIds.flatMap (pool.tellsOf action) ++
    (pool.begins action).flatMap Attempt.told ++ (pool.offers action).flatMap Offer.told)
  ended : (pool.ends action).Perm
    ((pool.callIds.flatMap fun id => (pool.standing action id).completions) ++
      (pool.begins action).flatMap Attempt.completions ++ pool.fills action)
  gone : ∀ id ∈ pool.callIds ++ (pool.begins action).map Attempt.call,
    pool.standing action id = .givenUp → pool.Excused action id

/-- If only one member of a list contributes something, it is all that there is. -/
theorem flatMap_only {β : Type} {f : Nat → List β} (hnodup : ids.Nodup) (hmem : id ∈ ids)
    (honly : ∀ other ∈ ids, other ≠ id → f other = []) : ids.flatMap f = f id := by
  induction ids with
  | nil => cases hmem
  | cons head rest ih =>
      obtain ⟨hhead, hrest⟩ := List.nodup_cons.1 hnodup
      rw [List.flatMap_cons]
      rcases List.mem_cons.1 hmem with rfl | hmem
      · have hsilent : rest.flatMap f = [] := List.flatMap_eq_nil_iff.2 fun other hother =>
          honly other (.tail _ hother) fun heq => hhead (heq ▸ hother)
        rw [hsilent, List.append_nil]
      · have hne : head ≠ id := fun heq => hhead (heq ▸ hmem)
        rw [honly head List.mem_cons_self hne, List.nil_append]
        exact ih hrest hmem fun other hother => honly other (.tail _ hother)

/-- The call may be missing after the action: it is excused, or it broke off. -/
def Missing (pool : Pool) (action : Action) (id : Nat) : Prop :=
  pool.Excused action id ∨ pool.breaksOff action id = true

/-- At an action at which no call comes to an end, only what begins or does not wait tells
anything. -/
theorem Dealt.unended
    (hgoes : pool.Goes (pool.Missing action) (pool.callIds ++
      (pool.begins action).map Attempt.call)
      told ended (pool.after action))
    (hfresh : (pool.callIds ++ (pool.begins action).map Attempt.call).Nodup)
    (hbegun : ∀ attempt ∈ pool.begins action, attempt.WellTold)
    (hoffered : ∀ offer ∈ pool.offers action, Offered offer.reply offer.told)
    (hunended : ∀ completion ∈ ended,
      completion.call ∉ pool.callIds ++ (pool.begins action).map Attempt.call)
    (hsilent : ∀ id, pool.tellsOf action id = [])
    (htold : told = (pool.begins action).flatMap Attempt.told ++
      (pool.offers action).flatMap Offer.told) : pool.Dealt action := by
  have hgoesOn : ∀ id ∈ pool.callIds ++ (pool.begins action).map Attempt.call,
      pool.Unended action id := by
    intro id hid
    refine standing_unended ?_
    rw [hgoes.ends]
    intro completion hcompletion heq
    exact hunended completion hcompletion (heq ▸ hid)
  refine ⟨hgoes.calls, hfresh, hbegun, hoffered, ?_, ?_, ?_, ?_⟩
  · exact fun id hid => .goesOn (hsilent id) (hgoesOn id (List.mem_append_left _ hid))
  · have hnobody : pool.callIds.flatMap (pool.tellsOf action) = [] :=
      List.flatMap_eq_nil_iff.2 fun id _ => hsilent id
    rw [hgoes.tells, hnobody, List.nil_append, htold]
  · have hcalls : (pool.callIds.flatMap fun id => (pool.standing action id).completions) = [] :=
      List.flatMap_eq_nil_iff.2 fun id hid =>
        (hgoesOn id (List.mem_append_left _ hid)).completions
    have hbegins : (pool.begins action).flatMap Attempt.completions = [] := by
      refine List.flatMap_eq_nil_iff.2 fun attempt hattempt => ?_
      rw [Attempt.completions, begins_standing attempt hattempt]
      exact (hgoesOn _ (List.mem_append_right _ (List.mem_map_of_mem hattempt))).completions
    have hfills : pool.fills action = pool.ends action := by
      refine List.filter_eq_self.2 fun completion hcompletion => ?_
      rw [hgoes.ends] at hcompletion
      refine decide_eq_true fun hcall => ?_
      exact hunended completion hcompletion (List.mem_append_left _ hcall)
    rw [hcalls, hbegins, hfills]
    exact .refl _
  · intro id hid hgivenUp
    obtain ⟨hgone, -, hfits⟩ := standing_given_up hgivenUp
    refine (hgoes.gone id hid hgone).resolve_right ?_
    rw [hfits]
    exact Bool.false_ne_true

/-- The call that has a turn ends and tells how; the others go on, or are given up. -/
theorem Dealt.finished {completion : Completion} {kind : EventKind} (h : pool.Coherent)
    (hgoes : pool.Goes (pool.Excused action)
      (pool.callIds.filter fun other => other != completion.call) [kind] [completion]
      (pool.after action))
    (hbegins : pool.begins action = []) (hoffers : pool.offers action = [])
    (hturn : action.caller? = some completion.call) (hhere : completion.call ∈ pool.callIds)
    (hreported : Reported completion.result kind) : pool.Dealt action := by
  have hnodup : pool.callIds.Nodup := h.callIds
  have hgone : completion.call ∉ (pool.after action).callIds := by
    intro hmem
    simpa using (List.mem_filter.1 (hgoes.calls.mem hmem)).2
  have htells : pool.tellsOf action completion.call = [kind] := by
    rw [tellsOf, if_pos hturn, hgoes.tells]
  have hothers : ∀ id, id ≠ completion.call → pool.tellsOf action id = [] := by
    intro id hne
    rw [tellsOf, if_neg]
    rw [hturn, Option.some.injEq]
    exact hne.symm
  have hunended : ∀ id, id ≠ completion.call → pool.Unended action id := by
    intro id hne
    refine standing_unended ?_
    rw [hgoes.ends]
    intro other hother
    obtain rfl := List.mem_singleton.1 hother
    exact hne.symm
  have hreturned := standing_ended hgoes.ends hgone
  refine ⟨?_, ?_, ?_, ?_, ?_, ?_, ?_, ?_⟩
  · rw [hbegins, List.map_nil, List.append_nil]
    exact hgoes.calls.trans List.filter_sublist
  · rw [hbegins, List.map_nil, List.append_nil]
    exact hnodup
  · rw [hbegins]
    exact List.forall_mem_nil _
  · rw [hoffers]
    exact List.forall_mem_nil _
  · intro id hid
    by_cases hself : id = completion.call
    · subst hself
      exact .returns rfl hreturned htells hreported
    · exact .goesOn (hothers id hself) (hunended id hself)
  · rw [hbegins, hoffers, List.flatMap_nil, List.flatMap_nil, List.append_nil, List.append_nil,
      flatMap_only hnodup hhere fun id _ => hothers id, htells, hgoes.tells]
  · have hfills : pool.fills action = [] := by
      rw [fills, hgoes.ends]
      exact List.filter_cons_of_neg (by simp [hhere])
    rw [hbegins, hfills, List.flatMap_nil, List.append_nil, List.append_nil,
      flatMap_only hnodup hhere fun id _ hne => (hunended id hne).completions,
      hreturned, hgoes.ends]
    exact .refl _
  · rw [hbegins, List.map_nil, List.append_nil]
    intro id hid hgivenUp
    obtain ⟨hleft, hnone, -⟩ := standing_given_up hgivenUp
    rw [hgoes.ends] at hnone
    refine hgoes.gone id (List.mem_filter.2 ⟨hid, ?_⟩) hleft
    simpa using Ne.symm (hnone completion (List.mem_singleton_self _))

/-- A call tells nothing at an action that is nobody's own turn. -/
theorem tells_of_nobody (hnobody : action.caller? = none) : pool.tellsOf action id = [] := by
  rw [tellsOf, hnobody, if_neg (by simp)]

/-- An action at which nothing begins, nothing is tried and nothing is told of acquisitions. -/
theorem Dealt.nothing (h : pool.Coherent)
    (hgoes : pool.Goes (pool.Excused action) pool.callIds [] ended (pool.after action))
    (hbegins : pool.begins action = []) (hoffers : pool.offers action = [])
    (hunended : ∀ completion ∈ ended, completion.call ∉ pool.callIds) : pool.Dealt action := by
  have hids : pool.callIds ++ (pool.begins action).map Attempt.call = pool.callIds := by
    rw [hbegins, List.map_nil, List.append_nil]
  refine .unended (hids ▸ hgoes.mono fun _ => Or.inl) ?_ ?_ ?_ (by rwa [hids]) ?_ ?_
  · rw [hids]
    exact h.callIds
  · rw [hbegins]
    exact List.forall_mem_nil _
  · rw [hoffers]
    exact List.forall_mem_nil _
  · intro id
    rw [tellsOf, hgoes.tells, ite_self]
  · rw [hbegins, hoffers]
    rfl

/-- The call of an acquisition that begins is there after it or may be missing. -/
theorem acquire_goes (hmade : (pool.held && !pool.isPending id) = true) :
    pool.Goes (pool.Missing (.acquire id)) (pool.callIds ++ [id]) [.acquisitionStarted] []
      (pool.after (.acquire id)) := by
  have hstarts : pool.Goes (pool.Excused (.acquire id))
      (pool.callIds ++ if pool.deadlineFits then [id] else []) [.acquisitionStarted] []
      (pool.step (.acquire id)).2 := start_acquire_goes hmade
  have hgoes : pool.Goes (pool.Missing (.acquire id)) _ _ _ (pool.after (.acquire id)) :=
    hstarts.after.mono fun _ => .inl
  cases hfits : pool.deadlineFits with
  | true =>
      rw [hfits, if_pos rfl] at hgoes
      exact hgoes
  | false =>
      rw [hfits, if_neg Bool.false_ne_true, List.append_nil] at hgoes
      refine { hgoes with calls := hgoes.calls.trans (List.sublist_append_left _ _), gone := ?_ }
      intro other hother hgone
      rcases List.mem_append.1 hother with hother | hother
      · exact hgoes.gone other hother hgone
      · obtain rfl := List.mem_singleton.1 hother
        exact .inr (by simp [breaksOff, hmade, hfits])

/-- A call that is made begins an attempt, which tells that it started. -/
theorem dealt_acquire (h : pool.Coherent) (id : Nat) : pool.Dealt (.acquire id) := by
  cases hmade : pool.held && !pool.isPending id with
  | false =>
      have hstep : (pool.step (.acquire id)).2 = pool := by
        rw [step, startAcquire, if_neg (by simp [hmade])]
      refine .nothing h (Goes.after ?_) (if_neg (by simp [hmade])) rfl
        (List.forall_mem_nil _)
      rw [hstep]
      exact Loses.nothing rfl rfl rfl rfl
  | true =>
      have hfresh := fresh_of_made hmade
      have hgoes := acquire_goes hmade
      have hbegins : pool.begins (.acquire id) =
          [⟨id, [.acquisitionStarted], pool.standing (.acquire id) id⟩] := by
        rw [begins, if_pos hmade, hgoes.tells]
      have hids : pool.callIds ++ (pool.begins (.acquire id)).map Attempt.call =
          pool.callIds ++ [id] := by
        rw [hbegins]
        rfl
      have hnone : ∀ completion ∈ pool.ends (.acquire id), completion.call ≠ id := by
        rw [hgoes.ends]
        exact List.forall_mem_nil _
      refine .unended (hids ▸ hgoes) ?_ ?_ ?_ ?_ (fun _ => tells_of_nobody rfl) ?_
      · rw [hids]
        refine List.nodup_append.2 ⟨h.callIds, List.nodup_singleton id, ?_⟩
        intro other hother new hnew heq
        obtain rfl := List.mem_singleton.1 hnew
        exact hfresh (heq ▸ hother)
      · rw [hbegins]
        intro attempt hattempt
        obtain rfl := List.mem_singleton.1 hattempt
        exact (standing_unended hnone).wellTold
      · exact List.forall_mem_nil _
      · exact List.forall_mem_nil _
      · rw [hbegins]
        rfl

/-- An acquisition that does not wait tells what its reply says. -/
theorem dealt_try (h : pool.Coherent) : pool.Dealt .tryAcquire := by
  obtain ⟨told, hoffered, htries⟩ : ∃ told, Offered (pool.step .tryAcquire).1 told ∧
      pool.Goes (pool.Excused .tryAcquire) pool.callIds told [] (pool.step .tryAcquire).2 :=
    step_try_goes pool
  have hgoes : pool.Goes (pool.Excused .tryAcquire) pool.callIds told []
      (pool.after .tryAcquire) :=
    Goes.after htries
  have hoffers : pool.offers .tryAcquire = [⟨(pool.perform .tryAcquire).1, told⟩] := by
    rw [offers, hgoes.tells]
  have hids : pool.callIds ++ (pool.begins .tryAcquire).map Attempt.call = pool.callIds :=
    List.append_nil _
  refine .unended (hids ▸ hgoes.mono fun _ => Or.inl) ?_ ?_ ?_ ?_
    (fun _ => tells_of_nobody rfl) ?_
  · rw [hids]
    exact h.callIds
  · exact List.forall_mem_nil _
  · rw [hoffers]
    intro offer hoffer
    obtain rfl := List.mem_singleton.1 hoffer
    exact hoffered
  · exact List.forall_mem_nil _
  · rw [hoffers]
    exact (List.append_nil told).symm

/-- Every action deals with the attempts in this way. -/
theorem dealt (h : pool.Coherent) (action : Action) : pool.Dealt action := by
  by_cases hacquire : ∃ id, action = .acquire id
  · obtain ⟨id, rfl⟩ := hacquire
    exact dealt_acquire h id
  · by_cases htry : action = .tryAcquire
    · subst htry
      exact dealt_try h
    · have hbegins : pool.begins action = [] := by
        cases action with
        | acquire id => exact absurd ⟨id, rfl⟩ hacquire
        | _ => rfl
      have hoffers : pool.offers action = [] := by
        cases action with
        | tryAcquire => exact absurd rfl htry
        | _ => rfl
      obtain ⟨ids, deal, hgoes⟩ := after_deal h action
      generalize pool.tells action = told, pool.ends action = ended at deal hgoes
      cases deal with
      | nothing =>
          exact .nothing h hgoes hbegins hoffers
            (List.forall_mem_nil _)
      | begun asked | brokenOff asked => exact absurd ⟨_, asked⟩ hacquire
      | finished turn here reported =>
          exact .finished h hgoes hbegins hoffers turn here reported
      | tried asked => exact absurd asked htry
      | filled owned =>
          refine .nothing h hgoes hbegins hoffers ?_
          intro completion hended hcall
          obtain rfl := List.mem_singleton.1 hended
          exact h.apart _ hcall owned

end Pool

/-! ## The attempts after an action -/

section Attempts

variable {pool : Pool} {action : Action} {attempt : Attempt}

/-- An attempt that is over stays as it is. -/
theorem Attempt.after_over (h : attempt.standing.isPending = false) (pool : Pool)
    (action : Action) : attempt.after pool action = attempt := by
  rw [Attempt.after, if_neg (by simp [h])]

/-- A pending attempt goes on with what its call does. -/
theorem Attempt.after_pending (h : attempt.standing.isPending = true) (pool : Pool)
    (action : Action) :
    attempt.after pool action =
      ⟨attempt.call, attempt.told ++ pool.tellsOf action attempt.call,
        pool.standing action attempt.call⟩ := by
  rw [Attempt.after, if_pos h]

/-- An attempt that told what it had to does so at every action. -/
theorem Attempt.WellTold.after (h : attempt.WellTold)
    (hturns : attempt.standing.isPending = true → pool.Turns action attempt.call) :
    (attempt.after pool action).WellTold := by
  cases h with
  | returned reported => exact .returned reported
  | givenUp call => exact .givenUp call
  | brokenOff call => exact .brokenOff call
  | pending call =>
      rw [Attempt.after_pending rfl]
      cases hturns rfl with
      | goesOn silent unended =>
          rw [silent]
          exact unended.wellTold
      | returns own standing told reported =>
          rw [told, standing]
          subst own
          exact .returned reported

/-- The calls of the attempts that are pending. -/
def pendingCalls (attempts : List Attempt) : List Nat :=
  (attempts.filter fun attempt => attempt.standing.isPending).map Attempt.call

/-- A pending attempt counts among the pending ones. -/
theorem pending_cons (h : attempt.standing.isPending = true) (rest : List Attempt) :
    pendingCalls (attempt :: rest) = attempt.call :: pendingCalls rest := by
  rw [pendingCalls, List.filter_cons_of_pos (by simp [h])]
  rfl

/-- An attempt that is over does not count among the pending ones. -/
theorem over_cons (h : attempt.standing.isPending = false) (rest : List Attempt) :
    pendingCalls (attempt :: rest) = pendingCalls rest := by
  rw [pendingCalls, List.filter_cons_of_neg (by simp [h])]
  rfl

/-- Of the pending attempts those are pending after an action whose calls are there then. -/
theorem pending_after (attempts : List Attempt) (pool : Pool) (action : Action) :
    pendingCalls (attempts.map fun attempt => attempt.after pool action) =
      (pendingCalls attempts).filter fun id => id ∈ (pool.after action).callIds := by
  induction attempts with
  | nil => rfl
  | cons attempt rest ih =>
      rw [List.map_cons]
      cases hpending : attempt.standing.isPending with
      | false => rw [Attempt.after_over hpending, over_cons hpending, over_cons hpending, ih]
      | true =>
          have hstanding := pool.standing_pending action attempt.call
          rw [Attempt.after_pending hpending, pending_cons hpending]
          by_cases hthere : attempt.call ∈ (pool.after action).callIds
          · rw [decide_eq_true hthere] at hstanding
            rw [pending_cons hstanding, List.filter_cons_of_pos (by simp [hthere]), ih]
          · rw [decide_eq_false hthere] at hstanding
            rw [over_cons hstanding, List.filter_cons_of_neg (by simp [hthere]), ih]

/-- Of the attempts that begin at an action those are pending whose calls are there after it. -/
theorem pending_begins (pool : Pool) (action : Action) :
    pendingCalls (pool.begins action) =
      ((pool.begins action).map Attempt.call).filter fun id =>
        id ∈ (pool.after action).callIds := by
  unfold pendingCalls
  rw [List.filter_map]
  refine congrArg (List.map Attempt.call) (List.filter_congr ?_)
  intro attempt hattempt
  rw [Pool.begins_standing attempt hattempt, Pool.standing_pending]
  rfl

/-- What is read off the attempts after an action is what was so before, and what the calls of
the pending ones bring. -/
theorem flatMap_after {β : Type} {f : Attempt → List β} {brings : Nat → List β}
    (hbrings : ∀ attempt : Attempt, attempt.standing.isPending = true →
      f (attempt.after pool action) = f attempt ++ brings attempt.call)
        (attempts : List Attempt) :
    ((attempts.map fun attempt => attempt.after pool action).flatMap f).Perm
      (attempts.flatMap f ++ (pendingCalls attempts).flatMap brings) := by
  induction attempts with
  | nil => exact .refl _
  | cons attempt rest ih =>
      rw [List.map_cons, List.flatMap_cons, List.flatMap_cons, List.append_assoc]
      cases hpending : attempt.standing.isPending with
      | false =>
          rw [Attempt.after_over hpending, over_cons hpending]
          exact ih.append_left _
      | true =>
          rw [hbrings attempt hpending, pending_cons hpending, List.flatMap_cons,
            List.append_assoc]
          refine .append_left _ ?_
          exact (ih.append_left _).trans (List.perm_append_comm_assoc _ _ _)

/-- A pending attempt tells what its call does. -/
theorem Attempt.told_after (h : attempt.standing.isPending = true) :
    (attempt.after pool action).told = attempt.told ++ pool.tellsOf action attempt.call := by
  rw [Attempt.after_pending h]

/-- A pending attempt has the completion of its call. -/
theorem Attempt.completions_after (h : attempt.standing.isPending = true) :
    (attempt.after pool action).completions =
      attempt.completions ++ (pool.standing action attempt.call).completions := by
  have hnone : attempt.completions = [] := by
    unfold Attempt.completions
    cases hstanding : attempt.standing with
    | pending | givenUp | brokenOff => rfl
    | returned => simp [hstanding, Standing.isPending] at h
  rw [Attempt.after_pending h, hnone]
  rfl

end Attempts

/-! ## Chronicles that are kept -/

namespace Chronicle

variable {chronicle : Chronicle} {past : List Action} {pool : Pool} {action : Action} {id : Nat}

/-- The chronicle was kept through the past of the pool: every attempt told what it had to, the
pending ones are the calls that there are, nothing else was told of acquisitions, no call
completed besides those of attempts that returned and of populations, whoever gave up was let go
by some action of the past, and nobody broke off unless the waits are limited beyond the latest
instant of the clock. -/
structure Kept (chronicle : Chronicle) (past : List Action) (pool : Pool) : Prop where
  wellTold : ∀ attempt ∈ chronicle.attempts, attempt.WellTold
  offered : ∀ offer ∈ chronicle.offers, Offered offer.reply offer.told
  pending : (pendingCalls chronicle.attempts).Perm pool.callIds
  logged : pool.stock.acquisitions.Perm
    (chronicle.attempts.flatMap Attempt.told ++ chronicle.offers.flatMap Offer.told)
  completed : pool.results.Perm
    (chronicle.attempts.flatMap Attempt.completions ++ chronicle.fills)
  dismissed : ∀ attempt ∈ chronicle.attempts, attempt.standing = .givenUp →
    ∃ action ∈ past, action.Dismisses attempt.call
  watched : ∀ id, pool.Watches id → ∃ action ∈ past, action.Dismisses id
  brokenOff : ∀ attempt ∈ chronicle.attempts, attempt.standing = .brokenOff →
    pool.deadlineFits = false

namespace Kept

/-- Whoever is excused at an action was let go by it or by an action of the past. -/
theorem excused (h : chronicle.Kept past pool) (hexcused : pool.Excused action id) :
    ∃ other ∈ past ++ [action], other.Dismisses id := by
  rcases hexcused with hdismisses | hwatches
  · exact ⟨action, List.mem_append_right _ (List.mem_singleton_self _), hdismisses⟩
  · obtain ⟨other, hother, hdismisses⟩ := h.watched id hwatches
    exact ⟨other, List.mem_append_left _ hother, hdismisses⟩

/-- The call of a pending attempt is there. -/
theorem call_mem (h : chronicle.Kept past pool) {attempt : Attempt}
    (hattempt : attempt ∈ chronicle.attempts) (hpending : attempt.standing.isPending = true) :
    attempt.call ∈ pool.callIds := by
  rw [← h.pending.mem_iff]
  exact List.mem_map_of_mem (List.mem_filter.2 ⟨hattempt, hpending⟩)

/-- The pending attempts are the calls that there are after an action. -/
theorem pending_calls (h : chronicle.Kept past pool) (hdealt : pool.Dealt action) :
    (pendingCalls (chronicle.after pool action).attempts).Perm (pool.after action).callIds := by
  have hsplit : pendingCalls (chronicle.after pool action).attempts =
      (pendingCalls chronicle.attempts ++ (pool.begins action).map Attempt.call).filter
        fun id => id ∈ (pool.after action).callIds := by
    rw [List.filter_append, ← pending_after, ← pending_begins]
    simp only [pendingCalls, after, List.filter_append, List.map_append]
  have hbefore := (h.pending.append_right ((pool.begins action).map Attempt.call)).filter
    fun id => decide (id ∈ (pool.after action).callIds)
  rw [hsplit]
  refine hbefore.trans ?_
  -- Both lists name each call once, and the same ones.
  refine (List.perm_ext_iff_of_nodup (hdealt.fresh.filter _)
    (hdealt.calls.nodup hdealt.fresh)).2 ?_
  intro id
  rw [List.mem_filter, decide_eq_true_iff]
  exact ⟨fun hid => hid.2, fun hid => ⟨hdealt.calls.mem hid, hid⟩⟩

/-- All that is told of acquisitions after an action is told by the attempts. -/
theorem told_by_attempts (h : chronicle.Kept past pool) (hdealt : pool.Dealt action)
    (htold : (pool.after action).stock.acquisitions =
      pool.stock.acquisitions ++ pool.tells action) :
    (pool.after action).stock.acquisitions.Perm
      ((chronicle.after pool action).attempts.flatMap Attempt.told ++
        (chronicle.after pool action).offers.flatMap Offer.told) := by
  have hattempts :=
    (flatMap_after (fun _ => Attempt.told_after) chronicle.attempts).trans
      (.append_left _ (h.pending.flatMap_right (pool.tellsOf action)))
  have hlogged := h.logged
  have hnews := hdealt.told
  rw [htold, after, List.flatMap_append, List.flatMap_append]
  rw [← Multiset.coe_eq_coe] at hattempts hlogged hnews ⊢
  simp only [← Multiset.coe_add] at hattempts hlogged hnews ⊢
  rw [hattempts, hlogged, hnews]
  ac_rfl

/-- The completions after an action are those of the attempts and of the populations. -/
theorem completed_attempts (h : chronicle.Kept past pool) (hdealt : pool.Dealt action)
    (hresults : (pool.after action).results = pool.results ++ pool.ends action) :
    (pool.after action).results.Perm
      ((chronicle.after pool action).attempts.flatMap Attempt.completions ++
        (chronicle.after pool action).fills) := by
  have hattempts :=
    (flatMap_after (fun _ => Attempt.completions_after) chronicle.attempts).trans
      (.append_left _ (h.pending.flatMap_right fun id => (pool.standing action id).completions))
  have hcompleted := h.completed
  have hended := hdealt.ended
  rw [hresults, after, List.flatMap_append]
  rw [← Multiset.coe_eq_coe] at hattempts hcompleted hended ⊢
  simp only [← Multiset.coe_add] at hattempts hcompleted hended ⊢
  rw [hattempts, hcompleted, hended]
  ac_rfl

/-- A chronicle that was kept is kept through every action. -/
theorem after (h : chronicle.Kept past pool) (hreachable : pool.Reachable) (action : Action) :
    (chronicle.after pool action).Kept (past ++ [action]) (pool.after action) := by
  have hcoherent := hreachable.sound.1
  have hdealt := Pool.dealt hcoherent action
  obtain ⟨ids, -, hgoes⟩ := Pool.after_deal hcoherent action
  refine ⟨?_, ?_, h.pending_calls hdealt, h.told_by_attempts hdealt hgoes.told,
    h.completed_attempts hdealt hgoes.results, ?_, ?_, ?_⟩
  · intro attempt hattempt
    rcases List.mem_append.1 hattempt with hattempt | hattempt
    · obtain ⟨before, hbefore, rfl⟩ := List.mem_map.1 hattempt
      exact (h.wellTold before hbefore).after fun hpending =>
        hdealt.turns _ (h.call_mem hbefore hpending)
    · exact hdealt.begun attempt hattempt
  · intro offer hoffer
    rcases List.mem_append.1 hoffer with hoffer | hoffer
    · exact h.offered offer hoffer
    · exact hdealt.offered offer hoffer
  · intro attempt hattempt hgivenUp
    rcases List.mem_append.1 hattempt with hattempt | hattempt
    · obtain ⟨before, hbefore, rfl⟩ := List.mem_map.1 hattempt
      cases hpending : before.standing.isPending with
      | false =>
          rw [Attempt.after_over hpending] at hgivenUp ⊢
          obtain ⟨other, hother, hdismisses⟩ := h.dismissed before hbefore hgivenUp
          exact ⟨other, List.mem_append_left _ hother, hdismisses⟩
      | true =>
          rw [Attempt.after_pending hpending] at hgivenUp ⊢
          have hhere := h.call_mem hbefore hpending
          exact h.excused (hdealt.gone _ (List.mem_append_left _ hhere) hgivenUp)
    · rw [Pool.begins_standing attempt hattempt] at hgivenUp
      exact h.excused (hdealt.gone _
        (List.mem_append_right _ (List.mem_map_of_mem hattempt)) hgivenUp)
  · rintro id ⟨wire, hwire, rfl⟩
    rcases hgoes.wires wire hwire with hwire | hexcused
    · exact h.excused (.inr ⟨wire, hwire, rfl⟩)
    · exact h.excused hexcused
  · intro attempt hattempt hbroken
    refine Pool.deadline_fits_never (hreachable.step action).later ?_
    rcases List.mem_append.1 hattempt with hattempt | hattempt
    · obtain ⟨before, hbefore, rfl⟩ := List.mem_map.1 hattempt
      cases hpending : before.standing.isPending with
      | false =>
          rw [Attempt.after_over hpending] at hbroken
          exact h.brokenOff before hbefore hbroken
      | true =>
          rw [Attempt.after_pending hpending] at hbroken
          exact Pool.standing_broken_off hbroken
    · rw [Pool.begins_standing attempt hattempt] at hbroken
      exact Pool.standing_broken_off hbroken

/-- A chronicle that was kept is kept through every history. -/
theorem run (h : chronicle.Kept past pool) (hreachable : pool.Reachable) (history : List Action) :
    (chronicle.run pool history).Kept (past ++ history) (pool.run history) := by
  induction history generalizing chronicle past pool with
  | nil =>
      rw [List.append_nil]
      exact h
  | cons action rest ih =>
      have hrest := ih (h.after hreachable action) (hreachable.after action)
      rw [List.append_assoc] at hrest
      exact hrest

end Kept

end Chronicle

/-! ## One outcome each -/

/-- What began is acquired, failed, pending or given up, or it broke off. -/
theorem Attempt.WellTold.balance {attempt : Attempt} (h : attempt.WellTold) :
    EventType.acquisitionStarted.among attempt.told =
      EventType.acquired.among attempt.told + EventType.acquisitionFailed.among attempt.told +
        (if attempt.standing.isPending then 1 else 0) +
        (if attempt.standing.isGivenUp then 1 else 0) +
        (if attempt.standing.isBrokenOff then 1 else 0) := by
  cases h with
  | pending | givenUp | brokenOff => rfl
  | @returned completion kind reported =>
      generalize completion.result = result at reported
      cases reported <;> rfl

/-- What does not wait is acquired or failed if it is told of at all. -/
theorem Offered.balance {reply : Reply} {told : List EventKind} (h : Offered reply told) :
    EventType.acquisitionStarted.among told =
      EventType.acquired.among told + EventType.acquisitionFailed.among told := by
  cases h <;> rfl

/-- All attempts that began were acquired, failed, are pending, were given up or broke off. -/
theorem attempts_balance {attempts : List Attempt} (h : ∀ attempt ∈ attempts, attempt.WellTold) :
    EventType.acquisitionStarted.among (attempts.flatMap Attempt.told) =
      EventType.acquired.among (attempts.flatMap Attempt.told) +
        EventType.acquisitionFailed.among (attempts.flatMap Attempt.told) +
        (pendingCalls attempts).length +
        (attempts.countP fun attempt => attempt.standing.isGivenUp) +
        attempts.countP fun attempt => attempt.standing.isBrokenOff := by
  induction attempts with
  | nil => rfl
  | cons attempt rest ih =>
      have hfirst := (h attempt List.mem_cons_self).balance
      have hrest := ih fun other hother => h other (.tail _ hother)
      rw [List.flatMap_cons, EventType.among_append, EventType.among_append,
        EventType.among_append, List.countP_cons, List.countP_cons]
      cases hpending : attempt.standing.isPending with
      | true =>
          rw [hpending, if_pos rfl] at hfirst
          rw [pending_cons hpending, List.length_cons]
          omega
      | false =>
          rw [hpending, if_neg Bool.false_ne_true] at hfirst
          rw [over_cons hpending]
          omega

/-- All attempts that did not wait were acquired or failed. -/
theorem offers_balance {offers : List Offer} (h : ∀ offer ∈ offers,
    Offered offer.reply offer.told) :
    EventType.acquisitionStarted.among (offers.flatMap Offer.told) =
      EventType.acquired.among (offers.flatMap Offer.told) +
        EventType.acquisitionFailed.among (offers.flatMap Offer.told) := by
  induction offers with
  | nil => rfl
  | cons offer rest ih =>
      have hfirst := (h offer List.mem_cons_self).balance
      have hrest := ih fun other hother => h other (.tail _ hother)
      rw [List.flatMap_cons, EventType.among_append, EventType.among_append,
        EventType.among_append]
      omega

namespace Pool

variable {pool opened : Pool}

/-- What is told of acquisitions is counted in the log. -/
theorem count_acquisitions (pool : Pool) {type : EventType}
    (htype : type ∈ [EventType.acquisitionStarted, .acquired, .acquisitionFailed]) :
    pool.count type = type.among pool.stock.acquisitions := by
  rw [count, EventType.among, EventType.among, Inventory.acquisitions, List.countP_filter]
  refine List.countP_congr ?_
  intro kind _
  simp only [List.mem_cons, List.not_mem_nil, or_false] at htype
  rcases htype with rfl | rfl | rfl <;> cases kind <;>
    simp [EventKind.type, EventKind.isAcquisition]

/-- A chronicle that was kept accounts for the acquisitions in the log. -/
theorem kept_balance {chronicle : Chronicle} {past : List Action} (h : chronicle.Kept past pool) :
    pool.count .acquisitionStarted =
      pool.count .acquired + pool.count .acquisitionFailed + pool.calls.length +
        (chronicle.attempts.countP fun attempt => attempt.standing.isGivenUp) +
        chronicle.attempts.countP fun attempt => attempt.standing.isBrokenOff := by
  have hattempts := attempts_balance h.wellTold
  have hoffers := offers_balance h.offered
  have hpending : (pendingCalls chronicle.attempts).length = pool.calls.length := by
    rw [h.pending.length_eq, callIds, List.length_map]
  have hsplit : ∀ type : EventType, type.among pool.stock.acquisitions =
      type.among (chronicle.attempts.flatMap Attempt.told) +
        type.among (chronicle.offers.flatMap Offer.told) := by
    intro type
    rw [← EventType.among_append]
    exact h.logged.countP_eq _
  rw [count_acquisitions pool (by simp), count_acquisitions pool (by simp),
    count_acquisitions pool (by simp), hsplit, hsplit, hsplit]
  omega

/-- An acquisition breaks off just when it begins and the clock does not have its deadline. -/
theorem broken_off_iff (pool : Pool) (id : Nat) :
    pool.standing (.acquire id) id = .brokenOff ↔
      (pool.held && !pool.isPending id) = true ∧ pool.deadlineFits = false := by
  have hiff : pool.breaksOff (.acquire id) id = true ↔
      (pool.held && !pool.isPending id) = true ∧ pool.deadlineFits = false := by
    rw [breaksOff, Bool.and_eq_true, Bool.and_eq_true, beq_self_eq_true, Bool.not_eq_true',
      eq_self_iff_true, true_and]
  rw [← hiff]
  constructor
  · intro hbroken
    unfold standing at hbroken
    split at hbroken
    · cases hbroken
    · split at hbroken
      · cases hbroken
      · split at hbroken
        · assumption
        · cases hbroken
  · intro hbreaks
    obtain ⟨hmade, hfits⟩ := hiff.1 hbreaks
    have hgoes : pool.Goes (pool.Excused (.acquire id))
        (pool.callIds ++ if pool.deadlineFits then [id] else []) [.acquisitionStarted] []
        (pool.step (.acquire id)).2 := start_acquire_goes hmade
    rw [hfits, if_neg Bool.false_ne_true, List.append_nil] at hgoes
    have hgone : id ∉ (pool.after (.acquire id)).callIds := fun hid =>
      fresh_of_made hmade (hgoes.after.calls.mem hid)
    rw [standing, if_neg hgone, hgoes.after.ends, List.find?_nil]
    exact if_pos hbreaks

/-- Every acquisition has exactly one outcome, after any history. A chronicle is kept of the
attempts, so that each told that it began and, once it returned, how, with the connection that
it returned or the reason of its error; one that is given up told nothing more. Hence those that
began were acquired, failed, are in flight, were given up or broke off, and the metrics count
those that were acquired and those that failed. An acquisition breaks off just when the clock
does not have its deadline, so none does while it has it. -/
theorem attempts_settled {config : Config} {source : LinkSource} {network : Network}
    {now : Instant} {chronicle : Chronicle}
    (hopened : create config source network now = .ok opened) (history : List Action)
    (hpool : pool = opened.run history)
    (hchronicle : chronicle = Chronicle.run {} opened history) :
    chronicle.Kept history pool ∧
      pool.count .acquisitionStarted =
        pool.count .acquired + pool.count .acquisitionFailed + pool.calls.length +
          (chronicle.attempts.countP fun attempt => attempt.standing.isGivenUp) +
          (chronicle.attempts.countP fun attempt => attempt.standing.isBrokenOff) ∧
      pool.stock.metrics.succeeded = pool.count .acquired ∧
      pool.stock.metrics.failed = pool.count .acquisitionFailed ∧
      (pool.deadlineFits = true →
        (chronicle.attempts.countP fun attempt => attempt.standing.isBrokenOff) = 0) ∧
      ∀ id, pool.standing (.acquire id) id = .brokenOff ↔
        (pool.held && !pool.isPending id) = true ∧ pool.deadlineFits = false := by
  have hreachable : opened.Reachable := .opened hopened
  have hstart : Chronicle.Kept {} [] opened := by
    unfold create at hopened
    split at hopened
    · cases hopened
    · cases hopened
      refine ⟨by simp, by simp, .refl _, .refl _, .refl _, by simp, ?_, by simp⟩
      rintro id ⟨wire, hwire, -⟩
      cases hwire
  have hkept : chronicle.Kept history pool := by
    rw [hpool, hchronicle]
    exact hstart.run hreachable history
  have hmetrics := (hreachable.run history).metrics_counted
  rw [← hpool] at hmetrics
  refine ⟨hkept, kept_balance hkept, ?_, ?_, ?_, broken_off_iff pool⟩
  · rw [hmetrics]
  · rw [hmetrics]
  · intro hfits
    refine List.countP_eq_zero.2 fun attempt hattempt hbroken => ?_
    have hstanding : attempt.standing = .brokenOff := by
      generalize attempt.standing = standing at hbroken ⊢
      cases standing <;> first | rfl | cases hbroken
    rw [hkept.brokenOff attempt hattempt hstanding] at hfits
    cases hfits

/-- Of the calls of the busy small pool one has acquired a connection. The other is given up,
and a third one does not wait: so three began, and two were acquired. -/
theorem busy_settled :
    (small.run (getBusy ++ [.cancel 2, .tryAcquire])).stock.metrics.succeeded = 2 ∧
      (small.run (getBusy ++ [.cancel 2, .tryAcquire])).count .acquisitionStarted = 3 := by
  obtain ⟨-, hbalance, hsucceeded, -, hfitting, -⟩ :=
    attempts_settled small_opened (getBusy ++ [.cancel 2, .tryAcquire]) rfl rfl
  have hacquired : (small.run (getBusy ++ [.cancel 2, .tryAcquire])).count .acquired = 2 := by
    decide +kernel
  have hfailed : (small.run (getBusy ++ [.cancel 2, .tryAcquire])).count
      .acquisitionFailed = 0 := by
    decide +kernel
  have hcalls : (small.run (getBusy ++ [.cancel 2, .tryAcquire])).calls.length = 0 := by
    decide +kernel
  have hgivenUp : ((Chronicle.run {} small (getBusy ++ [.cancel 2, .tryAcquire])).attempts.countP
      fun attempt => attempt.standing.isGivenUp) = 1 := by
    decide +kernel
  have hbrokenOff := hfitting (by decide +kernel)
  rw [hacquired, hfailed, hcalls, hgivenUp, hbrokenOff] at hbalance
  exact ⟨hsucceeded.trans hacquired, hbalance⟩

/-- A configuration that limits waits to the longest duration that there is, of 64-bit seconds. -/
def farLimit : Config :=
  { waitQueueTimeout := some (Duration.ofParts (UInt64.size - 1) 999999999) }

/-- A pool that was opened with it. -/
def patient : Pool where
  stock := ({ config := farLimit, source := .simulated, network := {}, now := 0 } :
    Inventory).emit
    (.poolCreated farLimit.options)
  queue := .empty 0 0 .localhost
  populations := [⟨.opening, 0, .reserving⟩]
  openedAt := 0

/-- Such a configuration is accepted. An acquisition of the pool begins and has no outcome: it
is neither acquired nor failed nor in flight, and nobody gave it up. -/
theorem far_limit_breaks_off :
    create farLimit .simulated {} 0 = .ok patient ∧
      (patient.run [.reserve .opening, .acquire 1]).count .acquisitionStarted = 1 ∧
      (patient.run [.reserve .opening, .acquire 1]).count .acquired = 0 ∧
      (patient.run [.reserve .opening, .acquire 1]).count .acquisitionFailed = 0 ∧
      (patient.run [.reserve .opening, .acquire 1]).calls.length = 0 ∧
      ((Chronicle.run {} patient [.reserve .opening, .acquire 1]).attempts.countP
        fun attempt => attempt.standing.isGivenUp) = 0 :=
  ⟨rfl, by decide +kernel, by decide +kernel, by decide +kernel, by decide +kernel,
    by decide +kernel⟩

end Pool

end ConnectionPool
