import ConnectionPool.Proofs.Pool.Service

/-!
# What observers do

Tripwires see the events of the log one after the other, and each goes off at the first event of
its type. Apart from the tripwires that are spent and the departures that are noted, all this
comes to is that callers go away: `fire_bare` says which, and `lose_all_last` that their order
does not matter. So the callers that leave at an event may be taken one by one, in whatever
order suits.
-/

namespace ConnectionPool

namespace Tripwire

/-- The callers of the tripwires that go off at these events. -/
def struck : List Event → List Tripwire → List Nat
  | [], _ => []
  | event :: rest, wires =>
      (wires.filter fun wire => event.type == wire.type).map Tripwire.call ++
        struck rest (wires.filter fun wire => event.type != wire.type)

/-- The tripwires that do not go off at these events. -/
def unspent (events : List Event) (wires : List Tripwire) : List Tripwire :=
  wires.filter fun wire => events.all fun event => event.type != wire.type

variable {events : List Event} {wires : List Tripwire}

/-- The events are for no tripwire that is left. -/
theorem unspent_unseen :
    ∀ wire ∈ unspent events wires, ∀ event ∈ events, event.type ≠ wire.type := by
  intro wire hwire event hevent
  simpa using List.all_eq_true.1 (List.mem_filter.1 hwire).2 event hevent

/-- Without the tripwires of some callers the others are struck as before. -/
theorem struck_filter (events : List Event) (wires : List Tripwire) (keep : Nat → Bool) :
    struck events (wires.filter fun wire => keep wire.call) =
      (struck events wires).filter keep := by
  induction events generalizing wires with
  | nil => rfl
  | cons event rest ih =>
      have hhit : ((wires.filter fun wire => keep wire.call).filter
          fun wire => event.type == wire.type).map Tripwire.call =
          ((wires.filter fun wire => event.type == wire.type).map Tripwire.call).filter keep := by
        rw [List.filter_comm, List.filter_map]
        rfl
      rw [struck, struck, List.filter_append, hhit, List.filter_comm, ih]

end Tripwire

namespace Pool

variable {pool next : Pool} {id : Nat} {call : Call}

/-- The pool but for its tripwires and the departures that they noted. -/
def bare (pool : Pool) : Pool :=
  { pool with tripwires := [], departures := [] }

/-- The pool without the tripwires of the caller. -/
def calm (pool : Pool) (id : Nat) : Pool :=
  { pool with tripwires := pool.tripwires.filter fun wire => wire.call != id }

/-- What pools that are bare the same differ in. -/
theorem eq_of_bare (h : pool.bare = next.bare) :
    pool = { next with tripwires := pool.tripwires, departures := pool.departures } :=
  calc pool = { pool.bare with tripwires := pool.tripwires, departures := pool.departures } := rfl
    _ = { next.bare with tripwires := pool.tripwires, departures := pool.departures } := by rw [h]

/-! ## Callers that go away -/

/-- Whether a caller goes away is no matter of tripwires. -/
theorem lose_waiter_bare (pool : Pool) (id : Nat) :
    (pool.loseWaiter id).bare = pool.bare.loseWaiter id := by
  have hcall : pool.bare.call? id = pool.call? id := rfl
  unfold loseWaiter
  rw [hcall]
  split <;> rfl

/-- Whether callers go away is no matter of tripwires. -/
theorem lose_all_bare (pool : Pool) (ids : List Nat) :
    (pool.loseAll ids).bare = pool.bare.loseAll ids :=
  (List.foldl_hom bare fun pool id => (lose_waiter_bare pool id).symm).symm

/-- A call that is removed is not found any more. -/
theorem call_remove_self (pool : Pool) (id : Nat) : (pool.removeCall id).call? id = none := by
  simp [call?, removeCall]

/-- The other calls are found as before when a call is removed. -/
theorem call_remove_other {other : Nat} (pool : Pool) (hne : other ≠ id) :
    (pool.removeCall id).call? other = pool.call? other := by
  simp only [call?, removeCall, List.find?_filter]
  refine congrArg (List.find? · pool.calls) (funext fun call => ?_)
  by_cases hid : call.id = other <;> simp [hid, hne]

/-- Another caller that goes away leaves a call as it is. -/
theorem lose_waiter_call {other : Nat} (pool : Pool) (hne : other ≠ id) :
    (pool.loseWaiter id).call? other = pool.call? other := by
  unfold loseWaiter
  split
  · exact call_remove_other pool hne
  · exact call_remove_other pool hne
  · rfl

/-- The pool after the call went away, with its place in line if it had one. -/
def without (pool : Pool) (id : Nat) (place : Option Nat) : Pool :=
  { pool.removeCall id with queue := place.elim pool.queue pool.queue.abandon }

/-- The place in line with which a caller goes away, if its phase is one in which callers do. -/
def leaving : Phase → Option (Option Nat)
  | .queued member => some (some member)
  | .answered (.error _) => some none
  | _ => none

/-- A caller goes away if its phase has it so. -/
theorem lose_waiter_eq (pool : Pool) (id : Nat) :
    pool.loseWaiter id =
      ((pool.call? id).bind fun call => leaving call.phase).elim pool (pool.without id) := by
  unfold loseWaiter
  cases pool.call? id with
  | none => rfl
  | some call =>
      rw [Option.map_some, Option.bind_some]
      rcases call.phase with _ | _ | (_ | _) | _ | _ <;> rfl

/-- A caller that waits in line is gone when it goes away. -/
theorem lose_waiter_gone
    (hqueued : ∀ call, pool.call? id = some call → ∃ member, call.phase = .queued member) :
    (pool.loseWaiter id).call? id = none := by
  rw [lose_waiter_eq]
  cases hfind : pool.call? id with
  | none => exact hfind
  | some call =>
      obtain ⟨member, hphase⟩ := hqueued call hfind
      rw [Option.bind_some, hphase]
      exact call_remove_self pool id

/-- A caller goes away once. -/
theorem lose_waiter_idem (pool : Pool) (id : Nat) :
    (pool.loseWaiter id).loseWaiter id = pool.loseWaiter id := by
  cases hleaving : (pool.call? id).bind fun call => leaving call.phase with
  | none =>
      have hstays : pool.loseWaiter id = pool := by rw [lose_waiter_eq, hleaving]; rfl
      rw [hstays, hstays]
  | some place =>
      have hgoes : pool.loseWaiter id = pool.without id place := by
        rw [lose_waiter_eq, hleaving]
        rfl
      have hgone : (pool.without id place).call? id = none := call_remove_self pool id
      rw [hgoes, lose_waiter_eq, hgone]
      rfl

/-- Two members are abandoned in either order. -/
theorem abandon_comm (queue : WaitQueue Nat) (first second : Nat) :
    (queue.abandon first).abandon second = (queue.abandon second).abandon first := by
  simp only [WaitQueue.abandon, List.map_map]
  congr 1
  refine List.map_congr_left fun member _ => ?_
  simp only [Function.comp_apply]
  split_ifs <;> simp_all

/-- Two calls are taken away in either order. -/
theorem without_comm (pool : Pool) (first second : Nat) (mine yours : Option Nat) :
    (pool.without first mine).without second yours =
      (pool.without second yours).without first mine := by
  have hcalls : (pool.removeCall first).removeCall second =
      (pool.removeCall second).removeCall first :=
    congrArg (fun calls => { pool with calls := calls }) (List.filter_comm _ _ _)
  have hqueue : yours.elim (mine.elim pool.queue pool.queue.abandon)
        (mine.elim pool.queue pool.queue.abandon).abandon =
      mine.elim (yours.elim pool.queue pool.queue.abandon)
        (yours.elim pool.queue pool.queue.abandon).abandon := by
    cases mine <;> cases yours <;> simp [abandon_comm]
  exact congrArg₂ (fun (next : Pool) queue => { next with queue := queue }) hcalls hqueue

/-- Two callers go away in either order. -/
theorem lose_waiter_comm (pool : Pool) (first second : Nat) :
    (pool.loseWaiter first).loseWaiter second = (pool.loseWaiter second).loseWaiter first := by
  by_cases hsame : first = second
  · rw [hsame]
  · rw [lose_waiter_eq (pool.loseWaiter first), lose_waiter_call pool (Ne.symm hsame),
      lose_waiter_eq (pool.loseWaiter second), lose_waiter_call pool hsame, lose_waiter_eq,
      lose_waiter_eq]
    cases (pool.call? first).bind fun call => leaving call.phase with
    | none => rfl
    | some mine =>
        cases (pool.call? second).bind fun call => leaving call.phase with
        | none => rfl
        | some yours => exact without_comm pool first second mine yours

/-- Whoever goes away first may as well go away last. -/
theorem lose_all_comm (pool : Pool) (ids : List Nat) (id : Nat) :
    (pool.loseWaiter id).loseAll ids = (pool.loseAll ids).loseWaiter id :=
  List.foldl_hom (fun pool : Pool => pool.loseWaiter id) fun pool other =>
    lose_waiter_comm pool id other

/-- Callers that are left out are not affected. -/
theorem lose_all_call (pool : Pool) {ids : List Nat} (hid : id ∉ ids) :
    (pool.loseAll ids).call? id = pool.call? id := by
  induction ids generalizing pool with
  | nil => rfl
  | cons other rest ih =>
      rw [List.mem_cons, not_or] at hid
      obtain ⟨hother, hrest⟩ := hid
      exact (ih (pool.loseWaiter other) hrest).trans (lose_waiter_call pool hother)

/-- It makes no difference whether a caller is left out that goes away in the end. -/
theorem lose_all_filter (pool : Pool) (ids : List Nat) (id : Nat) :
    (pool.loseAll (ids.filter (· != id))).loseWaiter id = (pool.loseAll ids).loseWaiter id := by
  induction ids generalizing pool with
  | nil => rfl
  | cons other rest ih =>
      by_cases hother : other = id
      · have hcons : pool.loseAll (id :: rest) = (pool.loseAll rest).loseWaiter id :=
          lose_all_comm pool rest id
        rw [hother, List.filter_cons_of_neg (by simp), ih, hcons, lose_waiter_idem]
      · rw [List.filter_cons_of_pos (by simpa using hother)]
        exact ih (pool.loseWaiter other)

/-- One of the callers may as well go away after all the others. -/
theorem lose_all_last (pool : Pool) {ids : List Nat} (hid : id ∈ ids) :
    pool.loseAll ids = (pool.loseAll (ids.filter (· != id))).loseWaiter id := by
  rw [lose_all_filter]
  obtain ⟨before, after, rfl⟩ := List.append_of_mem hid
  have hsplit : pool.loseAll (before ++ id :: after) =
      ((pool.loseAll before).loseAll after).loseWaiter id := by
    rw [loseAll, List.foldl_append, List.foldl_cons]
    exact lose_all_comm _ after id
  rw [hsplit, lose_waiter_idem]

/-- Callers that go away change the calls and who listens in line. -/
theorem lose_all_frame (pool : Pool) (ids : List Nat) :
    ∃ calls queue, pool.loseAll ids = { pool with calls := calls, queue := queue } := by
  induction ids generalizing pool with
  | nil => exact ⟨_, _, rfl⟩
  | cons id rest ih =>
      have hfirst : ∃ calls queue,
          pool.loseWaiter id = { pool with calls := calls, queue := queue } := by
        unfold loseWaiter
        split <;> exact ⟨_, _, rfl⟩
      obtain ⟨_, _, hfirst⟩ := hfirst
      obtain ⟨calls, queue, hrest⟩ := ih (pool.loseWaiter id)
      rw [hfirst] at hrest
      exact ⟨calls, queue, (congrArg (loseAll · rest) hfirst).trans hrest⟩

/-! ## Tripwires that go off -/

/-- All that a tripwire does to the rest of the pool is that its caller goes away. -/
theorem send_away_bare (pool : Pool) (id place : Nat) :
    (pool.sendAway id place).bare = pool.bare.loseWaiter id ∧
      (pool.sendAway id place).tripwires = pool.tripwires := by
  unfold sendAway
  split
  · refine ⟨lose_waiter_bare pool id, ?_⟩
    unfold loseWaiter
    split <;> rfl
  · next hpending =>
      simp only [isPending, Bool.or_eq_true, Option.isSome_iff_ne_none, not_or,
        not_not] at hpending
      have hcall : pool.bare.call? id = none := hpending.1
      rw [lose_waiter_eq, hcall]
      exact ⟨rfl, rfl⟩

/-- The tripwires that see an event make their callers go away, and are spent. -/
theorem fire_at_bare (pool : Pool) (event : Event) (place : Nat) :
    (pool.fireAt event place).bare =
        pool.bare.loseAll
          ((pool.tripwires.filter fun wire => event.type == wire.type).map Tripwire.call) ∧
      (pool.fireAt event place).tripwires =
        pool.tripwires.filter fun wire => event.type != wire.type := by
  have hsent : ∀ (hit : List Tripwire) (start : Pool),
      (hit.foldl (fun pool wire => pool.sendAway wire.call place) start).bare =
          start.bare.loseAll (hit.map Tripwire.call) ∧
        (hit.foldl (fun pool wire => pool.sendAway wire.call place) start).tripwires =
          start.tripwires := by
    intro hit
    induction hit with
    | nil => exact fun _ => ⟨rfl, rfl⟩
    | cons wire rest ih =>
        intro start
        obtain ⟨hbare, hwires⟩ := send_away_bare start wire.call place
        obtain ⟨hrest, hkept⟩ := ih (start.sendAway wire.call place)
        rw [hbare] at hrest
        exact ⟨hrest, hkept.trans hwires⟩
  unfold fireAt
  rw [List.partition_eq_filter_filter]
  exact hsent _ _

/-- The events of the log from some place on make the callers go away whose tripwires are for
them. -/
theorem fire_bare (pool : Pool) (place : Nat) :
    (pool.fire place).bare =
        pool.bare.loseAll (Tripwire.struck (pool.log.drop place) pool.tripwires) ∧
      (pool.fire place).tripwires = Tripwire.unspent (pool.log.drop place) pool.tripwires := by
  unfold fire
  generalize pool.log.drop place = events
  induction events generalizing pool place with
  | nil => exact ⟨rfl, (List.filter_eq_self.2 fun _ _ => rfl).symm⟩
  | cons event rest ih =>
      obtain ⟨hbare, hwires⟩ := fire_at_bare pool event place
      obtain ⟨hrest, hleft⟩ := ih (pool.fireAt event place) (place + 1)
      rw [List.zipIdx_cons, List.foldl_cons]
      constructor
      · rw [hrest, hbare, hwires, Tripwire.struck, loseAll, loseAll, loseAll, List.foldl_append]
      · rw [hleft, hwires, Tripwire.unspent, Tripwire.unspent, List.filter_filter]
        simp only [List.all_cons, Bool.and_comm]

/-- Events change the calls, who listens in line, the tripwires and the departures, and nothing
else. -/
theorem fire_frame (pool : Pool) (place : Nat) :
    ∃ calls queue wires departures, pool.fire place =
      { pool with
        calls := calls, queue := queue, tripwires := wires, departures := departures } := by
  obtain ⟨calls, queue, hlost⟩ :=
    lose_all_frame pool.bare (Tripwire.struck (pool.log.drop place) pool.tripwires)
  rw [← (fire_bare pool place).1] at hlost
  exact ⟨calls, queue, _, _, @eq_of_bare _ { pool with calls := calls, queue := queue } hlost⟩

/-- After an action comes what its events change, and the end of the pool if nobody has a part
in it. -/
theorem after_frame (pool : Pool) (action : Action) :
    ∃ calls queue wires departures, pool.after action = collect
      { (pool.step action).2 with
        calls := calls, queue := queue, tripwires := wires, departures := departures } := by
  obtain ⟨calls, queue, wires, departures, hfire⟩ :=
    fire_frame (pool.step action).2 pool.log.length
  exact ⟨calls, queue, wires, departures, congrArg collect hfire⟩

/-- What is told of an action is told by the action itself. -/
theorem after_log (pool : Pool) (action : Action) :
    (pool.after action).log = (pool.step action).2.log := by
  obtain ⟨calls, queue, wires, departures, hafter⟩ := after_frame pool action
  rw [hafter, collect]
  split <;> rfl

/-- What ends at an action is ended by the action itself. -/
theorem after_results (pool : Pool) (action : Action) :
    (pool.after action).results = (pool.step action).2.results := by
  obtain ⟨calls, queue, wires, departures, hafter⟩ := after_frame pool action
  rw [hafter, collect]
  split <;> rfl

/-- Events that no tripwire is for set nothing off. -/
theorem fire_unseen {place : Nat}
    (h : ∀ wire ∈ pool.tripwires, ∀ event ∈ pool.log.drop place, event.type ≠ wire.type) :
    pool.fire place = pool := by
  unfold fire
  generalize pool.log.drop place = events at h ⊢
  induction events generalizing place with
  | nil => rfl
  | cons event rest ih =>
      have hfirst : pool.fireAt event place = pool := by
        have hhit : (pool.tripwires.filter fun wire => event.type == wire.type) = [] := by
          refine List.filter_eq_nil_iff.2 fun wire hwire => ?_
          simpa using h wire hwire event List.mem_cons_self
        have hrest : (pool.tripwires.filter (not ∘ fun wire => event.type == wire.type)) =
            pool.tripwires := by
          refine List.filter_eq_self.2 fun wire hwire => ?_
          simpa using h wire hwire event List.mem_cons_self
        unfold fireAt
        rw [List.partition_eq_filter_filter, hhit, hrest]
        rfl
      rw [List.zipIdx_cons, List.foldl_cons]
      simp only [hfirst]
      exact ih fun wire hwire other hother => h wire hwire other (List.mem_cons_of_mem _ hother)

/-- Without the tripwires of a caller the events leave it alone, and all else is as with them,
except that the caller may go away. -/
theorem fire_calm (pool : Pool) (id place : Nat) :
    ((pool.calm id).fire place).call? id = pool.call? id ∧
      ((pool.fire place).bare = ((pool.calm id).fire place).bare ∨
        (pool.fire place).bare = ((pool.calm id).fire place).bare.loseWaiter id) := by
  have hbare := (fire_bare pool place).1
  have hcalm : ((pool.calm id).fire place).bare = pool.bare.loseAll
      ((Tripwire.struck (pool.log.drop place) pool.tripwires).filter (· != id)) := by
    rw [(fire_bare (pool.calm id) place).1]
    exact congrArg _ (Tripwire.struck_filter _ _ (· != id))
  rw [hbare]
  generalize Tripwire.struck (pool.log.drop place) pool.tripwires = struck at hcalm ⊢
  constructor
  · show ((pool.calm id).fire place).bare.call? id = pool.bare.call? id
    rw [hcalm]
    exact lose_all_call _ (by simp)
  · rw [hcalm]
    by_cases hstruck : id ∈ struck
    · exact .inr (lose_all_last _ hstruck)
    · have hall : struck.filter (· != id) = struck :=
        List.filter_eq_self.2 fun other hother => bne_iff_ne.2 fun heq => hstruck (heq ▸ hother)
      exact .inl (by rw [hall])

end Pool

end ConnectionPool
