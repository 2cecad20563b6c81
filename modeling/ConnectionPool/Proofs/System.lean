import ConnectionPool.Proofs.Story
import ConnectionPool.System

/-!
# Pools of a system

Whatever happens in a system, and to whichever of its pools a connection is released, to each
pool there happens nothing but actions. So each is reachable by itself, and what holds of all
reachable pools holds of it.
-/

namespace ConnectionPool.System

/-- The systems that come of opening pools, taking any actions at them, following these up,
releasing any connections to any pool, and time that passes. -/
inductive Reachable : System → Prop where
  | empty (now : Instant) : Reachable { now := now }
  | add {system : System} (h : Reachable system) {config : Config} {source : LinkSource}
      {network : Network} {now : Instant} {pool : Pool}
      (hcreate : Pool.create config source network now = .ok pool) : Reachable (system.add pool)
  | after {system : System} (h : Reachable system) (index : Nat) (action : Action) :
      Reachable (system.after index action)
  | follow {system : System} (h : Reachable system) (before : System) :
      Reachable (system.follow before)
  | release {system : System} (h : Reachable system) (index home connection : Nat)
      (force : Bool) : Reachable (system.release index home connection force).2
  | elapse {system : System} (h : Reachable system) (span : Duration) :
      Reachable (system.elapse span)

variable {system : System} {index home connection : Nat} {pool lender : Pool} {loan : Connection}

/-- The pool at which an action is taken comes to what the action does to it. -/
theorem after_pools (hpool : system.pools[index]? = some pool) (action : Action) :
    system.after index action =
      { system with pools := system.pools.set index (pool.after action) } := by
  simp only [after, perform, hpool]
  rfl

/-- The pool at which an action was taken is what the action made of it. -/
theorem after_pool (hpool : system.pools[index]? = some pool) (action : Action) :
    (system.after index action).pools[index]? = some (pool.after action) := by
  obtain ⟨hbound, -⟩ := List.getElem?_eq_some_iff.1 hpool
  rw [after_pools hpool]
  exact List.getElem?_set_self hbound

/-- Actions that are taken at one pool make of it what they make of the pool by itself. -/
theorem after_all_pools (hpool : system.pools[index]? = some pool) (actions : List Action) :
    (actions.foldl (fun system action => system.after index action) system).pools =
      system.pools.set index (pool.run actions) := by
  induction actions generalizing system pool with
  | nil =>
      obtain ⟨hbound, rfl⟩ := List.getElem?_eq_some_iff.1 hpool
      exact (List.set_getElem_self hbound).symm
  | cons action rest ih =>
      rw [List.foldl_cons, ih (after_pool hpool action), after_pools hpool, List.set_set]
      rfl

/-- A connection that is released to a pool that did not issue it is refused, and goes home as
if it were dropped. -/
theorem release_foreign (hpool : system.pools[index]? = some pool) (hheld : pool.held = true)
    (hlender : system.pools[home]? = some lender) (hloan : lender.loan? connection = some loan)
    (hforeign : index ≠ home) (force : Bool) :
    system.release index home connection force =
      (.returned (.error (.foreignConnection pool.config.id pool.config.address loan.info)),
        system.after home (.drop connection)) := by
  rw [release, if_neg hforeign, hpool, hlender, Option.bind_some, hloan]
  exact if_pos hheld

/-- An action at one pool of the system happens to that pool. -/
theorem after_reachable (h : ∀ pool ∈ system.pools, pool.Reachable) (index : Nat)
    (action : Action) : ∀ pool ∈ (system.after index action).pools, pool.Reachable := by
  unfold after perform
  split
  · exact h
  · next pool hindex =>
      intro other hother
      rcases List.mem_or_eq_of_mem_set hother with hother | rfl
      · exact h other hother
      · exact (h pool (List.mem_of_getElem? hindex)).after action

/-- Following up what happened gives up calls, each of which happens to one pool. -/
theorem follow_within_reachable (fuel : Nat) (sequels : List Sequel)
    (h : ∀ pool ∈ system.pools, pool.Reachable) :
    ∀ pool ∈ (followWithin fuel sequels system).pools, pool.Reachable := by
  -- What is to be followed up may grow in a step, hence the induction is on the fuel.
  induction fuel generalizing sequels system with
  | zero => exact h
  | succ fuel ih =>
      match sequels with
      | [] => exact h
      | .events index events :: rest => exact ih rest h
      | .giveUp call :: rest =>
          unfold followWithin
          split
          · exact ih rest h
          · next pool index hfind =>
              refine ih _ ?_
              intro other hother
              rcases List.mem_or_eq_of_mem_set hother with hother | rfl
              · exact h other hother
              · have hmem := List.mem_of_find?_eq_some hfind
                exact (h pool (List.fst_mem_of_mem_zipIdx hmem)).after _

/-- Every pool of a reachable system is reachable by itself. -/
theorem Reachable.pools (h : Reachable system) : ∀ pool ∈ system.pools, pool.Reachable := by
  induction h with
  | empty => exact fun pool hpool => absurd hpool List.not_mem_nil
  | add _ hcreate ih =>
      intro pool hpool
      rcases List.mem_append.1 hpool with hpool | hpool
      · exact ih pool hpool
      · obtain rfl := List.mem_singleton.1 hpool
        exact .opened hcreate
  | after _ index action ih => exact after_reachable ih index action
  | follow _ before ih => exact follow_within_reachable _ _ ih
  | release _ index home connection force ih =>
      unfold System.release
      split
      · exact after_reachable ih index _
      · split
        · split
          · exact after_reachable ih home _
          · exact ih
        · exact ih
  | elapse _ span ih =>
      intro pool hpool
      obtain ⟨before, hbefore, rfl⟩ := List.mem_map.1 hpool
      exact (ih before hbefore).after _

/-- The events of a pool about any connection are a story that there is, and its connections
were created under the ids 1, 2, 3 and so on. -/
theorem Reachable.stories_told (h : Reachable system) :
    ∀ pool ∈ system.pools,
      (∀ id, Lifetime (story (pool.log.map Event.kind) id)) ∧
        births (pool.log.map Event.kind) = List.range' 1 (pool.stock.nextConnection - 1) := by
  intro pool hpool
  have htold := (h.pools pool hpool).told
  exact ⟨htold.lifetimes, htold.numbered⟩

/-- The small pool gets a connection and lends it. -/
def getLent : List Action :=
  Pool.openEmpty ++ Pool.addOne ++ [.tryAcquire]

/-- A small pool of the system gets a connection and lends it. -/
def lendOne (system : System) (index : Nat) : System :=
  getLent.foldl (fun system action => system.after index action) system

/-- Two small pools of the same id, each of which has lent a connection of the same id. -/
def twoLent : System :=
  (((({ now := 0 } : System).add Pool.small).add Pool.small).lendOne 0).lendOne 1

/-- The system of two pools is one that can be reached. -/
theorem two_lent_reachable : twoLent.Reachable := by
  have hlend : ∀ {system : System}, system.Reachable →
      ∀ index, (system.lendOne index).Reachable :=
    fun h index => List.foldlRecOn _ _ h fun _ h action _ => h.after index action
  exact hlend (hlend (((Reachable.empty 0).add Pool.small_opened).add Pool.small_opened) 0) 1

/-- Both have done so by themselves. -/
theorem two_lent_pools : twoLent.pools = [Pool.small.run getLent, Pool.small.run getLent] := by
  unfold twoLent
  have hadded : ((({ now := 0 } : System).add Pool.small).add Pool.small).pools =
      [Pool.small, Pool.small] := rfl
  generalize (({ now := 0 } : System).add Pool.small).add Pool.small = system at hadded
  have hfirst : (system.lendOne 0).pools = [Pool.small.run getLent, Pool.small] := by
    have hpool : system.pools[0]? = some Pool.small := by rw [hadded]; rfl
    rw [lendOne, after_all_pools hpool, hadded, List.set_cons_zero]
  have hpool : (system.lendOne 0).pools[1]? = some Pool.small := by rw [hfirst]; rfl
  rw [lendOne, after_all_pools hpool, hfirst, List.set_cons_succ, List.set_cons_zero]

/-- What the first of the two pools has lent is released to the second, which refuses it. It
comes home, and is closed there with the pool. That is the story of the second connection of the
first pool; the first one could not be established. -/
theorem small_stories :
    (twoLent.release 1 0 2 false).1 =
        .returned (.error (.foreignConnection 0 .localhost ⟨2, 0, 0, .localhost⟩)) ∧
      ∃ pool ∈ ((twoLent.release 1 0 2 false).2.after 0 .close).pools,
        story (pool.log.map Event.kind) 1 = [.created, .closed] ∧
        story (pool.log.map Event.kind) 2 = [.created, .ready, .acquired, .released, .closed] ∧
        (∀ id, Lifetime (story (pool.log.map Event.kind) id)) ∧
        births (pool.log.map Event.kind) = [1, 2] := by
  have hlender : twoLent.pools[0]? = some (Pool.small.run getLent) := by rw [two_lent_pools]; rfl
  have hrefuser : twoLent.pools[1]? = some (Pool.small.run getLent) := by rw [two_lent_pools]; rfl
  have hinfo : ((Pool.small.run getLent).loan? 2).map Connection.info =
      some ⟨2, 0, 0, .localhost⟩ := by decide +kernel
  obtain ⟨loan, hloan, hinfo⟩ := Option.map_eq_some_iff.1 hinfo
  have hreleased := release_foreign hrefuser (by decide +kernel) hlender hloan (by decide) false
  have hhome : ((twoLent.release 1 0 2 false).2.after 0 .close).pools[0]? =
      some (Pool.small.run (getLent ++ [.drop 2, .close])) := by
    rw [hreleased, Pool.run_append]
    exact after_pool (after_pool hlender (.drop 2)) .close
  obtain ⟨hlifetimes, hnumbered⟩ :=
    ((two_lent_reachable.release 1 0 2 false).after 0 .close).stories_told _
      (List.mem_of_getElem? hhome)
  refine ⟨?_, _, List.mem_of_getElem? hhome, by decide +kernel, by decide +kernel, hlifetimes,
    hnumbered⟩
  rw [hreleased, hinfo]
  rfl

end ConnectionPool.System
