import ConnectionPool.Proofs.Keyed
import ConnectionPool.Proofs.Reachable
import ConnectionPool.Proofs.Turns

/-!
# What becomes of the threads

The main sequence starts threads under names, and a name stands for the thread that was last
started under it. So what becomes of a thread is decided by the next operation about its name:
it is waited for, or another one is started under the name; else it is unattended when the run
ends (`fates`). When a run is over, each thread that was waited for has ended and its first
error was the run's end or was suppressed, and each that is unattended was aborted; a thread
whose name was given to another one is left behind, neither waited for nor aborted
(`threads_accounted`).
-/

namespace ConnectionPool.Conformance

/-! ## Fates -/

/-- What the main sequence has done about a thread. -/
inductive Fate where
  | unattended
  | waitedFor (suppressError : Bool)
  | startedAgain
  deriving DecidableEq, Repr

/-- What an operation changes about a thread of the name. -/
def Fate.after (name : String) (fate : Fate) (operation : Operation) : Fate :=
  match fate, operation with
  | .unattended, .start target => if target = name then .startedAgain else .unattended
  | .unattended, .waitForThread target suppressError =>
      if target = name then .waitedFor suppressError else .unattended
  | fate, _ => fate

/-- The operation is about the threads of the name. -/
def Operation.IsAbout (name : String) : Operation → Prop
  | .start target | .waitForThread target _ => target = name
  | .wait _ | .waitForEvent .. | .command .. => False

/-- The threads that the operations start, in order, each with its name and its fate. -/
def fates : List Operation → List (String × Fate)
  | [] => []
  | .start name :: later => (name, later.foldl (Fate.after name) .unattended) :: fates later
  | _ :: later => fates later

/-- The thread that an operation starts. -/
def Operation.opened : Operation → List (String × Fate)
  | .start name => [(name, .unattended)]
  | .wait _ | .waitForThread .. | .waitForEvent .. | .command .. => []

variable {begun : List Operation} {operation : Operation} {name : String} {id : Nat} {fate : Fate}

/-- One operation more changes the fates and opens its own. -/
theorem fates_snoc (begun : List Operation) (operation : Operation) :
    fates (begun ++ [operation]) =
      (fates begun).map (fun (name, fate) => (name, fate.after name operation)) ++
        operation.opened := by
  induction begun with
  | nil => cases operation <;> rfl
  | cons first begun ih =>
      cases first with
      | start name =>
          simp only [List.cons_append, fates, List.foldl_append, List.foldl_cons, List.foldl_nil,
            ih, List.map_cons]
      | wait | waitForThread | waitForEvent | command => exact ih

/-- A thread after one operation more: it was there before, or the operation started it. -/
theorem fate_snoc_iff :
    (fates (begun ++ [operation]))[id]? = some (name, fate) ↔
      (∃ before, (fates begun)[id]? = some (name, before) ∧ before.after name operation = fate) ∨
        (operation = .start name ∧ fate = .unattended ∧ id = (fates begun).length) := by
  rw [fates_snoc, List.getElem?_append, List.length_map]
  split
  next hlt =>
    simp only [List.getElem?_map, Option.map_eq_some_iff, Prod.exists, Prod.mk.injEq,
      Nat.ne_of_lt hlt, and_false, or_false]
    constructor
    · rintro ⟨_, before, hbefore, rfl, hfate⟩
      exact ⟨before, hbefore, hfate⟩
    · rintro ⟨before, hbefore, hfate⟩
      exact ⟨name, before, hbefore, rfl, hfate⟩
  next hge =>
    have hnone : (fates begun)[id]? = none := List.getElem?_eq_none_iff.2 (Nat.le_of_not_lt hge)
    simp only [hnone, reduceCtorEq, false_and, exists_false, false_or]
    cases operation with
    | start target =>
        simp only [Operation.opened, List.getElem?_singleton, Operation.start.injEq]
        grind
    | wait | waitForThread | waitForEvent | command => simp [Operation.opened]

/-- A thread is unattended still if it was so before and the operation is not about its name. -/
theorem Fate.after_unattended_iff :
    fate.after name operation = .unattended ↔ fate = .unattended ∧ ¬operation.IsAbout name := by
  cases fate with
  | unattended => cases operation <;> simp [Fate.after, Operation.IsAbout]
  | waitedFor | startedAgain => simp [Fate.after]

/-- A fate stays as it is if it is decided or the operation is about another name. -/
theorem Fate.after_eq_self (h : fate = .unattended → ¬operation.IsAbout name) :
    fate.after name operation = fate := by
  cases fate with
  | waitedFor | startedAgain => rfl
  | unattended => exact Fate.after_unattended_iff.2 ⟨rfl, h rfl⟩

/-- So it is unattended after one operation more if that is not about it, or starts it. -/
theorem unattended_snoc_iff :
    (fates (begun ++ [operation]))[id]? = some (name, .unattended) ↔
      ((fates begun)[id]? = some (name, .unattended) ∧ ¬operation.IsAbout name) ∨
        (operation = .start name ∧ id = (fates begun).length) := by
  rw [fate_snoc_iff]
  refine or_congr ⟨?_, ?_⟩ (by simp)
  · rintro ⟨before, hbefore, hafter⟩
    obtain ⟨rfl, habout⟩ := Fate.after_unattended_iff.1 hafter
    exact ⟨hbefore, habout⟩
  · rintro ⟨hbefore, habout⟩
    exact ⟨.unattended, hbefore, Fate.after_unattended_iff.2 ⟨rfl, habout⟩⟩

/-! ## Names -/

/-- A name that is known once stands for its entry. -/
theorem entry_iff {entries : List (String × Nat)} (h : (entries.map Prod.fst).Nodup) :
    entry? name entries = some id ↔ (name, id) ∈ entries := by
  constructor
  · intro hentry
    obtain ⟨⟨other, place⟩, hfind, rfl⟩ := Option.map_eq_some_iff.1 hentry
    obtain rfl : other = name := by simpa using List.find?_some hfind
    exact List.mem_of_find?_eq_some hfind
  · intro hmem
    unfold entry?
    rw [Keyed.find_of_mem h hmem]
    rfl

/-- The entries of the other names. -/
theorem mem_without {entries : List (String × Nat)} {other : String} :
    (other, id) ∈ without name entries ↔ (other, id) ∈ entries ∧ other ≠ name := by
  simp [without]

/-- The plan has a worker for each thread that was started, and knows by name those that are
unattended. -/
structure Plan.Lists (plan : Plan) (begun : List Operation) : Prop where
  count : plan.workers.length = (fates begun).length
  names : (plan.threads.map Prod.fst).Nodup
  known : ∀ name id, (name, id) ∈ plan.threads ↔ (fates begun)[id]? = some (name, .unattended)

variable {plan : Plan}

/-- An operation that starts no thread and waits for none that is there is not about one that is
unattended. -/
theorem Plan.Lists.stays (h : plan.Lists begun) (hspares : operation.Spares plan.threads)
    (hid : (fates begun)[id]? = some (name, fate)) : fate.after name operation = fate := by
  refine Fate.after_eq_self fun hunattended habout => ?_
  rw [hunattended, ← h.known, ← entry_iff h.names] at hid
  cases operation with
  | start => exact hspares
  | waitForThread target =>
      cases habout
      exact Option.some_ne_none _ (hid.symm.trans hspares)
  | wait | waitForEvent | command => exact habout

/-- So it changes no fate. -/
theorem Plan.Lists.pass (h : plan.Lists begun) (hspares : operation.Spares plan.threads) :
    fates (begun ++ [operation]) = fates begun := by
  have hopened : operation.opened = [] := by
    cases operation with
    | start => exact absurd hspares id
    | wait | waitForThread | waitForEvent | command => rfl
  rw [fates_snoc, hopened, List.append_nil]
  refine (List.map_congr_left fun thread hthread => ?_).trans (List.map_id _)
  obtain ⟨id, hid⟩ := List.mem_iff_getElem?.1 hthread
  obtain ⟨name, fate⟩ := thread
  exact congrArg (Prod.mk name) (h.stays hspares hid)

/-- The names that are left when one is given up. -/
theorem Plan.Lists.names_without (h : plan.Lists begun) (name : String) :
    ((without name plan.threads).map Prod.fst).Nodup :=
  h.names.sublist (List.filter_sublist.map _)

/-- No worker is lost when one is told that no command will come. -/
theorem Plan.close_length (plan : Plan) (name : String) :
    (plan.close name).length = plan.workers.length := by
  unfold close
  split
  · exact List.length_modify ..
  · rfl

/-- Starting a thread under a name. -/
theorem Plan.Lists.start (h : plan.Lists begun) {name : String} {next : Plan}
    (hworkers : next.workers = plan.close name ++ [({} : Worker)])
    (hthreads : next.threads = (name, plan.workers.length) :: without name plan.threads) :
    next.Lists (begun ++ [.start name]) where
  count := by
    rw [hworkers, fates_snoc, List.length_append, List.length_append, List.length_map,
      close_length, h.count]
    rfl
  names := by
    rw [hthreads, List.map_cons, List.nodup_cons]
    refine ⟨fun hmem => ?_, h.names_without name⟩
    obtain ⟨⟨other, id⟩, hother, rfl⟩ := List.mem_map.1 hmem
    exact (mem_without.1 hother).2 rfl
  known other id := by
    rw [hthreads, List.mem_cons, mem_without, h.known, unattended_snoc_iff, h.count, or_comm]
    simp [Operation.IsAbout, eq_comm]

/-- Waiting for a thread. -/
theorem Plan.Lists.await (h : plan.Lists begun) {name : String}
    {suppressError : Bool} {next : Plan}
    (hworkers : next.workers = plan.close name)
    (hthreads : next.threads = without name plan.threads) :
    next.Lists (begun ++ [.waitForThread name suppressError]) where
  count := by
    rw [hworkers, fates_snoc, List.length_append, List.length_map, close_length, h.count]
    rfl
  names := hthreads ▸ h.names_without name
  known other id := by
    rw [hthreads, mem_without, h.known, unattended_snoc_iff]
    simp [Operation.IsAbout, eq_comm]

/-! ## While the run goes on -/

/-- What holds of a thread while the run goes on. One that was waited for has ended, and had no
error that was not suppressed, or the main sequence still waits for it. -/
def Worker.Attended (main : MainPhase) (id : Nat) (worker : Worker) : Fate → Prop
  | .unattended =>
      worker.isOpen = true ∧ worker.ended = false ∧ worker.joined = false ∧ worker.aborted = false
  | .waitedFor suppressError =>
      worker.aborted = false ∧
        (main = .joining id suppressError ∨
          worker.joined = true ∧ worker.ended = true ∧
            ∀ error, worker.failure = some error → suppressError = true)
  | .startedAgain => worker.joined = false ∧ worker.aborted = false

/-- What holds of a thread when the run is over. -/
def Worker.Settled (result : Except RunError Unit) (worker : Worker) : Fate → Prop
  | .unattended => worker.aborted = true ∧ worker.joined = false ∧ worker.ended = false
  | .waitedFor suppressError =>
      worker.joined = true ∧ worker.ended = true ∧ worker.aborted = false ∧
        ∀ error, worker.failure = some error → suppressError = true ∨ result = .error error
  | .startedAgain => worker.joined = false ∧ worker.aborted = false

namespace Worker

variable {worker next : Worker} {main phase : MainPhase} {result : Except RunError Unit}

/-- A turn of a worker changes nothing about that. -/
theorem Goes.attended (h : worker.Goes next) (hworker : worker.Attended main id fate) :
    next.Attended main id fate := by
  cases fate with
  | unattended =>
      obtain ⟨hisOpen, hlasts, hjoined, haborted⟩ := hworker
      refine ⟨h.isOpen.trans hisOpen, ?_, h.joined.trans hjoined, h.aborted.trans haborted⟩
      rw [Bool.eq_false_iff]
      intro hended
      simpa [hlasts, hisOpen] using h.ended hended
  | waitedFor suppressError =>
      obtain ⟨haborted, hwaits | hjoined⟩ := hworker
      · exact ⟨h.aborted.trans haborted, .inl hwaits⟩
      · rw [h.gone (.inl hjoined.2.1)]
        exact ⟨haborted, .inr hjoined⟩
  | startedAgain => exact ⟨h.joined.trans hworker.1, h.aborted.trans hworker.2⟩

/-- Nor does it when the run is over. -/
theorem Goes.settled (h : worker.Goes next) (hworker : worker.Settled result fate) :
    next.Settled result fate := by
  cases fate with
  | unattended =>
      rw [h.gone (.inr hworker.1)]
      exact hworker
  | waitedFor suppressError =>
      rw [h.gone (.inl hworker.2.1)]
      exact hworker
  | startedAgain => exact ⟨h.joined.trans hworker.1, h.aborted.trans hworker.2⟩

/-- A command that is sent to it changes nothing either. -/
theorem Attended.send (h : worker.Attended main id fate) (inbox : List Command) :
    { worker with inbox := inbox }.Attended main id fate := by
  cases fate with
  | unattended | waitedFor | startedAgain => exact h

/-- What the main sequence does matters only if it waits for the thread. -/
theorem Attended.change_main (h : worker.Attended main id fate)
    (hmain : ∀ suppressError, main ≠ .joining id suppressError) :
    worker.Attended phase id fate := by
  cases fate with
  | unattended | startedAgain => exact h
  | waitedFor suppressError =>
      obtain ⟨haborted, hwaits | hjoined⟩ := h
      · exact absurd hwaits (hmain suppressError)
      · exact ⟨haborted, .inr hjoined⟩

/-- At the end an unattended thread is aborted, and there is nothing else to be done. -/
theorem Attended.settled (h : worker.Attended main id fate)
    (hmain : ∀ suppressError, main ≠ .joining id suppressError) :
    (if fate = .unattended then { worker with aborted := true } else worker).Settled
      result fate := by
  cases fate with
  | unattended => exact ⟨rfl, h.2.2.1, h.2.1⟩
  | startedAgain => exact h
  | waitedFor suppressError =>
      obtain ⟨haborted, hwaits | ⟨hjoined, hended, hquiet⟩⟩ := h
      · exact absurd hwaits (hmain suppressError)
      · exact ⟨hjoined, hended, haborted, fun error herror => .inl (hquiet error herror)⟩

/-- Then a thread whose name was not given to another one has ended or was aborted. -/
theorem Settled.gone (h : worker.Settled result fate) (hkept : fate ≠ .startedAgain) :
    worker.ended = true ∨ worker.aborted = true := by
  cases fate with
  | unattended => exact .inr h.1
  | waitedFor suppressError => exact .inl h.2.1
  | startedAgain => exact absurd rfl hkept

end Worker

/-- This holds of every thread that the operations started: of its place, its fate and its
worker. -/
def Plan.Each (plan : Plan) (begun : List Operation)
    (holds : Nat → Fate → Worker → Prop) : Prop :=
  ∀ (id : Nat) (name : String) (fate : Fate) (worker : Worker),
    (fates begun)[id]? = some (name, fate) →
    plan.workers[id]? = some worker → holds id fate worker

/-- A plan of a run that goes on, when these operations were begun. -/
structure Plan.Attends (plan : Plan) (begun : List Operation) :
    Prop extends plan.Lists begun where
  running : ∀ result, plan.main ≠ .finished result
  joining : ∀ id suppressError, plan.main = .joining id suppressError →
    ∃ name, (fates begun)[id]? = some (name, .waitedFor suppressError)
  attended : plan.Each begun fun id fate worker => worker.Attended plan.main id fate

/-- A plan of a run that is over. -/
structure Plan.Settles (plan : Plan) (begun : List Operation)
    (result : Except RunError Unit) : Prop where
  main : plan.main = .finished result
  count : plan.workers.length = (fates begun).length
  settled : plan.Each begun fun _ fate worker => worker.Settled result fate

/-- A main sequence that neither waits for a thread nor is over. -/
theorem MainPhase.IsFree.not_joining {main : MainPhase} (h : main.IsFree) (id : Nat)
    (suppressError : Bool) :
    main ≠ .joining id suppressError := by
  rintro rfl
  exact h

namespace Plan

variable {result : Except RunError Unit}

/-- A plan whose main sequence is free. -/
theorem Attends.of_free (hlists : plan.Lists begun) (hfree : plan.main.IsFree)
    (hattended : plan.Each begun fun id fate worker => worker.Attended plan.main id fate) :
    plan.Attends begun where
  toLists := hlists
  running result hmain := by
    rw [hmain] at hfree
    exact hfree
  joining id suppressError hmain := absurd hmain (hfree.not_joining id suppressError)
  attended := hattended

/-- Changing a worker, if what holds of it still holds then. -/
theorem Each.change {holds : Nat → Fate → Worker → Prop} (h : plan.Each begun holds)
    {change : Worker → Worker}
    (hchange : ∀ worker fate, plan.workers[id]? = some worker → holds id fate worker →
      holds id fate (change worker)) :
    (plan.change id change).Each begun holds := by
  intro other name fate worker hfate hworker
  rw [change_worker, Option.map_eq_some_iff] at hworker
  obtain ⟨before, hbefore, rfl⟩ := hworker
  have hholds := h other name fate before hfate hbefore
  split
  next hsame =>
    subst hsame
    exact hchange before fate hbefore hholds
  · exact hholds

/-- Changing a worker loses none. -/
theorem Lists.change (h : plan.Lists begun) (id : Nat) (change : Worker → Worker) :
    (plan.change id change).Lists begun where
  count := (List.length_modify ..).trans h.count
  names := h.names
  known := h.known

/-- A change of a worker while the run goes on. -/
theorem Attends.change (h : plan.Attends begun) {change : Worker → Worker}
    (hchange : ∀ worker fate, plan.workers[id]? = some worker →
      worker.Attended plan.main id fate →
      (change worker).Attended plan.main id fate) :
    (plan.change id change).Attends begun where
  toLists := h.toLists.change id change
  running := h.running
  joining := h.joining
  attended := h.attended.change hchange

/-- The main sequence goes on with something else. -/
theorem Attends.rest (h : plan.Attends begun) {phase : MainPhase} (hfree : plan.main.IsFree)
    (hphase : phase.IsFree) : { plan with main := phase }.Attends begun :=
  .of_free ⟨h.count, h.names, h.known⟩ hphase fun id name fate worker hfate hworker =>
    (h.attended id name fate worker hfate hworker).change_main (hfree.not_joining id)

/-- What holds of the threads when the main sequence has waited for one. -/
theorem Attends.joined (h : plan.Attends begun) {suppressError : Bool} {worker : Worker}
    (hmain : plan.main = .joining id suppressError) (hworker : plan.workers[id]? = some worker)
    {other : Nat} {later : Worker} (hfate : (fates begun)[other]? = some (name, fate))
    (hlater : (plan.change id fun worker => { worker with joined := true }).workers[other]? =
      some later) :
    (fate = .waitedFor suppressError ∧ worker.aborted = false ∧
      later = { worker with joined := true }) ∨
      (later.Attended plan.main other fate ∧ ∀ suppressError,
        plan.main ≠ .joining other suppressError) := by
  rw [change_worker, Option.map_eq_some_iff] at hlater
  obtain ⟨before, hbefore, rfl⟩ := hlater
  have hattended := h.attended other name fate before hfate hbefore
  split
  next hsame =>
    subst hsame
    obtain ⟨_, hwaitedFor⟩ := h.joining id suppressError hmain
    obtain ⟨rfl, rfl⟩ := Prod.mk.inj (Option.some.inj (hwaitedFor.symm.trans hfate))
    obtain rfl := Option.some.inj (hworker.symm.trans hbefore)
    exact .inl ⟨rfl, hattended.1, rfl⟩
  next hother =>
    refine .inr ⟨hattended, fun _ hwaits => hother ?_⟩
    rw [hmain] at hwaits
    exact (MainPhase.joining.inj hwaits).1

/-- It has waited for a thread, and goes on. -/
theorem Attends.join (h : plan.Attends begun) {suppressError : Bool} {worker : Worker}
    (hmain : plan.main = .joining id suppressError) (hworker : plan.workers[id]? = some worker)
    (hended : worker.ended = true) (hquiet : ∀ error, worker.failure = some error →
      suppressError = true) :
    { plan.change id fun worker => { worker with joined := true } with main := .ready }.Attends
      begun := by
  obtain ⟨hcount, hnames, hknown⟩ := h.toLists.change id fun worker =>
    { worker with joined := true }
  refine .of_free ⟨hcount, hnames, hknown⟩ trivial fun other name fate later hfate hlater => ?_
  obtain ⟨rfl, haborted, rfl⟩ | ⟨hattended, hmain⟩ := h.joined hmain hworker hfate hlater
  · exact ⟨haborted, .inr ⟨rfl, hended, hquiet⟩⟩
  · exact hattended.change_main hmain

/-- What holds of the threads when no command will come for one name. -/
theorem Attends.close (h : plan.Attends begun) (hfree : plan.main.IsFree) {target : String}
    {worker : Worker}
    (hfate : (fates begun)[id]? = some (name, fate))
    (hworker : (plan.close target)[id]? = some worker)
    (phase : MainPhase) :
    (name = target ∧ fate = .unattended ∧ worker.joined = false ∧ worker.aborted = false) ∨
      ((fate = .unattended → target ≠ name) ∧ worker.Attended phase id fate) := by
  obtain ⟨before, hbefore, rfl⟩ := Option.map_eq_some_iff.1
    ((plan.close_worker target id).symm.trans hworker)
  have hattended := h.attended id name fate before hfate hbefore
  have hentry : entry? target plan.threads = some id ↔ name = target ∧ fate = .unattended := by
    rw [entry_iff h.names, h.known, hfate, Option.some_inj, Prod.mk.injEq]
  split
  next hsame =>
    obtain ⟨rfl, rfl⟩ := hentry.1 hsame
    exact .inl ⟨rfl, rfl, hattended.2.2⟩
  next hother =>
    exact .inr ⟨fun hunattended htarget => hother (hentry.2 ⟨htarget.symm, hunattended⟩),
      hattended.change_main (hfree.not_joining id)⟩

/-- Starting a thread. -/
theorem Attends.start (h : plan.Attends begun) (hfree : plan.main.IsFree)
    {target : String} {next : Plan}
    (hworkers : next.workers = plan.close target ++ [({} : Worker)])
    (hthreads : next.threads = (target, plan.workers.length) :: without target plan.threads)
    (hmain : next.main = plan.main) :
    next.Attends (begun ++ [.start target]) := by
  refine .of_free (h.toLists.start hworkers hthreads) (hmain ▸ hfree)
    fun id name fate worker hfate hworker => ?_
  rw [hworkers] at hworker
  obtain ⟨before, hbefore, rfl⟩ | ⟨-, rfl, rfl⟩ := fate_snoc_iff.1 hfate
  · have hlt : id < (plan.close target).length := by
      rw [close_length, h.count]
      exact (List.getElem?_eq_some_iff.1 hbefore).1
    rw [List.getElem?_append_left hlt] at hworker
    obtain ⟨rfl, rfl, hleft⟩ | ⟨hother, hattended⟩ := h.close hfree hbefore hworker next.main
    · rw [show Fate.after name .unattended (.start name) = .startedAgain from if_pos rfl]
      exact hleft
    · rwa [Fate.after_eq_self hother]
  · rw [← h.count, ← plan.close_length target, List.getElem?_concat_length] at hworker
    cases hworker
    exact ⟨rfl, rfl, rfl, rfl⟩

/-- Beginning to wait for a thread. -/
theorem Attends.await (h : plan.Attends begun) (hfree : plan.main.IsFree) {target : String}
    {suppressError : Bool}
    {next : Plan} (hentry : entry? target plan.threads = some id)
    (hworkers : next.workers = plan.close target)
    (hthreads : next.threads = without target plan.threads)
    (hmain : next.main = .joining id suppressError) :
    next.Attends (begun ++ [.waitForThread target suppressError]) := by
  have hwaitedFor : Fate.after target .unattended (.waitForThread target suppressError) =
      .waitedFor suppressError :=
    if_pos rfl
  have hunattended := (h.known target id).1 ((entry_iff h.names).1 hentry)
  exact {
    toLists := h.toLists.await hworkers hthreads
    running := fun _ hover => by rw [hmain] at hover; cases hover
    joining := fun other _ hother => by
      rw [hmain] at hother
      cases hother
      exact ⟨target, fate_snoc_iff.2 (.inl ⟨.unattended, hunattended, hwaitedFor⟩)⟩
    attended := fun other name fate worker hfate hworker => by
      rw [hworkers] at hworker
      obtain ⟨before, hbefore, rfl⟩ | ⟨hstart, -⟩ := fate_snoc_iff.1 hfate
      · obtain ⟨rfl, rfl, -, haborted⟩ | ⟨hother, hattended⟩ :=
          h.close hfree hbefore hworker next.main
        · have hsame := (entry_iff h.names).2 ((h.known name other).2 hbefore)
          obtain rfl := Option.some.inj (hentry.symm.trans hsame)
          rw [hwaitedFor]
          exact ⟨haborted, .inl hmain⟩
        · rwa [Fate.after_eq_self hother]
      · cases hstart }

/-- The end. The names that are known are those of the threads that have to be aborted. -/
theorem Lists.finish (h : plan.Lists begun)
    (hsettled : plan.Each begun fun _ fate worker =>
      (if fate = .unattended then { worker with aborted := true } else worker).Settled
        result fate) :
    (plan.finish result).Settles begun result where
  main := rfl
  count := by simpa [Plan.finish] using h.count
  settled id name fate later hfate hlater := by
    rw [finish_worker, Option.map_eq_some_iff] at hlater
    obtain ⟨worker, hworker, rfl⟩ := hlater
    have hany : plan.threads.any (fun thread => thread.2 == id) = true ↔ fate = .unattended := by
      rw [List.any_eq_true]
      constructor
      · rintro ⟨⟨other, place⟩, hknown, hplace⟩
        obtain rfl : place = id := by simpa using hplace
        rw [h.known, hfate] at hknown
        exact (Prod.mk.inj (Option.some.inj hknown)).2
      · rintro rfl
        exact ⟨(name, id), (h.known name id).2 hfate, by simp⟩
    simpa only [hany] using hsettled id name fate worker hfate hworker

/-- The end, when no thread is waited for. -/
theorem Attends.finish (h : plan.Attends begun) (hfree : plan.main.IsFree)
    (result : Except RunError Unit) :
    (plan.finish result).Settles begun result :=
  h.toLists.finish fun id name fate worker hfate hworker =>
    (h.attended id name fate worker hfate hworker).settled (hfree.not_joining id)

/-- The end with the error of the thread that was waited for. -/
theorem Attends.fail (h : plan.Attends begun) {worker : Worker} {error : RunError}
    (hmain : plan.main = .joining id false) (hworker : plan.workers[id]? = some worker)
    (hended : worker.ended = true) (herror : worker.failure = some error) :
    ((plan.change id fun worker => { worker with joined := true }).finish
      (.error error)).Settles begun (.error error) := by
  refine (h.toLists.change id _).finish fun other name fate later hfate hlater => ?_
  obtain ⟨rfl, haborted, rfl⟩ | ⟨hattended, hmain⟩ := h.joined hmain hworker hfate hlater
  · refine ⟨rfl, hended, haborted, fun other hother => .inr ?_⟩
    rw [Option.some.inj (herror.symm.trans hother)]
  · exact hattended.settled hmain

/-- An operation that changes no fate. -/
theorem Attends.pass (h : plan.Attends begun) (hspares : operation.Spares plan.threads)
    (rest : List Operation) :
    { plan with operations := rest }.Attends (begun ++ [operation]) := by
  have hfates := h.toLists.pass hspares
  exact {
    count := hfates ▸ h.count
    names := h.names
    known := hfates ▸ h.known
    running := h.running
    joining := hfates ▸ h.joining
    attended := fun id name fate worker hfate => h.attended id name fate worker (hfates ▸ hfate) }

/-- A turn of a worker when the run is over. -/
theorem Settles.work (h : plan.Settles begun result) {change : Worker → Worker}
    (hgoes : ∀ worker, plan.workers[id]? = some worker → worker.Goes (change worker)) :
    (plan.change id change).Settles begun result where
  main := h.main
  count := (List.length_modify ..).trans h.count
  settled := h.settled.change fun worker _ hworker => (hgoes worker hworker).settled

/-! ## Runs -/

/-- Of the operations some were begun, and what the plan says of the threads fits these. -/
inductive Course (operations : List Operation) (plan : Plan) : Prop where
  | running {begun : List Operation} (hoperations : operations = begun ++ plan.operations)
      (h : plan.Attends begun)
  | finished {begun : List Operation} {result : Except RunError Unit}
      (hoperations : operations = begun ++ plan.operations) (h : plan.Settles begun result)

variable {operations : List Operation} {next : Plan}

/-- A step of a run that goes on. -/
theorem Attends.step (h : plan.Attends begun) (hstep : plan.Step next)
    (hoperations : operations = begun ++ plan.operations) : next.Course operations := by
  -- The operations that were begun, when one more is.
  have hbegun {operation : Operation} {rest : List Operation}
      (hrest : plan.operations = operation :: rest) :
      operations = (begun ++ [operation]) ++ rest := by
    rw [hoperations, hrest, List.append_assoc]
    rfl
  cases hstep with
  | work hgoes =>
      exact .running hoperations (h.change fun worker _ hworker =>
        (hgoes worker hworker).attended)
  | rest hfree hphase => exact .running hoperations (h.rest hfree hphase)
  | pass _ hrest hspares => exact .running (hbegun hrest) (h.pass hspares _)
  | send => exact .running hoperations (h.change fun _ _ _ hattended => hattended.send _)
  | start hfree hrest => exact .running (hbegun hrest) (h.start hfree rfl rfl rfl)
  | await hfree hrest hentry => exact .running (hbegun hrest) (h.await hfree hentry rfl rfl rfl)
  | join hmain hworker hended hquiet =>
      exact .running hoperations (h.join hmain hworker hended hquiet)
  | fail hmain hworker hended herror =>
      exact .finished hoperations (h.fail hmain hworker hended herror)
  | finish hfree => exact .finished hoperations (h.finish hfree _)

/-- When the run is over, nobody but the workers has a turn. -/
theorem Settles.step (h : plan.Settles begun result) (hstep : plan.Step next) :
    next.Settles begun result ∧ next.operations = plan.operations := by
  have hbusy : ¬plan.main.IsFree := by
    rw [h.main]
    exact id
  cases hstep with
  | work hgoes => exact ⟨h.work hgoes, rfl⟩
  | rest hfree | pass hfree | send hfree | start hfree | await hfree | finish hfree =>
      exact absurd hfree hbusy
  | join hmain | fail hmain => cases h.main.symm.trans hmain

/-- Every step of a run. -/
theorem Course.step (h : plan.Course operations) (hstep : plan.Step next) :
    next.Course operations := by
  cases h with
  | running hoperations h => exact h.step hstep hoperations
  | finished hoperations h =>
      obtain ⟨hsettles, hsame⟩ := h.step hstep
      exact .finished (hoperations.trans (by rw [hsame])) hsettles

/-- So a whole run. -/
theorem Course.steps (h : plan.Course operations) (hsteps : Steps plan next) :
    next.Course operations := by
  induction hsteps with
  | refl => exact h
  | tail _ hstep ih => exact ih.step hstep

end Plan

namespace Run

/-- A run whose pool was just opened. -/
def opened (pool : Pool) (operations : List Operation) : Run :=
  observe { pool := pool, operations := operations }

/-- It has begun no operation. -/
theorem opened_course (pool : Pool) (operations : List Operation) :
    (opened pool operations).plan.Course operations := by
  have hattends : Plan.Attends ⟨[], [], .opening, operations⟩ [] :=
    .of_free ⟨rfl, List.nodup_nil, by simp [fates]⟩ trivial (by simp [Plan.Each, fates])
  exact .running rfl hattends

/-- A worker that has ended or was aborted has no turn. -/
theorem work_gone {run : Run} {worker : Worker} (hworker : run.workers[id]? = some worker)
    (hgone : worker.ended = true ∨ worker.aborted = true) : run.work id = run := by
  have hready : run.workerIsReady worker = false := by
    obtain hended | haborted := hgone
    · simp [workerIsReady, hended]
    · simp [workerIsReady, haborted]
  simp [work, hworker, hready]

variable {pool : Pool} {operations : List Operation} {turns : List Turn}
  {result : Except RunError Unit}

/-- A worker's first error is its error from then on. -/
theorem failure_kept {earlier later : List Turn} {worker : Worker} {error : RunError}
    (hworker : ((opened pool operations).after earlier).workers[id]? = some worker)
    (herror : worker.failure = some error) :
    ∃ latest, ((opened pool operations).after (earlier ++ later)).workers[id]? = some latest ∧
      latest.failure = some error := by
  have hsound : worker.Sound := ((opened pool operations).after_steps earlier).retains.fresh rfl
    hworker
  obtain ⟨latest, hlatest, hremembers⟩ := (after_steps _ later).retains.kept hworker
  rw [after_append]
  exact ⟨latest, hlatest, hremembers.failure hsound error herror⟩

/-- A run that is over has begun some of its operations, and what became of the threads that
they started is as these say. -/
theorem settles_of_result (hover : ((opened pool operations).after turns).result? = some result) :
    ∃ begun, operations = begun ++ ((opened pool operations).after turns).operations ∧
      ((opened pool operations).after turns).plan.Settles begun result := by
  have hmain : ((opened pool operations).after turns).plan.main = .finished result := by
    rw [result?] at hover
    split at hover
    next hmain => rw [← Option.some.inj hover]; exact hmain
    · cases hover
  cases (opened_course pool operations).steps (after_steps _ turns) with
  | running _ h => exact absurd hmain (h.running result)
  | finished hoperations h =>
      obtain rfl := MainPhase.finished.inj (h.main.symm.trans hmain)
      exact ⟨_, hoperations, h⟩

/-- No thread is left behind unless its name was given to another one. When a run is over, after
any history of turns, each thread that was started has its fate, as the operations that were
begun decide it. One that was waited for was joined and has ended, and its error, if it had one,
was suppressed or is what the run ended with; one that is unattended was aborted. Neither has a
turn any more. The error of a thread is the first that it had. Only a thread whose name was
given to another one before it was waited for is neither joined nor aborted. -/
theorem threads_accounted (hover : ((opened pool operations).after turns).result? = some result) :
    let last := (opened pool operations).after turns
    ∃ begun, operations = begun ++ last.operations ∧ last.workers.length = (fates begun).length ∧
      ∀ (id : Nat) (name : String) (fate : Fate), (fates begun)[id]? = some (name, fate) →
        ∃ worker, last.workers[id]? = some worker ∧ worker.Settled result fate ∧
          (fate ≠ .startedAgain → last.work id = last) ∧
          ∀ (earlier later : List Turn) (before : Worker) (error : RunError),
            turns = earlier ++ later →
            ((opened pool operations).after earlier).workers[id]? = some before →
              before.failure = some error → worker.failure = some error := by
  intro last
  obtain ⟨begun, hoperations, hsettles⟩ := settles_of_result hover
  refine ⟨begun, hoperations, hsettles.count, fun id name fate hfate => ?_⟩
  have hlt : id < last.workers.length := hsettles.count ▸ (List.getElem?_eq_some_iff.1 hfate).1
  have hworker : last.workers[id]? = some last.workers[id] := List.getElem?_eq_getElem hlt
  have hsettled := hsettles.settled id name fate _ hfate hworker
  refine ⟨last.workers[id], hworker, hsettled,
    fun hkept => work_gone hworker (hsettled.gone hkept), ?_⟩
  rintro earlier later before error rfl hbefore herror
  obtain ⟨latest, hlatest, hsame⟩ := failure_kept hbefore herror
  rwa [Option.some.inj (hlatest.symm.trans hworker)] at hsame

/-- The error of the first thread is suppressed, the second one is left behind, the third one is
aborted and the error of the fourth one ends the run. -/
theorem four_threads_accounted :
    let begun : List Operation :=
      [.start "a", .command (some "a") (.checkIn "x" false), .waitForThread "a" true,
        .start "b", .start "b",
        .start "c", .command (some "c") (.checkIn "y" false), .waitForThread "c" false]
    let operations := begun ++ [.command none .clear]
    let failed : List Turn := Pool.openEmpty.map .pool ++ [.main, .main, .main, .worker 0]
    let later : List Turn :=
      [.main, .worker 0, .main, .main, .main, .main, .main, .worker 3, .main, .worker 3, .main]
    let last := (opened .small operations).after (failed ++ later)
    last.result? = some (.error (.unknownConnection "y")) ∧
      fates begun = [("a", .waitedFor true), ("b", .startedAgain), ("b", .unattended),
        ("c", .waitedFor false)] ∧
      (∃ worker, last.workers[0]? = some worker ∧ worker.joined = true ∧
        worker.failure = some (.unknownConnection "x")) ∧
      (∃ worker, last.workers[2]? = some worker ∧ worker.aborted = true ∧ last.work 2 = last) ∧
      ∃ worker, last.workers[3]? = some worker ∧ worker.joined = true := by
  intro begun operations failed later last
  have hover : last.result? = some (.error (.unknownConnection "y")) := by decide +kernel
  have hfailed : ((opened .small operations).after failed).workers[0]?.bind Worker.failure =
      some (.unknownConnection "x") := by
    decide +kernel
  obtain ⟨before, hbefore, herror⟩ := Option.bind_eq_some_iff.1 hfailed
  have hrest : last.operations = [.command none .clear] := by decide +kernel
  obtain ⟨known, hoperations, -, hthreads⟩ := threads_accounted hover
  have hknown : known ++ last.operations = begun ++ last.operations := by
    rw [← hoperations, hrest]
  obtain rfl : known = begun := List.append_cancel_right hknown
  obtain ⟨first, hfirst, ⟨hjoined, -⟩, -, hkept⟩ := hthreads 0 "a" (.waitedFor true) rfl
  obtain ⟨third, hthird, ⟨haborted, -⟩, hgone, -⟩ := hthreads 2 "b" .unattended rfl
  obtain ⟨fourth, hfourth, ⟨hwaited, -⟩, -⟩ := hthreads 3 "c" (.waitedFor false) rfl
  have hsame := hkept failed later before _ rfl hbefore herror
  exact ⟨hover, rfl, ⟨first, hfirst, hjoined, hsame⟩, ⟨third, hthird, haborted, hgone nofun⟩,
    fourth, hfourth,
    hwaited⟩

end Run

/-- A thread fails, its name is given to another one, and that one is waited for. -/
def Test.restarting : Test where
  version := 1
  style := "unit"
  description := "the first error of a thread is surfaced"
  operations :=
    [.start "thread1", .command (some "thread1") (.checkIn "conn" false), .start "thread1",
      .waitForThread "thread1" false]

/-- The test passes, the first thread is neither joined nor aborted, and its error is lost. -/
theorem Test.restarted_left_behind :
    restarting.perform 0 = .passed ∧
      (∃ pool worker, Pool.create (restarting.options.apply {}) .simulated {} 0 = .ok pool ∧
        (restarting.run pool).result? = some (.ok ()) ∧
          (restarting.run pool).workers[0]? = some worker ∧
        worker.joined = false ∧ worker.aborted = false ∧
          worker.failure = some (.unknownConnection "conn")) ∧
      ¬∀ (pool : Pool) (operations : List Operation) (turns : List Turn)
        (result : Except RunError Unit),
        ((Run.opened pool operations).after turns).result? = some result →
          ∀ worker ∈ ((Run.opened pool operations).after turns).workers,
            worker.joined = true ∨ worker.aborted = true := by
  have hrun : ∃ pool worker, Pool.create (restarting.options.apply {}) .simulated
      {} 0 = .ok pool ∧
      (restarting.run pool).result? = some (.ok ()) ∧
        (restarting.run pool).workers[0]? = some worker ∧
      worker.joined = false ∧ worker.aborted = false ∧
        worker.failure = some (.unknownConnection "conn") :=
    ⟨_, _, rfl, by rfl, by rfl, rfl, rfl, rfl⟩
  refine ⟨by rfl, hrun, fun hall => ?_⟩
  obtain ⟨pool, worker, -, hresult, hworker, hjoined, haborted, -⟩ := hrun
  obtain ⟨turns, hturns⟩ := (Run.opened pool restarting.operations).play_after
    (Run.opened pool restarting.operations).effort
  rw [show restarting.run pool = _ from hturns] at hresult hworker
  have hgone := hall pool _ turns _ hresult worker (List.mem_of_getElem? hworker)
  simp [hjoined, haborted] at hgone

end ConnectionPool.Conformance
