import ConnectionPool.Proofs.LeastSize
import ConnectionPool.Proofs.Pool.Timing
import ConnectionPool.Proofs.RunLoop
import Mathlib.Algebra.BigOperators.Group.Multiset.Basic
import Mathlib.Algebra.Order.BigOperators.Group.List
import Mathlib.Algebra.Order.Ring.Nat
import Mathlib.Data.Prod.Lex
import Mathlib.Order.WellFounded

/-!
# Every instant comes to an end

An action is due when a call, a population or a task is to take it at the current instant.
Nothing is due in a settled pool, and that this comes about has to be shown, whatever is due is
taken first.

Two numbers measure what is left to do at an instant. The ticks of run loops and of the
maintenance task make up for the time by which their task is late, `Pool.late`: each puts its
next one further on by a period that is not zero. All other actions that are due leave that
alone and use up turns, `Pool.turns`. A tick may hand out connections and so give calls new
turns, but it can do so only as long as its task is late. The weights of the turns are such that
a call whose connection turns out to be of no use, and with which the pool falls below its least
size, still has paid for the connection that a population is to make instead.
-/

namespace ConnectionPool

/-! ## What is due -/

namespace Pool

/-- The action is to happen at the current instant. -/
inductive Due (pool : Pool) : Action → Prop where
  | call {call : Call} {action : Action} (here : call ∈ pool.calls)
      (turn : callAction? pool.now call = some action) : Due pool action
  | population {population : Population} {action : Action}
      (here : population ∈ pool.populations)
      (turn : populationAction? pool.now population = some action) : Due pool action
  | timer {timer : Timer} (here : timer ∈ pool.timers) (due : timer.deadline ≤ pool.now) :
      Due pool (.expire timer.member)
  | runLoop {loop : RunLoop} (here : loop ∈ pool.runLoops) (due : loop.due ≤ pool.now)
      (lost : List Nat) : Due pool (.tick loop.id lost)
  | maintenance {due : Instant} (task : pool.maintenance = some due) (late : due ≤ pool.now)
      (idle : pool.isMaintaining = false) : Due pool .maintain
  | stopped (gone : pool.maintenance = none) (running : pool.isMaintaining = true) :
      Due pool .abandonMaintenance

variable {pool : Pool} {action : Action}

/-- What is named as ready is due. -/
theorem due_of_ready (h : pool.ready? = some action) : pool.Due action := by
  unfold ready? at h
  split at h
  · next hstopped =>
      rw [Bool.and_eq_true, Option.isNone_iff_eq_none] at hstopped
      cases h
      exact .stopped hstopped.1 hstopped.2
  · simp only [Option.orElse_eq_orElse, Option.orElse_eq_or, Option.or_eq_some_iff] at h
    rcases h with hcall | ⟨-, hpopulation | ⟨-, htimer | ⟨-, hloop | ⟨-, htask⟩⟩⟩⟩
    · obtain ⟨call, here, hturn⟩ := List.exists_of_findSome?_eq_some hcall
      exact .call here hturn
    · obtain ⟨population, here, hturn⟩ := List.exists_of_findSome?_eq_some hpopulation
      exact .population here hturn
    · obtain ⟨timer, here, hturn⟩ := List.exists_of_findSome?_eq_some htimer
      obtain ⟨hdue, haction⟩ := Option.ite_none_right_eq_some.1 hturn
      exact Option.some.inj haction ▸ .timer here hdue
    · obtain ⟨loop, here, hturn⟩ := List.exists_of_findSome?_eq_some hloop
      obtain ⟨hdue, haction⟩ := Option.ite_none_right_eq_some.1 hturn
      exact Option.some.inj haction ▸ .runLoop here hdue []
    · split at htask
      · next due hsome =>
          obtain ⟨hdue, haction⟩ := Option.ite_none_right_eq_some.1 htask
          rw [Bool.and_eq_true, decide_eq_true_eq, Bool.not_eq_true'] at hdue
          exact Option.some.inj haction ▸ .maintenance hsome hdue.1 hdue.2
      · cases htask

/-- A pool is settled just if nothing is due. -/
theorem settled_iff : pool.ready? = none ↔ ∀ action, ¬ pool.Due action := by
  constructor
  · intro h action hdue
    unfold ready? at h
    split at h
    · cases h
    · next hstopped =>
        simp only [Option.orElse_eq_orElse, Option.orElse_eq_or, Option.or_eq_none_iff,
          List.findSome?_eq_none_iff, ite_eq_right_iff, reduceCtorEq, imp_false] at h
        obtain ⟨hcalls, hpopulations, htimers, hloops, htask⟩ := h
        cases hdue with
        | call here turn =>
            rw [hcalls _ here] at turn
            cases turn
        | population here turn =>
            rw [hpopulations _ here] at turn
            cases turn
        | timer here due => exact htimers _ here due
        | runLoop here due => exact hloops _ here due
        | maintenance task late idle => simp [task, late, idle] at htask
        | stopped gone running => simp [gone, running] at hstopped
  · intro h
    cases hready : pool.ready? with
    | none => rfl
    | some action => exact absurd (due_of_ready hready) (h action)

end Pool

/-! ## What is left to do -/

/-- By how much a task that is due at `due` is late, the current instant included. -/
def Instant.arrears (now due : Instant) : Nat :=
  now + 1 - due

/-- The turns of a call until it waits or ends, weighed so that the connection that it has and
may have to give up is paid for. -/
def Phase.turns : Phase → Nat
  | .entering _ => 3
  | .queued _ => 1
  | .answered (.error _) => 1
  | .answered (.ok _) => 6
  | .connecting .. => 5
  | .connected .. => 4

namespace Inventory

/-- How many connections the pool lacks for its least size. -/
def lack (stock : Inventory) : Nat :=
  stock.config.minPoolSize.toNat - (stock.total + stock.pending)

/-- The cost of making another connection in place of one that the pool has no use for. -/
def replacement (stock : Inventory) (connection : Connection) : Nat :=
  if (stock.returnReason? connection).isSome then 3 else 0

/-- The turns of a population until it looks whether the pool has its least size, and that
look. -/
def turns (stock : Inventory) : PopulationPhase → Nat
  | .reserving => 4
  | .connecting connection _ => 6 + stock.replacement connection
  | .connected connection _ => 5 + stock.replacement connection

/-- What a connection costs depends on its generation only. -/
theorem replacement_congr {stock : Inventory} {connection other : Connection}
    (h : other.generation = connection.generation) :
    stock.replacement other = stock.replacement connection := by
  have hreason : stock.returnReason? other = stock.returnReason? connection := by
    rw [returnReason?, returnReason?, Connection.isStale, Connection.isStale, h]
  rw [replacement, replacement, hreason]

/-- An inventory with so many connections less lacks at most so many more. -/
theorem lack_le {stock next : Inventory} {owed : Nat} (hconfig : next.config = stock.config)
    (htotal : stock.total + stock.pending ≤ next.total + next.pending + owed) :
    next.lack ≤ stock.lack + owed := by
  rw [lack, lack, hconfig]
  omega

/-- The turns of the populations, with those for the connections that they are to make. -/
def fillTurns (stock : Inventory) (populations : List Population) : Nat :=
  (populations.map fun population => stock.turns population.phase).sum +
    if populations.isEmpty then 0 else 3 * stock.lack

/-- Populations have connections to make. -/
theorem fill_turns_of_some {stock : Inventory} {populations : List Population}
    (hsome : populations ≠ []) : stock.fillTurns populations =
      (populations.map fun population => stock.turns population.phase).sum + 3 * stock.lack := by
  rw [fillTurns, List.isEmpty_eq_false_iff.2 hsome, if_neg Bool.false_ne_true]

/-- There are no more connections to be made than the pool lacks. -/
theorem fill_turns_le {stock : Inventory} {populations : List Population} :
    stock.fillTurns populations ≤
      (populations.map fun population => stock.turns population.phase).sum + 3 * stock.lack := by
  rw [fillTurns]
  split <;> omega

/-- The inventory is the same but that it may have parted with one connection. -/
structure Yields (stock next : Inventory) : Prop where
  config : next.config = stock.config
  closed : next.closed = stock.closed
  generation : next.generation = stock.generation
  now : next.now = stock.now
  pending : next.pending = stock.pending
  total : stock.total ≤ next.total + 1

/-- The inventory may have parted with nothing. -/
theorem Yields.refl (stock : Inventory) : stock.Yields stock :=
  ⟨rfl, rfl, rfl, rfl, rfl, Nat.le_succ _⟩

/-- Each turn of a population pays for one connection. -/
theorem turns_pays (stock : Inventory) (phase : PopulationPhase) : 4 ≤ stock.turns phase := by
  cases phase <;> simp only [turns] <;> omega

/-- What a connection costs depends on the generation and on whether the pool is closed. -/
theorem turns_congr {stock next : Inventory} (hclosed : next.closed = stock.closed)
    (hgeneration : next.generation = stock.generation) : next.turns = stock.turns := by
  have hreason : next.returnReason? = stock.returnReason? := by
    funext connection
    rw [returnReason?, returnReason?, hclosed, hgeneration]
  funext phase
  cases phase with
  | reserving => rfl
  | connecting | connected => simp only [turns, replacement, hreason]

end Inventory

/-- A sum over a list depends on what is in it only. -/
theorem sum_of_coe {α : Type} (f : α → Nat) (items : List α) :
    (items.map f).sum = ((items : Multiset α).map f).sum := by
  rw [Multiset.map_coe, Multiset.sum_coe]

namespace Pool

/-- The time by which run loops and the maintenance task are late. -/
def arrears (pool : Pool) : Nat :=
  (pool.runLoops.map fun loop => pool.now.arrears loop.due).sum +
    pool.maintenance.elim 0 pool.now.arrears

/-- The turns of the calls and the timers. -/
def callTurns (pool : Pool) : Nat :=
  (pool.calls.map fun call => call.phase.turns).sum + pool.timers.length

/-- The turns that are left at this instant. -/
def turns (pool : Pool) : Nat :=
  4 * pool.callTurns + pool.stock.fillTurns pool.populations

/-- Less is left to do after than before, at the same instant. -/
structure Lessens (pool next : Pool) : Prop where
  now : next.now = pool.now
  less : toLex (next.arrears, next.turns) < toLex (pool.arrears, pool.turns)

/-- Nothing more is left to do after than before, at the same instant. -/
structure AddsNothing (pool next : Pool) : Prop where
  now : next.now = pool.now
  arrears : next.arrears ≤ pool.arrears
  turns : next.turns ≤ pool.turns

variable {pool middle next : Pool} {action : Action} {id : Nat} {call : Call} {owner : Owner}
  {population : Population}

/-- A task has caught up. -/
theorem Lessens.of_arrears (hnow : next.now = pool.now) (h : next.arrears < pool.arrears) :
    pool.Lessens next :=
  ⟨hnow, Prod.Lex.toLex_lt_toLex.2 (.inl h)⟩

/-- A turn was taken. -/
theorem Lessens.of_turns (hnow : next.now = pool.now) (harrears : next.arrears ≤ pool.arrears)
    (h : next.turns < pool.turns) : pool.Lessens next := by
  refine ⟨hnow, Prod.Lex.toLex_lt_toLex.2 ?_⟩
  exact harrears.lt_or_eq.imp_right fun hsame => ⟨hsame, h⟩

/-- The run loops have caught up. -/
theorem Lessens.of_run_loops (hnow : next.now = pool.now)
    (htask : next.maintenance = pool.maintenance)
    (h : (next.runLoops.map fun loop => pool.now.arrears loop.due).sum <
      (pool.runLoops.map fun loop => pool.now.arrears loop.due).sum) : pool.Lessens next := by
  refine .of_arrears hnow ?_
  rw [arrears, arrears, hnow, htask]
  exact Nat.add_lt_add_right h _

/-- Less is left to do also when nothing more comes after that. -/
theorem Lessens.then_nothing (h : pool.Lessens middle) (hnothing : middle.AddsNothing next) :
    pool.Lessens next where
  now := hnothing.now.trans h.now
  less := lt_of_le_of_lt
    (Prod.Lex.toLex_mono ⟨hnothing.arrears, hnothing.turns⟩) h.less

/-! ## Events and the end of a pool add nothing -/

/-- The calls that are left when callers go away were there before. -/
theorem lose_all_calls (pool : Pool) (ids : List Nat) :
    (pool.loseAll ids).calls.Sublist pool.calls := by
  have hlost : ∀ middle : Pool, ∀ id, (middle.loseWaiter id).calls.Sublist middle.calls := by
    intro middle id
    unfold loseWaiter
    split
    · exact List.filter_sublist
    · exact List.filter_sublist
    · exact List.Sublist.refl _
  unfold loseAll
  exact List.foldlRecOn (motive := fun next : Pool => next.calls.Sublist pool.calls) ids _
    (List.Sublist.refl _) fun middle hmiddle id _ => (hlost middle id).trans hmiddle

/-- The calls that are left when events made callers go away were there before. -/
theorem fire_calls (pool : Pool) (place : Nat) :
    (pool.fire place).calls.Sublist pool.calls := by
  have hcalls := lose_all_calls pool.bare
    (Tripwire.struck (pool.log.drop place) pool.tripwires)
  rw [← (fire_bare pool place).1] at hcalls
  exact hcalls

/-- What events set off leaves nothing more to do. -/
theorem fire_adds_nothing (pool : Pool) (place : Nat) : pool.AddsNothing (pool.fire place) := by
  have hcalls := ((fire_calls pool place).map fun call => call.phase.turns).sum_le_sum (by simp)
  obtain ⟨calls, queue, wires, departures, hfire⟩ := fire_frame pool place
  rw [hfire] at hcalls ⊢
  refine ⟨rfl, le_rfl, ?_⟩
  simp only [turns, callTurns] at hcalls ⊢
  omega

/-- With a pool that nobody has a part in goes all that was left to do. -/
theorem collect_adds_nothing (pool : Pool) : pool.AddsNothing pool.collect := by
  unfold collect
  split
  · exact ⟨rfl, le_rfl, le_rfl⟩
  · next hnobody =>
      simp only [isAlive, Bool.or_eq_true, Bool.not_eq_true', List.isEmpty_eq_false_iff, not_or,
        not_not] at hnobody
      obtain ⟨⟨⟨-, hcalls⟩, hpopulations⟩, -⟩ := hnobody
      refine ⟨rfl, ?_, ?_⟩
      · simp [arrears]
      · simp [turns, callTurns, Inventory.fillTurns, hcalls, hpopulations]

/-- What comes after the step of an action leaves nothing more to do. -/
theorem Lessens.after (h : pool.Lessens (pool.step action).2) :
    pool.Lessens (pool.after action) :=
  (h.then_nothing (fire_adds_nothing _ pool.log.length)).then_nothing (collect_adds_nothing _)

/-! ## Turns of calls -/

/-- Every call has a turn left. -/
theorem turns_pos (phase : Phase) : 0 < phase.turns := by
  rcases phase with _ | _ | (_ | _) | _ | _ <;> exact Nat.succ_pos _

/-- The turns of the calls when one of them moves on or ends. -/
theorem call_turns (h : pool.Coherent) (hfind : pool.call? id = some call) :
    (∀ phase, (pool.setPhase id phase).callTurns + call.phase.turns =
      pool.callTurns + phase.turns) ∧
    (pool.removeCall id).callTurns + call.phase.turns = pool.callTurns := by
  obtain ⟨rest, hcalls, hset, hremove, -⟩ := h.calls_split hfind
  have htimers : ∀ phase, (pool.setPhase id phase).timers = pool.timers := fun _ => rfl
  have hkept : (pool.removeCall id).timers = pool.timers := rfl
  simp only [callTurns, sum_of_coe, hcalls, hset, hremove, htimers, hkept, Multiset.map_cons,
    Multiset.sum_cons]
  exact ⟨fun phase => by omega, by omega⟩

/-- A call takes one of its turns. The pool may part with the connection that the call has. -/
structure Spends (pool next : Pool) : Prop where
  stock : pool.stock.Yields next.stock
  populations : next.populations = pool.populations
  arrears : next.arrears ≤ pool.arrears
  turns : next.callTurns < pool.callTurns

/-- A connection that the pool parts with costs populations three turns at most. -/
theorem yields_fill_turns (hstock : pool.stock.Yields next.stock)
    (hpopulations : next.populations = pool.populations) :
    next.stock.fillTurns next.populations ≤ pool.stock.fillTurns pool.populations + 3 := by
  have hturns := Inventory.turns_congr hstock.closed hstock.generation
  have hlack : next.stock.lack ≤ pool.stock.lack + 1 := by
    refine Inventory.lack_le hstock.config ?_
    have htotal := hstock.total
    rw [hstock.pending]
    omega
  simp only [Inventory.fillTurns, hpopulations, hturns]
  split <;> omega

/-- A turn of a call pays for the connection that the pool may part with. -/
theorem Spends.lessens (h : pool.Spends next) : pool.Lessens next := by
  refine .of_turns h.stock.now h.arrears ?_
  have hfill := yields_fill_turns h.stock h.populations
  have hturns := h.turns
  simp only [Pool.turns]
  omega

/-- A connection that a call gives up is one that the pool parts with. -/
theorem give_up_yields (stock : Inventory) (connection : Connection) (reason : CloseReason) :
    stock.Yields ((stock.giveBack connection).discard connection reason) := by
  rw [Inventory.discard_eq]
  refine ⟨rfl, rfl, rfl, rfl, rfl, ?_⟩
  have herase : stock.checkedOut.length ≤ (stock.checkedOut.erase connection.id).length + 1 := by
    rw [List.length_erase]
    split <;> omega
  simp only [Inventory.total, Inventory.giveBack]
  omega

/-- A call ends with an error, and the pool may part with its connection. -/
theorem fail_call_spends {stock : Inventory} (h : pool.Coherent)
    (hfind : pool.call? id = some call) (hyields : pool.stock.Yields stock) (error : PoolError) :
    pool.Spends ({ pool with stock := stock }.failCall id error) where
  stock := ⟨hyields.config, hyields.closed, hyields.generation, hyields.now, hyields.pending,
    hyields.total⟩
  populations := rfl
  arrears := by
    have hnow : ({ pool with stock := stock }.failCall id error).now = pool.now := hyields.now
    simp only [arrears, hnow]
    exact le_rfl
  turns := by
    have hremoved := (call_turns h hfind).2
    have hpos := turns_pos call.phase
    show (pool.removeCall id).callTurns < pool.callTurns
    omega

/-- A call moves on to a phase with fewer turns, and the pool may part with its connection. -/
theorem set_phase_spends {stock : Inventory} {phase : Phase} (h : pool.Coherent)
    (hfind : pool.call? id = some call) (hyields : pool.stock.Yields stock)
    (hless : phase.turns < call.phase.turns) :
    pool.Spends ({ pool with stock := stock }.setPhase id phase) where
  stock := hyields
  populations := rfl
  arrears := by
    have hnow : ({ pool with stock := stock }.setPhase id phase).now = pool.now := hyields.now
    simp only [arrears, hnow]
    exact le_rfl
  turns := by
    have hset := (call_turns h hfind).1 phase
    show (pool.setPhase id phase).callTurns < pool.callTurns
    omega

/-- The periods of the tasks of a reachable pool are not zero. -/
theorem Reachable.periods (h : pool.Reachable) :
    0 < pool.config.waitQueuePeriod ∧
      ∀ interval, pool.config.maintenanceInterval = some interval → 0 < interval := by
  have hvalid := h.config_valid
  unfold Config.validate at hvalid
  split at hvalid
  · cases hvalid
  · split at hvalid
    · cases hvalid
    · next hperiod =>
        split at hvalid
        · cases hvalid
        · next hinterval =>
            refine ⟨Nat.pos_of_ne_zero hperiod, fun interval hsome => Nat.pos_of_ne_zero ?_⟩
            rintro rfl
            exact hinterval hsome

/-- A task that starts now is not late. -/
theorem arrears_starting {now due : Instant} {period : Duration} (hperiod : 0 < period)
    (hdue : now.add? period = some due) : now.arrears due = 0 := by
  rw [Instant.add_eq_some hdue]
  exact Nat.sub_eq_zero_of_le (Nat.add_le_add_left hperiod now)

/-- A call that was let in waits in line, and its turn paid for a timer. A run loop that starts
is not late. -/
theorem join_spends {joined : Pool} (h : pool.Reachable) (hfind : pool.call? id = some call)
    (hphase : 3 ≤ call.phase.turns) (hcalls : joined.calls = pool.calls)
    (hstock : joined.stock = pool.stock) (hpopulations : joined.populations = pool.populations)
    (hmaintenance : joined.maintenance = pool.maintenance)
    (hloops : joined.runLoops = pool.runLoops)
    (htimers : joined.timers.length ≤ pool.timers.length + 1) (starts : Bool) (member : Nat) :
    pool.Spends ((if starts then joined.startRunLoop else joined).setPhase id
      (.queued member)) := by
  have hset := (call_turns h.sound.1 hfind).1 (.queued member)
  have hturns : ∀ final : Pool, final.calls = joined.calls → final.timers = joined.timers →
      (final.setPhase id (.queued member)).callTurns < pool.callTurns := by
    intro final hfinal hkept
    have hqueued : (Phase.queued member).turns = 1 := rfl
    rw [hqueued] at hset
    simp only [callTurns, setPhase, hfinal, hkept, hcalls] at hset ⊢
    omega
  have hyields : pool.stock.Yields joined.stock := hstock ▸ .refl _
  cases starts with
  | false =>
      refine ⟨hyields, hpopulations, ?_, hturns _ rfl rfl⟩
      rw [if_neg Bool.false_ne_true]
      simp only [arrears, now, setPhase, hloops, hmaintenance, hstock]
      exact le_rfl
  | true =>
      refine ⟨hyields, hpopulations, ?_, hturns _ rfl rfl⟩
      have hfirst : (joined.firstTick?.toList.map fun loop =>
          pool.now.arrears loop.due).sum = 0 := by
        simp only [firstTick?, now, config, hstock]
        cases hdue : pool.stock.now.add? pool.stock.config.waitQueuePeriod with
        | none => rfl
        | some due =>
            have hstarting := arrears_starting h.periods.1 hdue
            simpa using hstarting
      rw [if_pos rfl]
      simp only [arrears, now, setPhase, startRunLoop, hloops, hmaintenance, hstock,
        List.map_append, List.sum_append] at hfirst ⊢
      omega

/-- A call that enters the line waits there, or it ends. -/
theorem enter_spends (h : pool.Reachable) {deadline : Option Instant} {readmitted : Bool}
    (hfind : pool.call? id = some ⟨id, deadline, .entering readmitted⟩) :
    pool.Spends (pool.enter id) := by
  have hsame := Inventory.Yields.refl pool.stock
  unfold enter
  simp only [hfind]
  split
  · exact fail_call_spends h.sound.1 hfind hsame _
  · split
    · exact fail_call_spends h.sound.1 hfind hsame _
    · next admission queue hin =>
        cases deadline with
        | none =>
            exact @join_spends pool id _ { pool with queue := queue } h hfind le_rfl rfl rfl rfl
              rfl rfl (Nat.le_succ _) _ _
        | some deadline =>
            refine @join_spends pool id _
              ({ pool with queue := queue }.armTimer admission.member deadline) h hfind le_rfl
              rfl rfl rfl rfl rfl ?_ _ _
            simp only [armTimer]
            split
            · exact List.length_append.le
            · exact Nat.le_succ _

/-- A call with a connection ends, or is to enter again because the connection is of no use. -/
theorem announce_spends (h : pool.Coherent) (hfind : pool.call? id = some call)
    (hphase : 3 < call.phase.turns) (connection : Connection) :
    pool.Spends (pool.announce id connection) := by
  unfold announce
  split
  · next reason _ =>
      have hyields := give_up_yields pool.stock connection reason
      dsimp only
      split
      · exact fail_call_spends h hfind hyields _
      · exact set_phase_spends h hfind hyields hphase
  · have hremoved := (call_turns h hfind).2
    refine ⟨⟨rfl, rfl, rfl, rfl, rfl, Nat.le_succ _⟩, rfl, le_rfl, ?_⟩
    show (pool.removeCall id).callTurns < pool.callTurns
    omega

/-- A call that looks at its answer ends, or it connects or announces the connection that it
has. -/
theorem resume_spends (h : pool.Coherent) {deadline : Option Instant}
    {answer : Except PoolError Connection}
    (hfind : pool.call? id = some ⟨id, deadline, .answered answer⟩) :
    pool.Spends (pool.resume id) := by
  have hsame := Inventory.Yields.refl pool.stock
  unfold resume
  rw [hfind]
  cases answer with
  | error error => exact fail_call_spends h hfind hsame error
  | ok connection =>
      dsimp only
      split
      · exact announce_spends h hfind (by simp [Phase.turns]) connection
      · exact fail_call_spends h hfind (give_up_yields _ connection _) _
      · exact set_phase_spends h hfind hsame (by simp [Phase.turns])

/-- A call whose connect is over has the outcome of it. -/
theorem finish_connect_spends (h : pool.Coherent) {deadline : Option Instant}
    {connection : Connection} {due : Instant} (hdue : due ≤ pool.now)
    (hfind : pool.call? id = some ⟨id, deadline, .connecting connection due⟩) :
    pool.Spends (pool.finishConnect id) := by
  unfold finishConnect
  simp only [hfind]
  rw [if_pos hdue]
  exact set_phase_spends h hfind ⟨rfl, rfl, rfl, rfl, rfl, Nat.le_succ _⟩ (by simp [Phase.turns])

/-- A call that registers the outcome of its connect announces its connection, or ends. -/
theorem register_spends (h : pool.Coherent) {deadline : Option Instant}
    {connection : Connection} {outcome : Except LinkError Unit}
    (hfind : pool.call? id = some ⟨id, deadline, .connected connection outcome⟩) :
    pool.Spends (pool.register id) := by
  unfold register
  rw [hfind]
  cases outcome with
  | error error => exact fail_call_spends h hfind (give_up_yields _ connection _) _
  | ok =>
      have hready := h.withStock (pool.stock.emit (.ready connection.info)) rfl
      have hspends := announce_spends hready hfind (by simp [Phase.turns]) connection
      exact ⟨⟨hspends.stock.config, hspends.stock.closed, hspends.stock.generation,
        hspends.stock.now, hspends.stock.pending, hspends.stock.total⟩, hspends.populations,
        hspends.arrears, hspends.turns⟩

/-- A call that is due takes one of its turns. -/
theorem call_lessens (h : pool.Reachable) (here : call ∈ pool.calls)
    (hturn : callAction? pool.now call = some action) : pool.Lessens (pool.step action).2 := by
  have hcoherent := h.sound.1
  have hfind : pool.call? call.id = some call := Keyed.find_of_mem hcoherent.callIds here
  obtain ⟨id, deadline, phase⟩ := call
  cases phase with
  | entering readmitted =>
      obtain rfl := Option.some.inj hturn
      exact (enter_spends h hfind).lessens
  | queued member => cases hturn
  | answered answer =>
      obtain rfl := Option.some.inj hturn
      exact (resume_spends hcoherent hfind).lessens
  | connecting connection due =>
      obtain ⟨hdue, haction⟩ := Option.ite_none_right_eq_some.1 hturn
      obtain rfl := Option.some.inj haction
      exact (finish_connect_spends hcoherent hdue hfind).lessens
  | connected connection outcome =>
      obtain rfl := Option.some.inj hturn
      exact (register_spends hcoherent hfind).lessens

/-! ## Turns of populations -/

/-- The turns of the populations when one of them moves on or ends, whatever the inventory is
then. -/
theorem population_turns (h : pool.Coherent) (hfind : pool.population? owner = some population) :
    (∀ stock added phase,
      (((pool.setPopulation owner added phase).populations.map fun population =>
          Inventory.turns stock population.phase).sum + stock.turns population.phase =
        (pool.populations.map fun population => stock.turns population.phase).sum +
          stock.turns phase)) ∧
    ∀ stock, ((pool.removePopulation owner).populations.map fun population =>
        Inventory.turns stock population.phase).sum + stock.turns population.phase =
      (pool.populations.map fun population => stock.turns population.phase).sum := by
  obtain ⟨rest, hall, hset, hremove, -⟩ := Keyed.find_split h.owners hfind
  have hmoved : ∀ added phase, ((pool.setPopulation owner added phase).populations :
      Multiset Population) = ⟨owner, added, phase⟩ ::ₘ rest :=
    fun added phase => hset fun _ => ⟨owner, added, phase⟩
  have hgone : ((pool.removePopulation owner).populations : Multiset Population) = rest :=
    hremove _ fun other => by simp
  simp only [sum_of_coe, hall, hmoved, hgone, Multiset.map_cons, Multiset.sum_cons]
  exact ⟨fun stock added phase => by omega, fun stock => by omega⟩

/-- A population that moves on takes turns that pay for the connections it leaves to be made; it
may have made some itself. -/
theorem set_population_lessens {stock : Inventory} (h : pool.Coherent)
    (hfind : pool.population? owner = some population) (hnow : stock.now = pool.stock.now)
    (hturns : stock.turns = pool.stock.turns) {made owed : Nat}
    (hlack : stock.lack + made ≤ pool.stock.lack + owed) {added : Nat} {phase : PopulationPhase}
    (hless : pool.stock.turns phase + 3 * owed <
      pool.stock.turns population.phase + 3 * made) :
    pool.Lessens ({ pool with stock := stock }.setPopulation owner added phase) := by
  have hsome : pool.populations ≠ [] := List.ne_nil_of_mem (List.mem_of_find?_eq_some hfind)
  have hset := (population_turns h hfind).1 pool.stock added phase
  refine .of_turns hnow ?_ ?_
  · simp only [arrears, now, setPopulation, hnow]
    exact le_rfl
  · have hafter : stock.fillTurns (pool.setPopulation owner added phase).populations ≤ _ :=
      Inventory.fill_turns_le
    rw [hturns] at hafter
    have hbefore := @Inventory.fill_turns_of_some pool.stock _ hsome
    show 4 * pool.callTurns + stock.fillTurns (pool.setPopulation owner added phase).populations <
      4 * pool.callTurns + pool.stock.fillTurns pool.populations
    omega

/-- A population that ends takes turns that pay for a connection which it leaves to others to
make. -/
theorem remove_population_lessens {stock : Inventory} (h : pool.Coherent)
    (hfind : pool.population? owner = some population) (hnow : stock.now = pool.stock.now)
    (hturns : stock.turns = pool.stock.turns) (hlack : stock.lack ≤ pool.stock.lack + 1)
    (hstock : next.stock = stock) (hcalls : next.calls = pool.calls)
    (htimers : next.timers = pool.timers)
    (hpopulations : next.populations = (pool.removePopulation owner).populations)
    (harrears : next.arrears ≤ pool.arrears) : pool.Lessens next := by
  have hsome : pool.populations ≠ [] := List.ne_nil_of_mem (List.mem_of_find?_eq_some hfind)
  have hremoved := (population_turns h hfind).2 pool.stock
  have hpays := pool.stock.turns_pays population.phase
  refine .of_turns ?_ harrears ?_
  · rw [now, hstock, hnow, now]
  · have hafter : stock.fillTurns (pool.removePopulation owner).populations ≤ _ :=
      Inventory.fill_turns_le
    rw [hturns] at hafter
    have hbefore := @Inventory.fill_turns_of_some pool.stock _ hsome
    simp only [turns, callTurns, hcalls, htimers, hpopulations, hstock]
    omega

/-- The end of a population makes no task late: one that starts has its first tick to come. -/
theorem finish_population_arrears {stock : Inventory} (h : pool.Reachable)
    (howner : owner ∈ pool.owners) (hnow : stock.now = pool.stock.now)
    (hconfig : stock.config = pool.stock.config) (result : CallResult) :
    ({ pool with stock := stock }.finishPopulation owner result).arrears ≤ pool.arrears := by
  cases owner with
  | call id =>
      simp only [arrears, now, finishPopulation, removePopulation, hnow]
      exact le_rfl
  | maintenance =>
      simp only [arrears, now, finishPopulation, removePopulation, hnow]
      exact le_rfl
  | opening =>
      have hnone := (h.orderly.opening howner).1
      have hfirst : (pool.config.maintenanceInterval.bind pool.now.add?).elim 0
          pool.now.arrears = 0 := by
        cases hdue : pool.config.maintenanceInterval.bind pool.now.add? with
        | none => rfl
        | some due =>
            obtain ⟨interval, hinterval, hadd⟩ := Option.bind_eq_some_iff.1 hdue
            exact arrears_starting (h.periods.2 interval hinterval) hadd
      simp only [arrears, now, config, finishPopulation, removePopulation, hnow, hconfig,
        hnone] at hfirst ⊢
      rw [hfirst]
      exact le_rfl

/-- A population that ends takes turns that pay for a connection which it leaves to others to
make. -/
theorem finish_population_lessens {stock : Inventory} (h : pool.Reachable)
    (hfind : pool.population? owner = some population) (hnow : stock.now = pool.stock.now)
    (hconfig : stock.config = pool.stock.config) (hturns : stock.turns = pool.stock.turns)
    (hlack : stock.lack ≤ pool.stock.lack + 1) (result : CallResult) :
    pool.Lessens ({ pool with stock := stock }.finishPopulation owner result) := by
  have harrears := finish_population_arrears h (owner_of_found hfind) hnow hconfig result
  have hremoved := finish_population_removed { pool with stock := stock } owner result
  refine remove_population_lessens h.sound.1 hfind hnow hturns hlack ?_ ?_ ?_ hremoved harrears
  · cases owner <;> rfl
  · cases owner <;> rfl
  · cases owner <;> rfl

/-- A population that looks whether the pool has its least size makes a connection or ends. -/
theorem reserve_lessens (h : pool.Reachable) {added : Nat}
    (hfind : pool.population? owner = some ⟨owner, added, .reserving⟩) :
    pool.Lessens (pool.reserve owner) := by
  unfold reserve
  simp only [hfind]
  split
  · exact finish_population_lessens h hfind rfl rfl rfl (Nat.le_succ _) _
  · next hwanted =>
      obtain ⟨hopen, hbelow⟩ := below_least (by simpa using hwanted)
      have hnone : pool.stock.returnReason? pool.stock.newborn = none := by
        simp [Inventory.returnReason?, hopen, Inventory.newborn, Connection.make,
          Connection.isStale]
      have hcost : pool.stock.replacement pool.stock.newborn = 0 := by
        rw [Inventory.replacement, hnone]
        rfl
      refine @set_population_lessens pool owner _ _ h.sound.1 hfind ?_ ?_ 1 0 ?_ _ _ ?_
      · rfl
      · exact Inventory.turns_congr rfl rfl
      · show pool.stock.config.minPoolSize.toNat -
          (pool.stock.total + (pool.stock.pending + 1)) + 1 ≤
            pool.stock.config.minPoolSize.toNat - (pool.stock.total + pool.stock.pending) + 0
        omega
      · show 6 + pool.stock.replacement pool.stock.newborn + 3 * 0 < 4 + 3 * 1
        omega

/-- A population whose connect is over has the outcome of it. -/
theorem finish_reserved_lessens (h : pool.Coherent) {added : Nat} {connection : Connection}
    {due : Instant} (hdue : due ≤ pool.now)
    (hfind : pool.population? owner = some ⟨owner, added, .connecting connection due⟩) :
    pool.Lessens (pool.finishReserved owner) := by
  have hcost := @Inventory.replacement_congr pool.stock connection
    (connection.connect pool.stock.network pool.now).2.1
    (congrArg ConnectionInfo.generation (connection.connect_info _ _))
  unfold finishReserved
  simp only [hfind]
  rw [if_pos hdue]
  refine @set_population_lessens pool owner _ _ h hfind ?_ ?_ 0 0 ?_ _ _ ?_
  · rfl
  · exact Inventory.turns_congr rfl rfl
  · exact le_rfl
  · simp only [Inventory.turns, hcost]
    omega

/-- A population that registers the outcome of its connect goes on to look, or ends. -/
theorem settle_reserved_lessens (h : pool.Reachable) {added : Nat} {connection : Connection}
    {outcome : Except LinkError Unit}
    (hfind : pool.population? owner = some ⟨owner, added, .connected connection outcome⟩) :
    pool.Lessens (pool.settleReserved owner) := by
  unfold settleReserved
  simp only [hfind]
  cases outcome with
  | error error =>
      dsimp only
      rw [Inventory.discard_eq]
      refine finish_population_lessens h hfind ?_ ?_ ?_ ?_ _
      · rfl
      · rfl
      · exact Inventory.turns_congr rfl rfl
      · refine Inventory.lack_le rfl ?_
        simp only [Inventory.total]
        omega
  | ok =>
      have hreason : ({ pool.stock with pending := pool.stock.pending - 1 }.emit
          (.ready connection.info)).returnReason? connection =
            pool.stock.returnReason? connection := rfl
      dsimp only
      rw [hreason]
      split
      · next reason hrefused =>
          have hcost : pool.stock.replacement connection = 3 := by
            rw [Inventory.replacement, hrefused]
            rfl
          rw [Inventory.discard_eq]
          refine @set_population_lessens pool owner _ _ h.sound.1 hfind ?_ ?_ 0 1 ?_ _ _ ?_
          · rfl
          · exact Inventory.turns_congr rfl rfl
          · refine Inventory.lack_le rfl ?_
            simp only [Inventory.total, Inventory.emit]
            omega
          · simp only [Inventory.turns, hcost]
            omega
      · refine @set_population_lessens pool owner _ _ h.sound.1 hfind ?_ ?_ 0 0 ?_ _ _ ?_
        · rfl
        · exact Inventory.turns_congr rfl rfl
        · refine Inventory.lack_le rfl ?_
          simp only [Inventory.total, Inventory.emit, Inventory.putBack, List.length_append,
            List.length_singleton]
          omega
        · simp only [Inventory.turns]
          omega

/-- A population that is due takes one of its turns. -/
theorem population_lessens (h : pool.Reachable) (here : population ∈ pool.populations)
    (hturn : populationAction? pool.now population = some action) :
    pool.Lessens (pool.step action).2 := by
  have hcoherent := h.sound.1
  have hfind : pool.population? population.owner = some population :=
    Keyed.find_of_mem hcoherent.owners here
  obtain ⟨owner, added, phase⟩ := population
  cases phase with
  | reserving =>
      obtain rfl := Option.some.inj hturn
      exact reserve_lessens h hfind
  | connecting connection due =>
      obtain ⟨hdue, haction⟩ := Option.ite_none_right_eq_some.1 hturn
      obtain rfl := Option.some.inj haction
      exact finish_reserved_lessens hcoherent hdue hfind
  | connected connection outcome =>
      obtain rfl := Option.some.inj hturn
      exact settle_reserved_lessens h hfind

/-- A run of a maintenance task that was stopped is dropped. -/
theorem abandon_maintenance_lessens (h : pool.Reachable) (hgone : pool.maintenance = none)
    (hrunning : pool.isMaintaining = true) : pool.Lessens pool.abandonMaintenance := by
  obtain ⟨population, hfind⟩ := Option.isSome_iff_exists.1 hrunning
  unfold abandonMaintenance
  rw [hgone]
  dsimp only
  unfold abandonPopulation
  rw [hfind]
  dsimp only
  split
  · exact remove_population_lessens h.sound.1 hfind rfl rfl (Nat.le_succ _) rfl rfl rfl rfl le_rfl
  · next connection _ =>
      rw [Inventory.discard_eq]
      refine remove_population_lessens h.sound.1 hfind ?_ ?_ ?_ rfl rfl rfl rfl le_rfl
      · rfl
      · exact Inventory.turns_congr rfl rfl
      · refine Inventory.lack_le rfl ?_
        simp only [Inventory.total]
        omega

/-! ## Ticks and timers -/

/-- The next tick of a task that is due is further on, by a period or more. -/
theorem next_tick_arrears {now due : Instant} {period : Duration} (hperiod : 0 < period)
    (hdue : due ≤ now) : now.arrears (nextTick due now period) < now.arrears due := by
  have hnext : due + period ≤ nextTick due now period := by
    unfold nextTick
    split
    · exact Nat.le_refl _
    · exact Nat.add_le_add_right hdue period
  have hlater : due < nextTick due now period :=
    (Nat.lt_add_of_pos_right hperiod).trans_le hnext
  exact Nat.sub_lt_sub_left (Nat.lt_succ_of_le hdue) hlater

/-- A tick of the maintenance task catches up, or ends the task. -/
theorem maintain_lessens (h : pool.Reachable) {due : Instant}
    (htask : pool.maintenance = some due) (hlate : due ≤ pool.now)
    (hidle : pool.isMaintaining = false) : pool.Lessens pool.maintain := by
  obtain ⟨interval, hinterval⟩ := Option.ne_none_iff_exists'.1
    (h.orderly.interval (by rw [htask]; exact Option.some_ne_none due))
  have hcatches := next_tick_arrears (h.periods.2 interval hinterval) hlate
  unfold maintain
  simp only [htask, hinterval, hidle, hlate, decide_true, Bool.not_false, Bool.and_self,
    if_true]
  split
  · refine .of_arrears rfl ?_
    simp only [arrears, htask, Option.elim_none, Option.elim_some, now]
    exact Nat.add_lt_add_left (Nat.zero_lt_of_lt hcatches) _
  · refine .of_arrears rfl ?_
    simp only [arrears, htask, Option.elim_some]
    exact Nat.add_lt_add_left hcatches _

/-- Lending takes no time. -/
theorem lend_now (stock : Inventory) : stock.lend.2.now = stock.now := by
  have htake : stock.takeIdle.2.now = stock.now := by
    unfold Inventory.takeIdle
    cases htake : stock.takeFrom stock.available with
    | mk result final =>
        cases result with
        | none => exact (Inventory.take_from_none rfl htake).1.now_eq
        | some connection =>
            obtain ⟨found, rest, hevicts, -, -, rfl⟩ := Inventory.take_from_some rfl htake
            exact hevicts.now_eq
  unfold Inventory.lend Inventory.obtain
  generalize stock.takeIdle = taken at htake
  obtain ⟨result, middle⟩ := taken
  cases result with
  | some connection => exact htake
  | none =>
      dsimp only
      cases middle.hasCapacity <;> exact htake

/-- Taking back a connection takes no time. -/
theorem reclaim_now (stock : Inventory) (connection : Connection) :
    (stock.reclaim connection).now = stock.now := by
  unfold Inventory.reclaim
  dsimp only
  split
  · rw [Inventory.discard_eq]
    rfl
  · rfl

/-- A run loop that attends to the line leaves the run loops and the maintenance task as they
are. -/
theorem attend_keeps_tasks (pool : Pool) (lost : List Nat) :
    (pool.attend lost).2.now = pool.now ∧ (pool.attend lost).2.runLoops = pool.runLoops ∧
      (pool.attend lost).2.maintenance = pool.maintenance := by
  have hsettled : ∀ (middle : Pool) (outcome : WaitQueue.Outcome Nat Connection),
      (middle.settle outcome).now = middle.now ∧
        (middle.settle outcome).runLoops = middle.runLoops ∧
        (middle.settle outcome).maintenance = middle.maintenance := by
    intro middle outcome
    obtain ⟨_, _, hframe⟩ := settle_frame middle outcome
    rw [hframe]
    exact ⟨rfl, rfl, rfl⟩
  unfold attend
  split
  · have hnow := lend_now pool.stock
    generalize pool.stock.lend = lent at hnow
    obtain ⟨resource, stock⟩ := lent
    have hsearched : ∃ calls queue wires departures,
        ({ pool with stock := stock }.fire pool.log.length).loseAll lost =
          { pool with
            stock := stock, calls := calls, queue := queue, tripwires := wires,
            departures := departures } := by
      obtain ⟨_, _, _, _, hfire⟩ := fire_frame { pool with stock := stock } pool.log.length
      obtain ⟨calls, queue, hlost⟩ :=
        lose_all_frame ({ pool with stock := stock }.fire pool.log.length) lost
      rw [hfire] at hlost ⊢
      exact ⟨calls, queue, _, _, hlost⟩
    obtain ⟨calls, queue, wires, departures, hsearched⟩ := hsearched
    dsimp only
    rw [hsearched]
    obtain ⟨htime, hloops, htask⟩ := hsettled { pool with
      stock := stock, calls := calls, queue := queue, tripwires := wires,
      departures := departures } (queue.serve resource).2
    split
    · next connection _ =>
        exact ⟨(reclaim_now _ connection).trans (htime.trans hnow), hloops, htask⟩
    · exact ⟨htime.trans hnow, hloops, htask⟩
    · exact ⟨htime.trans hnow, hloops, htask⟩
  · split <;> exact hsettled pool _

/-- Run loops are late by less when one of them catches up or stops. -/
theorem run_loops_arrears {loops : List RunLoop} {loop : RunLoop} {now later : Instant}
    (hids : (loops.map RunLoop.id).Nodup) (hloop : loop ∈ loops)
    (hcatches : now.arrears later < now.arrears loop.due) :
    ((loops.map fun other => if other.id = loop.id then { other with due := later }
      else other).map
        fun other : RunLoop => now.arrears other.due).sum <
      (loops.map fun other => now.arrears other.due).sum ∧
    ((loops.filter fun other => other.id != loop.id).map
        fun other : RunLoop => now.arrears other.due).sum <
      (loops.map fun other => now.arrears other.due).sum := by
  obtain ⟨rest, hall, hset, hremove, -⟩ :=
    Keyed.find_split hids (Keyed.find_of_mem hids hloop)
  have hkept := hremove (fun other => other.id != loop.id) fun other => bne_iff_ne
  have hmoved := hset fun other => { other with due := later }
  simp only [sum_of_coe, hall, hkept, hmoved, Multiset.map_cons, Multiset.sum_cons]
  exact ⟨Nat.add_lt_add_right hcatches _, Nat.lt_add_of_pos_left (Nat.zero_lt_of_lt hcatches)⟩

/-- A tick of a run loop catches up, or the run loop stops. -/
theorem tick_lessens (h : pool.Reachable) {loop : RunLoop} (hloop : loop ∈ pool.runLoops)
    (hdue : loop.due ≤ pool.now) (lost : List Nat) : pool.Lessens (pool.tick loop.id lost) := by
  have hids : (pool.runLoops.map RunLoop.id).Nodup := by
    rcases h.tended.loops with hloops | hbroke
    · rw [hloops]
      cases pool.runLoop <;> simp
    · rw [hbroke.gone]
      exact List.nodup_nil
  obtain ⟨hmoved, hstopped⟩ :=
    run_loops_arrears hids hloop (next_tick_arrears h.periods.1 hdue)
  obtain ⟨hnow, hloops, htask⟩ := attend_keeps_tasks pool lost
  unfold tick
  rw [Keyed.find_of_mem hids hloop]
  dsimp only
  rw [if_pos hdue]
  generalize pool.attend lost = attended at hnow hloops htask
  obtain ⟨goesOn, next⟩ := attended
  dsimp only at hnow hloops htask
  cases goesOn with
  | true =>
      refine .of_run_loops hnow htask ?_
      dsimp only
      rw [hloops]
      exact hmoved
  | false =>
      refine .of_run_loops hnow htask ?_
      dsimp only
      rw [hloops]
      exact hstopped

/-- A call that is answered with an error has one turn before and after. -/
theorem deliver_error_turns (pool : Pool) (member : Nat) (error : PoolError) :
    ((pool.deliver (member, .error error)).calls.map fun call => call.phase.turns) =
      pool.calls.map fun call => call.phase.turns := by
  simp only [deliver, List.map_map]
  refine List.map_congr_left fun call _ => ?_
  simp only [Function.comp_apply]
  split
  · next hphase =>
      split
      · rw [hphase]
        rfl
      · rfl
  · rfl

/-- A timer that is due ends the wait of its member, whose call then has its answer to look at. -/
theorem expire_lessens (h : pool.Coherent) {timer : Timer} (htimer : timer ∈ pool.timers)
    (hdue : timer.deadline ≤ pool.now) : pool.Lessens (pool.expire timer.member) := by
  have hfewer : (pool.timers.filter fun other => other.member != timer.member).length <
      pool.timers.length :=
    List.length_filter_lt_length_iff_exists.2 ⟨timer, htimer, by simp⟩
  rw [expire_eq h ⟨timer, htimer, rfl, hdue⟩]
  refine .of_turns rfl le_rfl ?_
  have hcalls := deliver_error_turns pool timer.member pool.queue.timeoutError
  have hfill : ∀ answer, (pool.deliver answer).stock.fillTurns (pool.deliver answer).populations =
      pool.stock.fillTurns pool.populations := fun _ => rfl
  simp only [turns, callTurns, hcalls, hfill]
  omega

/-! ## Every instant comes to an end -/

/-- Whatever is due leaves less to do. -/
theorem Reachable.due_lessens (h : pool.Reachable) (hdue : pool.Due action) :
    pool.Lessens (pool.after action) := by
  refine Lessens.after ?_
  cases hdue with
  | call here turn => exact call_lessens h here turn
  | population here turn => exact population_lessens h here turn
  | timer here due => exact expire_lessens h.sound.1 here due
  | runLoop here due lost => exact tick_lessens h here due lost
  | maintenance task late idle => exact maintain_lessens h task late idle
  | stopped gone running => exact abandon_maintenance_lessens h gone running

/-- Each of the actions is due when it is its turn. -/
def AllDue (pool : Pool) : List Action → Prop
  | [] => True
  | action :: rest => pool.Due action ∧ (pool.after action).AllDue rest

/-- Every reachable pool can be settled by actions that are due, at the same instant. -/
theorem Reachable.settles (h : pool.Reachable) :
    ∃ actions, pool.AllDue actions ∧ (pool.run actions).now = pool.now ∧
      (pool.run actions).ready? = none := by
  -- The induction is on what is left to do.
  induction hleft : toLex (pool.arrears, pool.turns) using WellFoundedLT.induction
    generalizing pool with
  | ind left ih =>
      cases hready : pool.ready? with
      | none => exact ⟨[], trivial, rfl, hready⟩
      | some action =>
          have hdue := due_of_ready hready
          have hless := h.due_lessens hdue
          obtain ⟨rest, hrest, hnow, hsettled⟩ := ih _ (hleft ▸ hless.less) (h.after action) rfl
          exact ⟨action :: rest, ⟨hdue, hrest⟩, hnow.trans hless.now, hsettled⟩

/-- No schedule of actions that are due goes on for ever. -/
theorem Reachable.no_endless_schedule (h : pool.Reachable) (schedule : Nat → Action) :
    ∃ n, ¬ (pool.run ((List.range n).map schedule)).Due (schedule n) := by
  let state : Nat → Pool := fun n => pool.run ((List.range n).map schedule)
  have hnext : ∀ n, state (n + 1) = (state n).after (schedule n) := by
    intro n
    simp only [state, List.range_succ, List.map_append, run_append, List.map_singleton]
    rfl
  obtain ⟨n, hn⟩ := WellFounded.not_rel_apply_succ (r := (· < ·))
    fun n => toLex ((state n).arrears, (state n).turns)
  refine ⟨n, fun hdue => hn ?_⟩
  show toLex ((state (n + 1)).arrears, (state (n + 1)).turns) < _
  rw [hnext]
  exact ((h.run _).due_lessens hdue).less

end Pool

end ConnectionPool
