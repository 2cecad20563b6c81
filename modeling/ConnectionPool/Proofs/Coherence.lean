import ConnectionPool.Pool.Action
import ConnectionPool.Proofs.Keyed
import ConnectionPool.Proofs.Line

/-!
# Coherent pools

A pool is coherent if its parts agree: calls and populations are told apart by their ids and
owners, what a phase says of its connection or its error is true of it, the members of the line
that listen are the calls that wait in it, and the line is destroyed when the pool is closed.
`perform_step` in `Proofs.Pool.Steps` shows that every action keeps a pool coherent. How an
action changes the list of calls is said once, by `Coherent.calls_split`.
-/

namespace ConnectionPool

/-- The member as which a call in this phase waits in line. -/
def Phase.member? : Phase → Option Nat
  | .queued member => some member
  | _ => none

/-- The reason that an acquisition's error is to be reported with; `none` for errors that no
acquisition ends with. -/
def PoolError.reason? : PoolError → Option FailureReason
  | .poolClosed .. => some .poolClosed
  | .waitQueueFull .. => some .queueFull
  | .waitQueueTimeout .. => some .timeout
  | .connect .. => some .connectionError
  | .foreignConnection .. | .configuration _ | .invalidAddress _ => none

/-- An error with a reason is reported with it. -/
theorem PoolError.reported {error : PoolError} {reason : FailureReason}
    (h : error.reason? = some reason) : error.failureReason = reason := by
  cases error <;> cases h <;> rfl

/-- A call connects a connection that has to be connected, and the outcome of that is to be seen
at the connection. An error that it is answered with has a reason. -/
def Phase.Sound : Phase → Prop
  | .answered (.error error) => error.reason? ≠ none
  | .connecting connection _ => connection.establishNow? = none
  | .connected connection outcome => connection.established = outcome.isOk
  | _ => True

/-- A population connects a connection that has to be connected, and the outcome of that is to
be seen at the connection. -/
def PopulationPhase.Sound : PopulationPhase → Prop
  | .connecting connection _ => connection.establishNow? = none
  | .connected connection outcome => connection.established = outcome.isOk
  | .reserving => True

namespace Pool

/-- The members as which the calls of the pool wait in line. -/
def waiting (pool : Pool) : Multiset Nat :=
  (pool.calls : Multiset Call).filterMap fun call => call.phase.member?

/-- The parts of the pool agree. -/
structure Coherent (pool : Pool) : Prop where
  callIds : (pool.calls.map Call.id).Nodup
  owners : (pool.populations.map Population.owner).Nodup
  apart : ∀ id ∈ pool.calls.map Call.id, .call id ∉ pool.populations.map Population.owner
  phases : ∀ call ∈ pool.calls, call.phase.Sound
  fillings : ∀ population ∈ pool.populations, population.phase.Sound
  line : pool.queue.Awaits pool.waiting
  shut : pool.queue.destroyed = pool.stock.closed

section Frame

variable (pool : Pool) (id : Nat) (phase : Phase)

@[simp] theorem setPhase_stock : (pool.setPhase id phase).stock = pool.stock := rfl
@[simp] theorem setPhase_loans : (pool.setPhase id phase).loans = pool.loans := rfl
@[simp] theorem setPhase_populations :
    (pool.setPhase id phase).populations = pool.populations := rfl
@[simp] theorem removeCall_stock : (pool.removeCall id).stock = pool.stock := rfl
@[simp] theorem removeCall_loans : (pool.removeCall id).loans = pool.loans := rfl
@[simp] theorem removeCall_populations : (pool.removeCall id).populations =
    pool.populations := rfl

end Frame

variable {pool next : Pool} {id : Nat} {call : Call}

namespace Coherent

/-- Only the calls, the populations, the line and whether the pool is closed matter. -/
theorem congr (h : pool.Coherent) (hcalls : next.calls = pool.calls)
    (hpopulations : next.populations = pool.populations) (hqueue : next.queue = pool.queue)
    (hclosed : next.stock.closed = pool.stock.closed) : next.Coherent where
  callIds := hcalls ▸ h.callIds
  owners := hpopulations ▸ h.owners
  apart := hcalls ▸ hpopulations ▸ h.apart
  phases := hcalls ▸ h.phases
  fillings := hpopulations ▸ h.fillings
  line := by
    rw [hqueue, waiting, hcalls]
    exact h.line
  shut := by rw [hqueue, hclosed, h.shut]

/-- What happens to the connections of a pool keeps it coherent, as long as it does not close
it. -/
theorem withStock (h : pool.Coherent) (stock : Inventory)
    (hclosed : stock.closed = pool.stock.closed) : { pool with stock := stock }.Coherent :=
  h.congr rfl rfl rfl hclosed

/-! ## One call among the calls -/

/-- A call that was looked up, and what moving it on and ending it do to the calls. -/
theorem calls_split (h : pool.Coherent) (hfind : pool.call? id = some call) :
    ∃ rest : Multiset Call,
      (pool.calls : Multiset Call) = call ::ₘ rest ∧
      (∀ phase, ((pool.setPhase id phase).calls : Multiset Call) =
        { call with phase := phase } ::ₘ rest) ∧
      ((pool.removeCall id).calls : Multiset Call) = rest ∧ call.id = id := by
  obtain ⟨rest, hcalls, hchange, hkeep, hid⟩ := Keyed.find_split h.callIds hfind
  exact ⟨rest, hcalls, fun phase => hchange fun call => { call with phase := phase },
    hkeep _ fun _ => bne_iff_ne, hid⟩

/-- A call that was looked up is one of the calls. -/
theorem call_mem (hfind : pool.call? id = some call) : call ∈ pool.calls :=
  List.mem_of_find?_eq_some hfind

/-- Another call takes the place of one of the calls: it has the same id, a sound phase, and
those who wait are in the line. -/
theorem replace {call' : Call} {rest : Multiset Call} (h : pool.Coherent)
    (hcalls : (pool.calls : Multiset Call) = call ::ₘ rest)
    (hnext : (next.calls : Multiset Call) = call' ::ₘ rest) (hid : call'.id = call.id)
    (hsound : call'.phase.Sound) (hpopulations : next.populations = pool.populations)
    (hline : next.queue.Awaits next.waiting) (hshut : next.queue.destroyed = next.stock.closed) :
    next.Coherent where
  callIds := by
    have hids : ((pool.calls : Multiset Call).map Call.id).Nodup := h.callIds
    rw [hcalls, Multiset.map_cons, ← hid, ← Multiset.map_cons, ← hnext] at hids
    exact hids
  owners := hpopulations ▸ h.owners
  apart := by
    intro id hmem
    rw [hpopulations]
    refine h.apart id ?_
    rw [← Multiset.mem_coe, ← Multiset.map_coe, hnext, Multiset.map_cons, hid,
      ← Multiset.map_cons, ← hcalls] at hmem
    exact hmem
  phases := by
    intro other hother
    rw [← Multiset.mem_coe, hnext, Multiset.mem_cons] at hother
    rcases hother with rfl | hother
    · exact hsound
    · refine h.phases other ?_
      rw [← Multiset.mem_coe, hcalls]
      exact Multiset.mem_cons_of_mem hother
  fillings := hpopulations ▸ h.fillings
  line := hline
  shut := hshut

/-- One of the calls ends. -/
theorem dismiss {rest : Multiset Call} (h : pool.Coherent)
    (hcalls : (pool.calls : Multiset Call) = call ::ₘ rest)
    (hnext : (next.calls : Multiset Call) = rest)
    (hpopulations : next.populations = pool.populations)
    (hline : next.queue.Awaits next.waiting) (hshut : next.queue.destroyed = next.stock.closed) :
    next.Coherent where
  callIds := by
    have hids : ((pool.calls : Multiset Call).map Call.id).Nodup := h.callIds
    rw [hcalls, Multiset.map_cons, ← hnext] at hids
    exact (Multiset.nodup_cons.1 hids).2
  owners := hpopulations ▸ h.owners
  apart := by
    intro id hmem
    rw [hpopulations]
    refine h.apart id ?_
    rw [← Multiset.mem_coe, ← Multiset.map_coe, hcalls, Multiset.map_cons]
    rw [← Multiset.mem_coe, ← Multiset.map_coe, hnext] at hmem
    exact Multiset.mem_cons_of_mem hmem
  phases := by
    intro other hother
    rw [← Multiset.mem_coe, hnext] at hother
    refine h.phases other ?_
    rw [← Multiset.mem_coe, hcalls]
    exact Multiset.mem_cons_of_mem hother
  fillings := hpopulations ▸ h.fillings
  line := hline
  shut := hshut

/-- A call that does not wait in line moves on to a phase in which it does not wait either. -/
theorem setPhase {phase : Phase} (h : pool.Coherent) (hfind : pool.call? id = some call)
    (hbefore : call.phase.member? = none) (hafter : phase.member? = none) (hsound : phase.Sound) :
    (pool.setPhase id phase).Coherent := by
  obtain ⟨rest, hcalls, hset, -, -⟩ := h.calls_split hfind
  refine h.replace hcalls (hset phase) rfl hsound rfl ?_ h.shut
  have hwaiting : (pool.setPhase id phase).waiting = pool.waiting := by
    simp only [waiting, hset, hcalls, Multiset.filterMap_cons, hbefore, hafter]
  rw [hwaiting]
  exact h.line

/-- A call that does not wait in line ends. -/
theorem removeCall (h : pool.Coherent) (hfind : pool.call? id = some call)
    (hbefore : call.phase.member? = none) : (pool.removeCall id).Coherent := by
  obtain ⟨rest, hcalls, -, hremove, -⟩ := h.calls_split hfind
  refine h.dismiss hcalls hremove rfl ?_ h.shut
  have hwaiting : (pool.removeCall id).waiting = pool.waiting := by
    simp [waiting, hremove, hcalls, hbefore]
  rw [hwaiting]
  exact h.line

/-- A call that waits in line ends, and its place in line listens no more. -/
theorem abandon {member : Nat} (h : pool.Coherent) (hfind : pool.call? id = some call)
    (hphase : call.phase = .queued member) :
    { pool.removeCall id with queue := pool.queue.abandon member }.Coherent := by
  obtain ⟨rest, hcalls, -, hremove, -⟩ := h.calls_split hfind
  have hmember : call.phase.member? = some member := by rw [hphase]; rfl
  have hwaiting : pool.waiting = member ::ₘ (pool.removeCall id).waiting := by
    simp [waiting, hremove, hcalls, hmember]
  refine h.dismiss hcalls ?_ rfl ?_ h.shut
  · exact hremove
  · have hline := h.line
    rw [hwaiting] at hline
    exact hline.abandon

/-- A call ends with an error, which is recorded. -/
theorem failCall (h : pool.Coherent) (hfind : pool.call? id = some call)
    (hbefore : call.phase.member? = none) (error : PoolError) :
    (pool.failCall id error).Coherent :=
  (h.removeCall hfind hbefore).congr rfl rfl rfl rfl

end Coherent

end Pool

end ConnectionPool
