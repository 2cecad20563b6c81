import ConnectionPool.Proofs.Coherence
import ConnectionPool.Proofs.Holdings

/-!
# Pools that advance

A pool advances if it stays coherent and its holdings take a turn; this is what the modules of
this folder prove of each action. `holdings_split` says how the holdings depend on one call: all
else they are the holdings without it, and `withPhase` adds what the call holds in its phase.
-/

namespace ConnectionPool

/-- The holdings together with what a call in this phase holds. -/
def Holdings.withPhase (h : Holdings) (phase : Phase) : Holdings :=
  { h with
    carried := phase.carried?.elim h.carried (· ::ₘ h.carried)
    dialled := phase.dialled?.elim h.dialled (· ::ₘ h.dialled) }

namespace Pool

variable {pool next : Pool} {id : Nat} {call : Call}

/-- A coherent pool stays coherent and its holdings take a turn. -/
structure Advances (pool next : Pool) : Prop where
  coherent : next.Coherent
  turn : Turn pool.holdings next.holdings

/-- Callers without a connection may have gone away, and nothing else has happened. -/
structure Undisturbed (pool next : Pool) : Prop where
  coherent : next.Coherent
  holdings : next.holdings = pool.holdings
  members : next.queue.members.map Member.id = pool.queue.members.map Member.id
  held : next.held = pool.held

/-- Nothing happened at all. -/
theorem Undisturbed.refl (h : pool.Coherent) : pool.Undisturbed pool :=
  ⟨h, rfl, rfl, rfl⟩

/-- First nothing happened and then nothing happened. -/
theorem Undisturbed.trans {middle : Pool} (first : pool.Undisturbed middle)
    (second : middle.Undisturbed next) : pool.Undisturbed next :=
  ⟨second.coherent, second.holdings.trans first.holdings, second.members.trans first.members,
    second.held.trans first.held⟩

/-- A pool to which nothing happens advances. -/
theorem Advances.refl (h : pool.Coherent) : pool.Advances pool :=
  ⟨h, .moves .refl⟩

/-- The holdings are those without a call together with what that call holds, also when the call
moves on while the inventory changes. -/
theorem holdings_split (h : pool.Coherent) (hfind : pool.call? id = some call) :
    pool.holdings = (pool.removeCall id).holdings.withPhase call.phase ∧
      ∀ stock phase, ({ pool with stock := stock }.setPhase id phase).holdings =
        { (pool.removeCall id).holdings with stock := stock }.withPhase phase := by
  obtain ⟨rest, hcalls, hset, hremove, -⟩ := h.calls_split hfind
  have hbag : ∀ (f : Call → Option Connection) (call : Call),
      (call ::ₘ rest).filterMap f = (f call).elim (rest.filterMap f)
      (· ::ₘ rest.filterMap f) := by
    intro f call
    cases hf : f call <;> simp [hf]
  have hchanged : ∀ stock phase, (({ pool with stock := stock }.setPhase id phase).calls :
      Multiset Call) = { call with phase := phase } ::ₘ rest := fun _ => hset
  simp only [holdings, Holdings.withPhase, hcalls, hchanged, hremove, hbag, setPhase_stock,
    setPhase_loans, setPhase_populations, removeCall_stock, removeCall_loans,
    removeCall_populations, implies_true, and_self]

/-- A call that moves on with what it holds leaves the holdings as they are. -/
theorem holdings_setPhase {phase : Phase} (h : pool.Coherent) (hfind : pool.call? id = some call)
    (hcarried : phase.carried? = call.phase.carried?)
    (hdialled : phase.dialled? = call.phase.dialled?) :
    (pool.setPhase id phase).holdings = pool.holdings := by
  obtain ⟨hbefore, hafter⟩ := holdings_split h hfind
  have hsame : (pool.setPhase id phase).holdings =
      (pool.removeCall id).holdings.withPhase phase := hafter pool.stock phase
  rw [hsame, hbefore, Holdings.withPhase, Holdings.withPhase, hcarried, hdialled]

/-- A call that holds no connection takes none with it. -/
theorem holdings_removeCall (h : pool.Coherent) (hfind : pool.call? id = some call)
    (hcarried : call.phase.carried? = none) (hdialled : call.phase.dialled? = none) :
    (pool.removeCall id).holdings = pool.holdings := by
  rw [(holdings_split h hfind).1, Holdings.withPhase, hcarried, hdialled]
  rfl

end Pool

end ConnectionPool
