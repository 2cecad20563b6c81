import ConnectionPool.Proofs.Pool.Progress

/-!
# How acquisitions end

An acquisition ends by itself in a turn of its own call. `EndsBy` lists what it can end with and
why, and `Coherent.ended_by` proves that of every acquisition that ends at an action. It ends at
the instant of the action.
-/

namespace ConnectionPool

namespace Pool

variable {pool middle next : Pool} {id : Nat} {action : Action}

/-- What the call can end with in its own turn: with a connection; with the error that it was
answered with in line, or because it finds the pool closed or the line full; or because its
connect failed or the connection that it was answered with is destroyed. -/
inductive EndsBy (pool : Pool) (id : Nat) : CallResult → Prop where
  | acquired (info : ConnectionInfo) : EndsBy pool id (.acquired info)
  | closed (poolId : UInt32) (address : Address) :
      EndsBy pool id (.failed (.poolClosed poolId address))
  | full (poolId : UInt32) (address : Address) :
      EndsBy pool id (.failed (.waitQueueFull poolId address))
  | answered {call : Call} {error : PoolError} (here : pool.call? id = some call)
      (answer : call.phase = .answered (.error error)) : EndsBy pool id (.failed error)
  | unconnected {call : Call} {connection : Connection} {error : LinkError}
      (here : pool.call? id = some call)
      (outcome : call.phase = .connected connection (.error error)) :
      EndsBy pool id (.failed (pool.stock.connectError error))
  | destroyed {call : Call} {connection : Connection} (here : pool.call? id = some call)
      (answer : call.phase = .answered (.ok connection)) (dead : connection.destroyed = true) :
      EndsBy pool id (.failed (pool.stock.connectError .destroyed))

/-- The calls that end here end now, in one of these ways. -/
def Ends (pool : Pool) (id : Nat) (next : Pool) : Prop :=
  ∃ ended, next.results = pool.results ++ ended ∧
    ∀ completion ∈ ended, completion.time = pool.now ∧ pool.EndsBy id completion.result

/-- No call ends. -/
theorem Ends.none (h : next.results = pool.results) : pool.Ends id next :=
  ⟨[], h.trans (List.append_nil _).symm, fun _ hended => absurd hended List.not_mem_nil⟩

/-- A call ends, perhaps after something happened to the connections. -/
theorem complete_ends {result : CallResult} (hresults : middle.results = pool.results)
    (hnow : middle.now = pool.now) (hends : pool.EndsBy id result) :
    pool.Ends id (middle.complete id result) := by
  refine ⟨[⟨middle.now, id, result⟩], congrArg (· ++ _) hresults, fun completion hended => ?_⟩
  obtain rfl := List.mem_singleton.1 hended
  exact ⟨hnow, hends⟩

/-- A call comes to the line and finds the pool closed or the line full. -/
theorem enter_ends (pool : Pool) (id : Nat) : pool.Ends id (pool.enter id) := by
  unfold enter
  split
  · split
    · exact complete_ends rfl rfl (.closed _ _)
    · split
      · next error herror =>
          refine complete_ends rfl rfl ?_
          split at herror
          · rw [WaitQueue.let_in_error herror]
            exact .closed _ _
          · rcases WaitQueue.enter_error herror with rfl | rfl
            · exact .closed _ _
            · exact .full _ _
      · dsimp only
        split <;> split <;> exact .none rfl
  · exact .none rfl

/-- A call announces its connection, or finds the pool closed. -/
theorem announce_ends (connection : Connection) (hresults : middle.results = pool.results)
    (hnow : middle.now = pool.now) : pool.Ends id (middle.announce id connection) := by
  unfold announce
  split
  · dsimp only
    split
    · refine complete_ends hresults ?_ (.closed _ _)
      rw [← hnow, Inventory.discard_eq]
      rfl
    · exact .none hresults
  · exact complete_ends hresults hnow (.acquired _)

/-- A call gives up its connection, which could not be established. -/
theorem give_up_ends (connection : Connection) {error : LinkError}
    (hends : pool.EndsBy id (.failed (pool.stock.connectError error))) :
    pool.Ends id (pool.giveUp id connection error) := by
  unfold giveUp
  rw [Inventory.discard_eq]
  exact complete_ends rfl rfl hends

/-- A call looks at its answer. -/
theorem resume_ends (pool : Pool) (id : Nat) : pool.Ends id (pool.resume id) := by
  unfold resume
  split
  · next hfind => exact complete_ends rfl rfl (.answered hfind rfl)
  · next connection hfind =>
      split
      · exact announce_ends connection rfl rfl
      · next hnow =>
          obtain ⟨hdead, rfl⟩ := connection.establish_now_destroyed hnow
          exact give_up_ends connection (.destroyed hfind rfl hdead)
      · exact .none rfl
  · exact .none rfl

/-- A call registers the outcome of its connect. -/
theorem register_ends (pool : Pool) (id : Nat) : pool.Ends id (pool.register id) := by
  unfold register
  split
  · exact announce_ends _ rfl rfl
  · next hfind => exact give_up_ends _ (.unconnected hfind rfl)
  · exact .none rfl

/-- In its own turn a call ends in one of these ways, if it ends. -/
theorem turn_ends (hturn : action.caller? = some id) : pool.Ends id (pool.step action).2 := by
  cases action with
  | enter call =>
      obtain rfl := Option.some.inj hturn
      exact enter_ends pool call
  | resume call =>
      obtain rfl := Option.some.inj hturn
      exact resume_ends pool call
  | finishConnect call =>
      refine .none ?_
      simp only [step, finishConnect]
      split
      · split <;> rfl
      · rfl
  | register call =>
      obtain rfl := Option.some.inj hturn
      exact register_ends pool call
  | _ => cases hturn

/-- An acquisition that ends at an action ends now, in one of these ways. -/
theorem Coherent.ended_by (h : pool.Coherent) {completion : Completion}
    (hended : completion ∈ pool.ends action) (hcall : completion.call ∈ pool.callIds) :
    completion.time = pool.now ∧ pool.EndsBy completion.call completion.result := by
  obtain ⟨ended, hresults, hends⟩ := turn_ends (h.ended_turn hended hcall)
  rw [ends_of_results hresults] at hended
  exact hends completion hended

end Pool

end ConnectionPool
