import ConnectionPool.Proofs.HandOut
import ConnectionPool.Proofs.Pool.Filling

/-!
# The least size of a pool

Several populations may fill a pool at the same time. The pending count is the number of them
that are establishing a connection, and each makes one only while the idle connections, those on
loan and the pending ones are fewer than the least size. Beside the pool a tally is kept of the
connections that each population made idle; `Tallied.after` shows that a population counts what
is on its tally, since no connection that is being established is idle. `Populates` puts this
together with the ways in which populations end, and `populations_in_order` proves it after any
history.
-/

namespace ConnectionPool

/-- The population whose own turn the action is. -/
def Action.owner? : Action → Option Owner
  | .reserve owner | .finishReserved owner | .settleReserved owner => some owner
  | _ => none

/-- What a population that ends reports. Only callers are told. -/
def Owner.report (owner : Owner) (now : Instant) (result : CallResult) : List Completion :=
  match owner with
  | .call id => [⟨now, id, result⟩]
  | .opening | .maintenance => []

/-- No id is taken back, whatever step is taken. -/
theorem Step.count_le {h h' : Holdings} {given : Nat} (step : Step h given h') :
    h.stock.nextConnection ≤ h'.stock.nextConnection := by
  refine step.preserves (P := fun later => h.stock.nextConnection ≤ later.stock.nextConnection)
    ?_ ?_ ?_ ?_ ?_ (Nat.le_refl _)
  · intro middle later move hle
    obtain ⟨kinds, passage, -⟩ := move.passage
    exact hle.trans passage.count_le
  · exact fun announced hle => hle.trans announced.passage.1.count_le
  · exact fun hle => hle
  · exact fun hle => hle
  · exact fun hle => hle

/-- The story of a connection that is still there does not end with its closing. -/
theorem Fits.unclosed {connection : Connection} {word : List EventType} {place : Place}
    (h : Fits connection word place) : .closed ∉ word := by
  have hused : ∀ times, EventType.closed ∉ used times := by simp [used]
  cases place with
  | idle | carried =>
      rcases h with ⟨-, rfl⟩ | ⟨-, times, rfl⟩
      · simp
      · exact hused times
  | dialled | filling =>
      obtain ⟨-, rfl⟩ := h
      simp
  | lent =>
      obtain ⟨-, times, rfl⟩ := h
      simp [hused times]

namespace Pool

variable {pool : Pool} {owner : Owner} {action : Action} {added : Nat} {connection : Connection}

/-! ## When populations stop -/

/-- A connection is wanted in an open pool that has not its least size. -/
theorem below_least {stock : Inventory} (hwanted : isFilled stock = false) :
    stock.closed = false ∧ stock.total + stock.pending < stock.config.minPoolSize.toNat := by
  simp only [isFilled, Bool.or_eq_false_iff, decide_eq_false_iff_not, Nat.not_le] at hwanted
  exact hwanted.1

/-- An open pool in which no connection is wanted has its least size, for that is at most the
greatest. -/
theorem least_reached {stock : Inventory} (hvalid : stock.config.validate = .ok ())
    (hopen : stock.closed = false) (hfilled : isFilled stock = true) :
    stock.config.minPoolSize.toNat ≤ stock.total + stock.pending := by
  simp only [isFilled, hopen, Bool.false_or, Bool.or_eq_true, decide_eq_true_eq,
    Bool.not_eq_true'] at hfilled
  rcases hfilled with hleast | hfull
  · exact hleast
  · simp only [Inventory.hasCapacity, Bool.or_eq_false_iff, beq_eq_false_iff_ne,
      decide_eq_false_iff_not, Nat.not_lt] at hfull
    obtain ⟨hbounded, hgreatest⟩ := hfull
    have hsizes : ¬ stock.config.minPoolSize > stock.config.maxPoolSize := by
      intro hsizes
      have hfault : stock.config.validate = .error .minAboveMax := by
        simp [Config.validate, Config.isUnbounded, hbounded, hsizes]
      rw [hfault] at hvalid
      cases hvalid
    exact (UInt32.le_iff_toNat_le.1 (UInt32.not_lt.1 hsizes)).trans hgreatest

/-- The settings of a reachable pool are valid. -/
theorem Reachable.config_valid (h : pool.Reachable) : pool.config.validate = .ok () := by
  induction h with
  | opened hcreate =>
      unfold create at hcreate
      split at hcreate
      · cases hcreate
      · next hvalid =>
          cases hcreate
          exact hvalid
  | @after before hbefore action ih =>
      have hconfig : (before.after action).config = before.config :=
        (hbefore.step action).later.config
      rw [hconfig]
      exact ih

/-! ## The turns of a population -/

/-- A population of a pool in which no connection is wanted leaves the inventory alone. -/
theorem reserve_filled (hfilled : isFilled pool.stock = true) (owner : Owner) :
    (pool.reserve owner).stock = pool.stock := by
  unfold reserve
  split
  · rw [if_pos hfilled]
    cases owner <;> rfl
  · rfl

/-- The end of a population is reported. -/
theorem finish_population_results (pool : Pool) (owner : Owner) (result : CallResult) :
    (pool.finishPopulation owner result).results =
      pool.results ++ owner.report pool.now result := by
  cases owner with
  | call => rfl
  | opening | maintenance => exact (List.append_nil _).symm

/-- In its own turns a population takes away no idle connection. -/
theorem turn_keeps_idle (h : action.owner? = some owner) :
    pool.stock.available <+: (pool.step action).2.stock.available := by
  have hfinish : ∀ (next : Pool) (result : CallResult),
      next.stock.available <+: (next.finishPopulation owner result).stock.available := by
    intro next result
    cases owner <;> exact List.prefix_refl _
  cases action with
  | reserve named =>
      obtain rfl := Option.some.inj h
      simp only [step, reserve]
      split
      · split
        · exact hfinish pool _
        · exact List.prefix_refl _
      · exact List.prefix_refl _
  | finishReserved named =>
      obtain rfl := Option.some.inj h
      simp only [step, finishReserved]
      split
      · split <;> exact List.prefix_refl _
      · exact List.prefix_refl _
  | settleReserved named =>
      obtain rfl := Option.some.inj h
      simp only [step, settleReserved]
      split
      · split
        · split
          · exact List.prefix_refl _
          · exact List.prefix_append _ _
        · refine List.IsPrefix.trans ?_ (hfinish _ _)
          exact List.prefix_refl _
      · exact List.prefix_refl _
  | _ => cases h

/-! ## Which connections are being established -/

/-- A connection that a population is establishing after an action it was establishing before,
or the action is the turn in which it makes the connection because one is wanted. -/
theorem Reachable.establishing_origin (h : pool.Reachable)
    (hconnection : connection ∈ (pool.after action).establishing) :
    (∃ before ∈ pool.establishing, before.info = connection.info) ∨
      ∃ owner, action = .reserve owner ∧ connection = pool.stock.newborn ∧
        isFilled pool.stock = false := by
  obtain ⟨⟨owner, added, phase⟩, hpopulation, hphase⟩ := List.mem_filterMap.1 hconnection
  have hfind : (pool.after action).population? owner = some ⟨owner, added, phase⟩ :=
    Keyed.find_of_mem (h.after action).sound.1.owners hpopulation
  have hthere : ∀ {before : Population} {dialled : Connection},
      pool.population? owner = some before → before.phase.connection? = some dialled →
        dialled ∈ pool.establishing := fun hbefore hdialled =>
    List.mem_filterMap.2 ⟨_, List.mem_of_find?_eq_some hbefore, hdialled⟩
  have hfills := after_fills pool action owner
  rw [hfind] at hfills
  generalize hbefore : pool.population? owner = before at hfills
  cases hfills with
  | still => exact .inl ⟨connection, hthere hbefore hphase, rfl⟩
  | creates wanted =>
      obtain rfl := Option.some.inj hphase
      exact .inr ⟨_, rfl, rfl, wanted⟩
  | connects same =>
      obtain rfl := Option.some.inj hphase
      exact .inl ⟨_, hthere hbefore rfl, same.symm⟩
  | starts | stocks | refuses => cases hphase

/-- No connection is idle while a population is establishing it. -/
theorem Reachable.establishing_not_idle (h : pool.Reachable)
    (hconnection : connection ∈ pool.establishing) :
    connection.id ∉ pool.stock.available.map Connection.id := by
  intro hidle
  obtain ⟨-, -, hapart⟩ := List.nodup_append.1 h.ids_nodup
  exact hapart _ (List.mem_append_left _ hidle) _ (List.mem_map_of_mem hconnection) rfl

/-- The id of an idle connection was given out. -/
theorem Reachable.idle_issued (h : pool.Reachable) {id : Nat}
    (hid : id ∈ pool.stock.available.map Connection.id) : id < pool.stock.nextConnection := by
  obtain ⟨connection, hconnection, rfl⟩ := List.mem_map.1 hid
  obtain ⟨place, hplace⟩ := mem_connections.1
    (List.mem_append_left _ (List.mem_append_left _ hconnection))
  exact (h.sound.2.issued _ hplace).2

/-! ## What populations made idle -/

/-- The connection that the population of the owner makes idle at the action: the one that it was
establishing, if that is idle then. -/
def puts (pool : Pool) (owner : Owner) (action : Action) : List Nat :=
  match (pool.population? owner).bind fun population => population.phase.connection? with
  | some connection =>
      if connection.id ∈ (pool.after action).stock.available.map Connection.id
      then [connection.id]
      else []
  | none => []

/-- The tally after an action: what a population makes idle is added to it, and it is empty for
an owner that has none. -/
def mark (pool : Pool) (tally : Owner → List Nat) (action : Action) (owner : Owner) : List Nat :=
  if (pool.population? owner).isSome then tally owner ++ pool.puts owner action else []

/-- The tally after a history that begins in the pool. -/
def tallyAfter (pool : Pool) (tally : Owner → List Nat) : List Action → Owner → List Nat
  | [] => tally
  | action :: rest => (pool.after action).tallyAfter (pool.mark tally action) rest

/-- The tally agrees with the pool: populations count what is on it, and what is on it are
different ids that were given out, none of a connection that is being established. -/
structure Tallied (tally : Owner → List Nat) (pool : Pool) : Prop where
  counted : ∀ owner population, pool.population? owner = some population →
    population.added = (tally owner).length
  nodup : ∀ owner, (tally owner).Nodup
  issued : ∀ owner, ∀ id ∈ tally owner, id < pool.stock.nextConnection
  apart : ∀ owner, ∀ id ∈ tally owner, id ∉ pool.establishing.map Connection.id

/-- What a population makes idle it was establishing, and it is idle then. -/
theorem mem_puts {id : Nat} (hid : id ∈ pool.puts owner action) :
    id ∈ pool.establishing.map Connection.id ∧
      id ∈ (pool.after action).stock.available.map Connection.id := by
  unfold puts at hid
  split at hid
  · next connection hdialled =>
      split at hid
      · next hidle =>
          obtain rfl := List.mem_singleton.1 hid
          obtain ⟨population, hfind, hphase⟩ := Option.bind_eq_some_iff.1 hdialled
          have hpopulation := List.mem_of_find?_eq_some hfind
          exact ⟨List.mem_map_of_mem (List.mem_filterMap.2 ⟨_, hpopulation, hphase⟩), hidle⟩
      · cases hid
  · cases hid

/-- A population makes idle one connection at most. -/
theorem puts_nodup (pool : Pool) (owner : Owner) (action : Action) :
    (pool.puts owner action).Nodup := by
  unfold puts
  split
  · split
    · exact List.nodup_singleton _
    · exact List.nodup_nil
  · exact List.nodup_nil

/-- A population that is establishing no connection makes none idle. -/
theorem puts_nothing {population : Population} (hfind : pool.population? owner = some population)
    (hphase : population.phase.connection? = none) : pool.puts owner action = [] := by
  rw [puts, hfind, Option.bind_some, hphase]

/-- A connection that does not come to be idle is not made idle. -/
theorem puts_refused {population : Population} (hfind : pool.population? owner = some population)
    (hphase : population.phase.connection? = some connection)
    (hidle : connection.id ∉ (pool.after action).stock.available.map Connection.id) :
    pool.puts owner action = [] := by
  rw [puts, hfind, Option.bind_some, hphase]
  exact if_neg hidle

/-- A connection that comes to be idle is made idle. -/
theorem puts_stocked {population : Population} (hfind : pool.population? owner = some population)
    (hphase : population.phase.connection? = some connection)
    (hidle : connection.id ∈ (pool.after action).stock.available.map Connection.id) :
    pool.puts owner action = [connection.id] := by
  rw [puts, hfind, Option.bind_some, hphase]
  exact if_pos hidle

/-- While a population goes on, the inventory is what the action by itself made of it. -/
theorem after_stock_staffed (h : ((pool.after action).population? owner).isSome) :
    (pool.after action).stock = (pool.step action).2.stock := by
  obtain ⟨calls, queue, wires, departures, hafter⟩ := after_frame pool action
  have hstaffed : (pool.step action).2.populations ≠ [] := by
    intro hnone
    rw [population?, after_populations, hnone] at h
    cases h
  rw [hafter, collect, if_pos]
  simp [isAlive, hstaffed]

/-- A connection becomes idle when the population registers it, if it is still wanted. -/
theorem settle_idle (hfind : pool.population? owner =
    some ⟨owner, added, .connected connection (.ok ())⟩) :
    (pool.settleReserved owner).stock.available =
      if pool.stock.returnReason? connection = none then
        pool.stock.available ++ [connection.makeAvailable pool.now]
      else pool.stock.available := by
  have hreason : ({ pool.stock with pending := pool.stock.pending - 1 }.emit
      (.ready connection.info)).returnReason? connection =
        pool.stock.returnReason? connection := rfl
  rw [settleReserved, hfind]
  dsimp only
  rw [hreason]
  split
  · next reason hunwanted => exact (if_neg (by simp [hunwanted])).symm
  · next hwanted => exact (if_pos hwanted).symm

/-- The tally of an owner that has a population is kept up. -/
theorem mark_running {tally : Owner → List Nat} {population : Population}
    (hfind : pool.population? owner = some population) :
    pool.mark tally action owner = tally owner ++ pool.puts owner action := by
  rw [mark, hfind]
  exact if_pos rfl

/-- A population that makes nothing idle and counts no more than before counts what is on its
tally. -/
theorem Tallied.counted_still {tally : Owner → List Nat} (h : pool.Tallied tally)
    {before after : Population} (hfind : pool.population? owner = some before)
    (hsame : after.added = before.added) (hnothing : pool.puts owner action = []) :
    after.added = (pool.mark tally action owner).length := by
  rw [mark_running hfind, hnothing, List.append_nil, hsame]
  exact h.counted owner _ hfind

/-- A population counts what is on its tally, whatever action is taken. -/
theorem Tallied.counted_after {tally : Owner → List Nat} (h : pool.Tallied tally)
    (hreachable : pool.Reachable) (action : Action) (owner : Owner) (population : Population)
    (hfind : (pool.after action).population? owner = some population) :
    population.added = (pool.mark tally action owner).length := by
  have hstock := after_stock_staffed (Option.isSome_iff_exists.2 ⟨_, hfind⟩)
  have hdialling : ∀ {dialled : Connection}, population.phase.connection? = some dialled →
      dialled.id ∉ (pool.after action).stock.available.map Connection.id := fun hphase =>
    (hreachable.after action).establishing_not_idle
      (List.mem_filterMap.2 ⟨_, List.mem_of_find?_eq_some hfind, hphase⟩)
  have hfills := after_fills pool action owner
  rw [hfind] at hfills
  generalize hbefore : pool.population? owner = before at hfills
  cases hfills with
  | still =>
      refine h.counted_still hbefore rfl ?_
      cases hphase : population.phase.connection? with
      | none => exact puts_nothing hbefore hphase
      | some dialled => exact puts_refused hbefore hphase (hdialling hphase)
  | starts =>
      rw [mark, hbefore]
      rfl
  | creates => exact h.counted_still hbefore rfl (puts_nothing hbefore rfl)
  | @connects _ dialled later _ _ same =>
      refine h.counted_still hbefore rfl (puts_refused hbefore rfl ?_)
      rw [← Connection.id_of_info same]
      exact hdialling rfl
  | @stocks _ dialled wanted =>
      have hidle : dialled.id ∈ (pool.after (.settleReserved owner)).stock.available.map
          Connection.id := by
        rw [hstock, step, settle_idle hbefore, if_pos wanted]
        simp [Connection.makeAvailable]
      rw [mark_running hbefore, puts_stocked hbefore rfl hidle, List.length_append,
        List.length_singleton, ← h.counted owner _ hbefore]
  | @refuses _ dialled unwanted =>
      refine h.counted_still hbefore rfl (puts_refused hbefore rfl ?_)
      rw [hstock, step, settle_idle hbefore, if_neg unwanted]
      exact hreachable.establishing_not_idle
        (List.mem_filterMap.2 ⟨_, List.mem_of_find?_eq_some hbefore, rfl⟩)

/-- What is on the tally after an action was on it before or was made idle by it. -/
theorem mem_mark {tally : Owner → List Nat} {id : Nat} (hid : id ∈ pool.mark tally action owner) :
    id ∈ tally owner ∨ id ∈ pool.puts owner action := by
  unfold mark at hid
  split at hid
  · exact List.mem_append.1 hid
  · cases hid

/-- The tally agrees with the pool after every action. -/
theorem Tallied.after {tally : Owner → List Nat} (h : pool.Tallied tally)
    (hreachable : pool.Reachable) (action : Action) :
    (pool.after action).Tallied (pool.mark tally action) := by
  have hnext := hreachable.after action
  have hcount := (hreachable.step action).count_le
  refine ⟨h.counted_after hreachable action, ?_, ?_, ?_⟩
  · intro owner
    unfold mark
    split
    · refine List.nodup_append.2 ⟨h.nodup owner, puts_nodup pool owner action, ?_⟩
      rintro id hid other hother rfl
      exact h.apart owner id hid (mem_puts hother).1
    · exact List.nodup_nil
  · intro owner id hid
    rcases mem_mark hid with hid | hid
    · exact (h.issued owner id hid).trans_le hcount
    · exact hnext.idle_issued (mem_puts hid).2
  · intro owner id hid hdialling
    obtain ⟨connection, hconnection, hsame⟩ := List.mem_map.1 hdialling
    rcases mem_mark hid with hid | hid
    · rcases hreachable.establishing_origin hconnection with
        ⟨before, hbefore, hinfo⟩ | ⟨-, -, hnew, -⟩
      · rw [← hsame, ← Connection.id_of_info hinfo] at hid
        exact h.apart owner _ hid (List.mem_map_of_mem hbefore)
      · -- The newborn has the next id, and those on the tally are smaller.
        have hlt := h.issued owner id hid
        rw [← hsame, hnew] at hlt
        exact Nat.lt_irrefl _ hlt
    · exact hnext.establishing_not_idle hconnection (hsame ▸ (mem_puts hid).2)

/-- The tally agrees with the pool after every history. -/
theorem Tallied.run {tally : Owner → List Nat} (h : pool.Tallied tally)
    (hreachable : pool.Reachable) (history : List Action) :
    (pool.run history).Tallied (pool.tallyAfter tally history) := by
  induction history generalizing pool tally with
  | nil => exact h
  | cons action rest ih => exact ih (h.after hreachable action) (hreachable.after action)

/-- No population has made anything idle when a pool is opened. -/
theorem opened_tallied {config : Config} {source : LinkSource} {network : Network} {now : Instant}
    (hcreate : create config source network now = .ok pool) : pool.Tallied fun _ => [] := by
  unfold create at hcreate
  split at hcreate
  · cases hcreate
  · cases hcreate
    refine ⟨?_, fun _ => List.nodup_nil, by simp, by simp⟩
    intro owner population hfind
    obtain rfl := List.mem_singleton.1 (List.mem_of_find?_eq_some hfind)
    rfl

/-! ## How populations end -/

/-- How a population with this tally ends at an action. It returns the length of its tally, and
an open pool has its least size then; or it fails, since the connection that it closes could not
be established; or it is dropped. -/
inductive Concludes (pool : Pool) (owner : Owner) (tally : List Nat) : Action → Prop where
  | returned (untouched : (pool.step (.reserve owner)).2.stock = pool.stock)
      (filled : pool.isClosed = false →
        pool.config.minPoolSize.toNat ≤ pool.stock.total + pool.stock.pending)
      (reported : pool.ends (.reserve owner) = owner.report pool.now (.populated tally.length)) :
      Concludes pool owner tally (.reserve owner)
  | failed {added : Nat} {connection : Connection} {error : LinkError}
      (outcome : pool.population? owner = some ⟨owner, added,
        .connected connection (.error error)⟩)
      (closed : ∃ counts, (pool.after (.settleReserved owner)).log =
        pool.log ++ [⟨pool.now, counts, .closed connection.info .unknown⟩])
      (gone : connection.id ∉ (pool.after (.settleReserved owner)).connections.map Connection.id)
      (reported : pool.ends (.settleReserved owner) =
        owner.report pool.now (.failed (pool.stock.connectError error))) :
      Concludes pool owner tally (.settleReserved owner)
  | dropped {action : Action} (drops : action.Drops owner) : Concludes pool owner tally action

/-- A connection that was told to be closed is not there any more. -/
theorem Reachable.closed_gone (h : pool.Reachable) {event : Event} (hevent : event ∈ pool.log)
    {reason : CloseReason} (hkind : event.kind = .closed connection.info reason) :
    connection.id ∉ pool.connections.map Connection.id := by
  intro hthere
  obtain ⟨other, hother, hsame⟩ := List.mem_map.1 hthere
  obtain ⟨place, hplace⟩ := mem_connections.1 hother
  refine (h.told.present _ hplace).unclosed ?_
  have hid : connection.info.id = connection.id := rfl
  have hclosed : EventKind.closed connection.info reason ∈ pool.holdings.kinds :=
    List.mem_map.2 ⟨event, hevent, hkind⟩
  refine List.mem_map.2 ⟨_, List.mem_filter.2 ⟨hclosed, ?_⟩, rfl⟩
  simp [EventKind.connection?, hid, hsame]

/-- A population that could not establish its connection closes it and ends. -/
theorem settle_failed {error : LinkError}
    (hfind : pool.population? owner = some ⟨owner, added, .connected connection (.error error)⟩) :
    ∃ stock : Inventory, pool.settleReserved owner = { pool with stock := stock }.finishPopulation
        owner (.failed (pool.stock.connectError error)) ∧
      stock.now = pool.now ∧
      stock.log = pool.log ++
        [⟨pool.now, pool.stock.snapshot, .closed connection.info .unknown⟩] := by
  refine ⟨{ pool.stock with pending := pool.stock.pending - 1 }.discard connection .unknown,
    ?_, ?_, ?_⟩
  · rw [settleReserved, hfind]
    simp [Inventory.discard_eq, Inventory.connectError]
  · rw [Inventory.discard_eq]
    rfl
  · rw [Inventory.discard_eq]
    rfl

/-- A population that could not establish its connection ends as one that failed. -/
theorem Reachable.settle_fails (h : pool.Reachable) {error : LinkError} {tally : List Nat}
    (hfind : pool.population? owner = some ⟨owner, added, .connected connection (.error error)⟩) :
    pool.Concludes owner tally (.settleReserved owner) := by
  obtain ⟨stock, hsettle, hnow, hlog⟩ := settle_failed hfind
  have hafter : (pool.after (.settleReserved owner)).log =
      pool.log ++ [⟨pool.now, pool.stock.snapshot, .closed connection.info .unknown⟩] := by
    rw [after_log, ← hlog, Pool.step, hsettle]
    cases owner <;> rfl
  have hclosed : (⟨pool.now, pool.stock.snapshot, .closed connection.info .unknown⟩ : Event) ∈
      (pool.after (.settleReserved owner)).log := by
    rw [hafter]
    exact List.mem_append_right _ (List.mem_singleton_self _)
  refine .failed hfind ⟨_, hafter⟩ ((h.after _).closed_gone hclosed rfl) (ends_of_results ?_)
  rw [Pool.step, hsettle, finish_population_results, ← hnow]
  rfl

/-- A population ends in one of the three ways. -/
theorem Reachable.concludes (h : pool.Reachable) {tally : Owner → List Nat}
    (htally : pool.Tallied tally) (hrunning : (pool.population? owner).isSome)
    (hover : (pool.after action).population? owner = none) :
    pool.Concludes owner (tally owner) action := by
  have hfills := after_fills pool action owner
  rw [hover] at hfills
  generalize hbefore : pool.population? owner = before at hfills hrunning
  cases hfills with
  | still => cases hrunning
  | @returns added filled =>
      refine .returned (reserve_filled filled owner) ?_ (ends_of_results ?_)
      · exact fun hopen => least_reached h.config_valid hopen filled
      · have hcount : added = (tally owner).length := htally.counted owner _ hbefore
        rw [Pool.step, reserve, hbefore]
        dsimp only
        rw [if_pos filled, finish_population_results, hcount]
  | fails => exact h.settle_fails hbefore
  | dropped drops => exact .dropped drops

/-- The populations of a pool keep to its least size, with these tallies. -/
structure Populates (pool : Pool) (tally : Owner → List Nat) : Prop where
  pending : pool.stock.pending =
    pool.populations.countP fun population => population.phase.connection?.isSome
  reserved : ∀ population ∈ pool.populations, population.phase.connection?.isSome →
    0 < pool.stock.pending
  made : ∀ action, ∀ connection ∈ (pool.after action).establishing,
    connection.id ∉ pool.establishing.map Connection.id →
      (∃ owner, action = .reserve owner) ∧ pool.isClosed = false ∧
        pool.stock.total + pool.stock.pending < pool.config.minPoolSize.toNat
  sated : ∀ owner, pool.config.minPoolSize.toNat ≤ pool.stock.total + pool.stock.pending →
    (pool.step (.reserve owner)).2.stock = pool.stock
  distinct : ∀ owner, (tally owner).Nodup
  kept : ∀ owner action, action.owner? = some owner →
    pool.stock.available <+: (pool.step action).2.stock.available
  concludes : ∀ owner action, (pool.population? owner).isSome →
    (pool.after action).population? owner = none → pool.Concludes owner (tally owner) action

/-- The populations of a reachable pool keep to its least size, with any tally that agrees with
the pool. -/
theorem Reachable.populates (h : pool.Reachable) {tally : Owner → List Nat}
    (htally : pool.Tallied tally) : pool.Populates tally := by
  have hpending : pool.stock.pending =
      pool.populations.countP fun population => population.phase.connection?.isSome := by
    rw [h.pending_counted, establishing, List.length_filterMap_eq_countP]
  refine ⟨hpending, ?_, ?_, ?_, htally.nodup, fun _ _ => turn_keeps_idle,
    fun _ _ => h.concludes htally⟩
  · intro population hpopulation hphase
    rw [hpending]
    exact List.countP_pos_iff.2 ⟨population, hpopulation, hphase⟩
  · intro action connection hconnection hnew
    rcases h.establishing_origin hconnection with
      ⟨before, hbefore, hinfo⟩ | ⟨owner, haction, -, hwanted⟩
    · exact absurd (List.mem_map_of_mem hbefore) (Connection.id_of_info hinfo ▸ hnew)
    · exact ⟨⟨owner, haction⟩, below_least hwanted⟩
  · intro owner hleast
    refine reserve_filled ?_ owner
    rw [config] at hleast
    simp [isFilled, hleast]

/-- Whatever happens to a pool that was opened, its populations keep to its least size. The
pending count is the number of populations that are establishing a connection. One is made only
while those idle, on loan and pending are fewer than the least size. A population that returns
leaves an open pool with its least size and returns how many connections it made idle itself;
one that fails has closed the connection that could not be established; and none takes an idle
connection away. -/
theorem populations_in_order {config : Config} {source : LinkSource} {network : Network}
    {now : Instant} {opened : Pool} (hcreate : create config source network now = .ok opened)
    (history : List Action) :
    (opened.run history).Populates (opened.tallyAfter (fun _ => []) history) :=
  ((Reachable.opened hcreate).run history).populates
    ((opened_tallied hcreate).run (.opened hcreate) history)

/-- Two callers fill the small pool together, with two connections each. -/
def fillTogether : List Action :=
  openEmpty ++ addOne ++
    [.populate 7, .reserve (.call 7), .reserve (.call 9), .finishReserved (.call 7),
      .settleReserved (.call 7), .reserve (.call 7), .finishReserved (.call 9),
      .settleReserved (.call 9), .finishReserved (.call 7), .settleReserved (.call 7)]

/-- The second caller is told that it added two connections. -/
theorem caller_added_two :
    (small.run fillTogether).stock.total = 4 ∧
      small.tallyAfter (fun _ => []) fillTogether (.call 7) = [3, 5] ∧
      (small.run fillTogether).ends (.reserve (.call 7)) =
        [⟨(small.run fillTogether).now, 7, .populated 2⟩] := by
  have htally : small.tallyAfter (fun _ => []) fillTogether (.call 7) = [3, 5] := by
    decide +kernel
  have horder := (populations_in_order small_opened fillTogether).concludes (.call 7)
    (.reserve (.call 7)) (by decide +kernel) (by decide +kernel)
  rw [htally] at horder
  refine ⟨by decide +kernel, htally, ?_⟩
  cases horder with
  | returned _ _ reported => exact reported
  | dropped drops => simp [Action.Drops] at drops

end Pool

end ConnectionPool
