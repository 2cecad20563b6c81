import ConnectionPool.Proofs.IdleOrder

/-!
# What a search evicts

A search evicts the idle connections before the first that may still be used, and what it is for
matters only then: `lend_eq` and `lend_idle_eq` say what the two kinds of search come to after
the same evictions. Each eviction is told with its reason, and since idle connections stand in
order a search evicts all those that are not to be used any more and no others:
`Ranked.evicts_due`.
-/

namespace ConnectionPool

/-- What an event says apart from the counts. -/
structure Notice where
  time : Instant
  generation : Nat
  kind : EventKind
  deriving DecidableEq

/-- What the event says apart from the counts. -/
def Event.notice (event : Event) : Notice :=
  ⟨event.time, event.pool.generation, event.kind⟩

namespace Inventory

variable {stock found : Inventory} {connection : Connection} {reason : CloseReason}

/-- What the events said apart from the counts, oldest first. -/
def notices (stock : Inventory) : List Notice :=
  stock.log.map Event.notice

/-- What is told when the connection is closed now. -/
def closing (stock : Inventory) (connection : Connection) (reason : CloseReason) : Notice :=
  ⟨stock.now, stock.generation, .closed connection.info reason⟩

/-- Those of the idle connections that are not to be used any more, and why. -/
def due (stock : Inventory) (idle : List Connection) : List (Connection × CloseReason) :=
  idle.filterMap fun connection => (stock.evictionReason? connection).map (Prod.mk connection)

/-- A connection is due for a reason for which it is to be evicted. -/
theorem mem_due {idle : List Connection} :
    (connection, reason) ∈ stock.due idle ↔
      connection ∈ idle ∧ stock.evictionReason? connection = some reason := by
  rw [due, List.mem_filterMap]
  constructor
  · rintro ⟨other, hidle, hdue⟩
    obtain ⟨why, hwhy, hsame⟩ := Option.map_eq_some_iff.1 hdue
    cases hsame
    exact ⟨hidle, hwhy⟩
  · rintro ⟨hidle, hdue⟩
    exact ⟨connection, hidle, by rw [hdue]; rfl⟩

/-- A closed connection is told of. -/
theorem discard_notices (stock : Inventory) (connection : Connection) (reason : CloseReason) :
    (stock.discard connection reason).notices =
      stock.notices ++ [stock.closing connection reason] := by
  rw [discard_eq, notices, List.map_append]
  rfl

/-- Each eviction is told, with the reason for which the connection was due. -/
theorem Evicts.notices (h : stock.Evicts found) :
    ∃ gone, stock.available = gone ++ found.available ∧
      found.notices = stock.notices ++
        (stock.due gone).map fun evicted => stock.closing evicted.1 evicted.2 := by
  induction h with
  | refl => exact ⟨[], rfl, (List.append_nil _).symm⟩
  | @step stock final connection rest reason hfirst hreason hrest ih =>
      obtain ⟨gone, hgone, htold⟩ := ih
      have hidle : ({ stock with available := rest }.discard connection reason).available =
          rest := by
        rw [discard_eq]
      refine ⟨connection :: gone, by rw [hfirst, ← hidle, hgone, List.cons_append], ?_⟩
      -- What is due later is due now: neither the generation nor the clock changes meanwhile.
      have hdue : ({ stock with available := rest }.discard connection reason).due gone =
          stock.due gone := by
        rw [discard_eq]
        rfl
      have hnow : ({ stock with available := rest }.discard connection reason).closing =
          stock.closing := by
        rw [discard_eq]
        rfl
      have hcons : stock.due (connection :: gone) = (connection, reason) :: stock.due gone := by
        simp [due, hreason]
      rw [htold, discard_notices, hdue, hnow, hcons, List.map_cons, List.append_assoc]
      rfl

/-- A connection that may still be used is not due. -/
theorem due_eq_nil {idle : List Connection}
    (h : ∀ connection ∈ idle, stock.evictionReason? connection = none) : stock.due idle = [] :=
  List.filterMap_eq_nil_iff.2 fun connection hidle => by rw [h connection hidle]; rfl

/-- A search evicts all idle connections that are not to be used any more, and no others. -/
theorem Ranked.evicts_due (h : stock.Ranked) (hevicts : stock.Evicts found)
    (hfirst : ∀ first ∈ found.available.head?, found.evictionReason? first = none) :
    found.notices = stock.notices ++
      (stock.due stock.available).map fun evicted => stock.closing evicted.1 evicted.2 := by
  obtain ⟨gone, hgone, htold⟩ := hevicts.notices
  obtain ⟨_, _, _, _, -, -, hframe⟩ := hevicts.frame
  have hswept := h.evicts_swept hevicts hfirst
  have hleft : stock.due found.available = [] := by
    refine due_eq_nil fun connection hidle => ?_
    obtain ⟨hfresh, hrecent⟩ := hswept.usable connection hidle
    rw [hframe] at hfresh hrecent
    rw [evictionReason?, if_neg (by simp [hfresh]), if_neg (by simp [hrecent])]
  have hall : stock.due stock.available = stock.due gone := by
    rw [hgone, due, List.filterMap_append, ← due, ← due, hleft, List.append_nil]
  rw [htold, hall]

/-! ## What a search finds -/

/-- Every search evicts up to a connection that may still be used, or all. -/
theorem exists_evicts (stock : Inventory) :
    ∃ found, stock.Evicts found ∧
      ∀ first ∈ found.available.head?, found.evictionReason? first = none := by
  cases htake : stock.takeIdle with
  | mk result final =>
      cases result with
      | none =>
          obtain ⟨hevicts, hempty⟩ := take_from_none rfl htake
          exact ⟨final, hevicts, by simp [hempty]⟩
      | some connection =>
          obtain ⟨found, rest, hevicts, hidle, husable, -⟩ := take_from_some rfl htake
          exact ⟨found, hevicts, by simp [hidle, husable]⟩

/-- A search for an idle connection goes on after evictions as if it began there. -/
theorem Evicts.take_idle (h : stock.Evicts found) : stock.takeIdle = found.takeIdle := by
  induction h with
  | refl => rfl
  | @step stock final connection rest reason hfirst hreason _ ih =>
      have hdue : { stock with available := rest }.evictionReason? connection =
          some reason := hreason
      refine Eq.trans ?_ ih
      simp only [takeIdle, hfirst, takeFrom, hdue, discard_eq]

/-- Lending without waiting goes on after evictions as if it began there. -/
theorem Evicts.lend_idle (h : stock.Evicts found) : stock.lendIdle = found.lendIdle := by
  induction h with
  | refl => rfl
  | @step stock final connection rest reason hfirst hreason _ ih =>
      have hdue : { stock with available := rest }.evictionReason? connection =
          some reason := hreason
      refine Eq.trans ?_ ih
      simp only [lendIdle, hfirst, lendFrom, hdue, discard_eq]

/-- A search for the head of the line lends the first connection that is left after the
evictions, or a new one if none is left and there is room. -/
theorem lend_eq (hevicts : stock.Evicts found)
    (hfirst : ∀ first ∈ found.available.head?, found.evictionReason? first = none) :
    stock.lend =
      match found.available with
      | first :: rest =>
          (some first.markInUse, ({ found with available := rest }.checkOut first).2)
      | [] =>
          if found.hasCapacity then
            (some found.newborn, (found.create.2.checkOut found.newborn).2)
          else (none, found) := by
  rw [lend, obtain, hevicts.take_idle, takeIdle]
  cases hidle : found.available with
  | nil =>
      rw [takeFrom, available_self hidle]
      dsimp only
      cases found.hasCapacity <;> rfl
  | cons first rest =>
      have husable : { found with available := rest }.evictionReason? first = none :=
        hfirst first (by rw [hidle]; rfl)
      rw [takeFrom]
      dsimp only
      rw [husable]
      rfl

/-- Lending without waiting lends the first connection that is left after the evictions if it is
established, and none otherwise. -/
theorem lend_idle_eq (hevicts : stock.Evicts found)
    (hfirst : ∀ first ∈ found.available.head?, found.evictionReason? first = none) :
    stock.lendIdle =
      match found.available with
      | first :: rest =>
          if first.established then
            (some first.markInUse, (({ found with available := rest }.checkOut first).2.emit
              .acquisitionStarted).succeed first.markInUse)
          else (none, found)
      | [] => (none, found) := by
  rw [hevicts.lend_idle, lendIdle]
  cases hidle : found.available with
  | nil => rw [lendFrom, available_self hidle]
  | cons first rest =>
      have husable : { found with available := rest }.evictionReason? first = none :=
        hfirst first (by rw [hidle]; rfl)
      rw [lendFrom]
      dsimp only
      rw [husable]
      dsimp only
      cases first.established with
      | true => rfl
      | false => rw [if_neg Bool.false_ne_true, if_neg Bool.false_ne_true, ← available_self hidle]

end Inventory

end ConnectionPool
