import ConnectionPool.Conformance.Run.Perform
import ConnectionPool.Proofs.Patterns

/-!
# What a verdict says

A run passes if it ends as it should and each expected event is met in its place. An event that
is missing counts as `null`, and `null` is admitted just by the hollow patterns
(`Json.admits_null_iff`). So a missing event is found, except where a hollow pattern stands for
it (`missing_event_found`).
-/

namespace ConnectionPool.Conformance

variable {clock : Duration} {pattern : Json} {patterns : List Json}
  {events : List Event} {index : Nat}

/-- The pattern is met by what is in its place: it admits the event, or it is hollow if there is
none. -/
def Met (clock : Duration) (pattern : Json) : Option Event → Prop
  | some event => pattern.admits (recorded clock event) = true
  | none => pattern.Hollow

/-- That is what comparing them tells. -/
theorem admits_iff_met (event : Option Event) :
    pattern.admits (Json.ofOption (recorded clock) event) = true ↔ Met clock pattern event := by
  cases event with
  | none => exact Json.admits_null_iff
  | some event => exact Iff.rfl

/-- The comparison ends well if each pattern is met in its place. -/
theorem check_events_ok_iff :
    checkEvents clock index patterns events = .ok () ↔
      ∀ (i : Nat) (pattern : Json), patterns[i]? = some pattern →
        Met clock pattern events[i]? := by
  induction patterns generalizing index events with
  | nil => simp [checkEvents]
  | cons first patterns ih =>
      rw [checkEvents, List.head?_eq_getElem?]
      split
      case isTrue hfirst =>
        rw [ih]
        constructor
        · intro hrest i pattern hpattern
          cases i with
          | zero =>
              cases hpattern
              exact (admits_iff_met _).1 hfirst
          | succ i =>
              rw [← List.getElem?_tail]
              exact hrest i pattern hpattern
        · intro hall i pattern hpattern
          rw [List.getElem?_tail]
          exact hall (i + 1) pattern hpattern
      case isFalse hfirst =>
        refine ⟨nofun, fun hall => ?_⟩
        exact absurd ((admits_iff_met _).2 (hall 0 first rfl)) hfirst

/-- If it does not, it names the first pattern that is not met, with its place and the event
that is there. -/
theorem check_events_error {failure : Failure}
    (h : checkEvents clock index patterns events = .error failure) :
    ∃ (i : Nat) (pattern : Json), patterns[i]? = some pattern ∧ ¬Met clock pattern events[i]? ∧
      (∀ (j : Nat) (earlier : Json), j < i → patterns[j]? = some earlier →
        Met clock earlier events[j]?) ∧
      failure = .wrongEvent (index + i) pattern events[i]? := by
  induction patterns generalizing index events with
  | nil => cases h
  | cons first patterns ih =>
      rw [checkEvents, List.head?_eq_getElem?] at h
      split at h
      case isTrue hfirst =>
        obtain ⟨i, pattern, hpattern, hunmet, hmet, rfl⟩ := ih h
        rw [List.getElem?_tail] at hunmet
        refine ⟨i + 1, pattern, hpattern, hunmet, fun j earlier hlt hearlier => ?_, ?_⟩
        · cases j with
          | zero =>
              cases hearlier
              exact (admits_iff_met _).1 hfirst
          | succ j =>
              rw [← List.getElem?_tail]
              exact hmet j earlier (Nat.lt_of_succ_lt_succ hlt) hearlier
        · rw [List.getElem?_tail, Nat.add_assoc, Nat.add_comm 1 i]
      case isFalse hfirst =>
        cases h
        exact ⟨0, first, rfl, fun hmet => hfirst ((admits_iff_met _).2 hmet),
          fun j _ hlt => absurd hlt (Nat.not_lt_zero j), rfl⟩

/-- A run passes if it ends as it should and each expected event is met by the event that counts
in its place. -/
theorem Test.check_ok_iff (test : Test) (clock : Duration) (result : Except RunError Unit)
    (events : List Event) :
    test.check clock result events = .ok () ↔
      test.checkEnd result = .ok () ∧
        ∀ (i : Nat) (pattern : Json), test.events[i]? = some pattern →
          Met clock pattern (test.relevant events)[i]? := by
  rw [Test.check]
  split
  case h_1 cause hend => simp [hend]
  case h_2 hend => rw [check_events_ok_iff, hend]; simp

/-- A pattern that is not hollow is met by an event. -/
theorem Met.found {event : Option Event} (h : Met clock pattern event)
    (hollow : ¬pattern.Hollow) :
    ∃ found, event = some found ∧ pattern.admits (recorded clock found) = true := by
  cases event with
  | none => exact absurd h hollow
  | some found => exact ⟨found, rfl, h⟩

/-- A missing event is found, except where a hollow pattern stands for it. A run passes just if
it ends as it should and each expected event is admitted in its place, or is hollow and has
none; otherwise the verdict names the first one that is not. So an expected event that is not
hollow has an event that it admits in its place; and there are as many events that count as were
expected, unless the last pattern is hollow. -/
theorem Test.missing_event_found (test : Test) (clock : Duration) (result : Except RunError Unit)
    (events : List Event) :
    (test.check clock result events = .ok () ↔
      test.checkEnd result = .ok () ∧
        ∀ (i : Nat) (pattern : Json), test.events[i]? = some pattern →
          Met clock pattern (test.relevant events)[i]?) ∧
    (∀ failure, test.checkEnd result = .ok () → test.check clock result events = .error failure →
      ∃ (i : Nat) (pattern : Json), test.events[i]? = some pattern ∧
        ¬Met clock pattern (test.relevant events)[i]? ∧
        (∀ (j : Nat) (earlier : Json), j < i → test.events[j]? = some earlier →
          Met clock earlier (test.relevant events)[j]?) ∧
        failure = .wrongEvent i pattern (test.relevant events)[i]?) ∧
    (test.check clock result events = .ok () →
      ∀ (i : Nat) (pattern : Json), test.events[i]? = some pattern → ¬pattern.Hollow →
        ∃ event, (test.relevant events)[i]? = some event ∧
          pattern.admits (recorded clock event) = true) ∧
    (test.check clock result events = .ok () →
      (∀ pattern, test.events.getLast? = some pattern → ¬pattern.Hollow) →
        test.events.length ≤ (test.relevant events).length) := by
  have hfound : test.check clock result events = .ok () →
      ∀ (i : Nat) (pattern : Json), test.events[i]? = some pattern → ¬pattern.Hollow →
        ∃ event, (test.relevant events)[i]? = some event ∧
          pattern.admits (recorded clock event) = true := by
    intro hcheck i pattern hpattern hollow
    exact (((test.check_ok_iff _ _ _).1 hcheck).2 i pattern hpattern).found hollow
  refine ⟨test.check_ok_iff clock result events, fun failure hend hcheck => ?_, hfound,
    fun hcheck hlast => ?_⟩
  · rw [Test.check, hend] at hcheck
    simpa only [Nat.zero_add] using check_events_error hcheck
  · cases hexpected : test.events.getLast? with
    | none =>
        rw [List.getLast?_eq_none_iff.1 hexpected]
        exact Nat.zero_le _
    | some last =>
        have hplace : test.events[test.events.length - 1]? = some last := by
          rw [← List.getLast?_eq_getElem?, hexpected]
        obtain ⟨event, hevent, -⟩ := hfound hcheck _ last hplace (hlast last hexpected)
        have hlt := (List.getElem?_eq_some_iff.1 hevent).1
        omega

/-- Two events that count, after one that does not. The last of them is asked for with the
wildcard; without it the verdict says that nothing is in its place. -/
theorem Test.last_event_found :
    let connection : ConnectionInfo := ⟨1, 0, 0, Address.localhost⟩
    let event : EventKind → Event := fun kind => ⟨0, ⟨0, 1, 0, 0, Address.localhost⟩, kind⟩
    let pattern : Json := .object [("type", .string "connectionReady"),
      ("connection", .object [("id", .nat 42)])]
    let test : Test := {
      version := 1
      style := "unit"
      description := "a connection is created and ready"
      operations := []
      events := [.object [], pattern]
      ignore := ["connectionPoolCreated"] }
    let begun := [event (.poolCreated {}), event (.created connection)]
    let events := begun ++ [event (.ready connection)]
    (test.check 0 (.ok ()) events = .ok () ∧ test.events[1]? = some pattern ∧ ¬pattern.Hollow ∧
      (∃ event, (test.relevant events)[1]? = some event ∧
        pattern.admits (recorded 0 event) = true) ∧
      (∀ pattern, test.events.getLast? = some pattern → ¬pattern.Hollow) ∧
      test.events.length ≤ (test.relevant events).length) ∧
    test.checkEnd (.ok ()) = .ok () ∧ test.check 0 (.ok ()) begun =
      .error (.wrongEvent 1 pattern none) ∧
      ∃ (i : Nat) (pattern : Json), test.events[i]? = some pattern ∧
        ¬Met 0 pattern (test.relevant begun)[i]? := by
  intro connection event pattern test begun events
  have hcheck : test.check 0 (.ok ()) events = .ok () := by rfl
  have hmissing : test.check 0 (.ok ()) begun = .error (.wrongEvent 1 pattern none) := by rfl
  have hollow : ¬pattern.Hollow := by decide
  have hlast : ∀ pattern, test.events.getLast? = some pattern → ¬pattern.Hollow := by
    rintro other ⟨⟩
    exact hollow
  obtain ⟨-, -, hfound, hlength⟩ := Test.missing_event_found test 0 (.ok ()) events
  obtain ⟨i, unmet, hexpected, hunmet, -⟩ := (Test.missing_event_found test 0 (.ok ()) begun).2.1
    _ rfl hmissing
  exact ⟨⟨hcheck, rfl, hollow, hfound hcheck 1 pattern rfl hollow, hlast, hlength hcheck hlast⟩,
    rfl, hmissing,
    i, unmet, hexpected, hunmet⟩

/-- An empty pattern stands for an event that the pool does not emit, and the test passes. -/
theorem Test.hollow_event_overlooked :
    let test : Test := {
      version := 1
      style := "unit"
      description := "an event after the pool is created"
      operations := []
      events := [.object [("type", .string "connectionPoolCreated")], .object []] }
    test.perform 0 = .passed ∧
      ¬∀ (test : Test) (clock : Duration) (result : Except RunError Unit) (events : List Event),
        test.check clock result events = .ok () →
          test.events.length ≤ (test.relevant events).length ∧
          ∀ (i : Nat) (pattern : Json), test.events[i]? = some pattern →
            ∃ event, (test.relevant events)[i]? = some event ∧
              pattern.admits (recorded clock event) = true := by
  intro test
  refine ⟨by rfl, fun hall => ?_⟩
  have hlength := (hall test 0 (.ok ()) [⟨0, ⟨0, 0, 0, 0, Address.localhost⟩, .poolCreated {}⟩]
    (by rfl)).1
  exact absurd hlength (by decide)

end ConnectionPool.Conformance
