import ConnectionPool.Json.Pattern
import ConnectionPool.Proofs.JsonMembers
import Mathlib.Data.List.Forall2
import Mathlib.Logic.Relation

/-!
# Values that patterns admit

A value admits itself, and goes on to be admitted when members are added to it anywhere, as long
as the pattern has no `null`. Growing is a sequence of single additions; one addition changes
what one name stands for at most, and a name that was missing counted as `null` before. The
patterns that admit `null` are the hollow ones: `null` itself, and objects of hollow patterns. A
hollow pattern without `null` is made of empty objects, and admits every value.
-/

namespace ConnectionPool.Json

variable {pattern value actual grown : Json} {items patterns before after : List Json}
  {members : List (String × Json)}

/-- There is no `null` in the value, at any depth. -/
inductive NullFree : Json → Prop where
  | bool (value : Bool) : NullFree (.bool value)
  | number (value : Number) : NullFree (.number value)
  | string (value : String) : NullFree (.string value)
  | array {items : List Json} (hitems : ∀ item ∈ items, NullFree item) : NullFree (.array items)
  | object {members : List (String × Json)} (hmembers : ∀ member ∈ members, NullFree member.2) :
      NullFree (.object members)

/-- The value is `null` or an object of hollow values. -/
inductive Hollow : Json → Prop where
  | null : Hollow .null
  | object {members : List (String × Json)} (hmembers : ∀ member ∈ members, Hollow member.2) :
      Hollow (.object members)

/-- One member is added to an object somewhere in the value, under a name that the object does
not have. -/
inductive Gains : Json → Json → Prop where
  | here {before after : List (String × Json)} {name : String} (value : Json)
      (hnew : name ∉ (before ++ after).map Prod.fst) :
      Gains (.object (before ++ after)) (.object (before ++ (name, value) :: after))
  | member {before after : List (String × Json)} {name : String} {value grown : Json}
      (h : Gains value grown) :
      Gains (.object (before ++ (name, value) :: after))
        (.object (before ++ (name, grown) :: after))
  | item {before after : List Json} {value grown : Json} (h : Gains value grown) :
      Gains (.array (before ++ value :: after)) (.array (before ++ grown :: after))

/-- Members are added to objects in the value. -/
def Grows : Json → Json → Prop :=
  Relation.ReflTransGen Gains

/-! ## What containers admit -/

/-- The members of a pattern admit a value if each admits what its name stands for. -/
theorem admits_members_iff :
    admitsMembers members actual = true ↔
      ∀ member ∈ members, member.2.admits (actual.member member.1) = true := by
  induction members with
  | nil => simp [admitsMembers]
  | cons member members ih =>
      rw [admitsMembers, Bool.and_eq_true, ih, List.forall_mem_cons]

/-- The items of a pattern admit those of a value if there are as many and each admits the one
in its place. -/
theorem admits_items_iff :
    admitsItems patterns items = true ↔
      List.Forall₂ (fun pattern item => pattern.admits item = true) patterns items := by
  induction patterns generalizing items with
  | nil => cases items <;> simp [admitsItems]
  | cons pattern patterns ih =>
      cases items with
      | nil => simp [admitsItems]
      | cons item items => rw [admitsItems, Bool.and_eq_true, ih, List.forall₂_cons]

/-! ## Values admit themselves -/

/-- A value without two members of one name admits itself. -/
theorem Distinct.admits_self (h : Distinct value) : value.admits value = true := by
  induction h with
  | null => rfl
  | bool value => simp [admits, scalarEqual]
  | number value =>
      rw [admits]
      split
      · rfl
      · exact Number.same_refl value
  | string value =>
      rw [admits]
      split
      · rfl
      · simp [scalarEqual]
  | array _ ih => rwa [admits, admits_items_iff, List.forall₂_same]
  | object hnames _ ih =>
      rw [admits, admits_members_iff]
      intro member hmem
      rw [member_object, lookup_of_mem hnames hmem]
      exact ih member hmem

/-! ## Patterns that admit `null` -/

/-- A hollow pattern admits `null`. -/
theorem Hollow.admits_null (h : Hollow pattern) : pattern.admits .null = true := by
  induction h with
  | null => rfl
  | object _ ih =>
      rw [admits, admits_members_iff]
      exact ih

/-- Just the hollow patterns admit `null`. -/
theorem admits_null_iff : pattern.admits .null = true ↔ Hollow pattern := by
  refine ⟨fun h => ?_, Hollow.admits_null⟩
  induction pattern using induct with
  | null => exact .null
  | bool value => simp [admits, scalarEqual] at h
  | number value =>
      rw [admits] at h
      split at h <;> cases h
  | string value =>
      rw [admits] at h
      split at h <;> cases h
  | array items => simp [admits] at h
  | object members ih =>
      rw [admits, admits_members_iff] at h
      exact .object fun member hmem => ih member hmem (h member hmem)

instance (pattern : Json) : Decidable (Hollow pattern) :=
  decidable_of_iff _ admits_null_iff

/-- A hollow pattern without `null` admits every value. -/
theorem Hollow.admits_all (h : Hollow pattern) (hnull : NullFree pattern) (value : Json) :
    pattern.admits value = true := by
  induction h generalizing value with
  | null => cases hnull
  | object _ ih =>
      cases hnull with
      | object hfree =>
          rw [admits, admits_members_iff]
          exact fun member hmem => ih member hmem (hfree member hmem) _

/-! ## Values that grow -/

/-- What a name stands for stays, or it was missing, or it gains a member itself. -/
theorem Gains.at_name (h : Gains value grown) (name : String) :
    grown.member name = value.member name ∨ value.member name = .null ∨
      Gains (value.member name) (grown.member name) := by
  cases h with
  | @here before after key added hnew =>
      rw [List.map_append, List.mem_append, not_or] at hnew
      simp only [member_object, lookup_append, lookup]
      split
      case isTrue heq =>
        rw [← heq, lookup_eq_none hnew.1, lookup_eq_none hnew.2]
        exact .inr (.inl rfl)
      case isFalse => exact .inl rfl
  | @member before after key inner grown h =>
      simp only [member_object, lookup_append, lookup]
      cases lookup name before with
      | some found => exact .inl rfl
      | none =>
          split
          · exact .inr (.inr h)
          · exact .inl rfl
  | item => exact .inl rfl

/-- One item of a value is replaced by another one that is admitted if the first was. -/
theorem admits_replaced (hitem : ∀ pattern ∈ patterns, pattern.admits value = true →
    pattern.admits grown = true)
    (h : admitsItems patterns (before ++ value :: after) = true) :
    admitsItems patterns (before ++ grown :: after) = true := by
  induction before generalizing patterns with
  | nil =>
      cases patterns with
      | nil => cases h
      | cons pattern patterns =>
          rw [List.nil_append, admitsItems, Bool.and_eq_true] at h ⊢
          exact ⟨hitem pattern List.mem_cons_self h.1, h.2⟩
  | cons item before ih =>
      cases patterns with
      | nil => cases h
      | cons pattern patterns =>
          rw [List.cons_append, admitsItems, Bool.and_eq_true] at h ⊢
          exact ⟨h.1, ih (fun other hmem => hitem other (List.mem_cons_of_mem _ hmem)) h.2⟩

/-- A pattern without `null` goes on to admit a value that gains a member. -/
theorem NullFree.admits_gained (hnull : NullFree pattern) (h : Gains value grown)
    (hadmits : pattern.admits value = true) : pattern.admits grown = true := by
  induction hnull generalizing value grown with
  | bool => cases h <;> simp [admits, scalarEqual] at hadmits
  | number | string =>
      -- A value that gains a member is an array or an object, so only the wildcard admits it.
      cases h <;> simpa [admits, scalarEqual, isNull] using hadmits
  | array _ ih =>
      cases h with
      | here | member => simp [admits] at hadmits
      | item h =>
          rw [admits] at hadmits ⊢
          exact admits_replaced (fun pattern hmem => ih pattern hmem h) hadmits
  | object hfree ih =>
      rw [admits, admits_members_iff] at hadmits ⊢
      intro member hmem
      have hmember := hadmits member hmem
      rcases h.at_name member.1 with hsame | hmissing | hgains
      · rwa [hsame]
      · rw [hmissing, admits_null_iff] at hmember
        exact hmember.admits_all (hfree member hmem) _
      · exact ih member hmem hgains hmember

/-- It goes on to admit a value that grows. -/
theorem NullFree.admits_grown (hnull : NullFree pattern) (h : Grows value grown)
    (hadmits : pattern.admits value = true) : pattern.admits grown = true := by
  induction h with
  | refl => exact hadmits
  | tail _ hgains ih => exact hnull.admits_gained hgains ih

/-- A pattern with `null` asks for a member to be missing, and need not go on to admit. -/
example :
    admits (.object [("reason", .null)]) (.object []) = true ∧
      admits (.object [("reason", .null)]) (.object [("reason", .string "stale")]) = false := by
  decide

/-- A value admits itself, a value that was read in particular. A pattern without `null` goes on
to admit a value to which members are added, at any depth. -/
theorem itself_and_grown_admitted :
    (∀ value, Distinct value → value.admits value = true) ∧
    (∀ text value, parse? text = some value → value.admits value = true) ∧
    ∀ pattern value grown, NullFree pattern → Grows value grown →
      pattern.admits value = true → pattern.admits grown = true :=
  ⟨fun _ => Distinct.admits_self, fun _ _ hread => (parse_distinct hread).admits_self,
    fun _ _ _ => NullFree.admits_grown⟩

/-- A pattern with the wildcard and an empty object. The value gains the member that the empty
object stands for, and one inside its array. -/
theorem events_grown :
    let pattern : Json := .object [("events", .array [.object [("id", .nat 42)]]),
      ("pool", .object [])]
    let value : Json := .object [("events", .array [.object [("id", .nat 3)]])]
    let grown : Json :=
      .object [("events", .array [.object [("id", .nat 3), ("on", .bool true)]]),
        ("pool", .nat 1)]
    Distinct value ∧ value.admits value = true ∧
      parse? "[null]" = some (.array [.null]) ∧ admits (.array [.null]) (.array [.null]) = true ∧
      NullFree pattern ∧ Grows value grown ∧ pattern.admits value = true ∧
        pattern.admits grown = true := by
  intro pattern value grown
  have hvalue : Distinct value := by
    refine .object (by decide) (List.forall_mem_singleton.2
      (.array (List.forall_mem_singleton.2 ?_)))
    exact .object (by decide) (List.forall_mem_singleton.2 (.number _))
  have hread : parse? "[null]" = some (.array [.null]) := by rfl
  have hpattern : NullFree pattern := by
    have hid : NullFree (.object [("id", .nat 42)]) :=
      .object (List.forall_mem_singleton.2 (.number _))
    have hpool : NullFree (.object []) := .object (List.forall_mem_nil _)
    exact .object (List.forall_mem_cons.2
      ⟨.array (List.forall_mem_singleton.2 hid), List.forall_mem_singleton.2 hpool⟩)
  have hinside : Gains (.object [("id", .nat 3)])
      (.object [("id", .nat 3), ("on", .bool true)]) :=
    @Gains.here [("id", .nat 3)] [] "on" (.bool true) (by decide)
  have hevents :
      Gains value (.object [("events", .array [.object [("id", .nat 3), ("on", .bool true)]])]) :=
    @Gains.member [] [] "events" _ _ (@Gains.item [] [] _ _ hinside)
  have hgrows : Grows value grown :=
    .tail (.single hevents) (@Gains.here [_] [] "pool" (.nat 1) (by decide))
  have hadmits : pattern.admits value = true := by rfl
  exact ⟨hvalue, itself_and_grown_admitted.1 value hvalue, hread,
    itself_and_grown_admitted.2.1 _ _ hread, hpattern,
    hgrows, hadmits, itself_and_grown_admitted.2.2 pattern value grown hpattern hgrows hadmits⟩

end ConnectionPool.Json
