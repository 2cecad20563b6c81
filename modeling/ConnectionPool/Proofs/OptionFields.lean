import ConnectionPool.Options
import ConnectionPool.Proofs.Text
import Mathlib.Data.List.Basic
import Mathlib.Data.Option.Basic

/-!
# The fields of options

Options are told by the numbers of their fields. What reading a number into a field and laying
options over others do is said by field, and options with the same numbers are the same.
-/

namespace ConnectionPool.Options

variable {options other base change result : Options} {field : Field} {value : Int}
  {cs : List Char}

/-- Options are the numbers of their fields. -/
theorem ext_get (h : ∀ field, options.get? field = other.get? field) : options = other := by
  have hsame : Function.Injective (Option.map fun n : UInt64 => (n.toNat : Int)) :=
    Option.map_injective fun _ _ heq => UInt64.toNat_inj.1 (Int.ofNat_inj.1 heq)
  have hmax : options.maxPoolSize = other.maxPoolSize :=
    Option.map_injective (fun _ _ => Int64.toInt_inj.1) (h .maxPoolSize)
  have hmin : options.minPoolSize = other.minPoolSize := hsame (h .minPoolSize)
  have hidle : options.maxIdleTimeMS = other.maxIdleTimeMS := hsame (h .maxIdleTimeMS)
  have hsize : options.waitQueueSize = other.waitQueueSize := hsame (h .waitQueueSize)
  have htimeout : options.waitQueueTimeoutMS = other.waitQueueTimeoutMS :=
    hsame (h .waitQueueTimeoutMS)
  cases options
  cases other
  simp_all only

/-- No field of the empty options has a number. -/
theorem empty_get (field : Field) : ({} : Options).get? field = none := by
  cases field <;> rfl

/-- The number is in the range of the field: 64 bits, signed for the maximum size and unsigned
for the others. -/
def Field.Fits : Field → Int → Prop
  | .maxPoolSize, value => -0x8000000000000000 ≤ value ∧ value < 0x8000000000000000
  | _, value => 0 ≤ value ∧ value < UInt64.size

/-- A field is set to a number in its range, and the others are left. -/
theorem set_get (h : options.set? field value = some result) (other : Field) :
    result.get? other = if other = field then some value else options.get? other := by
  cases field
  case maxPoolSize =>
    simp only [set?, Option.ite_none_right_eq_some, Option.some.injEq] at h
    obtain ⟨⟨hlow, hhigh⟩, rfl⟩ := h
    have hvalue : (Int64.ofInt value).toInt = value := Int64.toInt_ofInt_of_le hlow hhigh
    cases other <;> simp only [get?, Option.map_some, hvalue, reduceCtorEq, ↓reduceIte]
  all_goals
    simp only [set?, Option.ite_none_right_eq_some, Option.some.injEq] at h
    obtain ⟨⟨hlow, hhigh⟩, rfl⟩ := h
    have hvalue : ((UInt64.ofNat value.toNat).toNat : Int) = value := by
      rw [UInt64.toNat_ofNat_of_lt' (by omega)]
      exact Int.toNat_of_nonneg hlow
    cases other <;> simp only [get?, Option.map_some, hvalue, reduceCtorEq, ↓reduceIte]

/-- A field can be set just to the numbers in its range. -/
theorem set_isSome : (options.set? field value).isSome ↔ field.Fits value := by
  cases field <;> simp [set?, Field.Fits]

/-- The options with the field set to the number. A number out of range is not taken. -/
def put (options : Options) (field : Field) (value : Int) : Options :=
  (options.set? field value).getD options

/-- A number in range is taken. -/
theorem set_eq_put (h : field.Fits value) : options.set? field value =
    some (options.put field value) := by
  have hsome : (options.set? field value).isSome := set_isSome.2 h
  obtain ⟨result, hset⟩ := Option.isSome_iff_exists.1 hsome
  rw [put, hset]
  rfl

/-- The field has the number then, and the others are left. -/
theorem put_get (h : field.Fits value) (other : Field) :
    (options.put field value).get? other = if other = field then some value
      else options.get? other :=
  set_get (set_eq_put h) other

/-- The numbers of options are in the range of their fields. -/
theorem get_fits (h : options.get? field = some value) : field.Fits value := by
  cases field
  case maxPoolSize =>
    obtain ⟨n, -, rfl⟩ := Option.map_eq_some_iff.1 h
    exact ⟨n.le_toInt, n.toInt_lt⟩
  all_goals
    obtain ⟨n, -, rfl⟩ := Option.map_eq_some_iff.1 h
    exact ⟨Int.natCast_nonneg _, Int.ofNat_lt.2 n.toNat_lt⟩

/-- A number that is read for a field is in its range. -/
theorem readNumber_fits (h : readNumber? field cs = some value) : field.Fits value := by
  cases field
  case maxPoolSize =>
    rcases Text.signed_some.1 h with ⟨_, n, -, -, hn, rfl⟩ | ⟨n, -, hn, rfl⟩
    · exact ⟨Int.neg_le_neg (Int.ofNat_le.2 hn), by omega⟩
    · exact ⟨by omega, Int.ofNat_lt.2 hn⟩
  all_goals
    obtain ⟨n, hread, rfl⟩ := Option.map_eq_some_iff.1 h
    exact ⟨Int.natCast_nonneg _, Int.ofNat_lt.2 (Text.unsigned_some.1 hread).2⟩

/-- Options laid over others keep the numbers that they have. -/
theorem override_get (base change : Options) (field : Field) :
    (base.override change).get? field = (change.get? field).or (base.get? field) := by
  cases field <;> simp [override, get?, Option.map_or]

/-- The empty options change nothing. -/
theorem override_empty (base : Options) : base.override {} = base := by
  refine ext_get fun field => ?_
  rw [override_get, empty_get, Option.none_or]

/-- Setting a field of options that are laid over others sets it in the whole. -/
theorem put_override (h : field.Fits value) :
    (base.override change).put field value = base.override (change.put field value) := by
  refine ext_get fun other => ?_
  rw [put_get h, override_get, override_get, put_get h]
  split <;> rfl

/-- Two different fields can be set in either order. -/
theorem put_comm {other : Field} {number : Int} (h : field.Fits value)
    (hother : other.Fits number)
    (hne : field ≠ other) :
    (options.put field value).put other number = (options.put other number).put field value := by
  refine ext_get fun one => ?_
  rw [put_get hother, put_get h, put_get h, put_get hother]
  split <;> split <;> simp_all

/-! ## Settings -/

variable {order : List (Field × Int)} {number : Int}

/-- The fields that are set, with their numbers, in the order of their declaration. -/
def settings (options : Options) : List (Field × Int) :=
  Field.all.filterMap fun field => (options.get? field).map fun value => (field, value)

/-- The settings are the numbers of the fields. -/
theorem mem_settings : (field, number) ∈ options.settings ↔ options.get? field = some number := by
  have hall : ∀ field, field ∈ Field.all := by
    intro field
    cases field <;> decide
  rw [settings, List.mem_filterMap]
  constructor
  · rintro ⟨other, -, hsome⟩
    obtain ⟨value, hvalue, heq⟩ := Option.map_eq_some_iff.1 hsome
    cases heq
    exact hvalue
  · intro hget
    exact ⟨field, hall field, by rw [hget]; rfl⟩

/-- Each field is set once. -/
theorem settings_differ (options : Options) : (options.settings.map Prod.fst).Nodup := by
  have hall : Field.all.Nodup := by decide
  rw [settings, List.Nodup, List.pairwise_map, List.pairwise_filterMap]
  refine hall.imp ?_
  intro field other hne setting hsetting setting' hsetting'
  obtain ⟨_, -, rfl⟩ := Option.map_eq_some_iff.1 hsetting
  obtain ⟨_, -, rfl⟩ := Option.map_eq_some_iff.1 hsetting'
  exact hne

/-- Each of them is in the range of its field. -/
theorem settings_fit (options : Options) : ∀ setting ∈ options.settings,
    setting.1.Fits setting.2 :=
  fun _ hmem => get_fits (mem_settings.1 hmem)

/-- The options with fields set to numbers one after the other. -/
def putAll (options : Options) (order : List (Field × Int)) : Options :=
  order.foldl (fun options setting => options.put setting.1 setting.2) options

/-- If no field is set twice, the fields that are set have their numbers, and the others are
left. -/
theorem putAll_get (hfits : ∀ setting ∈ order, setting.1.Fits setting.2)
    (hdiffer : (order.map Prod.fst).Nodup) (field : Field) (number : Int) :
    (options.putAll order).get? field = some number ↔
      (field, number) ∈ order ∨ field ∉ order.map Prod.fst ∧
        options.get? field = some number := by
  induction order generalizing options with
  | nil => simp [putAll]
  | cons setting order ih =>
      obtain ⟨set, value⟩ := setting
      rw [List.forall_mem_cons] at hfits
      rw [List.map_cons, List.nodup_cons] at hdiffer
      show ((options.put set value).putAll order).get? field = some number ↔ _
      rw [ih hfits.2 hdiffer.2, put_get hfits.1]
      by_cases hfield : field = set
      · subst hfield
        have hnot : (field, number) ∉ order := fun hmem =>
          hdiffer.1 (List.mem_map.2 ⟨_, hmem, rfl⟩)
        simp [hnot, hdiffer.1, eq_comm]
      · simp [hfield]

/-- The numbers of options give the options back, in whatever order they are set. -/
theorem putAll_settings (h : order.Perm options.settings) :
    ({} : Options).putAll order = options := by
  have hdiffer : (order.map Prod.fst).Nodup :=
    (h.map Prod.fst).nodup_iff.2 options.settings_differ
  have hfits : ∀ setting ∈ order, setting.1.Fits setting.2 := fun setting hmem =>
    options.settings_fit setting (h.mem_iff.1 hmem)
  refine ext_get fun field => Option.ext fun number => ?_
  rw [putAll_get hfits hdiffer, h.mem_iff, mem_settings, empty_get]
  simp

end ConnectionPool.Options
