import ConnectionPool.Json.Reader
import ConnectionPool.Proofs.Keyed

/-!
# Members and their names

A value is a tree of arrays and objects, with `induct` as its induction. In an object the first
member of a name is the one that is found. Values that are read have no second one
(`parse_distinct`), so that each member is found under its name (`lookup_of_mem`).
-/

namespace ConnectionPool.Json

variable {value : Json} {members : List (String × Json)} {name : String}

/-- A property of all values, by induction on the items of arrays and the members of objects. -/
theorem induct {motive : Json → Prop} (null : motive .null) (bool : ∀ value, motive (.bool value))
    (number : ∀ value, motive (.number value)) (string : ∀ value, motive (.string value))
    (array : ∀ items, (∀ item ∈ items, motive item) → motive (.array items))
    (object : ∀ members, (∀ member ∈ members, motive member.2) → motive (.object members)) :
    ∀ value, motive value
  | .null => null
  | .bool value => bool value
  | .number value => number value
  | .string value => string value
  | .array items => array items fun item _ => induct null bool number string array object item
  | .object members => object members fun member hmem =>
      have hlt : sizeOf member.2 < sizeOf members := by
        have hmember : sizeOf member < sizeOf members := List.sizeOf_lt_of_mem hmem
        obtain ⟨name, value⟩ := member
        have hpair : sizeOf (name, value) = 1 + sizeOf name + sizeOf value := rfl
        show sizeOf value < sizeOf members
        omega
      induct null bool number string array object member.2

/-- The value has no two members of one name in an object, at any depth. -/
inductive Distinct : Json → Prop where
  | null : Distinct .null
  | bool (value : Bool) : Distinct (.bool value)
  | number (value : Number) : Distinct (.number value)
  | string (value : String) : Distinct (.string value)
  | array {items : List Json} (hitems : ∀ item ∈ items, Distinct item) : Distinct (.array items)
  | object {members : List (String × Json)} (hnames : (members.map Prod.fst).Nodup)
      (hmembers : ∀ member ∈ members, Distinct member.2) : Distinct (.object members)

/-! ## Names of members -/

/-- The member of a name in an object. -/
theorem member_object (name : String) (members : List (String × Json)) :
    (Json.object members).member name = (lookup name members).getD .null := rfl

/-- The first list of members is looked into first. -/
theorem lookup_append (name : String) (before after : List (String × Json)) :
    lookup name (before ++ after) = (lookup name before).or (lookup name after) := by
  induction before with
  | nil => rfl
  | cons member before ih =>
      obtain ⟨key, value⟩ := member
      simp only [List.cons_append, lookup]
      split
      · rfl
      · exact ih

/-- No member is found under a name that none has. -/
theorem lookup_eq_none (h : name ∉ members.map Prod.fst) : lookup name members = none := by
  induction members with
  | nil => rfl
  | cons member members ih =>
      obtain ⟨key, value⟩ := member
      rw [List.map_cons, List.mem_cons, not_or] at h
      rw [lookup, if_neg (Ne.symm h.1), ih h.2]

/-- If no two members have one name, each is found under its own. -/
theorem lookup_of_mem (hnames : (members.map Prod.fst).Nodup) (hmem : (name, value) ∈ members) :
    lookup name members = some value := by
  induction members with
  | nil => cases hmem
  | cons member members ih =>
      obtain ⟨key, other⟩ := member
      rw [List.map_cons, List.nodup_cons] at hnames
      rw [lookup]
      cases hmem with
      | head => rw [if_pos rfl]
      | tail _ hmem =>
          have hne : key ≠ name := fun heq => hnames.1 (List.mem_map.2 ⟨_, hmem, heq.symm⟩)
          rw [if_neg hne, ih hnames.2 hmem]

/-! ## Values that are read -/

/-- Adding a member leaves no two of one name: one of its name that is there gives way. -/
theorem put_member_names (hnames : (members.map Prod.fst).Nodup) (name : String) (value : Json) :
    ((putMember members name value).map Prod.fst).Nodup := by
  have hkept : ((members.filter fun member => member.1 ≠ name).map Prod.fst).Nodup :=
    hnames.sublist (List.filter_sublist.map _)
  exact Keyed.nodup_snoc hkept fun member hmem => of_decide_eq_true (List.mem_filter.1 hmem).2

/-- The members afterwards are those before and the new one. -/
theorem mem_put_member {member : String × Json} (h : member ∈ putMember members name value) :
    member ∈ members ∨ member = (name, value) := by
  rw [putMember, List.mem_append, List.mem_singleton] at h
  exact h.imp_left List.mem_of_mem_filter

mutual

/-- The value of a written text has no two members of one name. -/
theorem of_written_distinct {depth : Nat} : ∀ {written : Written} {value : Json},
    ofWritten? depth written = some value → Distinct value
  | .null, _, h => by cases h; exact .null
  | .bool _, _, h => by cases h; exact .bool _
  | .number _, _, h => by
      rw [ofWritten?, Option.map_eq_some_iff] at h
      obtain ⟨number, -, rfl⟩ := h
      exact .number number
  | .string _, _, h => by
      rw [ofWritten?, Option.map_eq_some_iff] at h
      obtain ⟨string, -, rfl⟩ := h
      exact .string string
  | .array items, _, h => by
      rw [ofWritten?] at h
      split at h
      · cases h
      · obtain ⟨items, hitems, rfl⟩ := Option.map_eq_some_iff.1 h
        exact .array (of_items_distinct hitems)
  | .object members, _, h => by
      rw [ofWritten?] at h
      split at h
      · cases h
      · obtain ⟨members, hmembers, rfl⟩ := Option.map_eq_some_iff.1 h
        obtain ⟨hnames, hdistinct⟩ := of_members_distinct hmembers List.nodup_nil
          (List.forall_mem_nil _)
        exact .object hnames hdistinct

/-- Nor has any item of a written array. -/
theorem of_items_distinct {depth : Nat} : ∀ {written : List Written} {items : List Json},
    ofItems? depth written = some items → ∀ item ∈ items, Distinct item
  | [], _, h => by cases h; exact List.forall_mem_nil _
  | item :: rest, _, h => by
      rw [ofItems?] at h
      obtain ⟨item, hitem, h⟩ := Option.bind_eq_some_iff.1 h
      obtain ⟨items, hitems, ⟨⟩⟩ := Option.bind_eq_some_iff.1 h
      exact List.forall_mem_cons.2 ⟨of_written_distinct hitem, of_items_distinct hitems⟩

/-- Members that are read in addition to others keep both. -/
theorem of_members_distinct {depth : Nat} : ∀ {written : List (List Mark × Written)}
    {sofar members : List (String × Json)}, ofMembers? depth sofar written = some members →
    (sofar.map Prod.fst).Nodup → (∀ member ∈ sofar, Distinct member.2) →
    (members.map Prod.fst).Nodup ∧ ∀ member ∈ members, Distinct member.2
  | [], _, _, h, hnames, hdistinct => by cases h; exact ⟨hnames, hdistinct⟩
  | (name, value) :: rest, sofar, _, h, hnames, hdistinct => by
      rw [ofMembers?] at h
      obtain ⟨name, -, h⟩ := Option.bind_eq_some_iff.1 h
      obtain ⟨value, hvalue, h⟩ := Option.bind_eq_some_iff.1 h
      refine of_members_distinct h (put_member_names hnames name value) fun member hmem => ?_
      rcases mem_put_member hmem with hold | rfl
      · exact hdistinct member hold
      · exact of_written_distinct hvalue

end

/-- A value that was read has no two members of one name in an object. -/
theorem parse_distinct {text : String} (h : parse? text = some value) : Distinct value := by
  obtain ⟨written, -, hvalue⟩ := Option.bind_eq_some_iff.1 h
  exact of_written_distinct hvalue

end ConnectionPool.Json
