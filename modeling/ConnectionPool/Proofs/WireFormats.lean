import ConnectionPool.Proofs.JsonText
import ConnectionPool.Proofs.QueryText
import Mathlib.Data.List.Perm.Basic

/-!
# The two wire formats

Options are written as a JSON object of the fields that are set, and read back from it. A query
asks for the members of an object when it has one segment for each of them, in any order: the
name in any letter case, an equals sign and the number, with white space where it does not
count. Whatever query asks for what options are written as, it is read as these options. Both
readers come to the same settings, each field at most once, and settings give the options back
in any order (`putAll_settings`).
-/

namespace ConnectionPool.Options

variable {options : Options} {field : Field} {number : Int} {order : List (Field × Int)}
  {seen : List Field} {key segment text : List Char} {segments : List (List Char)} {c : Char}

/-! ## JSON -/

/-- A setting under its wire name. -/
def entry (setting : Field × Int) : String × Int :=
  (setting.1.name, setting.2)

/-- A setting as a member of an object. -/
def member (setting : Field × Int) : String × Json :=
  (setting.1.name, Json.int setting.2)

/-- The members of settings are whole numbers under wire names. -/
theorem members_eq (order : List (Field × Int)) :
    order.map member = Json.intMembers (order.map entry) := by
  rw [Json.intMembers, List.map_map]
  rfl

/-- Options are written as their settings. -/
theorem toJson_settings (options : Options) : options.toJson = .object
    (options.settings.map member) := by
  rw [toJson, settings, List.map_filterMap]
  simp only [Option.map_map]
  rfl

/-- The field of its own name. -/
theorem ofName_name (field : Field) : Field.ofName? field.name = some field := by
  cases field <;> decide

/-- Members that name different fields set these fields. -/
theorem put_members_settings (hfits : ∀ setting ∈ order, setting.1.Fits setting.2)
    (hdiffer : (order.map Prod.fst).Nodup) (hseen : ∀ field ∈ seen, field ∉ order.map Prod.fst) :
    options.putMembers? seen (order.map member) = some (options.putAll order) := by
  induction order generalizing options seen with
  | nil => rfl
  | cons setting order ih =>
      obtain ⟨field, number⟩ := setting
      rw [List.forall_mem_cons] at hfits
      rw [List.map_cons, List.nodup_cons] at hdiffer
      have hnew : field ∉ seen := fun hmem => hseen field hmem List.mem_cons_self
      have hput : options.putJson? field (Json.int number) = some (options.put field number) :=
        set_eq_put hfits.1
      show options.putMembers? seen ((field.name, Json.int number) :: order.map member) = _
      simp only [putMembers?, ofName_name, if_neg hnew, hput, bind, Option.bind]
      refine ih hfits.2 hdiffer.2 (List.forall_mem_cons.2 ⟨hdiffer.1, fun other hmem => ?_⟩)
      exact fun hlater => hseen other hmem (List.mem_cons_of_mem _ hlater)

/-- The members of the settings of options give the options back. -/
theorem put_members_back (options : Options) :
    ({} : Options).putMembers? [] (options.settings.map member) = some options := by
  rw [put_members_settings options.settings_fit options.settings_differ (List.forall_mem_nil _),
    putAll_settings (List.Perm.refl _)]

/-- Options are read back from the object that they are written as. -/
theorem ofJson_toJson (options : Options) : ofJson? options.toJson = some options := by
  rw [toJson_settings]
  exact options.put_members_back

/-- A number in the range of a field has 64 bits, signed or unsigned. -/
theorem Field.Fits.bounds (h : field.Fits number) :
    -0x8000000000000000 ≤ number ∧ number < UInt64.size := by
  have hsize : (UInt64.size : Int) = 0x10000000000000000 := rfl
  cases field <;> simp only [Field.Fits] at h <;> omega

/-- The members of the fields are all known. -/
theorem known_members_settings (hfits : ∀ setting ∈ order, setting.1.Fits setting.2) :
    knownMembers? (Json.writtenMembers (order.map entry)) = some (order.map member) := by
  induction order with
  | nil => rfl
  | cons setting order ih =>
      obtain ⟨field, number⟩ := setting
      rw [List.forall_mem_cons] at hfits
      have hvalue : Json.ofWritten? 126 (.number (Json.numeralOf number)) =
          some (Json.int number) := by
        rw [Json.ofWritten?, Json.numeralOf_number hfits.1.bounds.1 hfits.1.bounds.2]
        rfl
      show knownMembers? ((field.name.toList.map .char, .number (Json.numeralOf number)) ::
        Json.writtenMembers (order.map entry)) = _
      simp only [knownMembers?, Json.string_of_chars, ofName_name, hvalue, ih hfits.2,
        bind, Option.bind]
      rfl

/-- The wire names need no escape. -/
theorem name_plain (field : Field) : Json.Plain field.name.toList := by
  have hall : (field.name.toList.all fun c =>
      c != '"' && c != '\\' && decide (0x20 ≤ c.toNat)) = true := by
    cases field <;> decide
  intro c hc
  simpa [and_assoc] using List.all_eq_true.1 hall c hc

/-- Options are read back from the text that they are written as. -/
theorem ofJsonText_render (options : Options) :
    ofJsonText? options.toJson.render = some options := by
  have hplain : ∀ one ∈ options.settings.map entry, Json.Plain one.1.toList := by
    intro one hmem
    obtain ⟨setting, -, rfl⟩ := List.mem_map.1 hmem
    exact name_plain setting.1
  rw [toJson_settings, members_eq, ofJsonText?, Json.object_read hplain]
  simp only [bind, Option.bind, known_members_settings options.settings_fit]
  exact options.put_members_back

/-! ## Queries -/

/-- The segment asks for the member of an object: it has the name in any letter case, an equals
sign and the text of the value, with white space around both of them. -/
inductive AsksFor : String × Json → List Char → Prop where
  | segment {name : String} {value : Json} {before key behind front back : List Char}
      (hkey : key.map Char.toLower = name.toList.map Char.toLower)
      (hbefore : Text.Blank before) (hbehind : Text.Blank behind)
      (hfront : Text.Blank front) (hback : Text.Blank back) :
      AsksFor (name, value)
        ((before ++ key ++ behind) ++ '=' :: (front ++ value.render.toList ++ back))

/-- The text is the segments with a separator between each two of them. -/
inductive Joined : List (List Char) → List Char → Prop where
  | none : Joined [] []
  | one (segment : List Char) : Joined [segment] segment
  | more {segment next text : List Char} {segments : List (List Char)} {sep : Char}
      (hsep : sep = '&' ∨ sep = ';') (h : Joined (next :: segments) text) :
      Joined (segment :: next :: segments) (segment ++ sep :: text)

/-- The query asks for the members, in some order. White space and any number of question marks
may stand in front of the segments. -/
def Asks (members : List (String × Json)) (query : String) : Prop :=
  ∃ order segments text front marks, order.Perm members ∧ List.Forall₂ AsksFor order segments ∧
    Joined segments text ∧ Text.Blank front ∧
    query.toList = front ++ List.replicate marks '?' ++ text

/-- A name in any letter case has only letters. -/
theorem key_letters (hkey : key.map Char.toLower = field.name.toList.map Char.toLower) :
    ∀ c ∈ key, c.isAlpha = true := by
  have hname : (field.name.toList.map Char.toLower).all Char.isLower = true := by
    cases field <;> decide
  intro c hc
  exact Text.letter_of_lower (List.all_eq_true.1 hname _ (hkey ▸ List.mem_map_of_mem hc))

/-- It counts as the name. -/
theorem key_lowercase (hkey : key.map Char.toLower = field.name.toList.map Char.toLower) :
    Text.lowercase key = Text.lowercase field.name.toList := by
  rw [Text.lowercase_letters (key_letters hkey), hkey, Text.lowercase_letters (key_letters rfl)]

/-- A number in the range of the field is read from its decimal text. -/
theorem readNumber_toString (h : field.Fits number) :
    readNumber? field (toString number).toList = some number := by
  cases field
  case maxPoolSize => exact Text.signed_toString h.1 h.2
  all_goals
    obtain ⟨n, rfl⟩ := Int.eq_ofNat_of_zero_le h.1
    show (Text.unsigned? UInt64.size (toString n).toList).map Int.ofNat = _
    rw [Text.unsigned_toString (Int.ofNat_lt.1 h.2)]
    rfl

/-- A segment that asks for a number in range gives it to the field. -/
theorem AsksFor.setting (h : AsksFor (field.name, Json.int number) segment)
    (hfits : field.Fits number) :
    Says segment (.setting field number) := by
  cases h with
  | @segment _ _ before key behind front back hkey hbefore hbehind hfront hback =>
      have hletters := key_letters hkey
      have hfirst : '=' ∉ before ++ key ++ behind := by
        simp only [List.mem_append, not_or]
        exact ⟨⟨fun hmem => absurd (hbefore _ hmem) (by decide),
          fun hmem => absurd (hletters _ hmem) (by decide)⟩,
          fun hmem => absurd (hbehind _ hmem) (by decide)⟩
      have hname : Text.trim (before ++ key ++ behind) = key :=
        Text.trim_padded hbefore (fun c hc => Text.letter_not_white (hletters c hc)) hbehind
      have hnumber : ∀ c ∈ (toString number).toList, Text.isWhiteSpace c = false := by
        intro c hc
        rcases Text.mem_int_toString hc with hdigit | rfl
        · exact Text.digit_not_white hdigit
        · decide
      refine .setting hfirst (by rw [hname, key_lowercase hkey]) ?_
      rw [Json.render_int, Text.trim_padded hfront hnumber hback, readNumber_toString hfits]

/-- A character of a segment is white space, a letter, a digit, an equals or a minus sign. -/
theorem AsksFor.not_mem (h : AsksFor (field.name, Json.int number) segment)
    (hwhite : Text.isWhiteSpace c = false) (hletter : c.isAlpha = false)
    (hdigit : Text.isDigit c = false)
    (hsigns : c ≠ '=' ∧ c ≠ '-') : c ∉ segment := by
  cases h with
  | segment hkey hbefore hbehind hfront hback =>
      have hblank : ∀ {cs}, Text.Blank cs → c ∉ cs := fun hcs hmem =>
        Bool.false_ne_true (hwhite.symm.trans (hcs c hmem))
      rw [Json.render_int]
      simp only [List.mem_append, List.mem_cons, not_or]
      refine ⟨⟨⟨hblank hbefore, fun hmem => ?_⟩, hblank hbehind⟩, hsigns.1,
        ⟨hblank hfront, fun hmem => ?_⟩, hblank hback⟩
      · exact Bool.false_ne_true (hletter.symm.trans (key_letters hkey c hmem))
      · rcases Text.mem_int_toString hmem with hnumber | hminus
        · exact Bool.false_ne_true (hdigit.symm.trans hnumber)
        · exact hsigns.2 hminus

/-- There is no separator in it. -/
theorem AsksFor.plain (h : AsksFor (field.name, Json.int number) segment) :
    ∀ c ∈ segment, isSegmentEnd c = false := by
  intro c hc
  refine Bool.eq_false_iff.2 fun hend => ?_
  rcases isSegmentEnd_iff.1 hend with rfl | rfl
  · exact h.not_mem (by decide) (by decide) (by decide) (by decide) hc
  · exact h.not_mem (by decide) (by decide) (by decide) (by decide) hc

/-- It does not start with a question mark. -/
theorem AsksFor.starts (h : AsksFor (field.name, Json.int number) segment) :
    (Text.trim segment).head? ≠ some '?' := fun hhead =>
  h.not_mem (by decide) (by decide) (by decide) (by decide)
    (Text.trim_subset _ (List.mem_of_head? hhead))

/-- The segments of joined segments are these segments. -/
theorem Joined.read (h : Joined segments text)
    (hplain : ∀ segment ∈ segments, ∀ c ∈ segment, isSegmentEnd c = false) (options : Options) :
    options.addAll (Text.pieces isSegmentEnd text) = options.addAll segments := by
  induction h generalizing options with
  | none => rfl
  | one segment => rw [Text.pieces_plain (hplain segment List.mem_cons_self)]
  | @more segment _ _ _ _ hsep _ ih =>
      rw [List.forall_mem_cons] at hplain
      rw [Text.pieces_append (isSegmentEnd_iff.2 hsep), Text.pieces_plain hplain.1,
        List.singleton_append, add_all_cons, add_all_cons]
      exact congrArg _ (funext fun base => ih hplain.2 base)

/-- Joined segments start with the first one. -/
theorem Joined.starts (h : Joined segments text)
    (hstart : ∀ segment ∈ segments, (Text.trim segment).head? ≠ some '?') :
    (Text.trim text).head? ≠ some '?' := by
  cases h with
  | none => decide
  | one => exact hstart _ List.mem_cons_self
  | more hsep =>
      exact starts_first (isSegmentEnd_iff.2 hsep) (hstart _ List.mem_cons_self) _

/-- Segments that give fields numbers set them one after the other. -/
theorem add_all_settings
    (h : List.Forall₂ (fun setting segment => Says segment (.setting setting.1 setting.2))
      order segments)
    (options : Options) : options.addAll segments = .ok (options.putAll order) := by
  induction h generalizing options with
  | nil => rfl
  | cons hsays _ ih =>
      rw [add_all_cons, add_meaning hsays]
      exact ih _

/-- Each segment that asks for a setting asks for the number of a field. -/
theorem asked_each (h : List.Forall₂ (fun setting => AsksFor (member setting)) order segments) :
    ∀ segment ∈ segments, ∃ (field : Field) (number : Int),
      AsksFor (field.name, Json.int number) segment := by
  induction h with
  | nil => exact List.forall_mem_nil _
  | @cons setting segment _ _ hasks _ ih =>
      exact List.forall_mem_cons.2 ⟨⟨setting.1, setting.2, hasks⟩, ih⟩

/-- Members of settings in another order are the members of the settings in this order. -/
theorem settings_perm {settings : List (Field × Int)} {members : List (String × Json)}
    (h : members.Perm (settings.map member)) :
    ∃ order : List (Field × Int), members = order.map member ∧ order.Perm settings := by
  have hcomp : Relation.Comp (fun members order => members = List.map member order) List.Perm
      members settings := by
    rw [List.eq_map_comp_perm]
    exact h
  exact hcomp

/-- A query that asks for what options are written as is read as these options. -/
theorem asked_read {query : String}
    (h : Asks (options.settings.map member) query) : ofQuery query = .ok options := by
  obtain ⟨members, segments, text, front, marks, hperm, hasks, hjoined, hfront, hquery⟩ := h
  obtain ⟨order, rfl, horder⟩ := settings_perm hperm
  rw [List.forall₂_map_left_iff] at hasks
  have hfits : ∀ setting ∈ order, setting.1.Fits setting.2 := fun setting hmem =>
    options.settings_fit setting (horder.mem_iff.1 hmem)
  have hsays : List.Forall₂ (fun setting segment => Says segment (.setting setting.1 setting.2))
      order segments :=
    ((List.forall₂_and_left order segments).2 ⟨hfits, hasks⟩).imp fun _ _ hboth =>
      hboth.2.setting hboth.1
  have hplain : ∀ segment ∈ segments, ∀ c ∈ segment, isSegmentEnd c = false := by
    intro segment hmem
    obtain ⟨field, number, hone⟩ := asked_each hasks segment hmem
    exact hone.plain
  have hstart : ∀ segment ∈ segments, (Text.trim segment).head? ≠ some '?' := by
    intro segment hmem
    obtain ⟨field, number, hone⟩ := asked_each hasks segment hmem
    exact hone.starts
  rw [ofQuery, hquery, of_query_marks hfront marks (hjoined.starts hstart), hjoined.read hplain,
    add_all_settings hsays, putAll_settings horder]

/-- The numbers at the ends of their ranges are read. -/
example :
    ofQuery " ??waitQueueSize = 18446744073709551615;MAXPOOLSIZE=-9223372036854775808\t" =
      .ok
        { maxPoolSize := some (-0x8000000000000000)
          waitQueueSize := some 0xffffffffffffffff } := by
  decide

/-- Both formats mean the same. Options are read back from the object that they are written as,
and from its text; and every query that asks for the members of this object is read as the same
options. -/
theorem wire_formats_agree (options : Options) :
    ofJson? options.toJson = some options ∧
    ofJsonText? options.toJson.render = some options ∧
    ∃ members, options.toJson = .object members ∧
      ∀ query, Asks members query → ofQuery query = .ok options := by
  refine ⟨ofJson_toJson options, ofJsonText_render options, _, toJson_settings options, ?_⟩
  intro query hasks
  exact asked_read hasks

end ConnectionPool.Options
