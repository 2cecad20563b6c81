import ConnectionPool.Json.Printer
import ConnectionPool.Json.Reader
import ConnectionPool.Proofs.Text
import Mathlib.Data.List.TakeWhile

/-!
# Reading back objects of whole numbers

An object whose members are whole numbers is read from its own text: first its structure, with
names as marks and numbers as digits, and then the values.
-/

namespace ConnectionPool.Json

variable {value : Int} {n : Nat} {c : Char} {cs rest : List Char}

/-- The digits of a whole number as they are written. -/
def numeralOf : Int → Numeral
  | .ofNat n => ⟨false, (toString n).toList, [], none⟩
  | .negSucc n => ⟨true, (toString (n + 1)).toList, [], none⟩

/-- A whole number is written in decimal. -/
theorem render_int (value : Int) : (Json.int value).render = toString value := by
  simp only [Json.int, render, renderNumber]

/-- A number of 64 bits, signed or unsigned, is what its digits stand for. -/
theorem numeralOf_number (hlow : -0x8000000000000000 ≤ value) (hhigh : value < UInt64.size) :
    (numeralOf value).number? = some (.integer value) := by
  cases value with
  | ofNat n =>
      have hbound : n < UInt64.size := Int.ofNat_lt.1 hhigh
      simp only [numeralOf, Numeral.number?, (Text.digits_toString n).value]
      simp [hbound]
  | negSucc n =>
      have hbound : n + 1 ≤ 0x8000000000000000 := by omega
      have hvalue : -((n + 1 : Nat) : Int) = Int.negSucc n := rfl
      simp only [numeralOf, Numeral.number?, (Text.digits_toString (n + 1)).value, hvalue]
      simp [hbound]

/-- The digits of a number are read up to what is no digit. -/
theorem digits_read (hrest : ∀ c ∈ rest.head?, Text.isDigit c = false) (n : Nat) :
    Reader.digits? ((toString n).toList ++ rest) = some ((toString n).toList, rest) := by
  have hdigits := Text.digits_toString n
  generalize (toString n).toList = digits at hdigits
  have htake : (digits ++ rest).takeWhile Text.isDigit = digits := by
    rw [List.takeWhile_append_of_pos hdigits.all]
    cases rest with
    | nil => simp
    | cons c rest => simp [hrest c rfl]
  have hdrop : (digits ++ rest).dropWhile Text.isDigit = rest := by
    rw [Text.dropWhile_stop hrest, List.dropWhile_eq_nil_iff.2 hdigits.all, List.nil_append]
  rw [Reader.digits?, htake, hdrop]
  split
  · exact absurd rfl hdigits.some
  · rfl

/-- The digits of a positive number do not start with a zero. -/
theorem no_leading_zero (hpos : 0 < n) : (toString n).toList.head? ≠ some '0' := by
  rw [Text.toString_toList]
  induction n using Nat.strongRecOn with
  | ind n ih =>
      by_cases hsmall : n < 10
      · have hdigit : ∀ m < 10, 0 < m → Nat.digitChar m ≠ '0' := by decide
        rw [Nat.toDigits_of_lt_base hsmall]
        exact fun hzero => hdigit n hsmall hpos (Option.some.inj hzero)
      · rw [Nat.toDigits_of_base_le (by decide) (by omega),
          List.head?_append_of_ne_nil _ Nat.toDigits_ne_nil]
        exact ih (n / 10) (by omega) (by omega)

/-- A leading zero stands alone. -/
theorem leading_zero_alone (n : Nat) :
    ¬((toString n).toList.head? = some '0' ∧ (toString n).toList.length ≠ 1) := by
  rintro ⟨hzero, hlength⟩
  rcases Nat.eq_zero_or_pos n with rfl | hpos
  · exact hlength rfl
  · exact no_leading_zero hpos hzero

/-- A whole number is read up to the separator or the end of an object. -/
theorem numeral_read (hend : c = ',' ∨ c = '}') (value : Int) (rest : List Char) :
    Reader.numeral? ((toString value).toList ++ c :: rest) =
      some (numeralOf value, c :: rest) := by
  have hplain : ∀ c' ∈ (c :: rest).head?, Text.isDigit c' = false := by
    rintro c' ⟨⟩
    rcases hend with rfl | rfl <;> decide
  have hdigits := fun n => digits_read hplain n
  have hexponent : Reader.exponent? (c :: rest) = some (none, c :: rest) := by
    rcases hend with rfl | rfl <;> rfl
  cases value with
  | ofNat n =>
      show Reader.numeral? ((toString n).toList ++ c :: rest) = _
      have hsign : ∀ more, (toString n).toList ++ c :: rest ≠ '-' :: more := by
        intro more heq
        obtain ⟨digit, digits, hcons⟩ := List.exists_cons_of_ne_nil (Text.digits_toString n).some
        rw [hcons] at heq
        cases heq
        exact absurd ((Text.digits_toString n).all '-' (hcons ▸ List.mem_cons_self)) (by decide)
      unfold Reader.numeral?
      split
      next negative after hsplit =>
        split at hsplit
        · next heq => exact absurd heq (hsign _)
        · cases hsplit
          simp only [bind, Option.bind, hdigits, if_neg (leading_zero_alone n)]
          rcases hend with rfl | rfl
          all_goals
            simp only [hexponent]
            rfl
  | negSucc n =>
      rw [Text.neg_toString_toList]
      unfold Reader.numeral?
      simp only [List.cons_append, bind, Option.bind, hdigits,
        if_neg (leading_zero_alone (n + 1))]
      rcases hend with rfl | rfl
      all_goals
        simp only [hexponent]
        rfl

/-- A whole number is a value of an object. -/
theorem value_read (hend : c = ',' ∨ c = '}') (fuel : Nat) (value : Int) (rest : List Char) :
    Reader.value? (fuel + 1) ((toString value).toList ++ c :: rest) =
      some (.number (numeralOf value), c :: rest) := by
  have hread := numeral_read hend value rest
  obtain ⟨first, more, hcons⟩ : ∃ first more, (toString value).toList = first :: more := by
    cases value with
    | ofNat n => exact List.exists_cons_of_ne_nil (Text.digits_toString n).some
    | negSucc n => exact ⟨'-', _, Text.neg_toString_toList n⟩
  have hfirst : Text.isDigit first = true ∨ first = '-' :=
    Text.mem_int_toString (hcons ▸ List.mem_cons_self)
  have hother : ∀ other, Text.isDigit other = false → other ≠ '-' → first ≠ other := by
    rintro other hdigit hminus rfl
    rcases hfirst with hfirst | hfirst
    · exact Bool.false_ne_true (hdigit.symm.trans hfirst)
    · exact hminus hfirst
  rw [hcons, List.cons_append] at hread ⊢
  have hskip : Reader.skipBlanks (first :: (more ++ c :: rest)) =
      first :: (more ++ c :: rest) := by
    have hblank : first ≠ ' ' ∧ first ≠ '\n' ∧ first ≠ '\t' ∧ first ≠ '\r' :=
      ⟨hother _ (by decide) (by decide), hother _ (by decide) (by decide),
        hother _ (by decide) (by decide), hother _ (by decide) (by decide)⟩
    exact List.dropWhile_cons_of_neg (by simpa [and_assoc] using hblank)
  unfold Reader.value?
  rw [hskip]
  split
  case h_7 =>
    rw [hread]
    rfl
  all_goals
    next heq => exact absurd (List.cons.inj heq).1 (hother _ (by decide) (by decide))

/-- The characters stand for themselves inside a JSON string. -/
def Plain (cs : List Char) : Prop :=
  ∀ c ∈ cs, c ≠ '"' ∧ c ≠ '\\' ∧ 0x20 ≤ c.toNat

/-- A plain name is written between quotes. -/
theorem renderString_toList {name : String} (hplain : Plain name.toList) :
    (renderString name).toList = '"' :: (name.toList ++ ['"']) := by
  have hescape : ∀ (cs : List Char) (text : String), Plain cs →
      (cs.foldl (fun text c => text ++ escape c) text).toList = text.toList ++ cs := by
    intro cs
    induction cs with
    | nil => simp
    | cons c cs ih =>
        intro text hplain
        unfold Plain at hplain
        rw [List.forall_mem_cons] at hplain
        obtain ⟨⟨hquote, hslash, hcontrol⟩, hplain⟩ := hplain
        have hself : escape c = c.toString := by
          rw [escape, if_neg hquote, if_neg hslash, if_neg (Nat.not_lt.2 hcontrol)]
        rw [List.foldl_cons, ih _ hplain, hself]
        simp
  rw [renderString, String.toList_append, String.foldl_eq_foldl_toList, hescape _ _ hplain]
  rfl

/-- A plain name is read up to its closing quote. -/
theorem marks_read (hplain : Plain cs) (rest : List Char) :
    Reader.marks? (cs ++ '"' :: rest) = some (cs.map .char, rest) := by
  induction cs with
  | nil => rfl
  | cons c cs ih =>
      unfold Plain at hplain
      rw [List.forall_mem_cons] at hplain
      obtain ⟨⟨hquote, hslash, hcontrol⟩, hplain⟩ := hplain
      rw [List.cons_append]
      unfold Reader.marks?
      split
      · next heq => cases heq
      · next heq => exact absurd (List.cons.inj heq).1 hquote
      · next heq => exact absurd (List.cons.inj heq).1 hslash
      · next heq => exact absurd (List.cons.inj heq).1 hslash
      · next heq =>
          cases heq
          rw [if_neg (by simp [hslash, hcontrol]), ih hplain]
          rfl

/-- Characters that stand for themselves are the marks of their string. -/
theorem string_of_chars (name : String) :
    stringOfMarks? (name.toList.map .char) = some name := by
  have htext : ∀ cs : List Char, textOfMarks? (cs.map .char) = some cs := by
    intro cs
    induction cs with
    | nil => rfl
    | cons c cs ih => rw [List.map_cons, textOfMarks?, ih]; rfl
  rw [stringOfMarks?, htext, Option.map_some, String.ofList_toList]

/-! ## Objects -/

/-- The members of an object of whole numbers. -/
def intMembers (entries : List (String × Int)) : List (String × Json) :=
  entries.map fun entry => (entry.1, Json.int entry.2)

/-- How they are written. -/
def writtenMembers (entries : List (String × Int)) : List (List Mark × Written) :=
  entries.map fun entry => (entry.1.toList.map .char, .number (numeralOf entry.2))

/-- A member is read up to what stands behind its number. -/
theorem member_read {name : List Char} (hplain : Plain name)
    (hend : c = ',' ∨ c = '}') (fuel : Nat)
    (value : Int) (rest : List Char) :
    Reader.members? (fuel + 2) ('"' :: (name ++ '"' :: ':' ::
      ((toString value).toList ++ c :: rest))) =
      if c = '}' then some ([(name.map .char, .number (numeralOf value))], rest)
      else (Reader.members? (fuel + 1) rest).map fun (members, rest) =>
        ((name.map .char, .number (numeralOf value)) :: members, rest) := by
  have hblanks : ∀ first, first = '"' ∨ first = ':' ∨ first = ',' ∨ first = '}' → ∀ more,
      Reader.skipBlanks (first :: more) = first :: more := by
    rintro first (rfl | rfl | rfl | rfl) more <;> rfl
  rw [Reader.members?, hblanks '"' (by simp)]
  simp only [marks_read hplain, hblanks ':' (by simp), value_read hend, bind, Option.bind]
  rcases hend with rfl | rfl
  · simp only [hblanks ',' (by simp)]
    cases Reader.members? (fuel + 1) rest <;> rfl
  · rfl

/-- The text of a member. -/
theorem member_toList {name : String} (hplain : Plain name.toList) (value : Int) :
    (renderString name ++ ":" ++ (Json.int value).render).toList =
      '"' :: (name.toList ++ '"' :: ':' :: (toString value).toList) := by
  rw [String.toList_append, String.toList_append, renderString_toList hplain, render_int]
  simp

/-- The text of one member alone. -/
theorem members_one {name : String} (hplain : Plain name.toList) (value : Int) :
    (renderMembers (intMembers [(name, value)])).toList =
      '"' :: (name.toList ++ '"' :: ':' :: (toString value).toList) :=
  member_toList hplain value

/-- The text of a member and of others behind it. -/
theorem members_more {name : String} (hplain : Plain name.toList) (value : Int)
    {entries : List (String × Int)} (hsome : entries ≠ []) :
    (renderMembers (intMembers ((name, value) :: entries))).toList =
      '"' :: (name.toList ++ '"' :: ':' ::
        ((toString value).toList ++ ',' :: (renderMembers (intMembers entries)).toList)) := by
  obtain ⟨next, entries, rfl⟩ := List.exists_cons_of_ne_nil hsome
  have hcomma : ",".toList = [','] := rfl
  show (renderString name ++ ":" ++ (Json.int value).render ++ "," ++
    renderMembers (intMembers (next :: entries))).toList = _
  rw [String.toList_append, String.toList_append, member_toList hplain, hcomma]
  simp only [List.cons_append, List.append_assoc, List.nil_append]

variable {entries : List (String × Int)}

/-- The members of an object are read up to its end. -/
theorem members_read (hplain : ∀ entry ∈ entries, Plain entry.1.toList)
    (hsome : entries ≠ []) {fuel : Nat}
    (hfuel : entries.length < fuel) (rest : List Char) :
    Reader.members? fuel ((renderMembers (intMembers entries)).toList ++ '}' :: rest) =
      some (writtenMembers entries, rest) := by
  induction entries generalizing fuel with
  | nil => exact absurd rfl hsome
  | cons entry entries ih =>
      obtain ⟨name, value⟩ := entry
      rw [List.forall_mem_cons] at hplain
      rw [List.length_cons] at hfuel
      obtain ⟨fuel, rfl⟩ : ∃ less, fuel = less + 2 := ⟨fuel - 2, by omega⟩
      by_cases hmore : entries = []
      · subst hmore
        rw [members_one hplain.1]
        simp only [List.cons_append, List.append_assoc]
        rw [member_read hplain.1 (.inr rfl), if_pos rfl]
        rfl
      · rw [members_more hplain.1 value hmore]
        simp only [List.cons_append, List.append_assoc]
        rw [member_read hplain.1 (.inl rfl), if_neg (by decide), ih hplain.2 hmore (by omega)]
        rfl

/-- Members start with a quote, and there are not more of them than characters. -/
theorem members_start (hplain : ∀ entry ∈ entries, Plain entry.1.toList) (hsome : entries ≠ []) :
    ∃ text, (renderMembers (intMembers entries)).toList = '"' :: text ∧
      entries.length ≤ text.length := by
  induction entries with
  | nil => exact absurd rfl hsome
  | cons entry entries ih =>
      obtain ⟨name, value⟩ := entry
      rw [List.forall_mem_cons] at hplain
      by_cases hmore : entries = []
      · subst hmore
        refine ⟨_, members_one hplain.1 value, ?_⟩
        simp only [List.length_append, List.length_cons, List.length_nil]
        omega
      · obtain ⟨text, htext, hlength⟩ := ih hplain.2 hmore
        refine ⟨_, members_more hplain.1 value hmore, ?_⟩
        rw [htext]
        simp only [List.length_append, List.length_cons]
        omega

/-- The structure of an object of whole numbers under plain names is read from its text. -/
theorem object_read (hplain : ∀ entry ∈ entries, Plain entry.1.toList) :
    Reader.written? (Json.object (intMembers entries)).render =
      some (.object (writtenMembers entries)) := by
  by_cases hsome : entries = []
  · subst hsome
    rfl
  obtain ⟨text, htext, hlength⟩ := members_start hplain hsome
  have hbraces : "\x7b".toList = ['\x7b'] ∧ "\x7d".toList = ['\x7d'] := ⟨rfl, rfl⟩
  have hrender : (Json.object (intMembers entries)).render.toList =
      '\x7b' :: '"' :: (text ++ ['\x7d']) := by
    rw [render, String.toList_append, String.toList_append, htext, hbraces.1, hbraces.2]
    rfl
  generalize hfuel : 2 * ('\x7b' :: '"' :: (text ++ ['\x7d'])).length + 1 = fuel
  have hread : Reader.members? fuel ('"' :: (text ++ ['\x7d'])) =
      some (writtenMembers entries, []) := by
    have henough : entries.length < fuel := by
      simp only [List.length_cons, List.length_append] at hfuel
      omega
    have hmembers := members_read hplain hsome henough []
    rwa [htext] at hmembers
  have hvalue : Reader.value? (fuel + 1) ('\x7b' :: '"' :: (text ++ ['\x7d'])) =
      some (.object (writtenMembers entries), []) := by
    have hblanks : ∀ first, first = '\x7b' ∨ first = '"' → ∀ more,
        Reader.skipBlanks (first :: more) = first :: more := by
      rintro first (rfl | rfl) more <;> rfl
    rw [Reader.value?, hblanks _ (.inl rfl)]
    simp only [hblanks _ (.inr rfl), hread, Option.map_some]
    rfl
  rw [Reader.written?, hrender]
  simp only [bind, Option.bind]
  rw [← hfuel] at hvalue
  rw [hvalue]
  rfl

end ConnectionPool.Json
