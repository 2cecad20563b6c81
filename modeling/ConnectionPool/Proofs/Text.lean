import ConnectionPool.Text.LetterCase
import ConnectionPool.Text.Numeral
import ConnectionPool.Text.Split
import ConnectionPool.Text.WhiteSpace
import Mathlib.Data.List.Basic
import Mathlib.Data.List.TakeWhile

/-!
# Cutting, trimming and reading numerals

Where a text is cut, what trimming leaves of it, and which numerals are read as a number, the
decimal digits of the number among them. A cut is told by an equation: the piece before, the
separator and the piece after are the text, and the separator is not in the piece before the
first one, or after the last one. Where a text is cut at every separator, white space around the
text is white space around its pieces.
-/

namespace ConnectionPool.Text

variable {sep c last : Char} {cs pre post : List Char} {n bound : Nat}

/-! ## Cuts -/

/-- A text without the separator is not cut at a first one. -/
theorem split_first_none (hcs : sep ∉ cs) : splitFirst sep cs = none := by
  induction cs with
  | nil => rfl
  | cons c cs ih =>
      rw [List.mem_cons, not_or] at hcs
      rw [splitFirst, if_neg (Ne.symm hcs.1), ih hcs.2]
      rfl

/-- A text is cut at the first separator. -/
theorem split_first_append (hpre : sep ∉ pre) :
    splitFirst sep (pre ++ sep :: post) = some (pre, post) := by
  induction pre with
  | nil => exact if_pos rfl
  | cons c pre ih =>
      rw [List.mem_cons, not_or] at hpre
      rw [List.cons_append, splitFirst, if_neg (Ne.symm hpre.1), ih hpre.2]
      rfl

/-- The cut at the first separator leaves none before it. -/
theorem split_first_some (hcut : splitFirst sep cs = some (pre, post)) :
    cs = pre ++ sep :: post ∧ sep ∉ pre := by
  by_cases hmem : sep ∈ cs
  · obtain ⟨before, after, rfl, hbefore⟩ := List.eq_append_cons_of_mem hmem
    rw [split_first_append hbefore] at hcut
    cases hcut
    exact ⟨rfl, hbefore⟩
  · rw [split_first_none hmem] at hcut
    cases hcut

/-- A text without the separator is not cut at a last one. -/
theorem split_last_none (hcs : sep ∉ cs) : splitLast sep cs = none := by
  induction cs with
  | nil => rfl
  | cons c cs ih =>
      rw [List.mem_cons, not_or] at hcs
      rw [splitLast, ih hcs.2]
      exact if_neg (Ne.symm hcs.1)

/-- A text is cut at the last separator. -/
theorem split_last_append (hpost : sep ∉ post) :
    splitLast sep (pre ++ sep :: post) = some (pre, post) := by
  induction pre with
  | nil =>
      rw [List.nil_append, splitLast, split_last_none hpost]
      exact if_pos rfl
  | cons c pre ih => rw [List.cons_append, splitLast, ih]

/-- A separator that stands in a text stands there a last time. -/
theorem exists_last (hmem : sep ∈ cs) : ∃ pre post, cs = pre ++ sep :: post ∧ sep ∉ post := by
  obtain ⟨after, before, hreverse, hafter⟩ := List.eq_append_cons_of_mem (List.mem_reverse.2 hmem)
  refine ⟨before.reverse, after.reverse, ?_, fun hin => hafter (List.mem_reverse.1 hin)⟩
  rw [← List.reverse_reverse cs, hreverse]
  simp

/-- Only a text without the separator is not cut at a last one. -/
theorem split_last_none_iff : splitLast sep cs = none ↔ sep ∉ cs := by
  refine ⟨fun hnone hmem => ?_, split_last_none⟩
  obtain ⟨pre, post, rfl, hpost⟩ := exists_last hmem
  rw [split_last_append hpost] at hnone
  cases hnone

/-- The cut at the last separator leaves none after it. -/
theorem split_last_some (hcut : splitLast sep cs = some (pre, post)) :
    cs = pre ++ sep :: post ∧ sep ∉ post := by
  by_cases hmem : sep ∈ cs
  · obtain ⟨before, after, rfl, hafter⟩ := exists_last hmem
    rw [split_last_append hafter] at hcut
    cases hcut
    exact ⟨rfl, hafter⟩
  · rw [split_last_none hmem] at hcut
    cases hcut

/-! ## Trimming -/

/-- A text that neither starts nor ends with white space is left by trimming. -/
theorem trim_eq_self (hstart : isWhiteSpace c = false) (hend : isWhiteSpace last = false) :
    trim (c :: (cs ++ [last])) = c :: (cs ++ [last]) := by
  have hstarts : trimStart (c :: (cs ++ [last])) = c :: (cs ++ [last]) :=
    List.dropWhile_cons_of_neg (by simp [hstart])
  rw [trim, hstarts, trimEnd, ← List.cons_append, List.reverse_append, List.reverse_singleton,
    List.singleton_append, List.dropWhile_cons_of_neg (by simp [hend])]
  simp

/-- Trimming the end leaves a start of the text. -/
theorem trim_end_starts (cs : List Char) : trimEnd cs <+: cs := by
  rw [← List.reverse_suffix, trimEnd, List.reverse_reverse]
  exact List.dropWhile_suffix _

/-- What trimming leaves is part of the text. -/
theorem trim_subset (cs : List Char) : trim cs ⊆ cs := fun _ hmem =>
  (List.dropWhile_suffix _).subset ((trim_end_starts _).subset hmem)

/-- What trimming leaves does not start with white space. -/
theorem trim_head (htrim : trim cs = c :: post) : isWhiteSpace c = false := by
  obtain ⟨rest, hstart⟩ := trim_end_starts (trimStart cs)
  rw [← trim, htrim, List.cons_append] at hstart
  have hhead := List.head?_dropWhile_not isWhiteSpace cs
  rwa [← trimStart, ← hstart] at hhead

/-- Characters are dropped from the start of a text up to one that is not of their kind. -/
theorem dropWhile_stop {p : Char → Bool} (hpost : ∀ c ∈ post.head?, p c = false)
    (pre : List Char) :
    (pre ++ post).dropWhile p = pre.dropWhile p ++ post := by
  rw [List.dropWhile_append]
  split
  · next hempty =>
      rw [List.isEmpty_iff.1 hempty, List.nil_append]
      cases post with
      | nil => rfl
      | cons c post => exact List.dropWhile_cons_of_neg (by simp [hpost c rfl])
  · rfl

/-- Trimming a text with a character in it that is no white space trims the start before that
character, and the end after it. -/
theorem trim_around (hsep : isWhiteSpace sep = false) (pre post : List Char) :
    trim (pre ++ sep :: post) = trimStart pre ++ sep :: trimEnd post := by
  have hstop : ∀ rest, ∀ c ∈ (sep :: rest).head?, isWhiteSpace c = false := by
    rintro rest c ⟨⟩
    exact hsep
  rw [trim, trimStart, dropWhile_stop (hstop post), trimEnd, List.reverse_append,
    List.reverse_cons,
    List.append_assoc, List.singleton_append, dropWhile_stop (hstop _), trimEnd, trimStart]
  simp

/-- The text is white space. -/
def Blank (cs : List Char) : Prop :=
  ∀ c ∈ cs, isWhiteSpace c = true

/-- White space in front of a text is trimmed. -/
theorem trim_start_blank (hpre : Blank pre) (cs : List Char) :
    trimStart (pre ++ cs) = trimStart cs :=
  List.dropWhile_append_of_pos hpre

/-- White space behind a text is trimmed. -/
theorem trim_end_blank (hpost : Blank post) (cs : List Char) :
    trimEnd (cs ++ post) = trimEnd cs := by
  rw [trimEnd, List.reverse_append,
    List.dropWhile_append_of_pos fun c hc => hpost c (List.mem_reverse.1 hc), trimEnd]

/-- Nothing is left of white space. -/
theorem trim_eq_nil : trim cs = [] ↔ Blank cs := by
  constructor
  · intro htrim c hmem
    by_contra hplain
    obtain ⟨pre, post, rfl⟩ := List.append_of_mem hmem
    rw [trim_around (Bool.eq_false_iff.2 hplain)] at htrim
    exact absurd htrim (List.append_ne_nil_of_right_ne_nil _ (List.cons_ne_nil _ _))
  · intro hblank
    have hstart : trimStart cs = [] := List.dropWhile_eq_nil_iff.2 hblank
    rw [trim, hstart, trimEnd_nil]

/-- White space in front of a text does not count. -/
theorem trim_blank_start (hpre : Blank pre) (cs : List Char) : trim (pre ++ cs) = trim cs := by
  rw [trim, trim_start_blank hpre, trim]

/-- White space behind a text does not count. -/
theorem trim_blank_end (hpost : Blank post) (cs : List Char) : trim (cs ++ post) = trim cs := by
  by_cases hblank : Blank cs
  · have hall : Blank (cs ++ post) := List.forall_mem_append.2 ⟨hblank, hpost⟩
    rw [trim_eq_nil.2 hall, trim_eq_nil.2 hblank]
  · obtain ⟨c, hmem, hplain⟩ : ∃ c ∈ cs, isWhiteSpace c = false := by
      simpa [Blank] using hblank
    obtain ⟨before, after, rfl⟩ := List.append_of_mem hmem
    rw [List.append_assoc, List.cons_append, trim_around hplain, trim_around hplain,
      trim_end_blank hpost]

/-- A text is white space and what trimming its start leaves. -/
theorem trim_start_split (cs : List Char) : ∃ pre, Blank pre ∧ pre ++ trimStart cs = cs :=
  ⟨cs.takeWhile isWhiteSpace, fun _ => List.mem_takeWhile_imp, List.takeWhile_append_dropWhile⟩

/-- A text is what trimming its end leaves and white space. -/
theorem trim_end_split (cs : List Char) : ∃ post, Blank post ∧ trimEnd cs ++ post = cs := by
  obtain ⟨pre, hpre, hsplit⟩ := trim_start_split cs.reverse
  refine ⟨pre.reverse, fun c hc => hpre c (List.mem_reverse.1 hc), ?_⟩
  rw [trimEnd, ← List.reverse_append, ← trimStart, hsplit, List.reverse_reverse]

/-- Trimming the start first changes nothing. -/
theorem trim_trim_start (cs : List Char) : trim (trimStart cs) = trim cs := by
  obtain ⟨pre, hpre, hsplit⟩ := trim_start_split cs
  rw [← trim_blank_start hpre, hsplit]

/-- Trimming the end first changes nothing. -/
theorem trim_trim_end (cs : List Char) : trim (trimEnd cs) = trim cs := by
  obtain ⟨post, hpost, hsplit⟩ := trim_end_split cs
  rw [← trim_blank_end hpost, hsplit]

/-- Trimming the end leaves the first character, if there is one. -/
theorem trim_head? (cs : List Char) : (trim cs).head? = (trimStart cs).head? := by
  obtain ⟨post, hpost, hsplit⟩ := trim_end_split (trimStart cs)
  rw [← trim] at hsplit
  by_cases hnil : trim cs = []
  · have hstart : trimStart cs = [] := List.dropWhile_eq_nil_iff.2 (trim_eq_nil.1 hnil)
    rw [hnil, hstart]
  · rw [← hsplit, List.head?_append_of_ne_nil _ hnil]

/-- Trimming again changes nothing. -/
theorem trim_trim (cs : List Char) : trim (trim cs) = trim cs :=
  (trim_trim_end _).trans (trim_trim_start cs)

/-- A text without white space is left by trimming. -/
theorem trim_end_plain (hplain : ∀ c ∈ cs, isWhiteSpace c = false) : trimEnd cs = cs := by
  rw [trimEnd, List.dropWhile_eq_self_iff.2, List.reverse_reverse]
  intro hlen
  rw [hplain _ (List.mem_reverse.1 (List.getElem_mem hlen))]
  exact Bool.false_ne_true

/-- And so it is by trimming both ends. -/
theorem trim_plain (hplain : ∀ c ∈ cs, isWhiteSpace c = false) : trim cs = cs := by
  cases cs with
  | nil => rfl
  | cons c cs => rw [← List.nil_append (c :: cs), trim_around (hplain c List.mem_cons_self),
      trim_end_plain fun c hc => hplain c (List.mem_cons_of_mem _ hc), trimStart_nil]

/-- White space around what has none inside is trimmed. -/
theorem trim_padded (hpre : Blank pre) (hplain : ∀ c ∈ cs, isWhiteSpace c = false)
    (hpost : Blank post) :
    trim (pre ++ cs ++ post) = cs := by
  rw [trim_blank_end hpost, trim_blank_start hpre, trim_plain hplain]

/-! ## Numerals -/

/-- The digits, with leading zeros or without, stand for the number. -/
structure Digits (cs : List Char) (n : Nat) : Prop where
  some : cs ≠ []
  all : ∀ c ∈ cs, isDigit c = true
  value : Nat.ofDigitChars 10 cs 0 = n

/-- Digits, with a plus sign in front of them or without, stand for the number. -/
inductive Decimal : List Char → Nat → Prop where
  | plain {cs : List Char} {n : Nat} (digits : Digits cs n) : Decimal cs n
  | plus {cs : List Char} {n : Nat} (digits : Digits cs n) : Decimal ('+' :: cs) n

/-- One or more digits have a value. -/
theorem natural_some : natural? cs = some n ↔ Digits cs n := by
  unfold natural?
  split
  · next h =>
      rw [Option.some_inj]
      exact ⟨fun hn => ⟨h.1, fun c hc => List.all_eq_true.1 h.2 c hc, hn⟩, Digits.value⟩
  · next h =>
      refine ⟨nofun, fun hdigits => ?_⟩
      exact absurd ⟨hdigits.some, List.all_eq_true.2 hdigits.all⟩ h

/-- Behind a plus sign stand the digits. -/
theorem decimal_plus : Decimal ('+' :: cs) n ↔ Digits cs n := by
  refine ⟨fun h => ?_, .plus⟩
  cases h with
  | plain digits => exact absurd (digits.all '+' List.mem_cons_self) (by decide)
  | plus digits => exact digits

/-- Without a plus sign there are only digits. -/
theorem decimal_plain (hplain : ∀ rest, cs ≠ '+' :: rest) : Decimal cs n ↔ Digits cs n := by
  refine ⟨fun h => ?_, .plain⟩
  cases h with
  | plain digits => exact digits
  | plus digits => exact absurd rfl (hplain _)

/-- A numeral is read if its number is below the bound. -/
theorem unsigned_some : unsigned? bound cs = some n ↔ Decimal cs n ∧ n < bound := by
  unfold unsigned?
  simp only [Option.filter_eq_some_iff, decide_eq_true_eq, natural_some]
  split
  · rw [decimal_plus]
  · next hplain => rw [decimal_plain fun rest => hplain rest]

/-- A character that is neither a digit nor a plus sign is not in a numeral. -/
theorem Decimal.not_mem (h : Decimal cs n) (hdigit : isDigit c = false)
    (hplus : c ≠ '+') : c ∉ cs := by
  have hnot : ∀ {cs}, Digits cs n → c ∉ cs := fun digits hmem =>
    Bool.false_ne_true (hdigit.symm.trans (digits.all c hmem))
  cases h with
  | plain digits => exact hnot digits
  | plus digits => exact List.not_mem_cons_of_ne_of_not_mem hplus (hnot digits)

/-- A signed numeral is read if its number is within the bound. -/
theorem signed_some {value : Int} :
    signed? bound cs = some value ↔
      (∃ rest n, cs = '-' :: rest ∧ Digits rest n ∧ n ≤ bound ∧ value = -n) ∨
        ∃ n : Nat, Decimal cs n ∧ n < bound ∧ value = n := by
  have hread : ∀ (f : Int → Int) (p : Nat → Bool) (digits : List Char),
      (do let n ← (natural? digits).filter p; pure (n : Int)).map f = some value ↔
        ∃ n : Nat, Digits digits n ∧ p n = true ∧ value = f n := by
    intro f p digits
    simp only [Option.map_eq_some_iff, Option.bind_eq_bind, Option.bind_eq_some_iff,
      Option.pure_def, Option.filter_eq_some_iff, natural_some, Option.some.injEq]
    constructor
    · rintro ⟨_, ⟨n, ⟨hdigits, hn⟩, rfl⟩, rfl⟩
      exact ⟨n, hdigits, hn, rfl⟩
    · rintro ⟨n, hdigits, hn, rfl⟩
      exact ⟨_, ⟨n, ⟨hdigits, hn⟩, rfl⟩, rfl⟩
  unfold signed?
  split
  · next rest =>
      have hminus : ¬∃ n : Nat, Decimal ('-' :: rest) n ∧ n < bound ∧ value = n :=
        fun ⟨_, h, _⟩ =>
        h.not_mem (by decide) (by decide) List.mem_cons_self
      rw [hread, or_iff_left hminus]
      simp
  · next rest =>
      rw [hread, or_iff_right (by simp)]
      simp only [decimal_plus, decide_eq_true_eq]
  · next hminus hplus =>
      rw [hread, or_iff_right fun ⟨rest, _, heq, _⟩ => hminus rest heq]
      simp only [decimal_plain fun rest => hplus rest, decide_eq_true_eq]

/-- The text of a number is its decimal digits. -/
theorem toString_toList (n : Nat) : (toString n).toList = Nat.toDigits 10 n :=
  String.toList_ofList

/-- The decimal digits of a number are digits. -/
theorem isDigit_of_mem_toString (hmem : c ∈ (toString n).toList) : isDigit c = true := by
  rw [toString_toList] at hmem
  exact Nat.isDigit_of_mem_toDigits (by decide) (by decide) hmem

/-- A digit is no white space. -/
theorem digit_not_white (hdigit : isDigit c = true) : isWhiteSpace c = false := by
  obtain ⟨hlow, hhigh⟩ := Char.isDigit_iff_toNat.1 hdigit
  have hzero : '0'.toNat = 48 := rfl
  have hnine : '9'.toNat = 57 := rfl
  unfold isWhiteSpace
  simp only [Bool.or_eq_false_iff, Bool.and_eq_false_iff, decide_eq_false_iff_not,
    beq_eq_false_iff_ne]
  omega

/-- A text that does not start with white space and ends with a number is left by trimming. -/
theorem trim_numeral (hstart : isWhiteSpace c = false) (cs : List Char) (n : Nat) :
    trim (c :: (cs ++ (toString n).toList)) = c :: (cs ++ (toString n).toList) := by
  have hsome : (toString n).toList ≠ [] := toString_toList n ▸ Nat.toDigits_ne_nil
  have hlast : isWhiteSpace ((toString n).toList.getLast hsome) = false :=
    digit_not_white (isDigit_of_mem_toString (List.getLast_mem hsome))
  rw [← List.dropLast_concat_getLast hsome, ← List.append_assoc]
  exact trim_eq_self hstart hlast

/-- The decimal digits of a number are its numeral. -/
theorem digits_toString (n : Nat) : Digits (toString n).toList n := by
  refine ⟨toString_toList n ▸ Nat.toDigits_ne_nil, fun _ => isDigit_of_mem_toString, ?_⟩
  rw [toString_toList, Nat.ofDigitChars_toDigits (by decide) (by decide)]

/-- A number below the bound is read from its decimal digits. -/
theorem unsigned_toString (hbound : n < bound) : unsigned? bound (toString n).toList = some n :=
  unsigned_some.2 ⟨.plain (digits_toString n), hbound⟩

/-- The text of a negative number is a minus sign and the digits of its opposite. -/
theorem neg_toString_toList (n : Nat) :
    (toString (Int.negSucc n)).toList = '-' :: (toString (n + 1)).toList := by
  show ("-" ++ toString (n + 1)).toList = _
  simp

/-- A number is written with digits and perhaps a minus sign. -/
theorem mem_int_toString {value : Int} (hmem : c ∈ (toString value).toList) :
    isDigit c = true ∨ c = '-' := by
  cases value with
  | ofNat n => exact .inl (isDigit_of_mem_toString hmem)
  | negSucc n =>
      rw [neg_toString_toList, List.mem_cons] at hmem
      exact hmem.symm.imp_left isDigit_of_mem_toString

/-- A number within the bound is read from its decimal text. -/
theorem signed_toString {value : Int} (hlow : -(bound : Int) ≤ value) (hhigh : value < bound) :
    signed? bound (toString value).toList = some value := by
  rw [signed_some]
  cases value with
  | ofNat n => exact .inr ⟨n, .plain (digits_toString n), Int.ofNat_lt.1 hhigh, rfl⟩
  | negSucc n =>
      exact .inl ⟨_, n + 1, neg_toString_toList n, digits_toString (n + 1), by omega, rfl⟩

/-! ## Letters -/

/-- The ASCII letters stand in two ranges. -/
theorem letter_range (hletter : c.isAlpha = true) :
    65 ≤ c.toNat ∧ c.toNat ≤ 90 ∨ 97 ≤ c.toNat ∧ c.toNat ≤ 122 := by
  rcases Bool.or_eq_true_iff.1 hletter with hupper | hlower
  · have hrange : c.val ≥ 'A'.val ∧ c.val ≤ 'Z'.val := of_decide_eq_true hupper
    exact .inl hrange
  · obtain ⟨hlow, hhigh⟩ := Bool.and_eq_true_iff.1 hlower
    have hrange : c.val ≥ 'a'.val ∧ c.val ≤ 'z'.val :=
      ⟨of_decide_eq_true hlow, of_decide_eq_true hhigh⟩
    exact .inr hrange

/-- A character whose lower case is a small ASCII letter is an ASCII letter. -/
theorem letter_of_lower (hlower : c.toLower.isLower = true) : c.isAlpha = true := by
  by_cases hupper : c.val ≥ 'A'.val ∧ c.val ≤ 'Z'.val
  · exact Bool.or_eq_true_iff.2 (.inl (decide_eq_true hupper))
  · have hself : c.toLower = c := dif_neg hupper
    rw [hself] at hlower
    exact Bool.or_eq_true_iff.2 (.inr hlower)

/-- A letter is no white space. -/
theorem letter_not_white (hletter : c.isAlpha = true) : isWhiteSpace c = false := by
  have hrange := letter_range hletter
  unfold isWhiteSpace
  simp only [Bool.or_eq_false_iff, Bool.and_eq_false_iff, decide_eq_false_iff_not,
    beq_eq_false_iff_ne]
  omega

/-- The lower case of ASCII letters is their ASCII lower case. -/
theorem lowercase_letters (hletters : ∀ c ∈ cs, c.isAlpha = true) :
    lowercase cs = cs.map Char.toLower := by
  refine List.map_congr_left fun c hc => ?_
  have hrange := letter_range (hletters c hc)
  rw [lower, if_neg (by omega)]

/-! ## Pieces -/

variable {isSeparator : Char → Bool}

/-- A text has a piece. -/
theorem pieces_ne_nil (isSeparator : Char → Bool) (cs : List Char) :
    pieces isSeparator cs ≠ [] := by
  cases cs with
  | nil => exact List.cons_ne_nil _ _
  | cons c cs =>
      unfold pieces
      split
      · exact List.cons_ne_nil _ _
      · split <;> exact List.cons_ne_nil _ _

/-- A separator cuts the pieces before it from those behind it. -/
theorem pieces_append (hsep : isSeparator sep = true) (pre post : List Char) :
    pieces isSeparator (pre ++ sep :: post) = pieces isSeparator pre ++
      pieces isSeparator post := by
  induction pre with
  | nil => simp [pieces, hsep]
  | cons c pre ih =>
      rw [List.cons_append, pieces, pieces, ih]
      split
      · rfl
      · obtain ⟨first, rest, hpieces⟩ := List.exists_cons_of_ne_nil
          (pieces_ne_nil isSeparator pre)
        simp [hpieces]

/-- What has no separator in it joins the first piece when it is put in front of a text. -/
theorem pieces_start (hpre : ∀ c ∈ pre, isSeparator c = false) (cs : List Char) :
    ∃ first rest, pieces isSeparator cs = first :: rest ∧
      pieces isSeparator (pre ++ cs) = (pre ++ first) :: rest := by
  obtain ⟨first, rest, hpieces⟩ := List.exists_cons_of_ne_nil (pieces_ne_nil isSeparator cs)
  refine ⟨first, rest, hpieces, ?_⟩
  induction pre with
  | nil => exact hpieces
  | cons c pre ih =>
      rw [List.forall_mem_cons] at hpre
      rw [List.cons_append, pieces, if_neg (by simp [hpre.1]), ih hpre.2]
      rfl

/-- What has no separator in it is one piece. -/
theorem pieces_plain (hcs : ∀ c ∈ cs, isSeparator c = false) : pieces isSeparator cs = [cs] := by
  obtain ⟨first, rest, hnil, hpieces⟩ := pieces_start hcs []
  cases hnil
  simpa using hpieces

/-- What has no separator in it joins the last piece when it is put behind a text. -/
theorem pieces_end (hpost : ∀ c ∈ post, isSeparator c = false) (cs : List Char) :
    ∃ front last, pieces isSeparator cs = front ++ [last] ∧
      pieces isSeparator (cs ++ post) = front ++ [last ++ post] := by
  induction cs with
  | nil => exact ⟨[], [], rfl, pieces_plain hpost⟩
  | cons c cs ih =>
      obtain ⟨front, last, hpieces, hlonger⟩ := ih
      rw [List.cons_append, pieces, pieces, hpieces, hlonger]
      split
      · exact ⟨[] :: front, last, rfl, rfl⟩
      · cases front with
        | nil => exact ⟨[], c :: last, rfl, rfl⟩
        | cons first front => exact ⟨(c :: first) :: front, last, rfl, rfl⟩

/-- White space in front of a text is trimmed off its first piece. -/
theorem pieces_blank_start (hspace : ∀ c, isWhiteSpace c = true → isSeparator c = false)
    (hpre : Blank pre)
    (cs : List Char) :
    (pieces isSeparator (pre ++ cs)).map trim = (pieces isSeparator cs).map trim := by
  have hplain : ∀ c ∈ pre, isSeparator c = false := fun c hc => hspace c (hpre c hc)
  obtain ⟨first, rest, hpieces, hlonger⟩ := pieces_start hplain cs
  rw [hpieces, hlonger, List.map_cons, List.map_cons, trim_blank_start hpre]

/-- White space behind a text is trimmed off its last piece. -/
theorem pieces_blank_end (hspace : ∀ c, isWhiteSpace c = true → isSeparator c = false)
    (hpost : Blank post)
    (cs : List Char) :
    (pieces isSeparator (cs ++ post)).map trim = (pieces isSeparator cs).map trim := by
  have hplain : ∀ c ∈ post, isSeparator c = false := fun c hc => hspace c (hpost c hc)
  obtain ⟨front, last, hpieces, hlonger⟩ := pieces_end hplain cs
  rw [hpieces, hlonger, List.map_append, List.map_append, List.map_singleton, List.map_singleton,
    trim_blank_end hpost]

/-- White space around a text is trimmed off its pieces. -/
theorem pieces_trim (hspace : ∀ c, isWhiteSpace c = true → isSeparator c = false)
    (cs : List Char) :
    (pieces isSeparator (trim cs)).map trim = (pieces isSeparator cs).map trim := by
  obtain ⟨pre, hpre, hstart⟩ := trim_start_split cs
  obtain ⟨post, hpost, hend⟩ := trim_end_split (trimStart cs)
  rw [trim, ← pieces_blank_end hspace hpost, hend, ← pieces_blank_start hspace hpre, hstart]

/-- The first piece ends at the end of the text or at a separator. -/
theorem pieces_first {first : List Char} {rest : List (List Char)}
    (h : pieces isSeparator cs = first :: rest) :
    cs = first ∨ ∃ sep more, isSeparator sep = true ∧ cs = first ++ sep :: more := by
  induction cs generalizing first rest with
  | nil =>
      cases h
      exact .inl rfl
  | cons c cs ih =>
      rw [pieces] at h
      split at h
      · next hsep =>
          cases h
          exact .inr ⟨c, cs, hsep, rfl⟩
      · split at h
        · next hnil => exact absurd hnil (pieces_ne_nil _ _)
        · next piece others hpieces =>
            cases h
            rcases ih hpieces with rfl | ⟨sep, more, hsep, rfl⟩
            · exact .inl rfl
            · exact .inr ⟨sep, more, hsep, rfl⟩

end ConnectionPool.Text
