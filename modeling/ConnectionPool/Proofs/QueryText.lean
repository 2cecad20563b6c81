import ConnectionPool.Proofs.OptionFields
import Mathlib.Data.List.Induction

/-!
# Queries segment by segment

A segment of a query says nothing, gives a field a number, or is at fault; `Says` tells which,
by the segment alone. A query is read by taking its segments in order, so that reading two
queries joined by a separator is laying the options of the second over those of the first. What
that comes to for the segments of one query is `BySegments`. Question marks at the start of a
query do not count, but at the start of a later segment they are part of its key.
-/

namespace ConnectionPool.Options

variable {options base change result : Options} {field : Field} {number : Int}
  {fault : QueryFault}
  {key value segment cs : List Char} {segments before after : List (List Char)}

/-! ## What a segment says -/

/-- What a segment of a query says. -/
inductive Meaning where
  | nothing
  | setting (field : Field) (number : Int)
  | fault (fault : QueryFault)
  deriving DecidableEq, Repr

/-- The segment says that. What is not white space needs an equals sign, with a key before the
first one and a value behind it. The key counts in lower case, and white space around key and
value does not count. -/
inductive Says : List Char → Meaning → Prop where
  | blank {segment : List Char} (hblank : Text.Blank segment) : Says segment .nothing
  | unknown {key value : List Char} (hfirst : '=' ∉ key)
      (hkey : ∀ field : Field, Text.lowercase (Text.trim key) ≠
        Text.lowercase field.name.toList) :
      Says (key ++ '=' :: value) .nothing
  | setting {key value : List Char} {field : Field} {number : Int} (hfirst : '=' ∉ key)
      (hkey : Text.lowercase (Text.trim key) = Text.lowercase field.name.toList)
      (hvalue : readNumber? field (Text.trim value) = some number) :
      Says (key ++ '=' :: value) (.setting field number)
  | noEquals {segment : List Char} (hsome : ¬Text.Blank segment) (hnone : '=' ∉ segment) :
      Says segment (.fault (.noEquals (String.ofList (Text.trim segment))))
  | badValue {key value : List Char} {field : Field} (hfirst : '=' ∉ key)
      (hkey : Text.lowercase (Text.trim key) = Text.lowercase field.name.toList)
      (hvalue : readNumber? field (Text.trim value) = none) :
      Says (key ++ '=' :: value)
        (.fault (.badValue (String.ofList (Text.lowercase (Text.trim key)))
        (String.ofList (Text.trim value))))

/-- The key of a segment, in lower case and without white space around it. -/
def key? (segment : List Char) : Option (List Char) :=
  (Text.splitFirst '=' segment).map fun parts => Text.lowercase (Text.trim parts.1)

/-- The key stands before the first equals sign. -/
theorem key_append (hfirst : '=' ∉ key) :
    key? (key ++ '=' :: value) = some (Text.lowercase (Text.trim key)) := by
  rw [key?, Text.split_first_append hfirst]
  rfl

/-- A key is that of a field if it is the name of the field in lower case. -/
theorem ofKey_some : Field.ofKey? key = some field ↔ key = Text.lowercase field.name.toList := by
  constructor
  · intro hfind
    unfold Field.ofKey? at hfind
    have hname := List.find?_some hfind
    exact (of_decide_eq_true hname).symm
  · rintro rfl
    cases field <;> decide

/-- A key is that of no field if it is not the name of one in lower case. -/
theorem ofKey_none :
    Field.ofKey? key = none ↔ ∀ field : Field, key ≠ Text.lowercase field.name.toList := by
  rw [Option.eq_none_iff_forall_not_mem]
  exact forall_congr' fun field => not_congr ofKey_some

/-- A segment with an equals sign is cut at the first one, however much white space there is. -/
theorem add_cut (hfirst : '=' ∉ key) :
    addSegment options (key ++ '=' :: value) =
      match Field.ofKey? (Text.lowercase (Text.trim key)) with
      | none => .ok options
      | some field =>
          match (readNumber? field (Text.trim value)).bind (options.set? field) with
          | some options => .ok options
          | none => .error (.badValue (String.ofList (Text.lowercase (Text.trim key)))
              (String.ofList (Text.trim value))) := by
  have hkey : '=' ∉ Text.trimStart key := fun hmem =>
    hfirst ((List.dropWhile_suffix _).subset hmem)
  have htrim : Text.trim (key ++ '=' :: value) =
      Text.trimStart key ++ '=' :: Text.trimEnd value :=
    Text.trim_around (by decide) key value
  have hsome : Text.trim (key ++ '=' :: value) ≠ [] := by
    rw [htrim]
    exact List.append_ne_nil_of_right_ne_nil _ (List.cons_ne_nil _ _)
  have hcut : Text.splitFirst '=' (Text.trim (key ++ '=' :: value)) =
      some (Text.trimStart key, Text.trimEnd value) := by
    rw [htrim, Text.split_first_append hkey]
  cases hfind : Field.ofKey? (Text.lowercase (Text.trim key)) with
  | none => simp only [addSegment, if_neg hsome, hcut, Text.trim_trim_start, hfind]
  | some field =>
      cases hset : (readNumber? field (Text.trim value)).bind (options.set? field) <;>
        simp only [addSegment, if_neg hsome, hcut, Text.trim_trim_start,
          Text.trim_trim_end, hfind, hset]

/-- The options once that is said. -/
def Meaning.apply (options : Options) : Meaning → Except QueryFault Options
  | .nothing => .ok options
  | .setting field number => .ok (options.put field number)
  | .fault fault => .error fault

/-- A field is given a number in its range. -/
theorem Says.fits (h : Says segment (.setting field number)) : field.Fits number := by
  cases h with
  | setting _ _ hvalue => exact readNumber_fits hvalue

/-- A segment adds what it says. -/
theorem add_meaning {meaning : Meaning} (h : Says segment meaning) :
    addSegment options segment = meaning.apply options := by
  cases h with
  | blank hblank => simp [addSegment, Text.trim_eq_nil.2 hblank, Meaning.apply]
  | unknown hfirst hkey =>
      rw [add_cut hfirst, ofKey_none.2 hkey]
      rfl
  | setting hfirst hkey hvalue =>
      rw [add_cut hfirst, ofKey_some.2 hkey]
      simp only [hvalue, Option.bind_some, set_eq_put (readNumber_fits hvalue), Meaning.apply]
  | noEquals hsome hnone =>
      have hcut : Text.splitFirst '=' (Text.trim segment) = none :=
        Text.split_first_none fun hmem => hnone (Text.trim_subset _ hmem)
      simp [addSegment, mt Text.trim_eq_nil.1 hsome, hcut, Meaning.apply]
  | badValue hfirst hkey hvalue =>
      rw [add_cut hfirst, ofKey_some.2 hkey]
      simp only [hvalue, Option.bind_none, Meaning.apply]

/-- Each segment says something. -/
theorem says_total (segment : List Char) : ∃ meaning, Says segment meaning := by
  by_cases hblank : Text.Blank segment
  · exact ⟨_, .blank hblank⟩
  by_cases hequals : '=' ∈ segment
  · obtain ⟨key, value, rfl, hfirst⟩ := List.eq_append_cons_of_mem hequals
    cases hfind : Field.ofKey? (Text.lowercase (Text.trim key)) with
    | none => exact ⟨_, .unknown hfirst (ofKey_none.1 hfind)⟩
    | some field =>
        cases hread : readNumber? field (Text.trim value) with
        | none => exact ⟨_, .badValue hfirst (ofKey_some.1 hfind) hread⟩
        | some number => exact ⟨_, .setting hfirst (ofKey_some.1 hfind) hread⟩
  · exact ⟨_, .noEquals hblank hequals⟩

/-- A field that is given a number has it, and no other field has one. -/
theorem Says.gives (h : Says segment (.setting field number)) (other : Field) :
    (({} : Options).put field number).get? other = if other = field then some number
      else none := by
  rw [put_get h.fits, empty_get]

/-- And one thing only. -/
theorem Says.unique {meaning other : Meaning} (h : Says segment meaning)
    (hother : Says segment other) :
    meaning = other := by
  have hsame : meaning.apply {} = other.apply {} :=
    (add_meaning h).symm.trans (add_meaning hother)
  have hnever : ∀ field number, Says segment (.setting field number) →
      ({} : Options).put field number ≠ {} := by
    intro field number hsetting hempty
    have hnumber := hsetting.gives field
    rw [hempty, empty_get, if_pos rfl] at hnumber
    cases hnumber
  cases meaning with
  | nothing =>
      cases other with
      | nothing => rfl
      | setting field number =>
          exact absurd (Except.ok.inj hsame).symm (hnever field number hother)
      | fault => cases hsame
  | setting field number =>
      cases other with
      | nothing => exact absurd (Except.ok.inj hsame) (hnever field number h)
      | setting field' number' =>
          have hput : ({} : Options).put field number = ({} : Options).put field' number' :=
            Except.ok.inj hsame
          have hnumber := h.gives field
          rw [hput, hother.gives, if_pos rfl] at hnumber
          split at hnumber
          · next hfield =>
              cases hnumber
              rw [hfield]
          · cases hnumber
      | fault => cases hsame
  | fault fault =>
      cases other with
      | nothing | setting => cases hsame
      | fault fault' => exact congrArg _ (Except.error.inj hsame)

/-! ## Segments one after the other -/

/-- The segments added to options in order. -/
def addAll (options : Options) (segments : List (List Char)) : Except QueryFault Options :=
  segments.foldlM addSegment options

/-- Segments are added up to any point first, and then the others. -/
theorem add_all_append (options : Options) (before after : List (List Char)) :
    options.addAll (before ++ after) = (options.addAll before >>= fun base =>
      base.addAll after) :=
  List.foldlM_append

/-- The first segment is added first. -/
theorem add_all_cons (options : Options) (segment : List Char) (after : List (List Char)) :
    options.addAll (segment :: after) = (options.addSegment segment >>= fun base =>
      base.addAll after) :=
  List.foldlM_cons

/-- The last segment is added last. -/
theorem add_all_snoc (options : Options) (before : List (List Char)) (segment : List Char) :
    options.addAll (before ++ [segment]) =
      (options.addAll before >>= fun base => base.addSegment segment) := by
  simp [addAll]

/-- White space around a segment does not count. -/
theorem add_trim (options : Options) (segment : List Char) :
    options.addSegment (Text.trim segment) = options.addSegment segment := by
  rw [addSegment, Text.trim_trim, addSegment]

/-- Segments count without the white space around them. -/
theorem add_all_congr (h : segments.map Text.trim = before.map Text.trim) (options : Options) :
    options.addAll segments = options.addAll before := by
  have htrim : ∀ segments, options.addAll segments = options.addAll (segments.map Text.trim) := by
    intro segments
    rw [addAll, addAll, List.foldlM_map]
    simp only [add_trim]
  rw [htrim, h, ← htrim]

/-- Adding a segment to options that are laid over others adds it to the whole. -/
theorem add_override (base change : Options) (segment : List Char) :
    (base.override change).addSegment segment =
      (change.addSegment segment).map base.override := by
  obtain ⟨meaning, hsays⟩ := says_total segment
  rw [add_meaning hsays, add_meaning hsays]
  cases meaning with
  | nothing => rfl
  | setting field number => exact congrArg _ (put_override hsays.fits)
  | fault fault => rfl

/-- And so does adding segments. -/
theorem add_all_override (base change : Options) (segments : List (List Char)) :
    (base.override change).addAll segments = (change.addAll segments).map base.override := by
  induction segments generalizing change with
  | nil => rfl
  | cons segment segments ih =>
      rw [add_all_cons, add_all_cons, add_override]
      cases change.addSegment segment with
      | ok next => exact ih next
      | error fault => rfl

/-- Segments that say nothing add nothing. -/
theorem add_all_nothing (hnothing : ∀ segment ∈ segments, Says segment .nothing)
    (options : Options) :
    options.addAll segments = .ok options := by
  induction segments with
  | nil => rfl
  | cons segment segments ih =>
      rw [List.forall_mem_cons] at hnothing
      rw [add_all_cons, add_meaning hnothing.1]
      exact ih hnothing.2

/-- The first of some segments that are told apart is the first one of all or comes behind it. -/
theorem first_cons {P Q : List Char → Prop} :
    (∃ before one after, segment :: segments = before ++ one :: after ∧ P one ∧
        ∀ earlier ∈ before, ¬Q earlier) ↔
      P segment ∨ ¬Q segment ∧ ∃ before one after, segments = before ++ one :: after ∧ P one ∧
        ∀ earlier ∈ before, ¬Q earlier := by
  constructor
  · rintro ⟨before, one, after, heq, hone, hbefore⟩
    cases before with
    | nil =>
        cases heq
        exact .inl hone
    | cons earlier before =>
        cases heq
        rw [List.forall_mem_cons] at hbefore
        exact .inr ⟨hbefore.1, before, one, after, rfl, hone, hbefore.2⟩
  · rintro (hone | ⟨hearlier, before, one, after, rfl, hone, hbefore⟩)
    · exact ⟨[], segment, segments, rfl, hone, nofun⟩
    · exact ⟨segment :: before, one, after, rfl, hone, List.forall_mem_cons.2 ⟨hearlier, hbefore⟩⟩

/-- The last of some segments that are told apart is the last one of all or comes before it. -/
theorem last_snoc {P Q : List Char → Prop} :
    (∃ before one after, segments ++ [segment] = before ++ one :: after ∧ P one ∧
        ∀ later ∈ after, ¬Q later) ↔
      P segment ∨ ¬Q segment ∧ ∃ before one after, segments = before ++ one :: after ∧ P one ∧
        ∀ later ∈ after, ¬Q later := by
  constructor
  · rintro ⟨before, one, after, heq, hone, hafter⟩
    rcases List.eq_nil_or_concat after with rfl | ⟨after, later, rfl⟩
    · obtain ⟨rfl, hlast⟩ := List.append_inj' heq rfl
      cases hlast
      exact .inl hone
    · rw [List.concat_eq_append] at heq hafter
      rw [← List.cons_append, ← List.append_assoc] at heq
      obtain ⟨rfl, hlast⟩ := List.append_inj' heq rfl
      cases hlast
      rw [List.forall_mem_append, List.forall_mem_singleton] at hafter
      exact .inr ⟨hafter.2, before, one, after, rfl, hone, hafter.1⟩
  · rintro (hone | ⟨hlater, before, one, after, rfl, hone, hafter⟩)
    · exact ⟨segments, segment, [], rfl, hone, nofun⟩
    · refine ⟨before, one, after ++ [segment], by simp, hone, ?_⟩
      exact List.forall_mem_append.2 ⟨hafter, List.forall_mem_singleton.2 hlater⟩

/-- The first segment at fault is the fault of them all. -/
theorem add_all_error (options : Options) (segments : List (List Char)) :
    options.addAll segments = .error fault ↔
      ∃ before segment after, segments = before ++ segment :: after ∧
        Says segment (.fault fault) ∧
        ∀ earlier ∈ before, ¬∃ other, Says earlier (.fault other) := by
  induction segments generalizing options with
  | nil => exact iff_of_false nofun (by simp)
  | cons segment segments ih =>
      rw [first_cons, add_all_cons]
      obtain ⟨meaning, hsays⟩ := says_total segment
      rw [add_meaning hsays]
      have hfault : ∀ other, Says segment (.fault other) ↔ meaning = .fault other := fun other =>
        ⟨fun h => hsays.unique h, fun h => h ▸ hsays⟩
      simp only [hfault]
      cases meaning with
      | nothing | setting =>
          simp only [reduceCtorEq, exists_false, not_false_eq_true, true_and, false_or]
          exact ih _
      | fault other =>
          simp only [Meaning.fault.injEq, exists_eq', not_true, false_and, or_false]
          exact ⟨Except.error.inj, congrArg _⟩

/-- The last segment that gives a field a number settles it. -/
theorem add_all_get (h : ({} : Options).addAll segments = .ok options) :
    options.get? field = some number ↔
      ∃ before segment after, segments = before ++ segment :: after ∧
        Says segment (.setting field number) ∧
        ∀ later ∈ after, ¬∃ other, Says later (.setting field other) := by
  induction segments using List.reverseRecOn generalizing options with
  | nil =>
      cases h
      exact iff_of_false (by simp [empty_get]) (by simp)
  | append_singleton segments segment ih =>
      rw [last_snoc]
      obtain ⟨meaning, hsays⟩ := says_total segment
      have hsetting : ∀ other, Says segment (.setting field other) ↔
          meaning = .setting field other :=
        fun other => ⟨fun h => hsays.unique h, fun h => h ▸ hsays⟩
      simp only [hsetting]
      rw [add_all_snoc] at h
      cases hbefore : ({} : Options).addAll segments with
      | error fault =>
          rw [hbefore] at h
          cases h
      | ok base =>
          rw [hbefore] at h
          have hadd : meaning.apply base = .ok options := (add_meaning hsays).symm.trans h
          cases meaning with
          | nothing =>
              cases hadd
              simp only [reduceCtorEq, exists_false, not_false_eq_true, true_and, false_or]
              exact ih hbefore
          | setting set value =>
              cases hadd
              rw [put_get hsays.fits]
              by_cases hfield : field = set
              · subst hfield
                simp [eq_comm]
              · simp only [if_neg hfield, Meaning.setting.injEq, Ne.symm hfield, false_and,
                  exists_false, not_false_eq_true, true_and, false_or]
                exact ih hbefore
          | fault fault => cases hadd

/-- A field is given a number by a segment with its name as the key. -/
theorem Says.named (h : Says segment (.setting field number)) :
    key? segment = some (Text.lowercase field.name.toList) := by
  cases h with
  | setting hfirst hkey _ => rw [key_append hfirst, hkey]

/-- Two segments add what the first one says and then what the second one says. -/
theorem add_pair {left right : List Char} {meaning other : Meaning} (hleft : Says left meaning)
    (hright : Says right other) (options : Options) :
    options.addAll [left, right] = (meaning.apply options >>= fun base => other.apply base) := by
  simp only [addAll, List.foldlM_cons, List.foldlM_nil, bind_pure, add_meaning hleft,
    add_meaning hright]

/-- Two segments with different keys can be added in either order. -/
theorem add_swap {left right : List Char} (hkeys : key? left ≠ key? right)
    (h : options.addAll [left, right] = .ok result) :
    options.addAll [right, left] = .ok result := by
  obtain ⟨meaning, hleft⟩ := says_total left
  obtain ⟨other, hright⟩ := says_total right
  rw [add_pair hleft hright] at h
  rw [add_pair hright hleft]
  cases meaning with
  | nothing => cases other <;> exact h
  | setting field number =>
      cases other with
      | nothing => exact h
      | setting field' number' =>
          have hne : field ≠ field' := by
            rintro rfl
            exact hkeys (hleft.named.trans hright.named.symm)
          rw [← h]
          exact congrArg Except.ok (put_comm hleft.fits hright.fits hne).symm
      | fault fault => cases h
  | fault fault => cases h

/-- Two neighbours with different keys can change places among others. -/
theorem add_all_swap {left right : List Char} (hkeys : key? left ≠ key? right)
    (h : options.addAll (before ++ left :: right :: after) = .ok result) :
    options.addAll (before ++ right :: left :: after) = .ok result := by
  have hsplit : ∀ one other, options.addAll (before ++ one :: other :: after) =
      (options.addAll before >>= fun base => base.addAll [one, other] >>= fun next =>
        next.addAll after) := by
    intro one other
    rw [add_all_append]
    exact congrArg _ (funext fun base => add_all_append base [one, other] after)
  rw [hsplit] at h ⊢
  simp only [bind, Except.bind] at h ⊢
  cases hbefore : options.addAll before with
  | error fault =>
      rw [hbefore] at h
      cases h
  | ok base =>
      rw [hbefore] at h
      cases hpair : base.addAll [left, right] with
      | error fault =>
          simp only [hpair] at h
          cases h
      | ok next =>
          simp only [hpair] at h
          simp only [add_swap hkeys hpair]
          exact h

/-! ## The segments of a query -/

/-- The segments of a query, as they stand between its separators. -/
def parts (query : String) : List (List Char) :=
  Text.pieces isSegmentEnd query.toList

/-- No segment starts with a question mark, apart from white space. -/
def Unmarked (query : String) : Prop :=
  ∀ segment ∈ parts query, (Text.trim segment).head? ≠ some '?'

/-- The separators. -/
theorem isSegmentEnd_iff {c : Char} : isSegmentEnd c = true ↔ c = '&' ∨ c = ';' := by
  simp [isSegmentEnd]

/-- A separator is no white space. -/
theorem end_not_white {c : Char} (h : isSegmentEnd c = true) : Text.isWhiteSpace c = false := by
  rcases isSegmentEnd_iff.1 h with rfl | rfl <;> decide

/-- White space is no separator. -/
theorem white_not_end (c : Char) (h : Text.isWhiteSpace c = true) : isSegmentEnd c = false :=
  Bool.eq_false_iff.2 fun hend => Bool.false_ne_true ((end_not_white hend).symm.trans h)

/-- A query is read without the question marks at its start, and the white space at its end does
not count. -/
theorem of_query_chars_eq (cs : List Char) :
    ofQueryChars cs = ({} : Options).addAll
      (Text.pieces isSegmentEnd ((Text.trimStart cs).dropWhile (· = '?'))) := by
  obtain ⟨post, hpost, hsplit⟩ := Text.trim_end_split (Text.trimStart cs)
  have hdrop : (Text.trimStart cs).dropWhile (· = '?') =
      (Text.trim cs).dropWhile (· = '?') ++ post := by
    rw [← hsplit]
    refine Text.dropWhile_stop (fun c hc => decide_eq_false ?_) _
    rintro rfl
    exact absurd (hpost '?' (List.mem_of_head? hc)) (by decide)
  rw [ofQueryChars, Options.segments, hdrop]
  exact (add_all_congr (Text.pieces_blank_end white_not_end hpost _) {}).symm

/-- A query that does not start with a question mark is read segment by segment. -/
theorem of_query_chars_plain (hstart : (Text.trim cs).head? ≠ some '?') :
    ofQueryChars cs = ({} : Options).addAll (Text.pieces isSegmentEnd cs) := by
  have hdrop : (Text.trim cs).dropWhile (· = '?') = Text.trim cs := by
    refine Text.dropWhile_stop (fun c hc => decide_eq_false ?_) []
    rintro rfl
    exact hstart hc
  rw [ofQueryChars, Options.segments, hdrop]
  exact add_all_congr (Text.pieces_trim white_not_end cs) {}

/-- Question marks at the start of a query do not count, nor does white space in front of them. -/
theorem of_query_marks {front : List Char} (hfront : Text.Blank front) (marks : Nat)
    (hstart : (Text.trim cs).head? ≠ some '?') :
    ofQueryChars (front ++ List.replicate marks '?' ++ cs) =
      ({} : Options).addAll (Text.pieces isSegmentEnd cs) := by
  cases marks with
  | zero =>
      rw [List.replicate_zero, List.append_nil, of_query_chars_plain ?_]
      · exact add_all_congr (Text.pieces_blank_start white_not_end hfront cs) {}
      · rwa [Text.trim_blank_start hfront]
  | succ marks =>
      have hmark : ∀ c ∈ (List.replicate (marks + 1) '?' ++ cs).head?,
          Text.isWhiteSpace c = false := by
        rintro c ⟨⟩
        decide
      have hplain : ∀ c ∈ cs.head?, decide (c = '?') = false := by
        intro c hc
        refine decide_eq_false ?_
        rintro rfl
        obtain ⟨more, rfl⟩ := List.head?_eq_some_iff.1 hc
        exact hstart (by rw [Text.trim_head?]; rfl)
      have hblank : front.dropWhile Text.isWhiteSpace = [] := List.dropWhile_eq_nil_iff.2 hfront
      have hmarks : (List.replicate (marks + 1) '?').dropWhile (· = '?') = [] :=
        List.dropWhile_eq_nil_iff.2 fun c hc => decide_eq_true (List.eq_of_mem_replicate hc)
      rw [of_query_chars_eq, List.append_assoc, Text.trimStart, Text.dropWhile_stop hmark, hblank,
        List.nil_append, Text.dropWhile_stop hplain, hmarks, List.nil_append]

/-- A query whose first segment does not start with a question mark does not start with one. -/
theorem starts_first {first : List Char} {sep : Char} (hsep : isSegmentEnd sep = true)
    (hfirst : (Text.trim first).head? ≠ some '?') (more : List Char) :
    (Text.trim (first ++ sep :: more)).head? ≠ some '?' := by
  rw [Text.trim_head?] at hfirst
  rw [Text.trim_around (end_not_white hsep), List.head?_append]
  cases hhead : (Text.trimStart first).head? with
  | none =>
      rintro ⟨⟩
      exact absurd hsep (by decide)
  | some c => rwa [hhead] at hfirst

/-- Nor does a query without such a segment. -/
theorem Unmarked.plain {query : String} (h : Unmarked query) :
    (Text.trim query.toList).head? ≠ some '?' := by
  unfold Unmarked parts at h
  obtain ⟨first, rest, hparts⟩ := List.exists_cons_of_ne_nil
    (Text.pieces_ne_nil isSegmentEnd query.toList)
  have hfirst := h first (hparts ▸ List.mem_cons_self)
  rcases Text.pieces_first hparts with heq | ⟨sep, more, hsep, heq⟩
  · rwa [heq]
  · rw [heq]
    exact starts_first hsep hfirst more

/-- A query without such a segment is read segment by segment. -/
theorem Unmarked.read {query : String} (h : Unmarked query) :
    ofQuery query = ({} : Options).addAll (parts query) :=
  of_query_chars_plain h.plain

/-- Reading two queries joined by a separator is reading the first one and laying the options of
the second one over it, if the second one does not start with a question mark. -/
theorem of_query_append {more : String} {sep : Char} (hsep : isSegmentEnd sep = true)
    (hmore : (Text.trim more.toList).head? ≠ some '?') (query : String) :
    ofQuery (query ++ String.singleton sep ++ more) =
      (ofQuery query >>= fun base => (ofQuery more).map base.override) := by
  have hstop : ∀ p : Char → Bool, p sep = false → ∀ c ∈ (sep :: more.toList).head?,
      p c = false := by
    rintro p hp c ⟨⟩
    exact hp
  have hmark : decide (sep = '?') = false := by
    rcases isSegmentEnd_iff.1 hsep with rfl | rfl <;> rfl
  have hchars : (query ++ String.singleton sep ++ more).toList =
      query.toList ++ sep :: more.toList := by
    simp
  have hread : ∀ base : Options, base.addAll (Text.pieces isSegmentEnd more.toList) =
      (ofQuery more).map base.override := by
    intro base
    rw [ofQuery, of_query_chars_plain hmore, ← add_all_override, override_empty]
  rw [ofQuery, hchars, of_query_chars_eq, Text.trimStart,
    Text.dropWhile_stop (hstop _ (end_not_white hsep)),
    Text.dropWhile_stop (hstop _ hmark), Text.pieces_append hsep, add_all_append,
    ← Text.trimStart, ← of_query_chars_eq, ← ofQuery]
  simp only [hread]

/-- What holds of a query by its segments. The last segment that gives a field a number settles
it; the first segment at fault is the fault of the query; segments that say nothing do not
count; and neighbours with different keys can change places if the query is read. -/
structure BySegments (query : String) : Prop where
  lastWins : ∀ options, ofQuery query = .ok options → ∀ field number,
    options.get? field = some number ↔ ∃ before segment after,
      parts query = before ++ segment :: after ∧
      Says segment (.setting field number) ∧ ∀ later ∈ after, ¬∃ other,
        Says later (.setting field other)
  firstFault : ∀ fault, ofQuery query = .error fault ↔
    ∃ before segment after, parts query = before ++ segment :: after ∧
      Says segment (.fault fault) ∧
      ∀ earlier ∈ before, ¬∃ other, Says earlier (.fault other)
  nothing : ∀ other before idle idle' after, parts query = before ++ idle ++ after →
    parts other = before ++ idle' ++ after → Unmarked other →
    (∀ segment ∈ idle ++ idle', Says segment .nothing) → ofQuery other = ofQuery query
  swap : ∀ other before left right after, parts query = before ++ left :: right :: after →
    parts other = before ++ right :: left :: after → key? left ≠ key? right →
    ∀ options, ofQuery query = .ok options → ofQuery other = .ok options

/-- It holds of every query without a segment that starts with a question mark. -/
theorem Unmarked.by_segments {query : String} (h : Unmarked query) : BySegments query := by
  refine ⟨?_, ?_, ?_, ?_⟩
  · intro options hread field number
    exact add_all_get (h.read.symm.trans hread)
  · intro fault
    rw [h.read]
    exact add_all_error {} (parts query)
  · intro other before idle idle' after hparts hother hunmarked hnothing
    rw [List.forall_mem_append] at hnothing
    rw [h.read, hunmarked.read, hparts, hother]
    simp only [add_all_append, add_all_nothing hnothing.1, add_all_nothing hnothing.2]
  · intro other before left right after hparts hother hkeys options hread
    have hunmarked : Unmarked other := by
      intro segment hmem
      refine h segment ?_
      rw [hother] at hmem
      rw [hparts]
      simp only [List.mem_append, List.mem_cons] at hmem ⊢
      exact hmem.imp_right or_left_comm.1
    rw [h.read, hparts] at hread
    rw [hunmarked.read, hother]
    exact add_all_swap hkeys hread

/-- Reading queries is a homomorphism. A query that does not start with a question mark can be
put behind another one with a separator: the whole fails with the fault of the first one, else
with that of the second one, and otherwise has the numbers of the second one where it has any,
and those of the first one elsewhere. So a query is told by its segments, if none of them starts
with a question mark. -/
theorem query_homomorphism :
    (∀ (query more : String) (sep : Char), sep = '&' ∨ sep = ';' →
      (Text.trim more.toList).head? ≠ some '?' →
      ofQuery (query ++ String.singleton sep ++ more) = do
        let base ← ofQuery query
        let change ← ofQuery more
        return base.override change) ∧
    (∀ base change field,
      (override base change).get? field = (change.get? field).or (base.get? field)) ∧
    ∀ query, Unmarked query → BySegments query := by
  refine ⟨fun query more sep hsep hmore => ?_, override_get, fun query => Unmarked.by_segments⟩
  rw [of_query_append (isSegmentEnd_iff.2 hsep) hmore]
  cases ofQuery query with
  | error fault => rfl
  | ok base => cases ofQuery more <;> rfl

/-- The key of a segment counts in any letter case and with white space around it, and an
unknown one does not count. The question mark of a later segment is part of its key. -/
example :
    ofQuery "?maxPoolSize=5&appName=x; MAXPOOLSIZE = -7 &&?minPoolSize=1" =
      .ok { maxPoolSize := some (-7) } := by
  decide

end ConnectionPool.Options
