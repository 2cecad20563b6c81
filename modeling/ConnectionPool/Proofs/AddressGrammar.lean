import ConnectionPool.Failure
import ConnectionPool.Proofs.AddressText

/-!
# The grammar of addresses

An address is written with brackets around its host or without, and with its port or without.
These four forms exclude each other and settle the host and the port, and a text reads as an
address just if it has one of them. The text of an address itself is read by its host: a host
with a colon is written in brackets, which a closing bracket in it breaks, and a host without a
colon has to start like one without brackets.
-/

namespace ConnectionPool.Address

variable {cs host digits : List Char} {portText : Option (List Char)} {port : UInt16}
  {address other : Address} {s : String}

/-- How an address is written: with brackets around its host or without, and with its port or
without. -/
structure Form where
  bracketed : Bool
  withPort : Bool
  deriving DecidableEq, Repr

/-- The text names the host and the port in the form. A port is a number below 65536 in digits,
with a plus sign or without one. -/
inductive Form.Writes : Form → List Char → List Char → UInt16 → Prop where
  | bare {host : List Char} (hsome : host ≠ []) (houtside : ':' ∉ host)
      (hstart : host.head? ≠ some '[') : Writes ⟨false, false⟩ host host 27017
  | barePort {host digits : List Char} {port : UInt16} (hsome : host ≠ []) (houtside : ':' ∉ host)
      (hstart : host.head? ≠ some '[') (hport : Text.Decimal digits port.toNat) :
      Writes ⟨false, true⟩ (host ++ ':' :: digits) host port
  | bracketed {host : List Char} (hsome : host ≠ []) (hinside : ']' ∉ host) :
      Writes ⟨true, false⟩ ('[' :: (host ++ [']'])) host 27017
  | bracketedPort {host digits : List Char} {port : UInt16} (hsome : host ≠ [])
      (hinside : ']' ∉ host)
      (hport : Text.Decimal digits port.toNat) :
      Writes ⟨true, true⟩ ('[' :: (host ++ ']' :: ':' :: digits)) host port

/-- A port is read from a numeral of it. -/
theorem readPort_some : readPort (some digits) = .ok port ↔ Text.Decimal digits port.toNat := by
  rw [← and_iff_left (a := Text.Decimal digits port.toNat) port.toNat_lt,
    ← Text.unsigned_some, readPort]
  cases hvalue : Text.unsigned? UInt16.size digits with
  | none => simp
  | some n =>
      have hbound : n < UInt16.size := (Text.unsigned_some.1 hvalue).2
      rw [Except.ok.injEq, Option.some_inj]
      constructor
      · rintro rfl
        exact (UInt16.toNat_ofNat_of_lt hbound).symm
      · rintro rfl
        exact UInt16.ofNat_toNat

/-- What is written in a form is spelled like it, with the port that it names. -/
theorem writes_iff {form : Form} :
    form.Writes cs host port ↔ host ≠ [] ∧ ∃ portText, Spells cs host portText ∧
      readPort portText = .ok port ∧ form = ⟨cs.head? = some '[', portText.isSome⟩ := by
  constructor
  · intro hwrites
    cases hwrites with
    | bare hsome houtside hstart =>
        exact ⟨hsome, none, .bare hstart houtside, rfl, by simp [hstart]⟩
    | @barePort _ digits _ hsome houtside hstart hport =>
        refine ⟨hsome, some digits, .barePort hstart houtside
          (hport.not_mem (by decide) (by decide)),
          readPort_some.2 hport, ?_⟩
        rw [List.head?_append_of_ne_nil _ hsome]
        simp [hstart]
    | bracketed hsome hinside => exact ⟨hsome, none, .bracketed hinside, rfl, rfl⟩
    | bracketedPort hsome hinside hport =>
        exact ⟨hsome, _, .bracketedPort hinside, readPort_some.2 hport, rfl⟩
  · rintro ⟨hsome, portText, hspells, hport, rfl⟩
    cases hspells with
    | bracketed hinside =>
        cases hport
        exact .bracketed hsome hinside
    | bracketedPort hinside => exact .bracketedPort hsome hinside (readPort_some.1 hport)
    | bare hstart houtside =>
        cases hport
        simpa [hstart, defaultPort] using Form.Writes.bare hsome houtside hstart
    | barePort hstart houtside hlast =>
        rw [List.head?_append_of_ne_nil _ hsome]
        simpa [hstart] using Form.Writes.barePort hsome houtside hstart (readPort_some.1 hport)

/-- A text has one form only, and names one host and one port. -/
theorem Form.Writes.unique {form form' : Form} {host' : List Char} {port' : UInt16}
    (h : form.Writes cs host port) (h' : form'.Writes cs host' port') :
    form = form' ∧ host = host' ∧ port = port' := by
  obtain ⟨-, portText, hspells, hport, rfl⟩ := writes_iff.1 h
  obtain ⟨-, portText', hspells', hport', rfl⟩ := writes_iff.1 h'
  have hsplit := (split_ok.2 hspells).symm.trans (split_ok.2 hspells')
  cases hsplit
  exact ⟨rfl, rfl, Except.ok.inj (hport.symm.trans hport')⟩

/-- An address is read just from what is written in one of the forms. -/
theorem parse_iff_writes :
    parse s = .ok address ↔
      ∃ form : Form, form.Writes (Text.trim s.toList) address.host.toList address.port := by
  rw [parse_ok]
  constructor
  · rintro ⟨portText, hspells, hsome, hport⟩
    exact ⟨_, writes_iff.2 ⟨hsome, portText, hspells, hport, rfl⟩⟩
  · rintro ⟨form, hwrites⟩
    obtain ⟨hsome, portText, hspells, hport, -⟩ := writes_iff.1 hwrites
    exact ⟨portText, hspells, hsome, hport⟩

/-- A text without white space around it reads as an address just if it is written in one of the
four forms, and as the host and the port that it names. It has no other form, host or port then.
Any other text is an invalid address. -/
theorem accepts_grammar (s : String) :
    (∀ host port, parse s = .ok ⟨host, port⟩ ↔
      ∃ form : Form, form.Writes (Text.trim s.toList) host.toList port) ∧
    (∀ form form' : Form, ∀ host host' port port', form.Writes (Text.trim s.toList) host port →
      form'.Writes (Text.trim s.toList) host' port' → form = form' ∧ host = host' ∧
        port = port') ∧
    ((∃ message, (parse s).mapError AddressFault.toPoolError = .error (.invalidAddress message)) ↔
      ¬∃ form : Form, ∃ host port, form.Writes (Text.trim s.toList) host port) := by
  refine ⟨fun _ _ => parse_iff_writes, fun _ _ _ _ _ _ => Form.Writes.unique, ?_⟩
  cases hparse : parse s with
  | ok address =>
      obtain ⟨form, hwrites⟩ := parse_iff_writes.1 hparse
      exact iff_of_false nofun (not_not_intro ⟨form, _, _, hwrites⟩)
  | error fault =>
      refine iff_of_true ⟨fault.message, rfl⟩ ?_
      rintro ⟨form, host, port, hwrites⟩
      have hok : parse s = .ok ⟨String.ofList host, port⟩ :=
        parse_iff_writes.2 ⟨form, by rwa [String.toList_ofList]⟩
      cases hparse.symm.trans hok

/-- A plus sign and leading zeros are part of a port, a number of 65536 or more is none. -/
example : parse "[::1]:+0080 " = .ok ⟨"::1", 80⟩ ∧ parse "a:65536" = .error
    (.badPort "65536") := by
  decide

/-! ## What the text of an address reads as -/

/-- A text is cut at its last colon in one way. -/
theorem last_colon {pre pre' post post' : List Char}
    (h : pre ++ ':' :: post = pre' ++ ':' :: post')
    (hpost : ':' ∉ post) (hpost' : ':' ∉ post') : pre = pre' ∧ post = post' := by
  have hcut : Text.splitLast ':' (pre ++ ':' :: post) = some (pre, post) :=
    Text.split_last_append hpost
  rw [h, Text.split_last_append hpost'] at hcut
  cases hcut
  exact ⟨rfl, rfl⟩

/-- A text starts like a host without brackets if it has a first character and that is neither a
bracket nor white space. -/
theorem starts_bare_iff :
    startsBare cs = true ↔ ∃ c rest, cs = c :: rest ∧ c ≠ '[' ∧ Text.isWhiteSpace c = false := by
  constructor
  · intro hstart
    cases cs with
    | nil => cases hstart
    | cons c rest => exact ⟨c, rest, rfl, starts_bare_cons.1 hstart⟩
  · rintro ⟨c, rest, rfl, hbare⟩
    exact starts_bare_cons.2 hbare

/-- There is no white space around the text without brackets but at the start of its host. -/
theorem trim_bare_text (houtside : ':' ∉ address.host.toList) :
    Text.trim address.text.toList =
      Text.trimStart address.host.toList ++ ':' :: (toString address.port.toNat).toList := by
  rw [text_toList, if_neg houtside, Text.trim_around (by decide), Text.trim_end_plain]
  exact fun c hmem => Text.digit_not_white (Text.isDigit_of_mem_toString hmem)

/-- Brackets are closed once in what is written in a form with brackets. -/
theorem Form.Writes.closes_once {form : Form} (h : form.Writes cs host port)
    (hstart : cs.head? = some '[') : cs.count ']' = 1 := by
  cases h with
  | bare _ _ hbare => exact absurd hstart hbare
  | barePort hsome _ hbare _ =>
      rw [List.head?_append_of_ne_nil _ hsome] at hstart
      exact absurd hstart hbare
  | bracketed _ hinside => simp [List.count_eq_zero.2 hinside]
  | bracketedPort _ hinside hport =>
      have hdigits : ']' ∉ _ := hport.not_mem (by decide) (by decide)
      simp [List.count_eq_zero.2 hinside, List.count_eq_zero.2 hdigits]

/-- The text of a host with a colon and a closing bracket has no form. -/
theorem closed_not_read (hcolon : ':' ∈ address.host.toList)
    (hinside : ']' ∈ address.host.toList) :
    parse address.text ≠ .ok other := by
  intro hparse
  obtain ⟨form, hwrites⟩ := parse_iff_writes.1 hparse
  have honce := hwrites.closes_once (by rw [trim_bracketed_text hcolon]; rfl)
  have htwice := List.one_le_count_iff.2 hinside
  rw [trim_bracketed_text hcolon, List.count_cons, List.count_append, List.count_cons] at honce
  simp at honce
  omega

/-- The text of a host without a colon reads as the port and as what white space in front of the
host and brackets around that leave of it. -/
theorem bare_text_read (houtside : ':' ∉ address.host.toList)
    (hparse : parse address.text = .ok other) :
    other.port = address.port ∧
      (other.host.toList = Text.trimStart address.host.toList ∨
        '[' :: (other.host.toList ++ [']']) = Text.trimStart address.host.toList) := by
  obtain ⟨form, hwrites⟩ := parse_iff_writes.1 hparse
  rw [trim_bare_text houtside] at hwrites
  have hdigits : Text.Decimal (toString address.port.toNat).toList address.port.toNat :=
    readPort_some.1 (readPort_digits address.port)
  generalize (toString address.port.toNat).toList = digits at hwrites hdigits
  -- The port of the text is what stands behind its last colon.
  have hport : ∀ {digits' port'}, digits' = digits → Text.Decimal digits' (UInt16.toNat port') →
      port' = address.port := by
    rintro digits' port' rfl hdigits'
    exact Except.ok.inj ((readPort_some.2 hdigits').symm.trans (readPort_some.2 hdigits))
  have hlast : ':' ∉ digits := hdigits.not_mem (by decide) (by decide)
  generalize hcs : Text.trimStart address.host.toList ++ ':' :: digits = cs at hwrites
  generalize other.host.toList = host, other.port = port at hwrites
  cases hwrites with
  | bare _ hcolon => exact absurd (hcs ▸ by simp) hcolon
  | barePort _ _ _ hdigits' =>
      obtain ⟨hhost, heq⟩ := last_colon hcs hlast (hdigits'.not_mem (by decide) (by decide))
      exact ⟨hport heq.symm hdigits', .inl hhost.symm⟩
  | bracketed =>
      -- The text ends with its digits, and not with a bracket.
      have hend : (':' :: digits).getLast? = some ']' := by
        rw [← List.getLast?_append_cons (Text.trimStart address.host.toList), hcs,
          ← List.cons_append, List.getLast?_concat]
      rcases List.mem_cons.1 (List.mem_of_getLast? hend) with hcolon | hmem
      · exact absurd hcolon (by decide)
      · exact absurd hmem (hdigits.not_mem (by decide) (by decide))
  | @bracketedPort _ digits' _ _ _ hdigits' =>
      have hcs' : Text.trimStart address.host.toList ++ ':' :: digits =
          ('[' :: (host ++ [']'])) ++ ':' :: digits' := by simp [hcs]
      obtain ⟨hhost, heq⟩ := last_colon hcs' hlast (hdigits'.not_mem (by decide) (by decide))
      exact ⟨hport heq.symm hdigits', .inr hhost.symm⟩

/-- The text of a host and a port reads as them just if the host has a colon and no closing
bracket, or has no colon and starts with a character that is neither an opening bracket nor
white space. Otherwise it does not read, or reads as the port and a shorter host; a host with a
colon that does not read back does not read at all. -/
theorem own_text_read (host : String) (port : UInt16) :
    (parse (text ⟨host, port⟩) = .ok ⟨host, port⟩ ↔
      (':' ∈ host.toList ∧ ']' ∉ host.toList) ∨
        (':' ∉ host.toList ∧ ∃ c rest, host.toList = c :: rest ∧ c ≠ '[' ∧
          Text.isWhiteSpace c = false)) ∧
    (parse (text ⟨host, port⟩) = .ok ⟨host, port⟩ ∨
      (∃ fault, parse (text ⟨host, port⟩) = .error fault) ∨
      ':' ∉ host.toList ∧ ∃ other, parse (text ⟨host, port⟩) = .ok other ∧
        other.port = port ∧ other.host.length < host.length) := by
  constructor
  · rw [reads_back_iff, starts_bare_iff]
  · cases hparse : parse (text ⟨host, port⟩) with
    | error fault => exact .inr (.inl ⟨fault, rfl⟩)
    | ok other =>
        by_cases hcolon : ':' ∈ host.toList
        · have hinside : ']' ∉ host.toList := fun hinside => closed_not_read hcolon hinside hparse
          have hback := (reads_back_iff ⟨host, port⟩).2 (.inl ⟨hcolon, hinside⟩)
          exact .inl (hparse.symm.trans hback)
        · obtain ⟨hport, hhost⟩ := bare_text_read hcolon hparse
          have hsuffix : Text.trimStart host.toList <:+ host.toList := List.dropWhile_suffix _
          have hlength := hsuffix.length_le
          by_cases hsame : other.host.toList = host.toList
          · obtain ⟨otherHost, otherPort⟩ := other
            obtain rfl : otherHost = host := String.toList_inj.1 hsame
            obtain rfl : otherPort = port := hport
            exact .inl rfl
          · refine .inr (.inr ⟨hcolon, other, rfl, hport, ?_⟩)
            rw [← String.length_toList, ← String.length_toList]
            rcases hhost with hhost | hhost
            · refine Nat.lt_of_le_of_ne (hhost ▸ hlength) fun heq => hsame ?_
              exact hhost.trans (hsuffix.eq_of_length (hhost ▸ heq))
            · rw [← hhost] at hlength
              simp at hlength
              omega

end ConnectionPool.Address
