import ConnectionPool.Address
import ConnectionPool.Proofs.Text

/-!
# Reading back the text of an address

The text of an address names its host and port again. It reads as the address it was written for
if its brackets, where the host has a colon, end after the host, and if the host starts like one
otherwise. The shapes that a text can have are `Spells`; `reads_back_iff` settles which
addresses read back.
-/

namespace ConnectionPool.Address

variable {cs host : List Char} {port : Option (List Char)} {address : Address} {s : String}

/-- The shapes of a trimmed text, with the host and the port that it names: a host in brackets,
which ends at the first closing one, or a host without colons. -/
inductive Spells : List Char → List Char → Option (List Char) → Prop where
  | bracketed {host : List Char} (inside : ']' ∉ host) : Spells ('[' :: (host ++ [']'])) host none
  | bracketedPort {host port : List Char} (inside : ']' ∉ host) :
      Spells ('[' :: (host ++ ']' :: ':' :: port)) host (some port)
  | bare {host : List Char} (bare : host.head? ≠ some '[') (outside : ':' ∉ host) :
      Spells host host none
  | barePort {host port : List Char} (bare : host.head? ≠ some '[') (outside : ':' ∉ host)
      (last : ':' ∉ port) : Spells (host ++ ':' :: port) host (some port)

/-- A text is split by its shape. -/
theorem split_ok : split cs = .ok (host, port) ↔ Spells cs host port := by
  constructor
  · intro hsplit
    unfold split at hsplit
    split at hsplit
    · split at hsplit
      · cases hsplit
      · next hcut =>
          cases hsplit
          obtain ⟨rfl, hinside⟩ := Text.split_first_some hcut
          exact .bracketed hinside
      · next hcut =>
          cases hsplit
          obtain ⟨rfl, hinside⟩ := Text.split_first_some hcut
          exact .bracketedPort hinside
      · cases hsplit
    · next hbare =>
        have hstart : cs.head? ≠ some '[' := by
          intro hhead
          obtain ⟨rest, rfl⟩ := List.head?_eq_some_iff.1 hhead
          exact hbare rest rfl
        split at hsplit
        · next hnone =>
            cases hsplit
            exact .bare hstart (Text.split_last_none_iff.1 hnone)
        · next before after hcut =>
            obtain ⟨rfl, hlast⟩ := Text.split_last_some hcut
            split at hsplit
            · cases hsplit
            · next houtside =>
                cases hsplit
                refine .barePort (fun hhead => hstart ?_) houtside hlast
                rw [List.head?_append, hhead]
                rfl
  · intro hspells
    cases hspells with
    | bracketed inside => simp [split, Text.split_first_append inside]
    | bracketedPort inside => simp [split, Text.split_first_append inside]
    | bare bare outside =>
        unfold split
        split
        · exact absurd rfl bare
        · rw [Text.split_last_none outside]
    | @barePort _ after bare outside last =>
        unfold split
        split
        · next rest hcs =>
            -- The text would start with the bracket that its host does not start with.
            cases host with
            | nil => cases hcs
            | cons c host =>
                cases hcs
                exact absurd rfl bare
        · rw [Text.split_last_append last]
          exact if_neg outside

/-- A text of a shape that names a host is not empty. -/
theorem Spells.ne_nil (h : Spells cs host port) (hsome : host ≠ []) : cs ≠ [] := by
  cases h with
  | bracketed | bracketedPort => exact List.cons_ne_nil _ _
  | bare => exact hsome
  | barePort => exact List.append_ne_nil_of_left_ne_nil hsome _

/-- An address is read from a text that has a shape, names a host and names its port, if any. -/
theorem parse_ok :
    parse s = .ok address ↔ ∃ port, Spells (Text.trim s.toList) address.host.toList port ∧
      address.host.toList ≠ [] ∧ readPort port = .ok address.port := by
  constructor
  · intro hparse
    simp only [parse, parseChars, bind, Except.bind] at hparse
    split at hparse
    · cases hparse
    · split at hparse
      · cases hparse
      · next parts hsplit =>
          split at hparse
          · cases hparse
          · next hsome =>
              split at hparse
              · cases hparse
              · next hport =>
                  cases hparse
                  rw [String.toList_ofList]
                  exact ⟨_, split_ok.1 hsplit, hsome, hport⟩
  · rintro ⟨port, hspells, hsome, hport⟩
    simp only [parse, parseChars, bind, Except.bind, split_ok.2 hspells, if_neg hsome, hport,
      if_neg (hspells.ne_nil hsome), String.ofList_toList]

/-- The port of an address reads back from its decimal digits. -/
theorem readPort_digits (port : UInt16) :
    readPort (some (toString port.toNat).toList) = .ok port := by
  rw [readPort, Text.unsigned_toString port.toNat_lt]
  exact congrArg _ UInt16.ofNat_toNat

/-- The characters of the text of an address. -/
theorem text_toList (address : Address) :
    address.text.toList =
      if ':' ∈ address.host.toList then
        '[' :: (address.host.toList ++ ']' :: ':' :: (toString address.port.toNat).toList)
      else address.host.toList ++ ':' :: (toString address.port.toNat).toList := by
  unfold text
  split <;> simp

/-- The text starts like a host without brackets: with neither a bracket nor white space. -/
def startsBare : List Char → Bool
  | [] => false
  | c :: _ => c != '[' && !Text.isWhiteSpace c

/-- A text starts like a host without brackets by its first character. -/
theorem starts_bare_cons {c : Char} :
    startsBare (c :: cs) = true ↔ c ≠ '[' ∧ Text.isWhiteSpace c = false := by
  simp [startsBare]

/-- A host in brackets has no closing one. A host without brackets has no colon, and starts like
one. -/
theorem parsed_host (h : parse s = .ok address) :
    ((Text.trim s.toList).head? = some '[' ∧ ']' ∈ Text.trim s.toList ∧
        ']' ∉ address.host.toList) ∨
      (':' ∉ address.host.toList ∧ startsBare address.host.toList = true) := by
  obtain ⟨port, hspells, hsome, -⟩ := parse_ok.1 h
  have hwhite : ∀ {c rest}, Text.trim s.toList = c :: rest → Text.isWhiteSpace c = false :=
    Text.trim_head
  generalize Text.trim s.toList = cs at hspells hwhite
  generalize address.host.toList = host at hspells hsome
  -- A host without brackets starts where the trimmed text starts.
  have hstarts : ∀ rest, cs = host ++ rest → host.head? ≠ some '[' → startsBare host = true := by
    rintro rest rfl hbare
    cases host with
    | nil => exact absurd rfl hsome
    | cons c host =>
        exact starts_bare_cons.2 ⟨fun hc => hbare (congrArg some hc), hwhite rfl⟩
  cases hspells with
  | bracketed inside => exact .inl ⟨rfl, by simp, inside⟩
  | bracketedPort inside => exact .inl ⟨rfl, by simp, inside⟩
  | bare bare outside => exact .inr ⟨outside, hstarts [] (List.append_nil _).symm bare⟩
  | barePort bare outside => exact .inr ⟨outside, hstarts _ rfl bare⟩

/-- There is no white space around the text with brackets. -/
theorem trim_bracketed_text (hcolon : ':' ∈ address.host.toList) :
    Text.trim address.text.toList =
      '[' :: (address.host.toList ++ ']' :: ':' :: (toString address.port.toNat).toList) := by
  have htrim := Text.trim_numeral (show Text.isWhiteSpace '[' = false by decide)
    (address.host.toList ++ [']', ':']) address.port.toNat
  rw [List.append_assoc] at htrim
  rw [text_toList, if_pos hcolon]
  exact htrim

/-- The text with brackets is spelled like that, unless its host closes them. -/
theorem bracketed_text (hcolon : ':' ∈ address.host.toList)
    (hinside : ']' ∉ address.host.toList) :
    Spells (Text.trim address.text.toList) address.host.toList
      (some (toString address.port.toNat).toList) := by
  rw [trim_bracketed_text hcolon]
  exact .bracketedPort hinside

/-- The text without brackets is spelled like that, if its host starts like it. -/
theorem bare_text (houtside : ':' ∉ address.host.toList)
    (hstart : startsBare address.host.toList = true) :
    Spells (Text.trim address.text.toList) address.host.toList
      (some (toString address.port.toNat).toList) := by
  rw [text_toList, if_neg houtside]
  have hdigits : ':' ∉ (toString address.port.toNat).toList := fun hmem =>
    absurd (Text.isDigit_of_mem_toString hmem) (by decide)
  generalize address.host.toList = host at houtside hstart
  cases host with
  | nil => cases hstart
  | cons c host =>
      obtain ⟨hbare, hwhite⟩ := starts_bare_cons.1 hstart
      have htrim := Text.trim_numeral hwhite (host ++ [':']) address.port.toNat
      rw [List.append_assoc] at htrim
      refine htrim.symm ▸ .barePort (fun hc => hbare ?_) houtside hdigits
      exact Option.some.inj hc

/-- The addresses whose text reads back: the brackets around a host with a colon end after the
host, and a host without colons starts like one that needs no brackets. -/
theorem reads_back_iff (address : Address) :
    parse address.text = .ok address ↔
      (':' ∈ address.host.toList ∧ ']' ∉ address.host.toList) ∨
        (':' ∉ address.host.toList ∧ startsBare address.host.toList = true) := by
  constructor
  · intro hparse
    by_cases hcolon : ':' ∈ address.host.toList
    · rcases parsed_host hparse with ⟨-, -, hinside⟩ | ⟨houtside, -⟩
      · exact .inl ⟨hcolon, hinside⟩
      · exact absurd hcolon houtside
    · rcases parsed_host hparse with ⟨-, hclosing, hinside⟩ | hbare
      · -- The text without brackets has a closing one in its host only.
        have hmem := Text.trim_subset _ hclosing
        rw [text_toList, if_neg hcolon, List.mem_append, List.mem_cons] at hmem
        rcases hmem with hhost | hsep | hdigit
        · exact absurd hhost hinside
        · exact absurd hsep (by decide)
        · exact absurd (Text.isDigit_of_mem_toString hdigit) (by decide)
      · exact .inr hbare
  · rintro (⟨hcolon, hinside⟩ | ⟨houtside, hstart⟩)
    · exact parse_ok.2 ⟨_, bracketed_text hcolon hinside, List.ne_nil_of_mem hcolon,
        readPort_digits address.port⟩
    · have hsome : address.host.toList ≠ [] := fun hempty => by
        rw [hempty] at hstart
        cases hstart
      exact parse_ok.2 ⟨_, bare_text houtside hstart, hsome, readPort_digits address.port⟩

/-- An address is in its own JSON just if its text reads back. -/
theorem json_back_iff (address : Address) :
    ofJson? address.toJson = some address ↔ parse address.text = .ok address := by
  rw [toJson, ofJson?]
  cases parse address.text <;> simp [Except.toOption]

/-- An address that was read reads back from its text, and from its JSON, just if its host has a
colon or starts like one that needs no brackets. Only a host that was read from brackets can
fail to. -/
theorem parsed_reads_back_iff (h : parse s = .ok address) :
    (parse address.text = .ok address ↔
      ':' ∈ address.host.toList ∨ startsBare address.host.toList = true) ∧
    (ofJson? address.toJson = some address ↔
      ':' ∈ address.host.toList ∨ startsBare address.host.toList = true) ∧
    ((Text.trim s.toList).head? ≠ some '[' → parse address.text = .ok address) := by
  have hread : parse address.text = .ok address ↔
      ':' ∈ address.host.toList ∨ startsBare address.host.toList = true := by
    rw [reads_back_iff]
    by_cases hcolon : ':' ∈ address.host.toList
    · have hinside : ']' ∉ address.host.toList := by
        rcases parsed_host h with ⟨-, -, hinside⟩ | ⟨houtside, -⟩
        · exact hinside
        · exact absurd hcolon houtside
      simp [hcolon, hinside]
    · simp [hcolon]
  refine ⟨hread, (json_back_iff address).trans hread, fun hbare => hread.2 ?_⟩
  rcases parsed_host h with ⟨hbracket, -⟩ | ⟨-, hstart⟩
  · exact absurd hbracket hbare
  · exact .inr hstart

/-- A literal in brackets that was read without its port. -/
theorem literal_reads_back :
    parse "[fe80::1]" = .ok ⟨"fe80::1", 27017⟩ ∧
      parse (text ⟨"fe80::1", 27017⟩) = .ok ⟨"fe80::1", 27017⟩ := by
  have hparse : parse "[fe80::1]" = .ok ⟨"fe80::1", 27017⟩ := by decide
  exact ⟨hparse, (parsed_reads_back_iff hparse).1.2 (.inl (by decide))⟩

/-- A host that was read from brackets and starts with white space: its text has no brackets,
and reads as another host. -/
theorem spaced_host_misread :
    parse "[ a]:1" = .ok ⟨" a", 1⟩ ∧ text ⟨" a", 1⟩ = " a:1" ∧ parse " a:1" = .ok ⟨"a", 1⟩ ∧
      ¬∀ s address, parse s = .ok address → parse (text address) = .ok address := by
  refine ⟨by decide, by decide, by decide, fun hall => ?_⟩
  exact absurd (hall "[ a]:1" ⟨" a", 1⟩ (by decide)) (by decide)

end ConnectionPool.Address
