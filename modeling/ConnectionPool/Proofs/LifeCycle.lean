import ConnectionPool.Proofs.Ownership

/-!
# The life of a connection

What the balances of `Proofs.Ownership` say about a session at every moment: in whose hand the
connection is, what its holders can do with it or with a shell of it, and what lasts from then
on. `one_link_one_life` puts them together for every session.
-/

namespace ConnectionPool.Connection.Session

variable {count : Connection → Nat} {held : Multiset (String × Connection)}
  {entry : String × Connection} {connection changed : Connection} {session : Session}
  {name : String}
  {identity : ConnectionInfo}

/-- Those who have the connection itself and no shell of it. -/
def owners (session : Session) : List (String × Connection) :=
  session.holders.filter fun entry => entry.2.link ≠ .moved

/-- They are as many as the count of links says. -/
theorem length_owners (session : Session) : session.owners.length = tally owned session.held := by
  unfold owners held
  induction session.holders with
  | nil => rfl
  | cons entry rest ih =>
      rw [← Multiset.cons_coe, tally_cons, ← ih, List.filter_cons]
      by_cases hlink : entry.2.link = .moved
      · simp [owned, hlink]
      · simp [owned, hlink, Nat.add_comm]

/-- Only they have a link that is not given up. -/
theorem tally_owners (hsound : ∀ entry ∈ session.held, entry.2.Sound) :
    tally links session.held = tally links session.owners := by
  unfold owners held at *
  generalize session.holders = holders at hsound ⊢
  induction holders with
  | nil => rfl
  | cons entry rest ih =>
      rw [← Multiset.cons_coe, Multiset.forall_mem_cons] at hsound
      rw [← Multiset.cons_coe, tally_cons, ih hsound.2, List.filter_cons]
      by_cases hlink : entry.2.link = .moved
      · have hle := hsound.1.links_le
        rw [owned, if_pos hlink] at hle
        rw [if_neg (by simpa using hlink), Nat.le_zero.1 hle, Nat.zero_add]
      · rw [if_pos (by simpa using hlink), ← Multiset.cons_coe, tally_cons]

/-- Dropping one after another what is held gives the link up, unless it was given up before. -/
theorem Kept.network_at_end (h : Kept identity session.network session.held) :
    session.networkAtEnd.destroyed = 1 := by
  unfold networkAtEnd held at *
  generalize session.network = network, session.holders = holders at h ⊢
  induction holders generalizing network with
  | nil => exact h.destroyed
  | cons entry rest ih => exact ih _ (Kept.drop h)

/-- Who has the connection at a moment: one holder, whose link is in the state that the
connection says, or nobody, and then the link was given up. All others have shells of it. The
link was made once, was connected at most once, and was given up if the connection is destroyed
or gone; it is given up when nobody holds anything any more. -/
structure InOneHand (session : Session) (identity : ConnectionInfo) : Prop where
  names : (session.holders.map Prod.fst).Nodup
  identity : ∀ entry ∈ session.holders, entry.2.info = identity
  owner : (session.owners = [] ∧ session.network.destroyed = 1) ∨
    ∃ name connection, session.owners = [(name, connection)] ∧ connection.Wired ∧
      session.network.destroyed = if connection.destroyed then 1 else 0
  shells : ∀ entry ∈ session.holders, entry ∉ session.owners → entry.2.Hollow
  created : session.network.created = 1
  connects : session.network.connects ≤ 1
  atEnd : session.networkAtEnd.destroyed = 1

/-- The balances say that the connection is in one hand. -/
theorem Kept.in_one_hand (h : Kept identity session.network session.held) :
    session.InOneHand identity where
  names := h.names
  identity := h.info
  created := h.created
  connects := (Nat.le_add_right _ _).trans h.connects
  atEnd := h.network_at_end
  shells := by
    intro entry hmem hother
    refine (h.sound entry hmem).resolve_left fun hwired => hother ?_
    refine List.mem_filter.2 ⟨hmem, ?_⟩
    simp [hwired.link]
  owner := by
    have hbalance := h.destroyed
    have hone := h.owners
    rw [tally_owners h.sound] at hbalance
    rw [← length_owners] at hone
    match howners : session.owners with
    | [] =>
        rw [howners] at hbalance
        exact .inl ⟨rfl, hbalance⟩
    | [(name, connection)] =>
        have hmem : (name, connection) ∈ session.owners := by simp [howners]
        obtain ⟨hheld, hlink⟩ := List.mem_filter.1 hmem
        refine .inr ⟨name, connection, rfl, (h.sound _ hheld).wired (by simpa using hlink), ?_⟩
        have hcount : tally links [(name, connection)] = connection.links := rfl
        rw [howners, hcount, links] at hbalance
        split at hbalance
        · rw [if_pos ‹_›]
          exact hbalance
        · rw [if_neg ‹_›]
          omega
    | _ :: _ :: _ => simp [howners] at hone

/-- What the holder of a connection can do with it. Writing works if the connection is
established, and is then counted and noted. A failed connect leaves everything as it was but the
time and the script of failures. Destroying a connection, or dropping it, gives up its link,
which is counted; a destroyed connection fails to be established, and its link is not given up
again. Moving a connection gives the taker just this one, and nobody else notices. Dropping a
shell takes the connection from nobody. -/
structure Answers (session : Session) (name : String) (connection : Connection) : Prop where
  write (bytes : Nat) : session.perform (.write name bytes) =
    if connection.established then
      (.link (.ok ()),
        { session with
          network := { session.network with
            writes := session.network.writes + 1
            bytes := session.network.bytes + bytes } }.replace name
          { connection with lastUsed := session.now })
    else (.link (.error .notEstablished), session)
  established : connection.established = true →
    session.perform (.establish name) = (.link (.ok ()), session)
  failed (error : LinkError) : (session.perform (.establish name)).1 = .link (.error error) →
    (error = .destroyed ∨ error = .refused connection.address) ∧
      ∃ later ≥ session.now, ∃ left ≤ session.network.failNext,
        (session.perform (.establish name)).2 =
          { session with now := later, network := { session.network with failNext := left } }
  alive : connection.destroyed = false →
    (session.perform (.destroy name)).2.holding? name =
        some { connection with
          destroyed := true, established := false, link := .simulated false true } ∧
      (session.perform (.destroy name)).2.network =
        { session.network with destroyed := session.network.destroyed + 1 } ∧
      (session.perform (.drop name)).2.network =
        { session.network with destroyed := session.network.destroyed + 1 }
  dead : connection.destroyed = true →
    session.perform (.establish name) = (.link (.error .destroyed), session) ∧
      session.perform (.destroy name) = (.done, session) ∧
      (session.perform (.drop name)).2.network = session.network
  moved (taker : String) :
    (session.perform (.detach name taker)).2.holding? taker = some connection ∧
      (taker ≠ name →
        (session.perform (.detach name taker)).2.holding? name = some connection.shell) ∧
      ∀ other, other ≠ name → other ≠ taker →
        (session.perform (.detach name taker)).2.holding? other = session.holding? other
  shell : connection.link = .moved → (session.perform (.drop name)).2.owners = session.owners

/-- A holder has one thing only. -/
theorem Named.held_eq {found : Connection} (hnamed : session.Named)
    (hhas : session.holding? name = some connection) (hmem : (name, found) ∈ session.holders) :
    found = connection := by
  have hfound := hnamed.holding_iff.2 (Multiset.mem_coe.2 hmem)
  rw [hhas, Option.some_inj] at hfound
  exact hfound.symm

/-- Putting back what a holder has changes nothing, whatever time it took. -/
theorem Named.replace_same (hnamed : session.Named)
    (hhas : session.holding? name = some connection)
    (now : Instant) (network : Network) :
    { session with now := now, network := network }.replace name connection =
      { session with now := now, network := network } := by
  have hsame : (session.holders.map fun entry =>
      if entry.1 = name then (name, connection) else entry) = session.holders := by
    refine (List.map_congr_left fun entry hmem => ?_).trans (List.map_id' _)
    split
    · obtain ⟨key, found⟩ := entry
      obtain rfl : key = name := ‹_›
      rw [hnamed.held_eq hhas hmem]
    · rfl
  rw [Session.replace, hsame]

/-- A drop is not noticed by others. -/
theorem mem_drop (hother : entry.1 ≠ name) :
    entry ∈ (session.drop name).held ↔ entry ∈ session.held := by
  unfold drop
  split
  · rfl
  · exact Multiset.mem_coe.trans (List.mem_filter.trans (and_iff_left (by simpa using hother)))

/-- A change is not noticed by others. -/
theorem Named.mem_replace (hnamed : session.Named)
    (hhas : session.holding? name = some connection)
    (hother : entry.1 ≠ name) :
    entry ∈ (session.replace name changed).held ↔ entry ∈ session.held := by
  obtain ⟨rest, hall, hchange, -⟩ := hnamed.split hhas
  have hne : ∀ other, entry ≠ (name, other) := fun other heq => hother (congrArg Prod.fst heq)
  rw [hchange, hall, Multiset.mem_cons, Multiset.mem_cons, or_iff_right (hne _),
    or_iff_right (hne _)]

/-- Establishing an established or a destroyed connection is over at once and changes nothing. -/
theorem Named.establish_now (hnamed : session.Named)
    (hhas : session.holding? name = some connection)
    {result : Except LinkError Unit} (hnow : connection.establishNow? = some result) :
    session.perform (.establish name) = (.link result, session) := by
  refine (on_holding hhas _).trans ?_
  simp only [Session.establish, Connection.establish, hnow, Nat.add_zero]
  exact congrArg _ (hnamed.replace_same hhas session.now session.network)

/-- A connect that fails leaves everything as it was but the time and the script. -/
theorem Named.establish_failed (hnamed : session.Named)
    (hhas : session.holding? name = some connection)
    (hsound : connection.Sound) (hneeded : connection.establishNow? = none) {error : LinkError}
    (hfailed : (session.perform (.establish name)).1 = .link (.error error)) :
    error = .refused connection.address ∧
      ∃ later ≥ session.now, ∃ left ≤ session.network.failNext,
        (session.perform (.establish name)).2 =
          { session with
            now := later, network := { session.network with failNext := left } } := by
  obtain ⟨left, hleft, hscript⟩ := session.network.attempt_script
  have hperform : session.perform (.establish name) = session.establish name connection :=
    on_holding hhas _
  rw [hperform] at hfailed ⊢
  simp only [Session.establish, Connection.establish, hneeded,
    hsound.connect hneeded] at hfailed ⊢
  split at hfailed
  · rename_i hfails
    rw [if_pos hfails, hscript]
    have herror : error = .refused connection.address := by
      cases hfailed
      rfl
    exact ⟨herror, session.now + connection.link.delay session.network,
      Nat.le_add_right _ _, left, hleft,
      hnamed.replace_same hhas _ _⟩
  · simp at hfailed

/-- Writing works if the connection is established, and is then counted and noted. -/
theorem Named.perform_write (hnamed : session.Named)
    (hhas : session.holding? name = some connection)
    (hsound : connection.Sound) (bytes : Nat) :
    session.perform (.write name bytes) =
      if connection.established then
        (.link (.ok ()),
          { session with
            network := { session.network with
              writes := session.network.writes + 1
              bytes := session.network.bytes + bytes } }.replace name
            { connection with lastUsed := session.now })
      else (.link (.error .notEstablished), session) := by
  refine (on_holding hhas _).trans ?_
  rw [hsound.write]
  cases connection.established with
  | true => rfl
  | false => exact congrArg _ (hnamed.replace_same hhas session.now session.network)

/-- The taker has just what was moved, its former holder a shell of it, and nobody else
notices. -/
theorem Kept.moved (h : Kept identity session.network session.held)
    (hhas : session.holding? name = some connection) (taker : String) :
    (session.perform (.detach name taker)).2.holding? taker = some connection ∧
      (taker ≠ name →
        (session.perform (.detach name taker)).2.holding? name = some connection.shell) ∧
      ∀ other, other ≠ name → other ≠ taker →
        (session.perform (.detach name taker)).2.holding? other = session.holding? other := by
  have hnamed : session.Named := h.names
  have hafter : (session.perform (.detach name taker)).2.Named :=
    (perform_kept h (.detach name taker)).1.names
  have hperform : session.perform (.detach name taker) =
      (.done, (session.replace name connection.shell).give taker connection) := on_holding hhas _
  rw [hperform] at hafter ⊢
  refine ⟨?_, fun hother => ?_, fun other hname htaker => Option.ext fun found => ?_⟩
  · rw [hafter.holding_iff, give_held]
    exact Multiset.mem_cons_self _ _
  · rw [hafter.holding_iff, give_held]
    refine Multiset.mem_cons_of_mem ((mem_drop (Ne.symm hother)).2 ?_)
    obtain ⟨rest, -, hchange, -⟩ := hnamed.split hhas
    rw [hchange]
    exact Multiset.mem_cons_self _ _
  · have hne : (other, found) ≠ (taker, connection) := fun heq => htaker (congrArg Prod.fst heq)
    rw [hafter.holding_iff, hnamed.holding_iff, give_held, Multiset.mem_cons, or_iff_right hne,
      mem_drop htaker, hnamed.mem_replace hhas hname]

/-- Dropping destroys. -/
theorem perform_drop (hhas : session.holding? name = some connection) :
    (session.perform (.drop name)).2.network = (connection.destroy session.network).2 := by
  have hperform : session.perform (.drop name) = (.done, session.drop name) := on_holding hhas _
  rw [hperform, drop_network hhas]

/-- Destroying keeps what is left of the connection with its holder. -/
theorem Named.perform_destroy (hnamed : session.Named)
    (hhas : session.holding? name = some connection) :
    (session.perform (.destroy name)).2.holding? name =
        some (connection.destroy session.network).1 ∧
      (session.perform (.destroy name)).2.network = (connection.destroy session.network).2 := by
  have hperform : session.perform (.destroy name) =
      (.done, { session with network := (connection.destroy session.network).2 }.replace name
        (connection.destroy session.network).1) := on_holding hhas _
  have hafter : ({ session with network := (connection.destroy session.network).2 }.replace name
      (connection.destroy session.network).1).Named := hnamed.replace name _
  obtain ⟨rest, -, hchange, -⟩ := hnamed.split hhas
  rw [hperform]
  refine ⟨hafter.holding_iff.2 ?_, rfl⟩
  have hmem : (name, (connection.destroy session.network).1) ∈
      (session.replace name (connection.destroy session.network).1).held := by
    rw [hchange]
    exact Multiset.mem_cons_self _ _
  exact hmem

/-- Dropping a shell takes the connection from nobody. -/
theorem Named.drop_shell (hnamed : session.Named) (hhas : session.holding? name = some connection)
    (hlink : connection.link = .moved) : (session.perform (.drop name)).2.owners =
      session.owners := by
  have hperform : session.perform (.drop name) = (.done, session.drop name) := on_holding hhas _
  rw [hperform]
  unfold owners drop
  rw [hhas, List.filter_filter]
  refine List.filter_congr fun entry hmem => ?_
  by_cases hname : entry.1 = name
  · obtain ⟨key, found⟩ := entry
    obtain rfl : key = name := hname
    simp [hnamed.held_eq hhas hmem, hlink]
  · simp [hname]

/-- What the operations on a holding come to. -/
theorem Kept.answers (h : Kept identity session.network session.held)
    (hhas : session.holding? name = some connection) : session.Answers name connection := by
  have hnamed : session.Named := h.names
  have hsound : connection.Sound := h.sound _ (hnamed.holding_iff.1 hhas)
  refine ⟨hnamed.perform_write hhas hsound, ?_, ?_, ?_, ?_, h.moved hhas, hnamed.drop_shell hhas⟩
  · intro hready
    exact hnamed.establish_now hhas (if_pos hready)
  · intro error herror
    cases hneeded : connection.establishNow? with
    | some result =>
        rw [hnamed.establish_now hhas hneeded] at herror ⊢
        obtain rfl : result = .error error := by simpa using herror
        exact ⟨.inl (connection.establish_now_destroyed hneeded).2, session.now, Nat.le_refl _,
          session.network.failNext, Nat.le_refl _, rfl⟩
    | none =>
        obtain ⟨hrefused, hscript⟩ := hnamed.establish_failed hhas hsound hneeded herror
        exact ⟨.inr hrefused, hscript⟩
  · intro halive
    obtain ⟨hholds, hnetwork⟩ := hnamed.perform_destroy hhas
    obtain ⟨hdead, -⟩ | ⟨-, hgiven⟩ := (hsound.alive halive).destroy session.network
    · exact absurd (halive.symm.trans hdead) Bool.false_ne_true
    · rw [hgiven] at hholds hnetwork
      exact ⟨hholds, hnetwork, by rw [perform_drop hhas, hgiven]⟩
  · intro hdead
    have hnow : connection.establishNow? = some (.error .destroyed) := by
      rw [establishNow?, hsound.dead hdead, hdead]
      rfl
    have hperform : session.perform (.destroy name) =
        (.done, session.replace name connection) := by
      refine (on_holding hhas _).trans ?_
      rw [destroy_again hdead]
    refine ⟨hnamed.establish_now hhas hnow, hperform.trans ?_, ?_⟩
    · exact congrArg _ (hnamed.replace_same hhas session.now session.network)
    · rw [perform_drop hhas, destroy_again hdead]

/-- The link's own errors are never seen: the connection refuses before it asks a link that is
not connected or was moved away. -/
theorem Kept.link_errors (h : Kept identity session.network session.held) (operation : Operation)
    (error : LinkError) (hreply : (session.perform operation).1 = .link (.error error)) :
    error ≠ .linkClosed ∧ error ≠ .moved := by
  have hnamed : session.Named := h.names
  have hon : ∀ {name : String} {action : Connection → Reply × Session},
      (session.onHolding name action).1 = .link (.error error) →
      ∃ connection, session.holding? name = some connection ∧
        (action connection).1 = .link (.error error) := by
    intro name action hlink
    cases hhas : session.holding? name with
    | none =>
        rw [on_holding_none hhas] at hlink
        cases hlink
    | some connection =>
        rw [on_holding hhas] at hlink
        exact ⟨connection, rfl, hlink⟩
  cases operation with
  | establish holder =>
      obtain ⟨connection, hhas, -⟩ := hon hreply
      obtain ⟨rfl | rfl, -⟩ := (h.answers hhas).failed error hreply
      · exact ⟨by decide, by decide⟩
      · exact ⟨fun heq => (by cases congrArg LinkError.kind heq),
          fun heq => (by cases congrArg LinkError.kind heq)⟩
  | write holder bytes =>
      obtain ⟨connection, hhas, -⟩ := hon hreply
      rw [(h.answers hhas).write] at hreply
      split at hreply
      · cases hreply
      · cases hreply
        exact ⟨by decide, by decide⟩
  | wait | failNext | failAll | connectDelay => cases hreply
  | destroy | makeAvailable | markInUse | isStale | isIdleExpired | detach | drop | debug =>
      obtain ⟨connection, -, hlink⟩ := hon hreply
      cases hlink

/-- What is true from a moment on: the connection goes only with what is dropped and does not
come back, and once it is destroyed or gone nobody has an established connection any more. -/
structure Lasting (session : Session) : Prop where
  gone_iff (operation : Operation) : session.owners ≠ [] →
    ((session.perform operation).2.owners = [] ↔
      ∃ connection, session.dropped? operation = some connection ∧ connection.link ≠ .moved)
  gone (later : List Operation) : session.owners = [] → (session.after later).owners = []
  dead (later : List Operation) : (∀ entry ∈ session.owners, entry.2.destroyed = true) →
    ∀ entry ∈ (session.after later).holders,
      entry.2.destroyed = true ∧ entry.2.established = false

/-- Nobody has the connection if none of the holders has a link. -/
theorem owners_nil : session.owners = [] ↔ tally owned session.held = 0 := by
  rw [← length_owners, List.length_eq_zero_iff]

/-- If all of a count is nothing, each part of it is. -/
theorem tally_eq_zero (hzero : tally count held = 0) (hmem : entry ∈ held) :
    count entry.2 = 0 := by
  obtain ⟨rest, rfl⟩ := Multiset.exists_cons_of_mem hmem
  obtain ⟨name, connection⟩ := entry
  rw [tally_cons] at hzero
  exact (Nat.add_eq_zero_iff.1 hzero).1

/-- The balances say what is true from a moment on. -/
theorem Kept.lasting (h : Kept identity session.network session.held) : session.Lasting where
  gone_iff := by
    intro operation hsome
    have hstep := (perform_kept h operation).2.owners
    have hone := h.owners
    have hpos : tally owned session.held ≠ 0 := fun hzero => hsome (owners_nil.2 hzero)
    rw [owners_nil]
    cases hdropped : session.dropped? operation with
    | none =>
        rw [hdropped, Option.elim_none] at hstep
        simp only [reduceCtorEq, false_and, exists_false, iff_false]
        omega
    | some connection =>
        rw [hdropped, Option.elim_some] at hstep
        simp only [Option.some.injEq, exists_eq_left']
        by_cases hlink : connection.link = .moved
        · rw [owned, if_pos hlink] at hstep
          exact iff_of_false (by omega) (absurd hlink)
        · rw [owned, if_neg hlink] at hstep
          exact iff_of_true (by omega) hlink
  gone := by
    intro later hnone
    have howners := (after_kept h later).2.2
    rw [owners_nil] at hnone ⊢
    omega
  dead := by
    intro later hdead entry hmem
    obtain ⟨hkept, hforward, -⟩ := after_kept h later
    have hgiven : session.network.destroyed = 1 := by
      rcases h.in_one_hand.owner with ⟨-, hgone⟩ | ⟨name, connection, howners, -, hcount⟩
      · exact hgone
      · rw [howners, List.forall_mem_singleton] at hdead
        rw [hcount, if_pos hdead]
    have hzero : tally links (session.after later).held = 0 := by
      have hbalance := hkept.destroyed
      omega
    have hentry : entry.2.destroyed = true := by
      simpa [links] using tally_eq_zero hzero hmem
    exact ⟨hentry, (hkept.sound _ hmem).dead hentry⟩

/-- Whatever is done in a session, the connection is in one hand or gone, its link is connected
at most once and given up once, and those who hold it or a shell of it get what their operation
says. -/
theorem one_link_one_life (holder : String) (id generation : Nat) (poolId : UInt32)
    (address : Address)
    (operations : List Operation) :
    let session := (start holder id generation poolId address).after operations
    session.InOneHand ⟨id, generation, poolId, address⟩ ∧ session.Lasting ∧
      (∀ name connection, session.holding? name = some connection →
        session.Answers name connection) ∧
      ∀ operation error, (session.perform operation).1 = .link (.error error) →
        error ≠ .linkClosed ∧ error ≠ .moved := by
  have h := (after_kept (start_kept holder id generation poolId address) operations).1
  exact ⟨h.in_one_hand, h.lasting, fun _ _ => h.answers, h.link_errors⟩

/-- A connection that is established, moved and written to by its taker, and then replaced by a
shell. -/
example :
    let session := (start "a" 1 0 7 .localhost).after
      [.establish "a", .detach "a" "b", .write "b" 3, .write "a" 5, .detach "a" "b"]
    session.owners = [] ∧
      session.network =
        { created := 1, connects := 1, writes := 1, bytes := 3, destroyed := 1 } := by
  decide

end ConnectionPool.Connection.Session
