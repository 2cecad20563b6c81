import ConnectionPool.Connection.Session
import ConnectionPool.Proofs.Keyed
import ConnectionPool.Proofs.Links
import Mathlib.Algebra.BigOperators.Group.Multiset.Basic

/-!
# One link in many hands

In a session one connection goes from hand to hand. Whoever had it keeps a shell, and what its
taker had before is dropped. The link of the connection stays one: at any time one holder has it
or nobody, it is connected at most once, and it is given up once, at the latest when its holder
drops it. What an operation does to those who hold something is a `Passing`; three balances that
every passing keeps carry the whole session.
-/

namespace ConnectionPool

/-- An attempt may use up the script and changes nothing else. -/
theorem Network.attempt_script (network : Network) :
    ∃ left ≤ network.failNext, network.attempt.2 = { network with failNext := left } := by
  unfold Network.attempt
  split
  · exact ⟨network.failNext, Nat.le_refl _, rfl⟩
  · split
    · exact ⟨network.failNext, Nat.le_refl _, rfl⟩
    · exact ⟨network.failNext - 1, Nat.sub_le _ _, rfl⟩

namespace Connection

/-- The connection was moved away and only its shell is left: it has no link and is destroyed. -/
structure Hollow (connection : Connection) : Prop where
  link : connection.link = .moved
  dead : connection.destroyed = true
  idle : connection.established = false

/-- The connection has its link in the state that it says, or it is a shell. -/
def Sound (connection : Connection) : Prop :=
  connection.Wired ∨ connection.Hollow

/-- A connection that is no shell has a link. -/
def owned (connection : Connection) : Nat :=
  if connection.link = .moved then 0 else 1

/-- A connection that was neither established nor destroyed has a connect before it. -/
def unused (connection : Connection) : Nat :=
  if connection.established || connection.destroyed then 0 else 1

/-- What the use of a connection does to it and to the network: its identity and its link stay,
a link that is given up is counted, and so is a connect. -/
structure Changed (connection : Connection) (network : Network) (changed : Connection)
    (network' : Network) : Prop where
  sound : changed.Sound
  info : changed.info = connection.info
  owned : changed.owned = connection.owned
  created : network'.created = network.created
  forward : network.destroyed ≤ network'.destroyed
  destroyed : network'.destroyed + changed.links = network.destroyed + connection.links
  connects : network'.connects + changed.unused ≤ network.connects + connection.unused

variable {connection changed : Connection} {network network' : Network} {now : Instant}

/-- The shell that a move leaves is one, of the same identity. -/
theorem shell_hollow (connection : Connection) : connection.shell.Hollow :=
  ⟨rfl, rfl, rfl⟩

/-- A shell does not have the link of the connection. -/
theorem Hollow.owned (h : connection.Hollow) : connection.owned = 0 :=
  if_pos h.link

/-- A connection that has its link in the state it says has a link. -/
theorem Wired.owned (h : connection.Wired) : connection.owned = 1 := by
  rw [Connection.owned, h.link]
  rfl

/-- A connection that was destroyed is not established. -/
theorem Sound.dead (h : connection.Sound) (hdead : connection.destroyed = true) :
    connection.established = false := by
  rcases h with hwired | hhollow
  · exact hwired.dead hdead
  · exact hhollow.idle

/-- Only a connection that has a link is not destroyed. -/
theorem Sound.links_le (h : connection.Sound) : connection.links ≤ connection.owned := by
  rcases h with hwired | hhollow
  · rw [hwired.owned, links]
    split <;> omega
  · rw [links, if_pos hhollow.dead]
    exact Nat.zero_le _

/-- A connection that has a link has it in the state it says. -/
theorem Sound.wired (h : connection.Sound) (hlink : connection.link ≠ .moved) :
    connection.Wired :=
  h.resolve_right fun hhollow => hlink hhollow.link

/-- A connection that was not destroyed is no shell. -/
theorem Sound.alive (h : connection.Sound) (halive : connection.destroyed = false) :
    connection.Wired :=
  h.resolve_right fun hhollow => Bool.false_ne_true (halive.symm.trans hhollow.dead)

/-- Destroying a destroyed connection does nothing; its link is not told a second time. -/
theorem destroy_again (hdead : connection.destroyed = true) (network : Network) :
    connection.destroy network = (connection, network) :=
  if_pos hdead

/-- The use of a connection that leaves its link and both flags alone, and all counts. -/
theorem Sound.kept (h : connection.Sound) (info : changed.info = connection.info)
    (link : changed.link = connection.link) (established : changed.established =
      connection.established)
    (destroyed : changed.destroyed = connection.destroyed)
    (counts : network'.counts = network.counts) :
    connection.Changed network changed network' := by
  simp only [Network.counts, Prod.mk.injEq] at counts
  obtain ⟨hcreated, hconnects, hdestroyed⟩ := counts
  refine ⟨?_, info, by rw [owned, owned, link], hcreated, hdestroyed.ge, ?_, ?_⟩
  · rcases h with hwired | hhollow
    · exact .inl ⟨by rw [link, established, destroyed, hwired.link],
        by rw [destroyed, established]; exact hwired.dead⟩
    · exact .inr ⟨link.trans hhollow.link, destroyed.trans hhollow.dead,
        established.trans hhollow.idle⟩
  · rw [links, links, destroyed, hdestroyed]
  · rw [unused, unused, established, destroyed, hconnects]

/-- The use that destroys it. -/
theorem Sound.destroyed (h : connection.Sound) (network : Network) :
    connection.Changed network (connection.destroy network).1 (connection.destroy network).2 := by
  cases hdead : connection.destroyed with
  | true =>
      rw [destroy_again hdead]
      exact h.kept rfl rfl rfl rfl rfl
  | false =>
      have hwired := h.alive hdead
      obtain ⟨hdead', -⟩ | ⟨-, hchanged⟩ := hwired.destroy network
      · exact absurd (hdead.symm.trans hdead') Bool.false_ne_true
      · rw [hchanged]
        refine ⟨.inl ⟨rfl, fun _ => rfl⟩, rfl, hwired.owned.symm, rfl, Nat.le_succ _, ?_, ?_⟩
        · rw [links, links, if_pos rfl, if_neg (by simp [hdead])]
        · exact Nat.add_le_add_left (Nat.zero_le _) _

/-- A connect that is over fails as the script says and leaves the connection as it was, or
connects its link. -/
theorem Sound.connect (h : connection.Sound) (needed : connection.establishNow? = none)
    (network : Network) (now : Instant) :
    connection.connect network now =
      if network.attempt.1 then
        (.error (.refused connection.address), connection, network.attempt.2)
      else
        (.ok (),
          { connection with link := .simulated true false, established := true, lastUsed := now },
          { network.attempt.2 with connects := network.attempt.2.connects + 1 }) := by
  obtain ⟨hfresh, halive⟩ := (establish_now_none connection).1 needed
  have hlink : connection.link = .simulated false false := by
    rw [(h.alive halive).link, hfresh, halive]
  have hsame : { connection with link := .simulated false false } = connection := by rw [← hlink]
  unfold Connection.connect Link.connect
  rw [hlink]
  cases hfails : network.attempt.1 <;> simp [hfails, hsame]

/-- The use that finishes its connect. -/
theorem Sound.connected (h : connection.Sound) (needed : connection.establishNow? = none)
    (network : Network) (now : Instant) :
    connection.Changed network (connection.connect network now).2.1
      (connection.connect network now).2.2 := by
  obtain ⟨hfresh, halive⟩ := (establish_now_none connection).1 needed
  obtain ⟨left, -, hscript⟩ := network.attempt_script
  rw [h.connect needed, hscript]
  split
  · exact h.kept rfl rfl rfl rfl rfl
  · refine ⟨.inl ⟨by rw [halive], fun hdead => ?_⟩, rfl, (h.alive halive).owned.symm, rfl,
      Nat.le_refl _, rfl, ?_⟩
    · exact absurd (halive.symm.trans hdead) Bool.false_ne_true
    · rw [unused, unused, if_pos (by rw [Bool.true_or]), if_neg (by simp [hfresh, halive])]

/-- The use that establishes it, at once or by a connect that is over. -/
theorem Sound.established (h : connection.Sound) (network : Network) (now : Instant) :
    connection.Changed network (connection.establish network now).2.1
      (connection.establish network now).2.2 := by
  unfold Connection.establish
  cases hneeded : connection.establishNow? with
  | some result => exact h.kept rfl rfl rfl rfl rfl
  | none => exact h.connected hneeded network now

/-- Writing uses an established connection's link and is noted; any other connection refuses and
is left as it is, before its link is asked. -/
theorem Sound.write (h : connection.Sound) (bytes : Nat) (network : Network) (now : Instant) :
    connection.write bytes network now =
      if connection.established then
        (.ok (), { connection with lastUsed := now },
          { network with writes := network.writes + 1, bytes := network.bytes + bytes })
      else (.error .notEstablished, connection, network) := by
  cases hready : connection.established with
  | false => simp [Connection.write, hready]
  | true =>
      have halive : connection.destroyed = false := by
        by_contra hdead
        exact Bool.false_ne_true ((h.dead (by simpa using hdead)).symm.trans hready)
      simp [Connection.write, Link.write, (h.alive halive).link, hready, halive]

/-- The use that writes. -/
theorem Sound.written (h : connection.Sound) (bytes : Nat) (network : Network) (now : Instant) :
    connection.Changed network (connection.write bytes network now).2.1
      (connection.write bytes network now).2.2 := by
  rw [h.write]
  split <;> exact h.kept rfl rfl rfl rfl rfl

namespace Session

/-- The sum of a count over those who hold something. -/
def tally (count : Connection → Nat) (held : Multiset (String × Connection)) : Nat :=
  (held.map fun entry => count entry.2).sum

/-- Who holds what, in no order. -/
def held (session : Session) : Multiset (String × Connection) :=
  session.holders

variable {count : Connection → Nat} {held held' rest : Multiset (String × Connection)}
  {entry : String × Connection} {session : Session} {name taker : String}
  {identity : ConnectionInfo} {lost : Option Connection}

/-- One more who holds something adds its count. -/
theorem tally_cons :
    tally count ((name, connection) ::ₘ rest) = count connection + tally count rest := by
  rw [tally, Multiset.map_cons, Multiset.sum_cons, tally]

/-- What is true of those who hold something, at every moment: nobody is named twice, all of
them hold the connection or shells of it, at most one holds the connection itself, its link is
given up once or is still to be given up, and is connected at most once. -/
structure Kept (identity : ConnectionInfo) (network : Network)
    (held : Multiset (String × Connection)) : Prop where
  names : (held.map Prod.fst).Nodup
  sound : ∀ entry ∈ held, entry.2.Sound
  info : ∀ entry ∈ held, entry.2.info = identity
  owners : tally owned held ≤ 1
  created : network.created = 1
  destroyed : network.destroyed + tally links held = 1
  connects : network.connects + tally unused held ≤ 1

/-- What an operation does to those who hold something, and what is dropped on the way. -/
inductive Passing (network : Network) (held : Multiset (String × Connection)) :
    Option Connection → Network → Multiset (String × Connection) → Prop where
  | idle {network' : Network} (counts : network'.counts = network.counts) :
      Passing network held none network' held
  | used {name : String} {connection changed : Connection} {network' : Network}
      {rest : Multiset (String × Connection)} (split : held = (name, connection) ::ₘ rest)
      (change : connection.Changed network changed network') :
      Passing network held none network' ((name, changed) ::ₘ rest)
  | dropped {name : String} {connection : Connection} {rest : Multiset (String × Connection)}
      (split : held = (name, connection) ::ₘ rest) :
      Passing network held (some connection) (connection.destroy network).2 rest
  | moved {name taker : String} {connection : Connection} {rest : Multiset (String × Connection)}
      (split : held = (name, connection) ::ₘ rest) (empty : taker ∉ held.map Prod.fst) :
      Passing network held none network ((taker, connection) ::ₘ
        (name, connection.shell) ::ₘ rest)
  | replaced {name taker : String} {connection former : Connection}
      {rest : Multiset (String × Connection)}
      (split : held = (taker, former) ::ₘ (name, connection) ::ₘ rest) :
      Passing network held (some former) (former.destroy network).2
        ((taker, connection) ::ₘ (name, connection.shell) ::ₘ rest)

/-- How a holding goes on: nothing that was given up comes back, and the connection is gone only
with what is dropped. -/
structure Continued (network : Network) (held : Multiset (String × Connection))
    (lost : Option Connection) (network' : Network)
    (held' : Multiset (String × Connection)) : Prop where
  forward : network.destroyed ≤ network'.destroyed
  owners : tally owned held' + lost.elim 0 owned = tally owned held

/-- The use of what one of them holds keeps the balances. -/
theorem Kept.use (h : Kept identity network ((name, connection) ::ₘ rest))
    (change : connection.Changed network changed network') :
    Kept identity network' ((name, changed) ::ₘ rest) := by
  obtain ⟨hnames, hsound, hinfo, howners, hcreated, hdestroyed, hconnects⟩ := h
  rw [tally_cons] at howners hdestroyed hconnects
  rw [Multiset.forall_mem_cons] at hsound hinfo
  have hsame := change.owned
  have hlinks := change.destroyed
  have hunused := change.connects
  refine ⟨by simpa using hnames, ?_, ?_, ?_, change.created.trans hcreated, ?_, ?_⟩
  · exact Multiset.forall_mem_cons.2 ⟨change.sound, hsound.2⟩
  · exact Multiset.forall_mem_cons.2 ⟨change.info.trans hinfo.1, hinfo.2⟩
  all_goals
    rw [tally_cons]
    omega

/-- So does dropping what one of them holds: the link that went with it is counted. -/
theorem Kept.drop (h : Kept identity network ((name, connection) ::ₘ rest)) :
    Kept identity (connection.destroy network).2 rest := by
  have hchange : connection.Changed network (connection.destroy network).1
      (connection.destroy network).2 :=
    (h.sound _ (Multiset.mem_cons_self _ _)).destroyed network
  have hdead : (connection.destroy network).1.links = 0 := by
    unfold Connection.destroy
    split
    · exact if_pos ‹_›
    · rfl
  obtain ⟨hnames, hsound, hinfo, howners, hcreated, hdestroyed, hconnects⟩ := h.use hchange
  rw [tally_cons] at howners hdestroyed hconnects
  rw [hdead] at hdestroyed
  rw [Multiset.forall_mem_cons] at hsound hinfo
  rw [Multiset.map_cons, Multiset.nodup_cons] at hnames
  exact ⟨hnames.2, hsound.2, hinfo.2, by omega, hcreated, by omega, by omega⟩

/-- So does moving what one of them holds to somebody who holds nothing. -/
theorem Kept.move (h : Kept identity network ((name, connection) ::ₘ rest))
    (empty : taker ∉ ((name, connection) ::ₘ rest).map Prod.fst) :
    Kept identity network ((taker, connection) ::ₘ (name, connection.shell) ::ₘ rest) := by
  obtain ⟨hnames, hsound, hinfo, howners, hcreated, hdestroyed, hconnects⟩ := h
  have hshell : connection.shell.owned = 0 ∧ connection.shell.links = 0 ∧
      connection.shell.unused = 0 :=
    ⟨rfl, rfl, rfl⟩
  rw [tally_cons] at howners hdestroyed hconnects
  rw [Multiset.forall_mem_cons] at hsound hinfo
  refine ⟨?_, ?_, ?_, ?_, hcreated, ?_, ?_⟩
  · rw [Multiset.map_cons, Multiset.map_cons]
    rw [Multiset.map_cons] at hnames empty
    exact Multiset.nodup_cons.2 ⟨empty, hnames⟩
  · simp only [Multiset.forall_mem_cons]
    exact ⟨hsound.1, .inr connection.shell_hollow, hsound.2⟩
  · simp only [Multiset.forall_mem_cons]
    exact ⟨hinfo.1, hinfo.1, hinfo.2⟩
  all_goals
    rw [tally_cons, tally_cons]
    omega

/-- Every passing keeps them, and nothing comes back. -/
theorem Kept.pass (h : Kept identity network held)
    (pass : Passing network held lost network' held') :
    Kept identity network' held' ∧ Continued network held lost network' held' := by
  cases pass with
  | idle counts =>
      simp only [Network.counts, Prod.mk.injEq] at counts
      obtain ⟨hcreated, hconnects, hdestroyed⟩ := counts
      refine ⟨⟨h.names, h.sound, h.info, h.owners, hcreated.trans h.created, ?_, ?_⟩,
        hdestroyed.ge, rfl⟩
      · rw [hdestroyed]
        exact h.destroyed
      · rw [hconnects]
        exact h.connects
  | used split change =>
      subst split
      refine ⟨h.use change, change.forward, ?_⟩
      rw [tally_cons, tally_cons, change.owned]
      rfl
  | dropped split =>
      subst split
      have hforward := ((h.sound _ (Multiset.mem_cons_self _ _)).destroyed network).forward
      refine ⟨h.drop, hforward, ?_⟩
      rw [tally_cons, Nat.add_comm]
      rfl
  | moved split empty =>
      subst split
      refine ⟨h.move empty, Nat.le_refl _, ?_⟩
      rw [tally_cons, tally_cons, tally_cons, shell_hollow _ |>.owned, Nat.zero_add]
      rfl
  | replaced split =>
      subst split
      have hforward := ((h.sound _ (Multiset.mem_cons_self _ _)).destroyed network).forward
      have hempty := h.names
      rw [Multiset.map_cons, Multiset.nodup_cons] at hempty
      refine ⟨h.drop.move hempty.1, hforward, ?_⟩
      simp only [tally_cons, (shell_hollow _).owned, Option.elim_some]
      omega

/-- The names of those who hold something differ. -/
def Named (session : Session) : Prop :=
  (session.holders.map Prod.fst).Nodup

/-- What a holder has stands beside what the others have. -/
theorem Named.split (hnamed : session.Named) (hhas : session.holding? name = some connection) :
    ∃ rest : Multiset (String × Connection),
      session.held = (name, connection) ::ₘ rest ∧
      (∀ changed, (session.replace name changed).held = (name, changed) ::ₘ rest) ∧
      (session.drop name).held = rest := by
  obtain ⟨⟨key, found⟩, hfind, rfl⟩ := Option.map_eq_some_iff.1 hhas
  obtain ⟨rest, hall, hchange, hkeep, rfl⟩ := Keyed.find_split hnamed hfind
  refine ⟨rest, hall, fun changed => hchange fun _ => (key, changed), ?_⟩
  rw [drop, hhas]
  exact hkeep _ fun entry => by simp

/-- Those who hold something are found by their names. -/
theorem Named.holding_iff (hnamed : session.Named) :
    session.holding? name = some connection ↔ (name, connection) ∈ session.held := by
  constructor
  · intro hhas
    obtain ⟨rest, hall, -⟩ := hnamed.split hhas
    rw [hall]
    exact Multiset.mem_cons_self _ _
  · intro hmem
    exact Option.map_eq_some_iff.2 ⟨_, Keyed.find_of_mem hnamed (Multiset.mem_coe.1 hmem), rfl⟩

/-- Who is not found holds nothing. -/
theorem holding_none :
    session.holding? name = none ↔ name ∉ session.held.map Prod.fst := by
  rw [holding?, Option.map_eq_none_iff, List.find?_eq_none, held, Multiset.map_coe,
    Multiset.mem_coe, List.mem_map, not_exists]
  exact forall_congr' fun entry => by rw [not_and, beq_iff_eq]

/-- Changing what a holder has keeps the names. -/
theorem Named.replace (hnamed : session.Named) (name : String) (changed : Connection) :
    (session.replace name changed).Named := by
  unfold Named Session.replace
  rw [Keyed.map_keys]
  · exact hnamed
  · intro entry
    split
    · exact Eq.symm ‹_›
    · rfl

/-- A holder gets a connection beside what is left of the others when its own is dropped. -/
theorem give_held (session : Session) (taker : String) (connection : Connection) :
    (session.give taker connection).held = (taker, connection) ::ₘ (session.drop taker).held :=
  Multiset.coe_eq_coe.2 (List.perm_append_singleton _ _)

/-- Giving changes the network by what it drops. -/
theorem give_network (session : Session) (taker : String) (connection : Connection) :
    (session.give taker connection).network = (session.drop taker).network :=
  rfl

/-- A holder that has nothing has nothing to drop. -/
theorem drop_none (hnone : session.holding? name = none) : session.drop name = session := by
  rw [drop, hnone]

/-- What a holder has is destroyed when it is dropped. -/
theorem drop_network (hhas : session.holding? name = some connection) :
    (session.drop name).network = (connection.destroy session.network).2 := by
  rw [drop, hhas]

/-- What an operation drops: what the holder of a drop has, and what the taker of a move had. -/
def dropped? (session : Session) : Operation → Option Connection
  | .drop holder => session.holding? holder
  | .detach holder taker =>
      if holder = taker then none
      else (session.holding? holder).bind fun _ => session.holding? taker
  | _ => none

/-- Moving what a holder has is a passing. -/
theorem Named.detach (hnamed : session.Named) (hhas : session.holding? name = some connection)
    (taker : String) :
    Passing session.network session.held (session.dropped? (.detach name taker))
      ((session.replace name connection.shell).give taker connection).network
      ((session.replace name connection.shell).give taker connection).held := by
  obtain ⟨rest, hall, hchange, -⟩ := hnamed.split hhas
  have hshell := hchange connection.shell
  have hnamed' := hnamed.replace name connection.shell
  have hnetwork : (session.replace name connection.shell).network = session.network := rfl
  generalize session.replace name connection.shell = after at hshell hnamed' hnetwork
  rw [give_held, give_network, ← hnetwork]
  by_cases hself : name = taker
  · -- The shell that was left is dropped at once, and the connection is back.
    subst hself
    have hhas' : after.holding? name = some connection.shell :=
      hnamed'.holding_iff.2 (hshell ▸ Multiset.mem_cons_self _ _)
    obtain ⟨rest', hall', -, hdrop⟩ := hnamed'.split hhas'
    have hrest : rest' = rest := (Multiset.cons_inj_right _).1 (hall'.symm.trans hshell)
    rw [hdrop, hrest, ← hall, drop_network hhas',
      destroy_again connection.shell_hollow.dead, dropped?, if_pos rfl]
    exact .idle rfl
  · cases htaker : session.holding? taker with
    | none =>
        have hempty := holding_none.1 htaker
        have hempty' : after.holding? taker = none := by
          rw [holding_none, hshell, Multiset.map_cons]
          rwa [hall, Multiset.map_cons] at hempty
        rw [drop_none hempty', hshell, dropped?, if_neg hself, hhas, Option.bind_some, htaker]
        exact .moved hall hempty
    | some former =>
        have hmem : (taker, former) ∈ rest := by
          have hmem := hnamed.holding_iff.1 htaker
          rw [hall] at hmem
          exact (Multiset.mem_cons.1 hmem).resolve_left fun heq =>
            hself (congrArg Prod.fst heq).symm
        obtain ⟨others, rfl⟩ := Multiset.exists_cons_of_mem hmem
        have htaker' : after.holding? taker = some former :=
          hnamed'.holding_iff.2 (hshell ▸ Multiset.mem_cons_of_mem (Multiset.mem_cons_self _ _))
        obtain ⟨rest', hall', -, hdrop⟩ := hnamed'.split htaker'
        have hrest : rest' = (name, connection.shell) ::ₘ others :=
          (Multiset.cons_inj_right _).1
            (hall'.symm.trans (hshell.trans (Multiset.cons_swap _ _ _)))
        rw [hdrop, hrest, drop_network htaker', dropped?, if_neg hself, hhas,
          Option.bind_some, htaker]
        exact .replaced (hall.trans (Multiset.cons_swap _ _ _))

/-- Using what a holder has is a passing, whatever time it takes. -/
theorem Named.use (hnamed : session.Named) (hhas : session.holding? name = some connection)
    (now : Instant) (change : connection.Changed session.network changed network') :
    Passing session.network session.held none network'
      ({ session with now := now, network := network' }.replace name changed).held := by
  obtain ⟨rest, hall, hchange, -⟩ := hnamed.split hhas
  have hheld : ({ session with now := now, network := network' }.replace name changed).held =
      (name, changed) ::ₘ rest := hchange changed
  rw [hheld]
  exact .used hall change

/-- What an operation on a holding does is done to what is held. -/
theorem on_holding (hhas : session.holding? name = some connection)
    (action : Connection → Reply × Session) : session.onHolding name action =
      action connection := by
  rw [onHolding, hhas]

/-- Who holds nothing can do nothing. -/
theorem on_holding_none (hnone : session.holding? name = none)
    (action : Connection → Reply × Session) :
    session.onHolding name action = (.noConnection, session) := by
  rw [onHolding, hnone]

/-- Every operation is a passing. -/
theorem perform_pass (h : Kept identity session.network session.held) (operation : Operation) :
    Passing session.network session.held (session.dropped? operation)
      (session.perform operation).2.network (session.perform operation).2.held := by
  have hnamed : session.Named := h.names
  -- An operation on the hands of somebody who has nothing does nothing.
  have hon : ∀ {name : String} {action : Connection → Reply × Session},
      (session.holding? name = none → session.dropped? operation = none) →
      (∀ connection, session.holding? name = some connection → connection.Sound →
        Passing session.network session.held (session.dropped? operation)
          (action connection).2.network (action connection).2.held) →
      Passing session.network session.held (session.dropped? operation)
        (session.onHolding name action).2.network (session.onHolding name action).2.held := by
    intro name action hnone hsome
    cases hhas : session.holding? name with
    | none =>
        rw [on_holding_none hhas, hnone hhas]
        exact .idle rfl
    | some connection =>
        rw [on_holding hhas]
        exact hsome connection hhas (h.sound _ (hnamed.holding_iff.1 hhas))
  cases operation with
  | wait ms => exact .idle rfl
  | failNext count => exact .idle rfl
  | failAll on => exact .idle rfl
  | connectDelay ms => exact .idle rfl
  | establish holder =>
      exact hon (fun _ => rfl) fun connection hhas hsound =>
        hnamed.use hhas _ (hsound.established _ _)
  | write holder bytes =>
      exact hon (fun _ => rfl) fun connection hhas hsound =>
        hnamed.use hhas _ (hsound.written bytes _ _)
  | destroy holder =>
      exact hon (fun _ => rfl) fun connection hhas hsound =>
        hnamed.use hhas _ (hsound.destroyed _)
  | makeAvailable holder =>
      exact hon (fun _ => rfl) fun connection hhas hsound =>
        hnamed.use hhas _ (hsound.kept rfl rfl rfl rfl rfl)
  | markInUse holder =>
      exact hon (fun _ => rfl) fun connection hhas hsound =>
        hnamed.use hhas _ (hsound.kept rfl rfl rfl rfl rfl)
  | isStale holder generation => exact hon (fun _ => rfl) fun connection hhas hsound => .idle rfl
  | isIdleExpired holder limit ahead back =>
      exact hon (fun _ => rfl) fun connection hhas hsound => .idle rfl
  | detach holder taker =>
      refine hon (fun hnone => ?_) fun connection hhas hsound => hnamed.detach hhas taker
      rw [dropped?, hnone, Option.bind_none, ite_self]
  | drop holder =>
      refine hon (fun hnone => hnone) fun connection hhas hsound => ?_
      obtain ⟨rest, hall, -, hdrop⟩ := hnamed.split hhas
      show Passing session.network session.held (session.holding? holder)
        (session.drop holder).network (session.drop holder).held
      rw [hhas, drop_network hhas, hdrop]
      exact .dropped hall
  | debug holder => exact hon (fun _ => rfl) fun connection hhas hsound => .idle rfl

/-- The session after operations. -/
def after (session : Session) (operations : List Operation) : Session :=
  operations.foldl (fun session operation => (session.perform operation).2) session

/-- A new session keeps the balances: its holder has the connection, fresh. -/
theorem start_kept (holder : String) (id generation : Nat) (poolId : UInt32) (address : Address) :
    let session := start holder id generation poolId address
    Kept ⟨id, generation, poolId, address⟩ session.network session.held where
  names := Multiset.nodup_singleton holder
  sound := by
    intro entry hmem
    rw [Multiset.mem_singleton.1 hmem]
    exact .inl ⟨rfl, fun hdead => by cases hdead⟩
  info := by
    intro entry hmem
    rw [Multiset.mem_singleton.1 hmem]
    rfl
  owners := Nat.le_refl 1
  created := rfl
  destroyed := rfl
  connects := Nat.le_refl 1

/-- One operation keeps the balances, and nothing comes back. -/
theorem perform_kept (h : Kept identity session.network session.held) (operation : Operation) :
    Kept identity (session.perform operation).2.network (session.perform operation).2.held ∧
      Continued session.network session.held (session.dropped? operation)
        (session.perform operation).2.network (session.perform operation).2.held :=
  h.pass (perform_pass h operation)

/-- So do any operations. -/
theorem after_kept (h : Kept identity session.network session.held)
    (operations : List Operation) :
    Kept identity (session.after operations).network (session.after operations).held ∧
      session.network.destroyed ≤ (session.after operations).network.destroyed ∧
      tally owned (session.after operations).held ≤ tally owned session.held := by
  induction operations generalizing session with
  | nil => exact ⟨h, Nat.le_refl _, Nat.le_refl _⟩
  | cons operation operations ih =>
      obtain ⟨hnext, honward⟩ := perform_kept h operation
      obtain ⟨hkept, hforward, howners⟩ := ih hnext
      have hstep := honward.owners
      exact ⟨hkept, honward.forward.trans hforward, howners.trans (by omega)⟩

end Session
end Connection
end ConnectionPool
