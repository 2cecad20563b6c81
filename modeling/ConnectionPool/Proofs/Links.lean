import ConnectionPool.Proofs.Pool.Dialling
import ConnectionPool.Proofs.RunLoop

/-!
# Every link is given up once

A pool makes a link for each connection. What a move does to links is a `Wiring`: a link is
made, is used by the connection that has it, or is given up with it. No link goes back: it is
fresh, then connected, then given up, each at most once.
-/

namespace ConnectionPool

/-- The links that were made, connected and given up. -/
def Network.counts (network : Network) : Nat × Nat × Nat :=
  (network.created, network.connects, network.destroyed)

namespace Connection

/-- The link of the connection is a simulated one, in the state that the connection says. -/
structure Wired (connection : Connection) : Prop where
  link : connection.link = .simulated connection.established connection.destroyed
  dead : connection.destroyed = true → connection.established = false

/-- How far the link of the connection is: fresh, connected or given up. -/
def stage (connection : Connection) : Nat :=
  if connection.destroyed then 2 else if connection.established then 1 else 0

/-- What becomes of a connection whose link is used, and of the network: its link stays as it
is, a connect is over, or the connection is destroyed. -/
inductive Used (connection : Connection) (network : Network) (now : Instant) :
    Connection → Network → Prop where
  | kept {changed : Connection} {network' : Network} (id : changed.id = connection.id)
      (link : changed.link = connection.link) (established : changed.established =
        connection.established)
      (destroyed : changed.destroyed = connection.destroyed)
      (counts : network'.counts = network.counts) : Used connection network now changed network'
  | connected (needed : connection.establishNow? = none) :
      Used connection network now (connection.connect network now).2.1
        (connection.connect network now).2.2
  | destroyed :
      Used connection network now (connection.destroy network).1 (connection.destroy network).2

variable {connection changed : Connection} {network network' : Network} {now : Instant}

/-- A connect that is over has connected the link, or has changed nothing. -/
theorem Wired.connect (h : connection.Wired) (needed : connection.establishNow? = none)
    (network : Network) (now : Instant) :
    ((connection.connect network now).2.1 = connection ∧
        (connection.connect network now).2.2.counts = network.counts) ∨
      (connection.connect network now).2.1 =
          { connection with
            link := .simulated true false, established := true, lastUsed := now } ∧
        (connection.connect network now).2.2.counts =
          (network.created, network.connects + 1, network.destroyed) := by
  obtain ⟨hfresh, halive⟩ := (establish_now_none connection).1 needed
  have hlink : connection.link = .simulated false false := by rw [h.link, hfresh, halive]
  have hattempt : network.attempt.2.counts = network.counts ∧
      network.attempt.2.connects = network.connects := by
    unfold Network.attempt
    split
    · exact ⟨rfl, rfl⟩
    · split <;> exact ⟨rfl, rfl⟩
  unfold Connection.connect Link.connect
  rw [hlink]
  generalize network.attempt = attempt at hattempt
  obtain ⟨fails, after⟩ := attempt
  cases fails with
  | true =>
      refine .inl ⟨?_, hattempt.1⟩
      show { connection with link := .simulated false false } = connection
      rw [← hlink]
  | false =>
      refine .inr ⟨rfl, ?_⟩
      obtain ⟨hcounts, hconnects⟩ := hattempt
      simp only [Network.counts, Prod.mk.injEq] at hcounts
      simp only [Network.counts, if_neg Bool.false_ne_true, hcounts]

/-- Destroying a connection gives up its link, once. -/
theorem Wired.destroy (h : connection.Wired) (network : Network) :
    (connection.destroyed = true ∧ connection.destroy network = (connection, network)) ∨
      connection.destroyed = false ∧ connection.destroy network =
        ({ connection with
            destroyed := true, established := false, link := .simulated false true },
          { network with destroyed := network.destroyed + 1 }) := by
  cases hdead : connection.destroyed with
  | true => exact .inl ⟨rfl, if_pos hdead⟩
  | false =>
      refine .inr ⟨rfl, ?_⟩
      rw [Connection.destroy, if_neg (by simp [hdead]), h.link, hdead]
      rfl

/-- A destroyed connection has its link given up and the others have not. -/
def links (connection : Connection) : Nat :=
  if connection.destroyed then 0 else 1

/-- Destroying a connection is counted if it was not destroyed, and nothing else is. -/
theorem Wired.destroy_counts (h : connection.Wired) (network : Network) :
    (connection.destroy network).2.created = network.created ∧
      (connection.destroy network).2.connects = network.connects ∧
      (connection.destroy network).2.destroyed = network.destroyed + connection.links := by
  rcases h.destroy network with ⟨hdead, hsame⟩ | ⟨halive, hchanged⟩
  · rw [hsame]
    exact ⟨rfl, rfl, by rw [links, if_pos hdead, Nat.add_zero]⟩
  · rw [hchanged]
    exact ⟨rfl, rfl, by rw [links, if_neg (by simp [halive])]⟩

/-- What the use of its link does to a connection and to the counts: it keeps its id, its link
does not go back, a link that is given up is counted, and so is one that is connected. -/
structure Onward (connection : Connection) (network : Network) (changed : Connection)
    (network' : Network) : Prop where
  id : changed.id = connection.id
  wired : changed.Wired
  stage : connection.stage ≤ changed.stage
  created : network'.created = network.created
  destroyed : network'.destroyed + changed.links = network.destroyed + connection.links
  connects : network.connects ≤ network'.connects
  connected : changed.established = true → connection.established = false →
    network.connects + 1 ≤ network'.connects

/-- The use of a link is of this kind. -/
theorem Used.onward (used : connection.Used network now changed network') (h : connection.Wired) :
    connection.Onward network changed network' := by
  cases used with
  | kept id link established destroyed counts =>
      simp only [Network.counts, Prod.mk.injEq] at counts
      obtain ⟨hcreated, hconnects, hdestroyed⟩ := counts
      refine ⟨id, ⟨by rw [link, established, destroyed, h.link], ?_⟩, ?_, hcreated, ?_,
        hconnects.ge, ?_⟩
      · rw [established, destroyed]
        exact h.dead
      · rw [Connection.stage, Connection.stage, established, destroyed]
      · rw [links, links, destroyed, hdestroyed]
      · intro hyes hno
        rw [established, hno] at hyes
        cases hyes
  | connected needed =>
      obtain ⟨hfresh, halive⟩ := (establish_now_none connection).1 needed
      rcases h.connect needed network now with ⟨hsame, hcounts⟩ | ⟨hchanged, hcounts⟩
      · rw [hsame]
        simp only [Network.counts, Prod.mk.injEq] at hcounts
        obtain ⟨hcreated, hconnects, hdestroyed⟩ := hcounts
        refine ⟨rfl, h, Nat.le_refl _, hcreated, by rw [hdestroyed], hconnects.ge, ?_⟩
        intro hyes
        rw [hfresh] at hyes
        cases hyes
      · rw [hchanged]
        simp only [Network.counts, Prod.mk.injEq] at hcounts
        obtain ⟨hcreated, hconnects, hdestroyed⟩ := hcounts
        refine ⟨rfl, ⟨by rw [halive], fun hdead => ?_⟩, ?_, hcreated, ?_, ?_,
          fun _ _ => hconnects.ge⟩
        · rw [halive] at hdead
          cases hdead
        · simp [Connection.stage, hfresh, halive]
        · rw [hdestroyed]
          rfl
        · rw [hconnects]
          exact Nat.le_succ _
  | destroyed =>
      rcases h.destroy network with ⟨-, hsame⟩ | ⟨halive, hchanged⟩
      · rw [hsame]
        refine ⟨rfl, h, Nat.le_refl _, rfl, rfl, Nat.le_refl _, ?_⟩
        intro hyes hno
        rw [hno] at hyes
        cases hyes
      · rw [hchanged]
        refine ⟨rfl, ⟨rfl, fun _ => rfl⟩, ?_, rfl, ?_, Nat.le_refl _, fun hyes => by cases hyes⟩
        · simp only [Connection.stage, if_true]
          split
          · exact Nat.le_refl _
          · split <;> omega
        · simp [links, halive]

/-- What a borrower does to a connection uses its link. -/
theorem Handled.used (h : connection.Handled network now changed network') :
    connection.Used network now changed network' := by
  cases h with
  | write bytes =>
      have hcounts : (connection.link.write bytes network).2.counts = network.counts := by
        cases connection.link with
        | simulated connected destroyed => cases connected <;> cases destroyed <;> rfl
        | socket => rfl
        | moved => rfl
      unfold Connection.write
      split
      · exact .kept rfl rfl rfl rfl rfl
      · generalize connection.link.write bytes network = written at hcounts
        split <;> exact .kept rfl rfl rfl rfl hcounts
  | establish =>
      unfold Connection.establish
      cases hnow : connection.establishNow? with
      | none => exact .connected hnow
      | some result => exact .kept rfl rfl rfl rfl rfl
  | destroy => exact .destroyed

end Connection

/-! ## What moves do to links -/

/-- What a move does to the links of a pool. -/
inductive Wiring (h : Holdings) : Holdings → Prop where
  | still {h' : Holdings} (same : h'.places = h.places)
      (count : h'.stock.nextConnection = h.stock.nextConnection)
      (counts : h'.stock.network.counts = h.stock.network.counts) : Wiring h h'
  | made {h' : Holdings} (place : Place)
      (after : h'.places = (place, h.stock.newborn) ::ₘ h.places)
      (count : h'.stock.nextConnection = h.stock.nextConnection + 1)
      (network : h'.stock.network = (h.stock.source.create h.stock.network).2) : Wiring h h'
  | used {h' : Holdings} {place place' : Place} {connection connection' : Connection}
      (rest : Multiset (Place × Connection)) (before : h.places = (place, connection) ::ₘ rest)
      (after : h'.places = (place', connection') ::ₘ rest)
      (count : h'.stock.nextConnection = h.stock.nextConnection)
      (use : connection.Used h.stock.network h.stock.now connection' h'.stock.network) :
      Wiring h h'
  | givenUp {h' : Holdings} {connection : Connection} (place : Place)
      (before : h.places = (place, connection) ::ₘ h'.places)
      (count : h'.stock.nextConnection = h.stock.nextConnection)
      (network : h'.stock.network = (connection.destroy h.stock.network).2) : Wiring h h'

variable {h h' : Holdings} {connection : Connection}

/-- A connection that is discarded is given up with its link. -/
theorem Wiring.discarded (stock : Inventory) (place : Place) (reason : CloseReason)
    (hstock : h'.stock = stock.discard connection reason)
    (hnetwork : stock.network = h.stock.network)
    (hcount : stock.nextConnection = h.stock.nextConnection)
    (hplaces : h.places = (place, connection) ::ₘ h'.places) : Wiring h h' := by
  refine .givenUp place hplaces ?_ ?_
  · rw [hstock, Inventory.discard_count, hcount]
  · rw [hstock, Inventory.discard_eq, hnetwork]

/-- A connection that goes from place to place keeps its link. -/
theorem Wiring.moved {place place' : Place} {connection' : Connection}
    (rest : Multiset (Place × Connection)) (before : h.places = (place, connection) ::ₘ rest)
    (after : h'.places = (place', connection') ::ₘ rest)
    (count : h'.stock.nextConnection = h.stock.nextConnection)
    (network : h'.stock.network = h.stock.network)
    (same : connection' = connection ∨ connection' = connection.markInUse ∨
      ∃ now, connection' = connection.makeAvailable now) : Wiring h h' := by
  refine .used rest before after count ?_
  rw [network]
  rcases same with rfl | rfl | ⟨now, rfl⟩ <;> exact .kept rfl rfl rfl rfl rfl

/-- What every move does to links. -/
theorem Move.wiring (move : Move h h') : Wiring h h' := by
  cases move with
  | started | failed | cleared | elapsed | scripted => exact .still rfl rfl rfl
  | retired first closed =>
      refine Wiring.discarded _ .idle .poolClosed rfl rfl rfl ?_
      simp [Holdings.places, first, Inventory.discard_eq]
  | evicted first isOpen due =>
      refine Wiring.discarded _ .idle _ rfl rfl rfl ?_
      simp [Holdings.places, first, Inventory.discard_eq]
  | @reused c idle first isOpen usable =>
      have hbefore : h.places = (.idle, c) ::ₘ
          placed idle h.carried h.dialled h.borrowed h.filling := by
        simp [Holdings.places, first]
      exact .moved _ hbefore (placed_carried _ _ _ _ _ _) rfl rfl (.inr (.inl rfl))
  | produced noneIdle isOpen room => exact .made .carried (placed_carried _ _ _ _ _ _) rfl rfl
  | @reclaimed c rest held =>
      have hbefore : h.places = (.carried, c) ::ₘ
          placed h.stock.available rest h.dialled h.borrowed h.filling := by
        simp [Holdings.places, held]
      cases hreason : h.stock.returnReason? c with
      | none =>
          rw [Inventory.reclaim_wanted hreason]
          exact .moved _ hbefore (placed_back _ _ _ _ _ _) rfl rfl (.inr (.inr ⟨_, rfl⟩))
      | some reason =>
          rw [Inventory.reclaim_unwanted hreason]
          refine Wiring.discarded _ .carried reason rfl rfl rfl ?_
          simp [Holdings.places, held, Inventory.discard_eq, Inventory.giveBack]
  | @forfeited c rest held dead =>
      refine Wiring.discarded _ .carried .unknown rfl rfl rfl ?_
      simp [Holdings.places, held, Inventory.discard_eq, Inventory.giveBack]
  | @dialled c rest held needed =>
      have hbefore : h.places = (.carried, c) ::ₘ
          placed h.stock.available rest h.dialled h.borrowed h.filling := by
        simp [Holdings.places, held]
      exact .used _ hbefore (placed_dialled _ _ _ _ _ _) rfl (.connected needed)
  | @readied c rest held connected =>
      have hbefore : h.places = (.dialled, c) ::ₘ
          placed h.stock.available h.carried rest h.borrowed h.filling := by
        simp [Holdings.places, held]
      exact .moved _ hbefore (placed_carried _ _ _ _ _ _) rfl rfl (.inl rfl)
  | @refused c rest held failed =>
      refine Wiring.discarded _ .dialled .unknown rfl rfl rfl ?_
      simp [Holdings.places, held, Inventory.discard_eq, Inventory.giveBack]
  | @handled c changed network rest held change =>
      have hbefore : h.places = (.lent, c) ::ₘ
          placed h.stock.available h.carried h.dialled rest h.filling := by
        simp [Holdings.places, held]
      exact .used _ hbefore (placed_lent _ _ _ _ _ _) rfl change.used
  | @released c rest held known force =>
      have hbefore : h.places = (.lent, c) ::ₘ
          placed h.stock.available h.carried h.dialled rest h.filling := by
        simp [Holdings.places, held]
      rcases Inventory.release_known known force with ⟨hwanted, hstock⟩ | ⟨reason, hstock⟩
      · rw [hstock]
        exact .moved _ hbefore (placed_back _ _ _ _ _ _) rfl rfl (.inr (.inr ⟨_, rfl⟩))
      · rw [hstock]
        refine Wiring.discarded _ .lent reason rfl rfl rfl ?_
        simp [Holdings.places, held, Inventory.discard_eq, Inventory.emit, Inventory.giveBack]
  | reserved wanted => exact .made .filling (placed_filling _ _ _ _ _ _) rfl rfl
  | @filled c rest held needed =>
      have hbefore : h.places = (.filling, c) ::ₘ
          placed h.stock.available h.carried h.dialled h.borrowed rest := by
        simp [Holdings.places, held]
      exact .used _ hbefore (placed_filling _ _ _ _ _ _) rfl (.connected needed)
  | @stocked c rest held connected wanted =>
      have hbefore : h.places = (.filling, c) ::ₘ
          placed h.stock.available h.carried h.dialled h.borrowed rest := by
        simp [Holdings.places, held]
      exact .moved _ hbefore (placed_back _ _ _ _ _ _) rfl rfl (.inr (.inr ⟨_, rfl⟩))
  | @unwanted c rest reason held connected refused =>
      refine Wiring.discarded _ .filling reason rfl rfl rfl ?_
      simp [Holdings.places, held, Inventory.discard_eq, Inventory.emit]
  | @abandoned c rest held =>
      refine Wiring.discarded _ .filling .unknown rfl rfl rfl ?_
      simp [Holdings.places, held, Inventory.discard_eq]

/-- Announcing a connection keeps its link. -/
theorem Announced.wiring (announced : Announced connection h h') : Wiring h h' := by
  cases announced with
  | @mk _ _ rest held wanted established =>
      have hbefore : h.places = (.carried, connection) ::ₘ
          placed h.stock.available rest h.dialled h.borrowed h.filling := by
        simp [Holdings.places, held]
      exact .moved _ hbefore (placed_lent _ _ _ _ _ _) rfl rfl (.inl rfl)

end ConnectionPool
