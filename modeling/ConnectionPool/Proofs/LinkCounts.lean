import ConnectionPool.Proofs.Links
import ConnectionPool.Proofs.Pool.Gone
import Mathlib.Algebra.GroupWithZero.Nat
import Mathlib.Data.Finset.Card
import Mathlib.Data.Finset.Union
import Mathlib.Order.Interval.Finset.Nat

/-!
# No link is leaked

A pool over a simulated network that is its own: what the network counts is what became of the
links of the pool's connections. `Linked` relates the links made and those given up to the
connections that there are, and `Reached` says that the links of some connections are past a
stage, which stays so. With the ids of those that were ever connected it follows that every link
is connected at most once and given up at most once, and that none is left when nobody has a
part in the pool any more: `links_accounted`.
-/

namespace ConnectionPool

variable {h h' : Holdings} {connection : Connection} {seen : Finset Nat} {stage : Nat}

namespace Holdings

/-- The number of links that are not given up. -/
def links (h : Holdings) : Nat :=
  (h.places.map fun x => x.2.links).sum

/-- The ids of the connections that are connected. -/
def connected (h : Holdings) : Finset Nat :=
  ((h.places.filter fun x => x.2.established = true).map fun x => x.2.id).toFinset

/-- The ids of the connections that are connected are those of some that are established. -/
theorem mem_connected {id : Nat} :
    id ∈ h.connected ↔ ∃ x ∈ h.places, x.2.established = true ∧ x.2.id = id := by
  simp only [connected, Multiset.mem_toFinset, Multiset.mem_map, Multiset.mem_filter, and_assoc]

/-- The connections have simulated links, as many were made as ids were given out, and those
that were not given up are there. -/
structure Linked (h : Holdings) : Prop where
  source : h.stock.source = .simulated
  wired : ∀ x ∈ h.places, x.2.Wired
  made : h.stock.network.created + 1 = h.stock.nextConnection
  whole : h.stock.network.created = h.stock.network.destroyed + h.links

/-- The ids were given out, and the links of these connections are at this stage at least, if
the connections are there at all. -/
structure Reached (seen : Finset Nat) (stage : Nat) (h : Holdings) : Prop where
  issued : ∀ id ∈ seen, id < h.stock.nextConnection
  past : ∀ x ∈ h.places, x.2.id ∈ seen → stage ≤ x.2.stage

/-- The connects are as many at least as the connections that were connected once or are so
now. -/
def Dialled (seen : Finset Nat) (h : Holdings) : Prop :=
  (seen ∪ h.connected).card ≤ h.stock.network.connects

/-- Connections that were there before are connected if they were so. -/
theorem connected_subset (hplaces : ∀ x ∈ h'.places, x.2.established = true → x ∈ h.places) :
    h'.connected ⊆ h.connected := by
  intro id hid
  obtain ⟨x, hx, hestablished, hid⟩ := mem_connected.1 hid
  exact mem_connected.2 ⟨x, hplaces x hx hestablished, hestablished, hid⟩

/-- Nothing was connected that was not so before. -/
theorem Dialled.keep (hdialled : Dialled seen h) (hsubset : h'.connected ⊆ h.connected)
    (hconnects : h.stock.network.connects ≤ h'.stock.network.connects) : Dialled seen h' := by
  have hcard : (seen ∪ h'.connected).card ≤ (seen ∪ h.connected).card :=
    Finset.card_le_card (Finset.union_subset_union_right hsubset)
  exact (hcard.trans hdialled).trans hconnects

/-- One connection was connected that was not so before, and this was counted. -/
theorem Dialled.gain (hdialled : Dialled seen h) {id : Nat}
    (hsubset : h'.connected ⊆ insert id h.connected)
    (hconnects : h.stock.network.connects + 1 ≤ h'.stock.network.connects) : Dialled seen h' :=
  calc (seen ∪ h'.connected).card
      ≤ (insert id (seen ∪ h.connected)).card := by
        rw [← Finset.union_insert]
        exact Finset.card_le_card (Finset.union_subset_union_right hsubset)
    _ ≤ (seen ∪ h.connected).card + 1 := Finset.card_insert_le _ _
    _ ≤ h.stock.network.connects + 1 := Nat.succ_le_succ hdialled
    _ ≤ h'.stock.network.connects := hconnects

end Holdings

/-! ## What moves preserve -/

/-- A new connection has a fresh link. -/
theorem Holdings.Linked.newborn_wired (hlinked : h.Linked) : h.stock.newborn.Wired := by
  refine ⟨?_, fun hdead => by cases hdead⟩
  rw [Inventory.newborn, hlinked.source]
  rfl

/-- What happens to a link keeps the links accounted for. -/
theorem Wiring.linked (wiring : Wiring h h') (hkept : h'.stock.source = h.stock.source)
    (hlinked : h.Linked) : h'.Linked := by
  have hsource := hkept.trans hlinked.source
  have hmade := hlinked.made
  have hwired := hlinked.wired
  have hwhole := hlinked.whole
  unfold Holdings.links at hwhole
  cases wiring with
  | still same count counts =>
      simp only [Network.counts, Prod.mk.injEq] at counts
      obtain ⟨hcreated, -, hdestroyed⟩ := counts
      refine ⟨hsource, same ▸ hwired, by rw [hcreated, hmade, count], ?_⟩
      rw [Holdings.links, same, hcreated, hdestroyed, hwhole]
  | made place after count network =>
      rw [hlinked.source] at network
      refine ⟨hsource, ?_, by rw [network, count, ← hmade]; rfl, ?_⟩
      · intro x hx
        rw [after, Multiset.mem_cons] at hx
        rcases hx with rfl | hx
        · exact hlinked.newborn_wired
        · exact hwired x hx
      · have hone : h.stock.newborn.links = 1 := rfl
        rw [Holdings.links, after, Multiset.map_cons, Multiset.sum_cons, hone, network]
        simp only [LinkSource.create]
        omega
  | used rest before after count use =>
      have honward := use.onward (hwired _ (before ▸ Multiset.mem_cons_self _ _))
      refine ⟨hsource, ?_, by rw [honward.created, hmade, count], ?_⟩
      · intro x hx
        rw [after, Multiset.mem_cons] at hx
        rcases hx with rfl | hx
        · exact honward.wired
        · exact hwired x (before ▸ Multiset.mem_cons_of_mem hx)
      · have hcounted := honward.destroyed
        have hcreated := honward.created
        simp only [before, Multiset.map_cons, Multiset.sum_cons] at hwhole
        simp only [Holdings.links, after, Multiset.map_cons, Multiset.sum_cons]
        omega
  | givenUp place before count network =>
      obtain ⟨hcreated, -, hdestroyed⟩ :=
        (hwired _ (before ▸ Multiset.mem_cons_self _ _)).destroy_counts h.stock.network
      rw [← network] at hcreated hdestroyed
      refine ⟨hsource, ?_, by rw [hcreated, hmade, count], ?_⟩
      · exact fun x hx => hwired x (before ▸ Multiset.mem_cons_of_mem hx)
      · rw [before, Multiset.map_cons, Multiset.sum_cons] at hwhole
        rw [Holdings.links]
        omega

/-- No link goes back to an earlier stage, and a new one is of none of the connections that
there were. -/
theorem Wiring.reached (wiring : Wiring h h') (hlinked : h.Linked)
    (hreached : h.Reached seen stage) : h'.Reached seen stage := by
  obtain ⟨hissued, hpast⟩ := hreached
  cases wiring with
  | still same count => exact ⟨count ▸ hissued, same ▸ hpast⟩
  | made place after count =>
      refine ⟨fun id hid => ?_, fun x hx hseen => ?_⟩
      · rw [count]
        exact Nat.lt_succ_of_lt (hissued id hid)
      · rw [after, Multiset.mem_cons] at hx
        rcases hx with rfl | hx
        · exact absurd (hissued _ hseen) (Nat.lt_irrefl _)
        · exact hpast x hx hseen
  | used rest before after count use =>
      have hmem := before ▸ Multiset.mem_cons_self _ _
      have honward := use.onward (hlinked.wired _ hmem)
      refine ⟨count ▸ hissued, fun x hx hseen => ?_⟩
      rw [after, Multiset.mem_cons] at hx
      rcases hx with rfl | hx
      · exact (hpast _ hmem (honward.id ▸ hseen)).trans honward.stage
      · exact hpast x (before ▸ Multiset.mem_cons_of_mem hx) hseen
  | givenUp place before count =>
      exact ⟨count ▸ hissued, fun x hx => hpast x (before ▸ Multiset.mem_cons_of_mem hx)⟩

/-- A connection that becomes connected is counted. -/
theorem Wiring.dialled (wiring : Wiring h h') (hlinked : h.Linked)
    (hdialled : h.Dialled seen) : h'.Dialled seen := by
  cases wiring with
  | still same count counts =>
      simp only [Network.counts, Prod.mk.injEq] at counts
      exact hdialled.keep (Holdings.connected_subset fun x hx _ => same ▸ hx) counts.2.1.ge
  | made place after count network =>
      refine hdialled.keep (Holdings.connected_subset fun x hx hestablished => ?_) ?_
      · rw [after, Multiset.mem_cons] at hx
        rcases hx with rfl | hx
        · cases hestablished
        · exact hx
      · rw [network, hlinked.source]
        exact Nat.le_refl _
  | @used place place' connection connection' rest before after count use =>
      have hmem : (place, connection) ∈ h.places := before ▸ Multiset.mem_cons_self _ _
      have hrest : ∀ x ∈ rest, x ∈ h.places := fun x hx => before ▸ Multiset.mem_cons_of_mem hx
      have honward := use.onward (hlinked.wired _ hmem)
      by_cases hnew : connection'.established = true ∧ connection.established = false
      · have hsubset : h'.connected ⊆ insert connection'.id h.connected := by
          intro id hid
          obtain ⟨x, hx, hconnected⟩ := Holdings.mem_connected.1 hid
          rw [after, Multiset.mem_cons] at hx
          rcases hx with rfl | hx
          · exact Finset.mem_insert.2 (.inl hconnected.2.symm)
          · exact Finset.mem_insert_of_mem (Holdings.mem_connected.2 ⟨x, hrest x hx, hconnected⟩)
        exact hdialled.gain hsubset (honward.connected hnew.1 hnew.2)
      · refine hdialled.keep (fun id hid => ?_) honward.connects
        obtain ⟨x, hx, hestablished, hid⟩ := Holdings.mem_connected.1 hid
        rw [after, Multiset.mem_cons] at hx
        rcases hx with rfl | hx
        · have hbefore : connection.established = true :=
            Bool.eq_true_of_not_eq_false fun hfresh => hnew ⟨hestablished, hfresh⟩
          exact Holdings.mem_connected.2 ⟨_, hmem, hbefore, honward.id ▸ hid⟩
        · exact Holdings.mem_connected.2 ⟨x, hrest x hx, hestablished, hid⟩
  | givenUp place before count network =>
      obtain ⟨-, hconnects, -⟩ :=
        (hlinked.wired _ (before ▸ Multiset.mem_cons_self _ _)).destroy_counts h.stock.network
      rw [← network] at hconnects
      refine hdialled.keep (Holdings.connected_subset fun x hx _ => ?_) hconnects.ge
      exact before ▸ Multiset.mem_cons_of_mem hx

/-- Discarding does not change what links are made from. -/
theorem Inventory.discard_source (stock : Inventory) (connection : Connection)
    (reason : CloseReason) : (stock.discard connection reason).source = stock.source := by
  rw [discard_eq]

/-- No move changes what links are made from. -/
theorem Move.source_eq (move : Move h h') : h'.stock.source = h.stock.source := by
  cases move with
  | retired | evicted | forfeited | refused | unwanted | abandoned =>
      exact Inventory.discard_source _ _ _
  | @reclaimed connection rest held =>
      cases hreason : h.stock.returnReason? connection with
      | none => rw [Inventory.reclaim_wanted hreason]; rfl
      | some reason =>
          rw [Inventory.reclaim_unwanted hreason]
          exact Inventory.discard_source _ _ _
  | released held known force =>
      rcases Inventory.release_known known force with ⟨-, hstock⟩ | ⟨reason, hstock⟩
      · rw [hstock]; rfl
      · rw [hstock]
        exact Inventory.discard_source _ _ _
  | _ => rfl

/-! ## What steps preserve -/

/-- Giving up the idle connections is counted. -/
theorem Inventory.scrap_counts (stock : Inventory)
    (hwired : ∀ connection ∈ stock.available, connection.Wired) :
    stock.scrapIdle.network.created = stock.network.created ∧
      stock.scrapIdle.network.connects = stock.network.connects ∧
      stock.scrapIdle.network.destroyed =
        stock.network.destroyed + (stock.available.map Connection.links).sum := by
  unfold scrapIdle
  dsimp only
  generalize stock.available = idle at hwired
  generalize stock.network = network
  induction idle generalizing network with
  | nil => exact ⟨rfl, rfl, rfl⟩
  | cons connection rest ih =>
      obtain ⟨hcreated, hconnects, hdestroyed⟩ :=
        (hwired connection List.mem_cons_self).destroy_counts network
      obtain ⟨hothers, hconnected, hcounted⟩ :=
        ih (fun other hother => hwired other (List.mem_cons_of_mem _ hother))
          (connection.destroy network).2
      refine ⟨hothers.trans hcreated, hconnected.trans hconnects, hcounted.trans ?_⟩
      rw [hdestroyed, List.map_cons, List.sum_cons, Nat.add_assoc]

/-- The links of the idle connections of a pool are those that it makes. -/
theorem Holdings.Linked.idle_wired (hlinked : h.Linked) :
    ∀ connection ∈ h.stock.available, connection.Wired := fun connection hmem =>
  hlinked.wired (.idle, connection) (Holdings.mem_places.2 hmem)

/-- Giving up the idle connections keeps the links accounted for. -/
theorem Holdings.Linked.scrap (hlinked : h.Linked) : h.scrap.Linked := by
  obtain ⟨hcreated, -, hdestroyed⟩ := h.stock.scrap_counts hlinked.idle_wired
  refine ⟨hlinked.source, fun x hx => hlinked.wired x (Holdings.mem_of_scrap hx), ?_, ?_⟩
  · show h.stock.scrapIdle.network.created + 1 = h.stock.nextConnection
    rw [hcreated, hlinked.made]
  · have hwhole := hlinked.whole
    have hlinks : h.links = (h.stock.available.map Connection.links).sum + h.scrap.links := by
      rw [Holdings.links, h.scrap_places, Multiset.map_add, Multiset.sum_add, Multiset.map_map]
      rfl
    show h.stock.scrapIdle.network.created = h.stock.scrapIdle.network.destroyed + h.scrap.links
    omega

/-- What happens to links preserves, and the giving up of idle connections as well, every step
preserves. -/
theorem Step.preserves_linked {P : Holdings → Prop}
    (hwiring : ∀ {h h'}, h.Linked → Wiring h h' → P h → P h')
    (hscrap : ∀ {h : Holdings}, h.Linked → P h → P h.scrap) {given : Nat} (step : Step h given h')
    (hlinked : h.Linked) (hp : P h) : h'.Linked ∧ P h' := by
  have hnext : ∀ {h h' : Holdings}, Wiring h h' → h'.stock.source = h.stock.source →
      h.Linked ∧ P h → h'.Linked ∧ P h' := fun wiring hsource hboth =>
    ⟨wiring.linked hsource hboth.1, hwiring hboth.1 wiring hboth.2⟩
  refine step.preserves (P := fun h => h.Linked ∧ P h) ?_ ?_ ?_ ?_ ?_ ⟨hlinked, hp⟩
  · exact fun move => hnext move.wiring move.source_eq
  · exact fun announced => hnext announced.wiring (by cases announced; rfl)
  · exact hnext (.still rfl rfl rfl) rfl
  · exact fun hboth => ⟨hboth.1.scrap, hscrap hboth.1 hboth.2⟩
  · exact hnext (.still rfl rfl rfl) rfl

/-- Every step leaves the links past the stage that they have reached. -/
theorem Step.reached {given : Nat} (step : Step h given h') (hlinked : h.Linked)
    (hreached : h.Reached seen stage) : h'.Linked ∧ h'.Reached seen stage :=
  step.preserves_linked (fun hlinked wiring => wiring.reached hlinked)
    (fun _ hreached =>
      ⟨hreached.issued, fun x hx => hreached.past x (Holdings.mem_of_scrap hx)⟩) hlinked hreached

/-- Every step counts the connections that become connected. -/
theorem Step.dialled {given : Nat} (step : Step h given h') (hlinked : h.Linked)
    (hdialled : h.Dialled seen) : h'.Dialled seen := by
  refine (step.preserves_linked (fun hlinked wiring => wiring.dialled hlinked) ?_ hlinked
    hdialled).2
  intro h hlinked hdialled
  refine hdialled.keep (Holdings.connected_subset fun x hx _ => Holdings.mem_of_scrap hx) ?_
  exact (h.stock.scrap_counts hlinked.idle_wired).2.1.ge

namespace Pool

variable {pool opened : Pool} {action : Action}

/-- The ids of the connections that are connected. -/
def connected (pool : Pool) : Finset Nat :=
  ((pool.connections.filter Connection.established).map Connection.id).toFinset

/-- The ids of the connections that were connected at some moment of the history. -/
def everConnected (pool : Pool) (history : List Action) : Finset Nat :=
  (Finset.range (history.length + 1)).biUnion fun count =>
  (pool.run (history.take count)).connected

/-- The ids of the connections that are not destroyed. -/
def living (pool : Pool) : Finset Nat :=
  ((pool.connections.filter fun connection => !connection.destroyed).map Connection.id).toFinset

/-- The ids that were given out, except those of connections that are not destroyed. -/
def givenUp (pool : Pool) : Finset Nat :=
  Finset.Ico 1 pool.stock.nextConnection \ pool.living

/-- The ids of the connections that are connected are those at all places. -/
theorem connected_eq (pool : Pool) : pool.connected = pool.holdings.connected := by
  ext id
  simp only [connected, List.mem_toFinset, List.mem_map, List.mem_filter, mem_connections,
    Holdings.mem_connected, Prod.exists]
  constructor
  · rintro ⟨connection, ⟨⟨place, hplace⟩, hestablished⟩, rfl⟩
    exact ⟨place, connection, hplace, hestablished, rfl⟩
  · rintro ⟨place, connection, hplace, hestablished, rfl⟩
    exact ⟨connection, ⟨⟨place, hplace⟩, hestablished⟩, rfl⟩

/-- The ids of the connections that are not destroyed are those at all places. -/
theorem mem_living {id : Nat} :
    id ∈ pool.living ↔ ∃ x ∈ pool.holdings.places, x.2.destroyed = false ∧ x.2.id = id := by
  simp only [living, List.mem_toFinset, List.mem_map, List.mem_filter, mem_connections,
    Bool.not_eq_true', Prod.exists]
  constructor
  · rintro ⟨connection, ⟨⟨place, hplace⟩, halive⟩, rfl⟩
    exact ⟨place, connection, hplace, halive, rfl⟩
  · rintro ⟨place, connection, hplace, halive, rfl⟩
    exact ⟨connection, ⟨⟨place, hplace⟩, halive⟩, rfl⟩

/-- Links that are not given up are counted by their connections. -/
theorem sum_links (connections : List Connection) :
    (connections.map Connection.links).sum =
      (connections.filter fun connection => !connection.destroyed).length := by
  induction connections with
  | nil => rfl
  | cons connection rest ih =>
      rw [List.map_cons, List.sum_cons, ih, List.filter_cons, Connection.links]
      cases connection.destroyed with
      | true => exact Nat.zero_add _
      | false => exact Nat.add_comm _ _

/-- The links that are not given up are those of the connections that are not destroyed. -/
theorem links_eq (pool : Pool) :
    pool.holdings.links =
      (pool.connections.filter fun connection => !connection.destroyed).length := by
  have hplaces : pool.holdings.links =
      ((pool.holdings.places.map Prod.snd).map Connection.links).sum := by
    rw [Holdings.links, Multiset.map_map]
    rfl
  rw [hplaces, places_connections, ← sum_links]
  rfl

/-- Each connection that is not destroyed has an id of its own. -/
theorem Reachable.living_card (h : pool.Reachable) :
    pool.living.card = (pool.connections.filter fun connection =>
      !connection.destroyed).length := by
  have honce : (pool.connections.map Connection.id).Nodup := by
    have hids : ((pool.holdings.places.map Prod.snd).map Connection.id).Nodup := by
      rw [Multiset.map_map]
      exact h.sound.2.once
    rw [places_connections] at hids
    exact hids
  have hliving : ((pool.connections.filter fun connection => !connection.destroyed).map
      Connection.id).Nodup := honce.sublist (List.filter_sublist.map _)
  rw [living, List.toFinset_card_of_nodup hliving, List.length_map]

/-- The links that were given up are counted by the ids of connections that are not there or
destroyed. -/
theorem Reachable.given_up_card (h : pool.Reachable) (hlinked : pool.holdings.Linked) :
    pool.givenUp.card = pool.stock.network.destroyed := by
  have hissued : pool.living ⊆ Finset.Ico 1 pool.stock.nextConnection := by
    intro id hid
    obtain ⟨x, hx, -, rfl⟩ := mem_living.1 hid
    exact Finset.mem_Ico.2 (h.sound.2.issued x hx)
  have hmade : pool.stock.network.created + 1 = pool.stock.nextConnection := hlinked.made
  have hwhole : pool.stock.network.created =
      pool.stock.network.destroyed + pool.holdings.links := hlinked.whole
  rw [givenUp, Finset.card_sdiff_of_subset hissued, Nat.card_Ico, h.living_card, ← links_eq]
  omega

/-! ## Runs -/

/-- The pool was opened over a simulated network that nobody has used. -/
theorem opened_linked {config : Config} {network : Network} {now : Instant}
    (hcreate : create config .simulated network now = .ok opened)
    (hunused : network.counts = (0, 0, 0)) : opened.holdings.Linked := by
  rw [(create_coherent hcreate).2]
  simp only [Network.counts, Prod.mk.injEq] at hunused
  obtain ⟨hcreated, -, hdestroyed⟩ := hunused
  refine ⟨rfl, fun x hx => absurd hx (Multiset.notMem_zero x), ?_, ?_⟩
  · show network.created + 1 = 1
    rw [hcreated]
  · show network.created = network.destroyed + 0
    rw [hcreated, hdestroyed]

/-- The links of a pool stay accounted for, and past the stage that they have reached. -/
theorem Reachable.run_reached (h : pool.Reachable) (hlinked : pool.holdings.Linked)
    (hreached : pool.holdings.Reached seen stage) (history : List Action) :
    (pool.run history).holdings.Linked ∧ (pool.run history).holdings.Reached seen stage :=
  h.preserves (P := fun h => h.Linked ∧ h.Reached seen stage)
    (fun _ step hboth => step.reached hboth.1 hboth.2) history ⟨hlinked, hreached⟩

/-- A link that was given up is never made, connected or given up again. -/
theorem Reachable.given_up_for_good (h : pool.Reachable) (hlinked : pool.holdings.Linked)
    (later : List Action) : pool.givenUp ⊆ (pool.run later).givenUp := by
  have hreached : pool.holdings.Reached pool.givenUp 2 := by
    refine ⟨fun id hid => (Finset.mem_Ico.1 (Finset.mem_sdiff.1 hid).1).2, fun x hx hid => ?_⟩
    have hdead : x.2.destroyed = true := by
      by_contra halive
      exact (Finset.mem_sdiff.1 hid).2 (mem_living.2 ⟨x, hx, by simpa using halive, rfl⟩)
    rw [Connection.stage, if_pos hdead]
  obtain ⟨-, hissued, hpast⟩ := h.run_reached hlinked hreached later
  intro id hid
  have hpositive := (Finset.mem_Ico.1 (Finset.mem_sdiff.1 hid).1).1
  refine Finset.mem_sdiff.2 ⟨Finset.mem_Ico.2 ⟨hpositive, hissued id hid⟩, fun hliving => ?_⟩
  obtain ⟨x, hx, halive, rfl⟩ := mem_living.1 hliving
  have hstage := hpast x hx hid
  rw [Connection.stage, if_neg (by simp [halive])] at hstage
  split at hstage <;> omega

/-! ## Connects -/

/-- No connect was counted, or one was and a connection that was not connected before is so
now. -/
def Dials (pool next : Pool) : Prop :=
  next.connects = pool.connects ∨
    next.connects = pool.connects + 1 ∧
      ∃ x ∈ pool.holdings.places, x.2.stage = 0 ∧ x.2.id ∈ next.connected

/-- A pool in which nobody has a part has no connections but idle ones. -/
theorem Deserted.idle (h : pool.Deserted) {x : Place × Connection}
    (hx : x ∈ pool.holdings.places) : x.1 = .idle := by
  simp only [Holdings.places, placed, holdings, h.calls, h.populations, h.loans] at hx
  simp only [Multiset.coe_nil, Multiset.filterMap_zero, Multiset.map_zero, Multiset.add_zero,
    Multiset.mem_map] at hx
  obtain ⟨connection, -, rfl⟩ := hx
  rfl

/-- An action finishes the connect of a connection that somebody has. -/
theorem dials_of_connect {next : Pool} (before after : Place) (hlinked : pool.holdings.Linked)
    (hstep : (pool.step action).2 = next) (hlog : next.log = pool.log)
    (hbefore : (before, connection) ∈ pool.holdings.places)
    (hneeded : connection.establishNow? = none)
    (hnetwork : next.stock.network = (connection.connect pool.stock.network pool.now).2.2)
    (hafter : (after, (connection.connect pool.stock.network pool.now).2.1) ∈
      next.holdings.places)
    (hplace : after ≠ .idle) : pool.Dials (pool.after action) := by
  have halive : next.isAlive = true :=
    Bool.eq_true_of_not_eq_false fun hdead => hplace ((not_alive.1 hdead).idle hafter)
  have hsame : pool.after action = next := by
    show ((pool.step action).2.fire pool.log.length).collect = next
    rw [hstep, fire_silent hlog, collect, if_pos halive]
  rw [hsame, Dials, connects, hnetwork]
  rcases (hlinked.wired _ hbefore).connect hneeded pool.stock.network pool.now with
    ⟨-, hcounts⟩ | ⟨hchanged, hcounts⟩
  · simp only [Network.counts, Prod.mk.injEq] at hcounts
    exact .inl hcounts.2.1
  · simp only [Network.counts, Prod.mk.injEq] at hcounts
    obtain ⟨hfresh, hsound⟩ := (Connection.establish_now_none connection).1 hneeded
    refine .inr ⟨hcounts.2.1, _, hbefore, by simp [Connection.stage, hfresh, hsound], ?_⟩
    rw [connected_eq]
    rw [hchanged] at hafter
    exact Holdings.mem_connected.2 ⟨_, hafter, rfl, rfl⟩

/-- A call finishes its connect, if it is due. -/
theorem finish_connect_cases (pool : Pool) (id : Nat) :
    pool.finishConnect id = pool ∨
      ∃ call connection due, pool.call? id = some call ∧ call.phase = .connecting connection due ∧
        pool.finishConnect id =
          { pool with stock := { pool.stock with
              network := (connection.connect pool.stock.network pool.now).2.2 } }.setPhase id
            (.connected (connection.connect pool.stock.network pool.now).2.1
              (connection.connect pool.stock.network pool.now).1) := by
  unfold finishConnect
  split
  · next connection due hfind =>
      split
      · exact .inr ⟨_, connection, due, hfind, rfl, rfl⟩
      · exact .inl rfl
  · exact .inl rfl

/-- A population finishes its connect, if it is due. -/
theorem finish_reserved_cases (pool : Pool) (owner : Owner) :
    pool.finishReserved owner = pool ∨
      ∃ population connection due, pool.population? owner = some population ∧
        population.phase = .connecting connection due ∧
        pool.finishReserved owner =
          { pool with
            stock := { pool.stock with
              network := (connection.connect pool.stock.network pool.now).2.2 }
          }.setPopulation owner
            population.added (.connected (connection.connect pool.stock.network pool.now).2.1
              (connection.connect pool.stock.network pool.now).1) := by
  unfold finishReserved
  split
  · next connection due hfind =>
      split
      · exact .inr ⟨_, connection, due, hfind, rfl, rfl⟩
      · exact .inl rfl
  · exact .inl rfl

/-- A call that finishes its connect connects its connection or none. -/
theorem finish_connect_dials (h : pool.Coherent) (hlinked : pool.holdings.Linked) (id : Nat) :
    pool.Dials (pool.after (.finishConnect id)) := by
  rcases pool.finish_connect_cases id with hsame | ⟨call, connection, due, hfind, hphase, hnext⟩
  · exact .inl ((after_connects_step pool _).trans (congrArg connects hsame))
  · obtain ⟨hbefore, hafter⟩ := holdings_split h hfind
    have hsound := h.phases call (Coherent.call_mem hfind)
    rw [hphase] at hbefore hsound
    let rest := (pool.removeCall id).holdings
    refine dials_of_connect .carried .dialled hlinked hnext rfl ?_ hsound rfl ?_ (by simp)
    · rw [hbefore]
      exact Holdings.mem_places.2 (Multiset.mem_cons_self _ rest.carried)
    · rw [hafter]
      exact Holdings.mem_places.2 (Multiset.mem_cons_self _ rest.dialled)

/-- A population that finishes its connect connects its connection or none. -/
theorem finish_reserved_dials (h : pool.Coherent) (hlinked : pool.holdings.Linked)
    (owner : Owner) : pool.Dials (pool.after (.finishReserved owner)) := by
  rcases pool.finish_reserved_cases owner with
    hsame | ⟨population, connection, due, hfind, hphase, hnext⟩
  · exact .inl ((after_connects_step pool _).trans (congrArg connects hsame))
  · obtain ⟨hbefore, hafter⟩ := holdings_split_population h hfind
    have hsound := h.fillings population (List.mem_of_find?_eq_some hfind)
    rw [hphase] at hbefore hsound
    let rest := (pool.removePopulation owner).holdings
    refine dials_of_connect .filling .filling hlinked hnext rfl ?_ hsound rfl ?_ (by simp)
    · rw [hbefore]
      exact Holdings.mem_places.2 (Multiset.mem_cons_self _ rest.filling)
    · rw [hafter]
      exact Holdings.mem_places.2 (Multiset.mem_cons_self _ rest.filling)

/-- A borrower who establishes a connection connects it or none. -/
theorem establish_loan_dials (hbooked : pool.Booked) (hlinked : pool.holdings.Linked) (id : Nat) :
    pool.Dials (pool.after (.establish id)) := by
  have hconnects : (pool.after (.establish id)).connects = (pool.establishLoan id).2.connects :=
    (after_connects_step pool _).trans (congrArg connects (step_establish pool id))
  cases hfind : pool.loan? id with
  | none =>
      refine .inl (hconnects.trans ?_)
      rw [establishLoan, hfind]
  | some connection =>
      cases hneeded : connection.establishNow? with
      | some result =>
          refine .inl (hconnects.trans ?_)
          rw [establishLoan, hfind]
          simp only [Connection.establish, hneeded]
          rfl
      | none =>
          have hnext : (pool.establishLoan id).2 =
              pool.setLoan (connection.connect pool.stock.network pool.now).2.1
                (connection.connect pool.stock.network pool.now).2.2 := by
            rw [establishLoan, hfind]
            simp only [Connection.establish, hneeded]
          obtain ⟨rest, hloans, hset, -⟩ := loans_split hbooked hfind
          have hid := Connection.id_of_info (connection.connect_info pool.stock.network pool.now)
          refine dials_of_connect .lent .lent hlinked
            ((step_establish pool id).trans hnext) rfl ?_
            hneeded rfl ?_ (by simp)
          · refine Holdings.mem_places.2 ?_
            show connection ∈ (pool.loans : Multiset Connection)
            exact hloans ▸ Multiset.mem_cons_self _ _
          · refine Holdings.mem_places.2 ?_
            show _ ∈ ((pool.setLoan _ _).loans : Multiset Connection)
            exact hset _ _ hid ▸ Multiset.mem_cons_self _ _

/-- Every action counts the connection that it connects, and connects one at most. -/
theorem Reachable.after_dials (h : pool.Reachable) (hlinked : pool.holdings.Linked)
    (action : Action) : pool.Dials (pool.after action) := by
  obtain ⟨hcoherent, hcustody⟩ := h.sound
  cases hdial : action.isDial with
  | false => exact .inl (after_connects hdial)
  | true =>
      cases action with
      | finishConnect id => exact finish_connect_dials hcoherent hlinked id
      | finishReserved owner => exact finish_reserved_dials hcoherent hlinked owner
      | establish id => exact establish_loan_dials hcustody.loans_booked hlinked id
      | _ => cases hdial

/-! ## Every link at most once -/

/-- One action more. -/
theorem ever_connected_snoc (pool : Pool) (prior : List Action) (action : Action) :
    pool.everConnected (prior ++ [action]) =
      pool.everConnected prior ∪ ((pool.run prior).after action).connected := by
  have hprior : ∀ count ∈ Finset.range (prior.length + 1),
      (prior ++ [action]).take count = prior.take count := fun count hcount =>
    List.take_append_of_le_length (Nat.lt_succ_iff.1 (Finset.mem_range.1 hcount))
  have hwhole : (prior ++ [action]).take (prior.length + 1) = prior ++ [action] :=
    List.take_of_length_le (by simp)
  rw [everConnected, List.length_append, List.length_singleton, Finset.range_add_one,
    Finset.biUnion_insert, hwhole, run_append, Finset.union_comm, everConnected]
  refine congrArg (· ∪ _) (Finset.biUnion_congr rfl fun count hcount => ?_)
  rw [hprior count hcount]

/-- What is known of the connections that were ever connected: their links are not fresh, and
each was counted once. -/
structure Counted (pool : Pool) (ever : Finset Nat) : Prop where
  now : pool.connected ⊆ ever
  reached : pool.holdings.Reached ever 1
  count : pool.connects = ever.card

/-- Every action counts the connections that it connects for the first time. -/
theorem Counted.after {ever : Finset Nat} (hcounted : pool.Counted ever) (h : pool.Reachable)
    (hlinked : pool.holdings.Linked) (action : Action) :
    (pool.after action).Counted (ever ∪ (pool.after action).connected) := by
  obtain ⟨hlinked', hissued, hpast⟩ := (h.step action).reached hlinked hcounted.reached
  have hnumbered := (h.after action).sound.2
  have hdialled : (pool.after action).holdings.Dialled ever := by
    refine (h.step action).dialled hlinked ?_
    rw [Holdings.Dialled, ← connected_eq, Finset.union_eq_left.2 hcounted.now]
    exact hcounted.count.ge
  refine ⟨Finset.subset_union_right, ⟨?_, ?_⟩, Nat.le_antisymm ?_ ?_⟩
  · intro id hid
    rcases Finset.mem_union.1 hid with hid | hid
    · exact hissued id hid
    · rw [connected_eq] at hid
      obtain ⟨x, hx, -, rfl⟩ := Holdings.mem_connected.1 hid
      exact (hnumbered.issued x hx).2
  · intro x hx hid
    rcases Finset.mem_union.1 hid with hid | hid
    · exact hpast x hx hid
    · rw [connected_eq] at hid
      obtain ⟨y, hy, hestablished, hsame⟩ := Holdings.mem_connected.1 hid
      obtain rfl := Multiset.inj_on_of_nodup_map hnumbered.once y hy x hx hsame
      simp only [Connection.stage, hestablished, if_true]
      split <;> decide
  · -- An action that connects a link connects one that was fresh before, and so never connected.
    rcases h.after_dials hlinked action with hsame | ⟨hone, x, hx, hfresh, hid⟩
    · rw [hsame, hcounted.count]
      exact Finset.card_le_card Finset.subset_union_left
    · have hnew : x.2.id ∉ ever := by
        intro hever
        have hstage := hcounted.reached.past x hx hever
        omega
      rw [hone, hcounted.count, ← Finset.card_insert_of_notMem hnew]
      exact Finset.card_le_card (Finset.insert_subset (Finset.mem_union_right _ hid)
        Finset.subset_union_left)
  · rw [connected_eq]
    exact hdialled

/-- The connections that were ever connected are counted, after any history. -/
theorem counted_run (hopened : opened.Reachable) (hlinked : opened.holdings.Linked)
    (hcounted : opened.Counted opened.connected) (history : List Action) :
    (opened.run history).holdings.Linked ∧
      (opened.run history).Counted (opened.everConnected history) := by
  induction history using List.reverseRecOn with
  | nil => exact ⟨hlinked, by simpa [everConnected, run] using hcounted⟩
  | append_singleton prior action ih =>
      obtain ⟨hlinked, hcounted⟩ := ih
      have hreachable := hopened.run prior
      have hlast : opened.run (prior ++ [action]) = (opened.run prior).after action :=
        run_append opened prior [action]
      rw [ever_connected_snoc, hlast]
      refine ⟨?_, hcounted.after hreachable hlinked action⟩
      exact (hreachable.step action).reached hlinked hcounted.reached |>.1

/-- A pool that nobody has a part in has no connection. -/
theorem Reachable.no_connections (h : pool.Reachable) (hdead : pool.isAlive = false) :
    pool.connections = [] := by
  have hgone := h.gone hdead
  have hnoneIdle : pool.stock.available = [] := by
    cases h with
    | opened hcreate =>
        unfold create at hcreate
        split at hcreate
        · cases hcreate
        · cases hcreate
          cases hdead
    | @after before _ action =>
        have hlast : ((before.step action).2.fire before.log.length).isAlive = false := by
          rw [← collect_alive]
          exact hdead
        show ((before.step action).2.fire before.log.length).collect.stock.available = []
        rw [collect, if_neg (by simp [hlast])]
        rfl
  simp [connections, holders, establishing, hnoneIdle, hgone.calls,
    hgone.populations, hgone.loans]

/-- What the counts of its network say of the links of a pool, of which those of the connections
`ever` were connected at some moment. A link was made with each connection. Those that were not
given up are those of connections that are not destroyed, wherever they are. There were as many
connects as links that were ever connected, and as many links were given up as are not there any
more. None is left once nobody has a part in the pool. -/
structure LinksAccounted (pool : Pool) (ever : Finset Nat) : Prop where
  made : pool.stock.network.created + 1 = pool.stock.nextConnection
  left : pool.stock.network.created = pool.stock.network.destroyed +
    (pool.connections.filter fun connection => !connection.destroyed).length
  wired : ∀ connection ∈ pool.connections,
    connection.link = .simulated connection.established connection.destroyed
  connectedOnce : pool.stock.network.connects = ever.card
  givenUpOnce : pool.stock.network.destroyed = pool.givenUp.card
  noneLeft : pool.isAlive = false → pool.stock.network.destroyed = pool.stock.network.created

/-- A pool over a simulated network of its own leaks no link, and gives up none twice. Whatever
happens to it, the links are accounted for; and a link that was given up stays so. -/
theorem links_accounted {config : Config} {network : Network} {now : Instant}
    (hcreate : create config .simulated network now = .ok opened)
    (hunused : network.counts = (0, 0, 0)) (history : List Action) :
    (opened.run history).LinksAccounted (opened.everConnected history) ∧
      ∀ later, (opened.run history).givenUp ⊆ (opened.run (history ++ later)).givenUp := by
  have hopened := Reachable.opened hcreate
  have hfirst : opened.Counted opened.connected := by
    have hnone : opened.connected = ∅ := by
      rw [connected_eq, (create_coherent hcreate).2]
      rfl
    have hconnects : opened.connects = 0 := by
      have hholdings := (create_coherent hcreate).2
      have hstock : opened.stock.network = network :=
        congrArg (fun h : Holdings => h.stock.network) hholdings
      simp only [Network.counts, Prod.mk.injEq] at hunused
      rw [connects, hstock, hunused.2.1]
    rw [hnone]
    exact ⟨hnone.subset, ⟨by simp, by simp⟩, hconnects⟩
  obtain ⟨hlinked, hcounted⟩ :=
    counted_run hopened (opened_linked hcreate hunused) hfirst history
  have hreachable := hopened.run history
  have hleft : (opened.run history).stock.network.created =
      (opened.run history).stock.network.destroyed +
        ((opened.run history).connections.filter fun connection =>
          !connection.destroyed).length := by
    rw [← links_eq]
    exact hlinked.whole
  refine ⟨⟨hlinked.made, hleft, ?_, hcounted.count, (hreachable.given_up_card hlinked).symm, ?_⟩,
    ?_⟩
  · intro connection hmem
    obtain ⟨place, hplace⟩ := mem_connections.1 hmem
    exact (hlinked.wired _ hplace).link
  · intro hdead
    rw [hreachable.no_connections hdead] at hleft
    exact hleft.symm
  · intro later
    rw [run_append]
    exact hreachable.given_up_for_good hlinked later

/-- In the busy small pool the second call is told of its connection, which is destroyed then. -/
def breakOne : List Action :=
  getBusy ++ [.resume 2, .destroyConnection 3]

/-- The caller that fills the pool makes a fourth connection idle, and everybody goes. -/
def leave : List Action :=
  [.finishReserved (.call 9), .settleReserved (.call 9), .reserve (.call 9), .drop 2, .drop 3,
    .dropHandle]

/-- In the small pool three links were connected when one of the connections is destroyed. That
link is given up, and the one that could not be connected. Once everybody has gone all five
are. -/
theorem small_links_accounted :
    (small.everConnected breakOne).card = 3 ∧ (small.run breakOne).givenUp.card = 2 ∧
      (small.run breakOne).givenUp ⊆ (small.run (breakOne ++ leave)).givenUp ∧
      (small.run (breakOne ++ leave)).stock.network.destroyed =
        (small.run (breakOne ++ leave)).stock.network.created ∧
      (small.run (breakOne ++ leave)).stock.network.created = 5 := by
  obtain ⟨hbroken, hkept⟩ := links_accounted small_opened rfl breakOne
  obtain ⟨hgone, -⟩ := links_accounted small_opened rfl (breakOne ++ leave)
  have hcounts : (small.run breakOne).stock.network.connects = 3 ∧
      (small.run breakOne).stock.network.destroyed = 2 := by decide +kernel
  have hdead : (small.run (breakOne ++ leave)).isAlive = false := by decide +kernel
  exact ⟨hbroken.connectedOnce ▸ hcounts.1, hbroken.givenUpOnce ▸ hcounts.2, hkept leave,
    hgone.noneLeft hdead, by decide +kernel⟩

end Pool

end ConnectionPool
