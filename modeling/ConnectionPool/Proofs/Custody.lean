import ConnectionPool.Proofs.Course
import ConnectionPool.Proofs.Pool.Steps

/-!
# The books of a pool

Every connection of a pool is at one place only, under an id that was given out once. The ids
that are checked out are those of the connections in the hands of calls and borrowers, and the
pending count is the number of connections that populations are establishing: this is `Custody`,
which every step preserves.
-/

namespace ConnectionPool

namespace Holdings

/-- Every connection is at one place, and its id was given out. -/
structure Numbered (h : Holdings) : Prop where
  once : (h.places.map fun x => x.2.id).Nodup
  issued : ∀ x ∈ h.places, 0 < x.2.id ∧ x.2.id < h.stock.nextConnection
  positive : 0 < h.stock.nextConnection

/-- The ids of the connections in the hands of calls and borrowers. -/
def outside (h : Holdings) : Multiset Nat :=
  h.carried.map Connection.id + h.dialled.map Connection.id + h.borrowed.map Connection.id

/-- The pool knows of every connection that is not with it. -/
structure Custody (h : Holdings) : Prop extends h.Numbered where
  booked : h.outside = (h.stock.checkedOut : Multiset Nat)
  reserved : h.stock.pending = h.filling.card

end Holdings

variable {h h' : Holdings} {kinds : List EventKind} {connection : Connection}

/-- A passage leaves no two connections of one id. -/
theorem Passage.once (passage : Passage h kinds h') (hnumbered : h.Numbered) :
    (h'.places.map fun x => x.2.id).Nodup := by
  have honce := hnumbered.once
  cases passage with
  | still same => exact same ▸ honce
  | born new after =>
      rw [after, Multiset.map_cons, Multiset.nodup_cons]
      refine ⟨?_, honce⟩
      -- All ids that were given out are below that of the newborn.
      intro hmem
      obtain ⟨x, hx, hid⟩ := Multiset.mem_map.1 hmem
      have hlt := (hnumbered.issued x hx).2
      rw [hid] at hlt
      exact Nat.lt_irrefl _ hlt
  | lives rest before after count life =>
      rw [before, Multiset.map_cons, ← Connection.id_of_info life.info] at honce
      rw [after, Multiset.map_cons]
      exact honce
  | dies place before =>
      have hle : h'.places ≤ h.places := before ▸ Multiset.le_cons_self _ _
      exact Multiset.nodup_of_le (Multiset.map_le_map hle) honce

/-- A passage gives no id out twice. -/
theorem Passage.numbered (passage : Passage h kinds h') (hnumbered : h.Numbered) :
    h'.Numbered where
  once := passage.once hnumbered
  issued := by
    intro x hx
    rcases passage.origin hx with hx | ⟨hnew, hcount⟩ | ⟨y, hy, life⟩
    · obtain ⟨hpositive, hlt⟩ := hnumbered.issued x hx
      exact ⟨hpositive, hlt.trans_le passage.count_le⟩
    · rw [hnew, hcount]
      exact ⟨hnumbered.positive, Nat.lt_succ_self _⟩
    · obtain ⟨hpositive, hlt⟩ := hnumbered.issued y hy
      rw [Connection.id_of_info life.info]
      exact ⟨hpositive, hlt.trans_le passage.count_le⟩
  positive := hnumbered.positive.trans_le passage.count_le

/-! ## The books -/

/-- Taking an id off the books leaves the others on them. -/
theorem erase_booked {id : Nat} {others : Multiset Nat} {books : List Nat}
    (h : id ::ₘ others = (books : Multiset Nat)) : others = (books.erase id : List Nat) := by
  rw [← Multiset.coe_erase, ← h, Multiset.erase_cons_head]

namespace Inventory

variable (stock : Inventory) (connection : Connection)

/-- Discarding is no matter of the books. -/
theorem discard_books (reason : CloseReason) :
    (stock.discard connection reason).checkedOut = stock.checkedOut ∧
      (stock.discard connection reason).pending = stock.pending := by
  rw [discard_eq]
  exact ⟨rfl, rfl⟩

/-- Reclaiming a connection takes it off the books. -/
theorem reclaim_books :
    (stock.reclaim connection).checkedOut = stock.checkedOut.erase connection.id ∧
      (stock.reclaim connection).pending = stock.pending := by
  cases hreason : stock.returnReason? connection with
  | none =>
      rw [reclaim_wanted hreason]
      exact ⟨rfl, rfl⟩
  | some reason =>
      rw [reclaim_unwanted hreason]
      exact discard_books _ _ _

variable {stock connection} in
/-- Releasing a connection takes it off the books. -/
theorem release_books (hknown : connection.id ∈ stock.checkedOut) (force : Bool) :
    (stock.release connection force).2.checkedOut = stock.checkedOut.erase connection.id ∧
      (stock.release connection force).2.pending = stock.pending := by
  rcases release_known hknown force with ⟨-, hstock⟩ | ⟨reason, hstock⟩
  · rw [hstock]
    exact ⟨rfl, rfl⟩
  · rw [hstock]
    exact discard_books _ _ _

end Inventory

/-- Every move keeps the books of what is checked out. -/
theorem Move.booked (move : Move h h')
    (hbooked : h.outside = (h.stock.checkedOut : Multiset Nat)) :
    h'.outside = (h'.stock.checkedOut : Multiset Nat) := by
  unfold Holdings.outside at hbooked ⊢
  -- What goes out is put on the books and what comes back is taken off them; what goes from a
  -- call to its connect or from there to the borrower stays outside.
  cases move with
  | started | failed | cleared | elapsed | scripted | reserved | filled | stocked => exact hbooked
  | retired | evicted | unwanted | abandoned =>
      rw [(Inventory.discard_books _ _ _).1]
      exact hbooked
  | reused | produced =>
      rw [Multiset.map_cons, Multiset.cons_add, Multiset.cons_add, hbooked]
      rfl
  | reclaimed held =>
      rw [held, Multiset.map_cons, Multiset.cons_add, Multiset.cons_add] at hbooked
      rw [(Inventory.reclaim_books _ _).1]
      exact erase_booked hbooked
  | forfeited held =>
      rw [held, Multiset.map_cons, Multiset.cons_add, Multiset.cons_add] at hbooked
      rw [(Inventory.discard_books _ _ _).1]
      exact erase_booked hbooked
  | refused held =>
      rw [held, Multiset.map_cons, Multiset.add_cons, Multiset.cons_add] at hbooked
      rw [(Inventory.discard_books _ _ _).1]
      exact erase_booked hbooked
  | released held known force =>
      rw [held, Multiset.map_cons, Multiset.add_cons] at hbooked
      rw [(Inventory.release_books known force).1]
      exact erase_booked hbooked
  | dialled held =>
      rw [held, Multiset.map_cons, Multiset.cons_add] at hbooked
      rw [Multiset.map_cons, Multiset.add_cons, Connection.id_of_info
        (Connection.connect_info _ _ _)]
      exact hbooked
  | readied held =>
      rw [held, Multiset.map_cons, Multiset.add_cons] at hbooked
      rw [Multiset.map_cons, Multiset.cons_add]
      exact hbooked
  | handled held change =>
      rw [held, Multiset.map_cons] at hbooked
      rw [Multiset.map_cons, Connection.id_of_info change.info]
      exact hbooked

/-- Every move counts what is being established. -/
theorem Move.reserved_count (move : Move h h') (hcount : h.stock.pending = h.filling.card) :
    h'.stock.pending = h'.filling.card := by
  cases move with
  | started | failed | cleared | elapsed | scripted | reused | produced | dialled | readied |
    handled => exact hcount
  | retired | evicted | forfeited | refused =>
      rw [(Inventory.discard_books _ _ _).2]
      exact hcount
  | reclaimed held =>
      rw [(Inventory.reclaim_books _ _).2]
      exact hcount
  | released held known force =>
      rw [(Inventory.release_books known force).2]
      exact hcount
  | reserved =>
      rw [Multiset.card_cons, ← hcount]
      rfl
  | filled held =>
      rw [held, Multiset.card_cons] at hcount
      rw [Multiset.card_cons]
      exact hcount
  | stocked held =>
      rw [held, Multiset.card_cons] at hcount
      exact Nat.sub_eq_of_eq_add hcount
  | unwanted held | abandoned held =>
      rw [held, Multiset.card_cons] at hcount
      rw [(Inventory.discard_books _ _ _).2]
      exact Nat.sub_eq_of_eq_add hcount

/-- Every move keeps the custody of the connections. -/
theorem Move.custody (move : Move h h') (hcustody : h.Custody) : h'.Custody := by
  obtain ⟨kinds, passage, -⟩ := move.passage
  exact ⟨passage.numbered hcustody.toNumbered, move.booked hcustody.booked,
    move.reserved_count hcustody.reserved⟩

/-- Announcing a connection keeps the custody of the connections. -/
theorem Announced.custody (announced : Announced connection h h') (hcustody : h.Custody) :
    h'.Custody := by
  refine ⟨announced.passage.1.numbered hcustody.toNumbered, ?_, ?_⟩
  · have hbooked := hcustody.booked
    cases announced with
    | mk _ held =>
        rw [Holdings.outside, held, Multiset.map_cons, Multiset.cons_add, Multiset.cons_add]
          at hbooked
        rw [Holdings.outside, Multiset.map_cons, Multiset.add_cons]
        exact hbooked
  · have hreserved := hcustody.reserved
    cases announced with
    | mk => exact hreserved

/-- An event by itself is no matter of custody. -/
theorem Holdings.Custody.report (hcustody : h.Custody) (kind : EventKind) :
    { h with stock := h.stock.emit kind }.Custody :=
  ⟨⟨hcustody.once, hcustody.issued, hcustody.positive⟩, hcustody.booked, hcustody.reserved⟩

/-- Shutting a pool is no matter of custody. -/
theorem Holdings.Custody.shut (hcustody : h.Custody) : h.shut.Custody :=
  ⟨⟨hcustody.once, hcustody.issued, hcustody.positive⟩, hcustody.booked, hcustody.reserved⟩

/-- Connections that are given up while they are idle are missed by nobody. -/
theorem Holdings.Custody.scrap (hcustody : h.Custody) : h.scrap.Custody := by
  have hle : h.scrap.places ≤ h.places := h.scrap_places ▸ Multiset.le_add_left _ _
  have honce := Multiset.nodup_of_le (Multiset.map_le_map hle) hcustody.once
  exact ⟨⟨honce, fun x hx => hcustody.issued x (mem_of_scrap hx), hcustody.positive⟩,
    hcustody.booked, hcustody.reserved⟩

variable {given : Nat}

/-- Every step keeps the custody of the connections. -/
theorem Step.custody (step : Step h given h') (hcustody : h.Custody) : h'.Custody :=
  step.preserves Move.custody Announced.custody (fun hcustody => hcustody.shut)
    (fun hcustody => hcustody.scrap) (fun hcustody => hcustody.report _) hcustody

/-- What every move and every announcement preserve while the connections are in custody, and
the ends of a pool as well, every step preserves. -/
theorem Step.preserves_in_custody {P : Holdings → Prop}
    (hmove : ∀ {h h'}, h.Custody → Move h h' → P h → P h')
    (hannounced : ∀ {connection h h'}, h.Custody → Announced connection h h' → P h → P h')
    (hshut : ∀ {h : Holdings}, P h → P h.shut) (hscrap : ∀ {h : Holdings}, P h → P h.scrap)
    (hreport : ∀ {h : Holdings}, h.Custody → P h → P { h with stock := h.stock.emit .poolClosed })
    (step : Step h given h') (hcustody : h.Custody) (hp : P h) : P h' := by
  -- Custody is carried along: the two together are preserved by what P alone is not.
  have hboth : h'.Custody ∧ P h' := by
    refine step.preserves (P := fun h => h.Custody ∧ P h) ?_ ?_ ?_ ?_ ?_ ⟨hcustody, hp⟩
    · exact fun move hboth => ⟨move.custody hboth.1, hmove hboth.1 move hboth.2⟩
    · exact fun announced hboth =>
        ⟨announced.custody hboth.1, hannounced hboth.1 announced hboth.2⟩
    · exact fun hboth => ⟨hboth.1.shut, hshut hboth.2⟩
    · exact fun hboth => ⟨hboth.1.scrap, hscrap hboth.2⟩
    · exact fun hboth => ⟨hboth.1.report _, hreport hboth.1 hboth.2⟩
  exact hboth.2

/-- A pool that was opened just now holds nothing. -/
theorem Holdings.opened_custody (config : Config) (source : LinkSource) (network : Network)
    (now : Instant) : (Holdings.opened config source network now).Custody := by
  have hplaces : (Holdings.opened config source network now).places = 0 := rfl
  exact ⟨⟨by simp [hplaces], by simp [hplaces], Nat.one_pos⟩, rfl, rfl⟩

/-- The ids at all places are those of the idle connections, those that are checked out and
those of the connections that populations are establishing. -/
theorem Holdings.Custody.ids (hcustody : h.Custody) :
    (h.places.map fun x => x.2.id) =
      (h.stock.available.map Connection.id : Multiset Nat) + (h.stock.checkedOut : Multiset Nat) +
        h.filling.map Connection.id := by
  rw [← hcustody.booked]
  simp only [Holdings.places, placed, Holdings.outside, Multiset.map_add, Multiset.map_map,
    Function.comp_def, Multiset.map_coe, List.map_map, Multiset.add_assoc]

/-- A connection that a call carries is on the books. -/
theorem Holdings.Custody.carried_known {connection : Connection} {rest : Multiset Connection}
    (hcustody : h.Custody) (held : h.carried = connection ::ₘ rest) :
    connection.id ∈ h.stock.checkedOut := by
  have houtside : connection.id ∈ h.outside := by simp [Holdings.outside, held]
  rw [hcustody.booked] at houtside
  exact houtside

/-- A connection that a call has dialled is on the books. -/
theorem Holdings.Custody.dialled_known {connection : Connection} {rest : Multiset Connection}
    (hcustody : h.Custody) (held : h.dialled = connection ::ₘ rest) :
    connection.id ∈ h.stock.checkedOut := by
  have houtside : connection.id ∈ h.outside := by simp [Holdings.outside, held]
  rw [hcustody.booked] at houtside
  exact houtside

/-- A connection that a population is establishing is counted. -/
theorem Holdings.Custody.filling_counted {connection : Connection} {rest : Multiset Connection}
    (hcustody : h.Custody) (held : h.filling = connection ::ₘ rest) : 0 < h.stock.pending := by
  rw [hcustody.reserved, held, Multiset.card_cons]
  exact Nat.succ_pos _

/-- The loans of a pool in whose custody its connections are. -/
theorem Holdings.Custody.loans_booked {pool : Pool} (hcustody : pool.holdings.Custody) :
    pool.Booked where
  ids := by
    have hle : (pool.loans : Multiset Connection).map (Prod.mk Place.lent) ≤
        pool.holdings.places :=
      (Multiset.le_add_left _ _).trans (Multiset.le_add_right _ _)
    have honce := Multiset.nodup_of_le (Multiset.map_le_map hle) hcustody.once
    rw [Multiset.map_map] at honce
    exact honce
  known := by
    intro connection hloan
    have hid : connection.id ∈ pool.holdings.outside :=
      Multiset.mem_add.2 (.inr (Multiset.mem_map_of_mem _ hloan))
    rw [hcustody.booked] at hid
    exact hid

end ConnectionPool
