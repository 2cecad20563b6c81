import ConnectionPool.Proofs.Reachable

/-!
# The story of a connection

The events that are about one connection tell its story: it is created, becomes ready, is
acquired and released in turns, and is closed. `Lifetime` lists the stories that there are.
Where a connection is and what has become of it says how far its story has got, which is `Fits`;
every `Life` carries the story on to where the connection is then, and every `Death` brings it
to an end.
-/

namespace ConnectionPool

/-- The types of the events about the connection of the id, oldest first. -/
def story (kinds : List EventKind) (id : Nat) : List EventType :=
  (kinds.filter fun kind => kind.connection?.any fun info => info.id == id).map EventKind.type

/-- The ids of the connections that were created, oldest first. -/
def births (kinds : List EventKind) : List Nat :=
  kinds.filterMap fun kind =>
    match kind with
    | .created info => some info.id
    | _ => none

/-- A connection was created, became ready, and was acquired and released so many times. -/
def used (times : Nat) : List EventType :=
  .created :: .ready :: (List.replicate times [.acquired, .released]).flatten

/-- The stories of connections, at any time of their lives. -/
inductive Lifetime : List EventType → Prop where
  | unborn : Lifetime []
  | created : Lifetime [.created]
  | neverReady : Lifetime [.created, .closed]
  | returned (times : Nat) : Lifetime (used times)
  | acquired (times : Nat) : Lifetime (used times ++ [.acquired])
  | closed (times : Nat) : Lifetime (used times ++ [.closed])

/-- A connection that was made and not established yet. -/
def Connection.isNew (connection : Connection) : Prop :=
  connection.established = false ∧ connection.destroyed = false

/-- A connection that was established, whether or not it was destroyed since. -/
def Connection.wasEstablished (connection : Connection) : Prop :=
  connection.established = !connection.destroyed

/-- The story of a connection has got as far as its place and its state say. -/
def Fits (connection : Connection) (word : List EventType) : Place → Prop
  | .idle | .carried =>
      connection.isNew ∧ word = [.created] ∨
        connection.wasEstablished ∧ ∃ times, word = used times
  | .dialled | .filling => connection.destroyed = false ∧ word = [.created]
  | .lent => connection.wasEstablished ∧ ∃ times, word = used times ++ [.acquired]

section Words

/-- One use more. -/
theorem used_succ (times : Nat) : used times ++ [.acquired, .released] = used (times + 1) := by
  simp [used, List.replicate_succ']

variable {connection connection' : Connection} {place place' : Place} {word : List EventType}
  {kinds : List EventKind} {stock : Inventory}

/-- A story that fits a connection is one that there is. -/
theorem Fits.lifetime (h : Fits connection word place) : Lifetime word := by
  cases place with
  | idle | carried =>
      rcases h with ⟨-, rfl⟩ | ⟨-, times, rfl⟩
      · exact .created
      · exact .returned times
  | dialled | filling =>
      obtain ⟨-, rfl⟩ := h
      exact .created
  | lent =>
      obtain ⟨-, times, rfl⟩ := h
      exact .acquired times

/-- A connection that is established and not destroyed was established. -/
theorem Connection.was_established_of_usable (hestablished : connection.established = true)
    (hdestroyed : connection.destroyed = false) : connection.wasEstablished := by
  show connection.established = !connection.destroyed
  rw [hestablished, hdestroyed]
  rfl

/-- A new connection was not established. -/
theorem Connection.isNew.not_established (h : connection.isNew) :
    ¬ connection.wasEstablished := by
  show ¬ connection.established = !connection.destroyed
  rw [h.1, h.2]
  exact Bool.false_ne_true

/-- Borrowers cannot make a connection new again. -/
theorem Connection.Handled.wasEstablished {network network' : Network} {now : Instant}
    (change : connection.Handled network now connection' network')
    (h : connection.wasEstablished) : connection'.wasEstablished := by
  cases change with
  | write bytes =>
      unfold Connection.write
      split
      · exact h
      · split <;> exact h
  | establish =>
      unfold Connection.establish
      split
      · exact h
      · next hnew =>
          -- Only a new connection is connected, and no borrower has one.
          have hfresh : connection.isNew := (connection.establish_now_none).1 hnew
          exact absurd h hfresh.not_established
  | destroy =>
      unfold Connection.destroy
      split
      · exact h
      · rfl

/-- A connection that has to connect is new, and its story has just begun. -/
theorem Fits.new (h : Fits connection word .carried) (hneeded : connection.establishNow? = none) :
    connection.destroyed = false ∧ word = [.created] := by
  have hfresh : connection.isNew := (connection.establish_now_none).1 hneeded
  rcases h with ⟨-, hword⟩ | ⟨hwas, -⟩
  · exact ⟨hfresh.2, hword⟩
  · exact absurd hwas hfresh.not_established

/-- A connection that a call carries and that is established is not destroyed, and was ready
before. -/
theorem Fits.established (h : Fits connection word .carried)
    (hconnected : connection.established = true) :
    connection.destroyed = false ∧ ∃ times, word = used times := by
  rcases h with ⟨hnew, -⟩ | ⟨hwas, times, hword⟩
  · rw [hnew.1] at hconnected
    cases hconnected
  · rw [Connection.wasEstablished, hconnected] at hwas
    exact ⟨by simpa using hwas, times, hword⟩

/-- The life of a connection carries its story on. -/
theorem Life.fits (life : Life stock connection place kinds place' connection')
    (h : Fits connection word place) :
    Fits connection' (word ++ kinds.map EventKind.type) place' := by
  cases life with
  | reused | reclaimed =>
      rw [List.map_nil, List.append_nil]
      exact h
  | dialled needed =>
      obtain ⟨hdestroyed, rfl⟩ := h.new needed
      exact ⟨(connection.connect_destroyed _ _).trans hdestroyed, rfl⟩
  | readied connected =>
      obtain ⟨hdestroyed, rfl⟩ := h
      exact .inr ⟨Connection.was_established_of_usable connected hdestroyed, 0, rfl⟩
  | announced wanted connected =>
      obtain ⟨hdestroyed, times, rfl⟩ := h.established connected
      exact ⟨Connection.was_established_of_usable connected hdestroyed, times, rfl⟩
  | handled change =>
      rw [List.map_nil, List.append_nil]
      exact ⟨change.wasEstablished h.1, h.2⟩
  | returned wanted =>
      obtain ⟨hwas, times, rfl⟩ := h
      refine .inr ⟨hwas, times + 1, ?_⟩
      rw [← used_succ, List.append_assoc]
      rfl
  | filled needed =>
      obtain ⟨hdestroyed, rfl⟩ := h
      exact ⟨(connection.connect_destroyed _ _).trans hdestroyed, rfl⟩
  | stocked connected wanted =>
      obtain ⟨hdestroyed, rfl⟩ := h
      exact .inr ⟨Connection.was_established_of_usable connected hdestroyed, 0, rfl⟩

/-- In its life a connection is not born again. -/
theorem Life.no_birth (life : Life stock connection place kinds place' connection') :
    ∀ kind ∈ kinds, kind.type ≠ .created := by
  cases life <;> simp [EventKind.type]

/-- A connection is not born again as it goes. -/
theorem Death.no_birth (death : Death connection place kinds) :
    ∀ kind ∈ kinds, kind.type ≠ .created := by
  cases death <;> simp [EventKind.type]

/-- The end of a connection brings its story to an end. -/
theorem Death.lifetime (death : Death connection place kinds) (h : Fits connection word place) :
    Lifetime (word ++ kinds.map EventKind.type) := by
  cases death with
  | closed back reason =>
      cases place with
      | idle | carried =>
          rcases h with ⟨-, rfl⟩ | ⟨-, times, rfl⟩
          · exact .neverReady
          · exact .closed times
      | dialled | filling =>
          obtain ⟨-, rfl⟩ := h
          exact .neverReady
      | lent =>
          -- A borrowed connection is released before it is closed.
          exact absurd rfl back
  | returned reason =>
      obtain ⟨-, times, rfl⟩ := h
      have hword : used times ++ [.acquired] ++ [.released, .closed] =
          used (times + 1) ++ [.closed] := by
        rw [← used_succ, List.append_assoc, List.append_assoc]
        rfl
      simp only [List.map_cons, List.map_nil, EventKind.type, hword]
      exact .closed (times + 1)
  | unwanted connected reason =>
      obtain ⟨-, rfl⟩ := h
      exact .closed 0

end Words

/-! ## Stories so far -/

section Append

variable (kinds later : List EventKind) (id : Nat)

/-- A story goes on with what is told later. -/
theorem story_append : story (kinds ++ later) id = story kinds id ++ story later id := by
  simp [story]

/-- Later births come later. -/
theorem births_append : births (kinds ++ later) = births kinds ++ births later := by
  simp [births]

variable {kinds id}

/-- There is no story as long as nothing is about the connection of the id. -/
theorem story_nil :
    story kinds id = [] ↔ ∀ kind ∈ kinds, ∀ info, kind.connection? = some info →
      info.id ≠ id := by
  rw [story, List.map_eq_nil_iff, List.filter_eq_nil_iff]
  refine forall₂_congr ?_
  intro kind _
  cases kind.connection? with
  | none => simp
  | some info => simp

/-- What is about no connection is no part of any story. -/
theorem story_silent (h : ∀ kind ∈ kinds, kind.connection? = none) (id : Nat) :
    story kinds id = [] := by
  refine story_nil.2 ?_
  intro kind hkind info hinfo
  rw [h kind hkind] at hinfo
  cases hinfo

/-- What is about one connection is all part of its story. -/
theorem story_own {info : ConnectionInfo} (h : ∀ kind ∈ kinds, kind.connection? = some info) :
    story kinds info.id = kinds.map EventKind.type := by
  have hall : (kinds.filter fun kind =>
      kind.connection?.any fun other => other.id == info.id) = kinds :=
    List.filter_eq_self.2 fun kind hkind => by simp [h kind hkind]
  rw [story, hall]

/-- What is about one connection is no part of another one's story. -/
theorem story_other {info : ConnectionInfo} (h : ∀ kind ∈ kinds, kind.connection? = some info)
    (hid : info.id ≠ id) : story kinds id = [] := by
  refine story_nil.2 ?_
  intro kind hkind other hother
  obtain rfl := Option.some.inj ((h kind hkind).symm.trans hother)
  exact hid

end Append

/-- Only the creation of a connection is a birth. -/
theorem births_nil {kinds : List EventKind} (h : ∀ kind ∈ kinds, kind.type ≠ .created) :
    births kinds = [] := by
  refine List.filterMap_eq_nil_iff.2 ?_
  intro kind hkind
  split
  · exact absurd rfl (h _ hkind)
  · rfl

/-- The stories that have been told: those of the connections of the pool fit them, there are no
others than there can be, and the connections were created one after the other. -/
structure Holdings.Told (h : Holdings) : Prop where
  present : ∀ x ∈ h.places, Fits x.2 (story h.kinds x.2.id) x.1
  lifetimes : ∀ id, Lifetime (story h.kinds id)
  unborn : ∀ id, h.stock.nextConnection ≤ id → story h.kinds id = []
  numbered : births h.kinds = List.range' 1 (h.stock.nextConnection - 1)

variable {h h' : Holdings} {kinds : List EventKind} {connection : Connection}

/-- What is told of one connection carries its story on, if that is one that there is, and
leaves the stories of the others as they are. -/
theorem Holdings.Told.extend {info : ConnectionInfo} (htold : h.Told)
    (hkinds : h'.kinds = h.kinds ++ kinds)
    (hinfo : ∀ kind ∈ kinds, kind.connection? = some info)
    (hbirths : ∀ kind ∈ kinds, kind.type ≠ .created)
    (hissued : info.id < h.stock.nextConnection)
    (hcount : h'.stock.nextConnection = h.stock.nextConnection)
    (hlifetime : Lifetime (story h.kinds info.id ++ kinds.map EventKind.type))
    (hpresent : ∀ x ∈ h'.places, x ∈ h.places ∧ x.2.id ≠ info.id ∨ x.2.id = info.id ∧
      Fits x.2 (story h.kinds info.id ++ kinds.map EventKind.type) x.1) : h'.Told := by
  have hown : story h'.kinds info.id = story h.kinds info.id ++ kinds.map EventKind.type := by
    rw [hkinds, story_append, story_own hinfo]
  have hothers : ∀ id, id ≠ info.id → story h'.kinds id = story h.kinds id := by
    intro id hid
    rw [hkinds, story_append, story_other hinfo hid.symm, List.append_nil]
  refine ⟨?_, ?_, ?_, ?_⟩
  · intro x hx
    rcases hpresent x hx with ⟨hx, hid⟩ | ⟨hid, hfits⟩
    · rw [hothers _ hid]
      exact htold.present x hx
    · rw [hid, hown]
      exact hfits
  · intro id
    by_cases hsame : id = info.id
    · rw [hsame, hown]
      exact hlifetime
    · rw [hothers id hsame]
      exact htold.lifetimes id
  · intro id hid
    rw [hcount] at hid
    rw [hothers id (by omega)]
    exact htold.unborn id hid
  · rw [hkinds, births_append, births_nil hbirths, List.append_nil, hcount]
    exact htold.numbered

/-- The connections besides one have other ids. -/
theorem Holdings.Numbered.others {place : Place} {rest : Multiset (Place × Connection)}
    (hnumbered : h.Numbered) (hplaces : h.places = (place, connection) ::ₘ rest)
    {x : Place × Connection} (hx : x ∈ rest) : x ∈ h.places ∧ x.2.id ≠ connection.id := by
  have honce := hnumbered.once
  rw [hplaces, Multiset.map_cons, Multiset.nodup_cons] at honce
  refine ⟨hplaces ▸ Multiset.mem_cons_of_mem hx, fun hid => honce.1 ?_⟩
  rw [← hid]
  exact Multiset.mem_map_of_mem (fun x => x.2.id) hx

/-- The birth of a connection begins its story. -/
theorem Holdings.Told.birth {place : Place} (htold : h.Told) (hnumbered : h.Numbered)
    (hnew : place = .carried ∨ place = .filling)
    (hplaces : h'.places = (place, h.stock.newborn) ::ₘ h.places)
    (hcount : h'.stock.nextConnection = h.stock.nextConnection + 1)
    (hkinds : h'.kinds = h.kinds ++ [.created h.stock.newborn.info]) : h'.Told := by
  have hinfo : ∀ kind ∈ [EventKind.created h.stock.newborn.info],
      kind.connection? = some h.stock.newborn.info := by simp [EventKind.connection?]
  have hown : story h'.kinds h.stock.nextConnection = [.created] := by
    rw [hkinds, story_append, htold.unborn _ (Nat.le_refl _)]
    exact story_own hinfo
  have hothers : ∀ id, id ≠ h.stock.nextConnection → story h'.kinds id = story h.kinds id := by
    intro id hid
    rw [hkinds, story_append, story_other hinfo hid.symm, List.append_nil]
  refine ⟨?_, ?_, ?_, ?_⟩
  · intro x hx
    rw [hplaces, Multiset.mem_cons] at hx
    rcases hx with rfl | hx
    · show Fits h.stock.newborn (story h'.kinds h.stock.nextConnection) place
      rw [hown]
      rcases hnew with rfl | rfl
      · exact .inl ⟨⟨rfl, rfl⟩, rfl⟩
      · exact ⟨rfl, rfl⟩
    · rw [hothers _ (Nat.ne_of_lt (hnumbered.issued x hx).2)]
      exact htold.present x hx
  · intro id
    by_cases hid : id = h.stock.nextConnection
    · rw [hid, hown]
      exact .created
    · rw [hothers id hid]
      exact htold.lifetimes id
  · intro id hid
    rw [hcount] at hid
    rw [hothers id (by omega)]
    exact htold.unborn id (by omega)
  · have hpositive := hnumbered.positive
    obtain ⟨made, hmade⟩ : ∃ made, h.stock.nextConnection = made + 1 :=
      ⟨_, (Nat.succ_pred_eq_of_pos hpositive).symm⟩
    have hborn : births [.created h.stock.newborn.info] = [1 + made] := by
      rw [Nat.add_comm, ← hmade]
      rfl
    rw [hkinds, births_append, htold.numbered, hcount, hborn, hmade]
    exact List.range'_1_concat.symm

/-- Every passage carries the stories on. -/
theorem Passage.told (passage : Passage h kinds h') (hkinds : h'.kinds = h.kinds ++ kinds)
    (hnumbered : h.Numbered) (htold : h.Told) : h'.Told := by
  cases passage with
  | still same count silent =>
      have hstory : ∀ id, story h'.kinds id = story h.kinds id := by
        intro id
        rw [hkinds, story_append, story_silent silent, List.append_nil]
      have hbirths : births kinds = [] := by
        refine births_nil ?_
        intro kind hkind htype
        have hnone := silent kind hkind
        cases kind <;> cases htype
        cases hnone
      refine ⟨?_, ?_, ?_, ?_⟩
      · intro x hx
        rw [hstory]
        exact htold.present x (same ▸ hx)
      · intro id
        rw [hstory]
        exact htold.lifetimes id
      · intro id hid
        rw [hstory]
        exact htold.unborn id (count ▸ hid)
      · rw [hkinds, births_append, hbirths, List.append_nil, count]
        exact htold.numbered
  | born new after count => exact htold.birth hnumbered new after count hkinds
  | lives rest before after count life =>
      have hhere := before ▸ Multiset.mem_cons_self _ _
      have hfits := life.fits (htold.present _ hhere)
      refine htold.extend hkinds life.told life.no_birth (hnumbered.issued _ hhere).2 count
        hfits.lifetime ?_
      intro x hx
      rw [after, Multiset.mem_cons] at hx
      rcases hx with rfl | hx
      · exact .inr ⟨Connection.id_of_info life.info, hfits⟩
      · exact .inl (hnumbered.others before hx)
  | dies place before count death =>
      have hhere := before ▸ Multiset.mem_cons_self _ _
      exact htold.extend hkinds death.told death.no_birth (hnumbered.issued _ hhere).2 count
        (death.lifetime (htold.present _ hhere)) fun x hx => .inl (hnumbered.others before hx)

/-- Every step carries the stories on. -/
theorem Step.told {given : Nat} (step : Step h given h') (hcustody : h.Custody)
    (htold : h.Told) : h'.Told := by
  refine step.preserves_in_custody (P := Holdings.Told) ?_ ?_ ?_ ?_ ?_ hcustody htold
  · intro h h' hcustody move htold
    obtain ⟨kinds, passage, hkinds⟩ := move.passage
    exact passage.told hkinds hcustody.toNumbered htold
  · intro connection h h' hcustody announced htold
    obtain ⟨passage, hkinds⟩ := announced.passage
    exact passage.told hkinds hcustody.toNumbered htold
  · exact fun htold => ⟨htold.present, htold.lifetimes, htold.unborn, htold.numbered⟩
  · -- The stories of connections that are given up without a word stay as they are.
    exact fun htold => ⟨fun x hx => htold.present x (Holdings.mem_of_scrap hx), htold.lifetimes,
      htold.unborn, htold.numbered⟩
  · intro h hcustody htold
    obtain ⟨passage, hkinds⟩ := h.report_passage
    exact passage.told hkinds hcustody.toNumbered htold

/-- Nothing is told of any connection when a pool is opened. -/
theorem Holdings.opened_told (config : Config) (source : LinkSource) (network : Network)
    (now : Instant) : (Holdings.opened config source network now).Told := by
  have hsilent : ∀ id, story (Holdings.opened config source network now).kinds id = [] :=
    story_silent (by simp [Holdings.opened, Holdings.kinds, Inventory.emit,
      EventKind.connection?])
  refine ⟨?_, ?_, ?_, rfl⟩
  · have hplaces : (Holdings.opened config source network now).places = 0 := rfl
    simp [hplaces]
  · exact fun id => hsilent id ▸ .unborn
  · exact fun id _ => hsilent id

/-- The stories of a reachable pool. -/
theorem Pool.Reachable.told {pool : Pool} (h : pool.Reachable) : pool.holdings.Told :=
  h.invariant Holdings.opened_told fun hcustody step => step.told hcustody

end ConnectionPool
