import ConnectionPool.Proofs.Pool.Advance

/-!
# What a turn of a population does

Each turn of a population advances the pool: it starts, makes a connection, connects it,
registers it, ends or is dropped. `holdings_split_population` says how the holdings depend on
one population, as `holdings_split` does for a call.
-/

namespace ConnectionPool

/-- The holdings together with what a population in this phase is establishing. -/
def Holdings.withFilling (h : Holdings) (phase : PopulationPhase) : Holdings :=
  { h with filling := phase.connection?.elim h.filling (· ::ₘ h.filling) }

namespace Pool

variable {pool : Pool} {owner : Owner} {population : Population}

/-- The holdings are those without a population together with what it is establishing, also when
the population moves on while the inventory changes. -/
theorem holdings_split_population (h : pool.Coherent)
    (hfind : pool.population? owner = some population) :
    pool.holdings = (pool.removePopulation owner).holdings.withFilling population.phase ∧
      ∀ stock added phase,
        ({ pool with stock := stock }.setPopulation owner added phase).holdings =
          { (pool.removePopulation owner).holdings with stock := stock }.withFilling phase := by
  obtain ⟨rest, hpopulations, hchange, hkeep, -⟩ := Keyed.find_split h.owners hfind
  have hremove : ((pool.removePopulation owner).populations : Multiset Population) = rest :=
    hkeep _ fun _ => decide_eq_true_iff
  have hset : ∀ stock added phase,
      (({ pool with stock := stock }.setPopulation owner added phase).populations :
        Multiset Population) = ⟨owner, added, phase⟩ ::ₘ rest :=
    fun _ added phase => hchange fun _ => ⟨owner, added, phase⟩
  have hbag : ∀ (f : Population → Option Connection) (population : Population),
      (population ::ₘ rest).filterMap f =
        (f population).elim (rest.filterMap f) (· ::ₘ rest.filterMap f) := by
    intro f population
    cases hf : f population <;> simp [hf]
  refine ⟨?_, ?_⟩
  · simp only [holdings, Holdings.withFilling, hpopulations, hremove, hbag]
    rfl
  · intro stock added phase
    simp only [holdings, Holdings.withFilling, hset, hremove, hbag]
    rfl

/-- A population that moves on keeps its owner. -/
theorem set_population_owners (pool : Pool) (owner : Owner) (added : Nat)
    (phase : PopulationPhase) : (pool.setPopulation owner added phase).populations.map
      Population.owner = pool.populations.map Population.owner := by
  refine Keyed.map_keys ?_
  intro population
  split
  · next howner => exact howner.symm
  · rfl

/-- A population that moves on to a sound phase leaves the pool coherent. -/
theorem Coherent.setPopulation {phase : PopulationPhase} (h : pool.Coherent) (owner : Owner)
    (added : Nat) (hsound : phase.Sound) : (pool.setPopulation owner added phase).Coherent where
  callIds := h.callIds
  owners := set_population_owners pool owner added phase ▸ h.owners
  apart := set_population_owners pool owner added phase ▸ h.apart
  phases := h.phases
  fillings := by
    intro population hpopulation
    obtain ⟨before, hbefore, rfl⟩ := List.mem_map.1 hpopulation
    split
    · exact hsound
    · exact h.fillings before hbefore
  line := h.line
  shut := h.shut

/-- A population that ends leaves the pool coherent. -/
theorem Coherent.removePopulation (h : pool.Coherent) (owner : Owner) :
    (pool.removePopulation owner).Coherent where
  callIds := h.callIds
  owners := h.owners.sublist (List.filter_sublist.map Population.owner)
  apart := fun id hid howner =>
    h.apart id hid ((List.filter_sublist.map Population.owner).subset howner)
  phases := h.phases
  fillings := fun population hpopulation =>
    h.fillings population (List.mem_of_mem_filter hpopulation)
  line := h.line
  shut := h.shut

/-- A population that ends is taken off the list. -/
theorem finish_population_frame (h : pool.Coherent) (owner : Owner) (result : CallResult) :
    (pool.finishPopulation owner result).Coherent ∧
      (pool.finishPopulation owner result).holdings = (pool.removePopulation owner).holdings := by
  have hcoherent := h.removePopulation owner
  cases owner with
  | opening | call | maintenance => exact ⟨hcoherent.congr rfl rfl rfl rfl, rfl⟩

/-- A population that is about to make a connection has none. -/
theorem holdings_reserving (h : pool.Coherent) (hfind : pool.population? owner = some population)
    (hphase : population.phase.connection? = none) :
    (pool.removePopulation owner).holdings = pool.holdings := by
  rw [(holdings_split_population h hfind).1, Holdings.withFilling, hphase]
  rfl

/-- A population of a new owner starts, if that is no call that is under way. -/
theorem enlist_advances (h : pool.Coherent) (hfresh : pool.population? owner = none)
    (hapart : ∀ id ∈ pool.calls.map Call.id, .call id ≠ owner) :
    pool.Advances { pool with populations := pool.populations ++ [⟨owner, 0, .reserving⟩] } := by
  constructor
  · refine ⟨h.callIds, ?_, ?_, h.phases, ?_, h.line, h.shut⟩
    · refine Keyed.nodup_snoc h.owners ?_
      intro population hpopulation
      simpa using List.find?_eq_none.1 hfresh population hpopulation
    · intro id hid howner
      rw [List.map_append, List.mem_append] at howner
      rcases howner with howner | howner
      · exact h.apart id hid howner
      · exact hapart id hid (List.mem_singleton.1 howner)
    · intro population hpopulation
      rcases List.mem_append.1 hpopulation with hpopulation | hpopulation
      · exact h.fillings population hpopulation
      · obtain rfl := List.mem_singleton.1 hpopulation
        trivial
  · refine .moves ?_
    have hfilling : ((pool.populations ++ [⟨owner, 0, .reserving⟩] : List Population) :
        Multiset Population).filterMap (fun population => population.phase.connection?) =
          (pool.populations : Multiset Population).filterMap
            fun population => population.phase.connection? := by
      have hnone : PopulationPhase.reserving.connection? = none := rfl
      simp [hnone]
    simp only [holdings, hfilling]
    exact .refl

/-- A caller asks for a population. -/
theorem start_population_advances (h : pool.Coherent) (id : Nat) :
    pool.Advances (pool.startPopulation id) := by
  unfold startPopulation
  split
  · next hfree =>
      simp only [Bool.and_eq_true, Option.isNone_iff_eq_none] at hfree
      refine enlist_advances h hfree.1.2 ?_
      rintro other hother ⟨⟩
      obtain ⟨call, hcall, hid⟩ := List.mem_map.1 hother
      simpa [hid] using List.find?_eq_none.1 hfree.2 call hcall
  · exact .refl h

/-- A population makes the next connection, or ends because no more are wanted. -/
theorem reserve_advances (h : pool.Coherent) (owner : Owner) :
    pool.Advances (pool.reserve owner) := by
  unfold reserve
  split
  · next added hfind =>
      obtain ⟨-, hafter⟩ := holdings_split_population h hfind
      have hbefore := holdings_reserving h hfind rfl
      split
      · obtain ⟨hcoherent, hsame⟩ := finish_population_frame h owner (.populated added)
        refine ⟨hcoherent, .moves ?_⟩
        rw [hsame, hbefore]
      · next hwanted =>
          have hset := h.withStock
            { pool.stock with pending := pool.stock.pending + 1 }.create.2 rfl
          refine ⟨hset.setPopulation owner added ?_, .moves (.single ?_)⟩
          · exact (Connection.establish_now_none _).2 ⟨rfl, rfl⟩
          · rw [hafter, hbefore]
            exact .reserved pool.holdings (Bool.not_eq_true _ ▸ hwanted)
  · exact .refl h

/-- The connect of a population comes to an end. -/
theorem finish_reserved_advances (h : pool.Coherent) (owner : Owner) :
    pool.Advances (pool.finishReserved owner) := by
  unfold finishReserved
  split
  · next added connection due hfind =>
      obtain ⟨hbefore, hafter⟩ := holdings_split_population h hfind
      have hneeded : connection.establishNow? = none :=
        h.fillings _ (List.mem_of_find?_eq_some hfind)
      split
      · have hset := h.withStock { pool.stock with
            network := (connection.connect pool.stock.network pool.now).2.2 } rfl
        refine ⟨hset.setPopulation owner added
          (connection.connect_established pool.stock.network pool.now hneeded),
          .moves (.single ?_)⟩
        rw [hbefore, hafter]
        exact .filled _ (Holdings.fill_filling _ _) hneeded
      · exact .refl h
  · exact .refl h

/-- A population registers the outcome of its connect. -/
theorem settle_reserved_advances (h : pool.Coherent) (owner : Owner) :
    pool.Advances (pool.settleReserved owner) := by
  unfold settleReserved
  split
  · next added connection outcome hfind =>
      obtain ⟨hbefore, hafter⟩ := holdings_split_population h hfind
      have hsound : connection.established = outcome.isOk :=
        h.fillings _ (List.mem_of_find?_eq_some hfind)
      have hreserving : PopulationPhase.reserving.Sound := trivial
      dsimp only
      split
      · split
        · next reason hreason =>
            have hset := h.withStock (({ pool.stock with pending := pool.stock.pending - 1 }.emit
              (.ready connection.info)).discard connection reason)
              (Inventory.discard_closed _ _ _)
            refine ⟨hset.setPopulation owner added hreserving, .moves (.single ?_)⟩
            rw [hbefore, hafter]
            exact .unwanted _ (Holdings.fill_filling _ _) hsound hreason
        · next hwanted =>
            have hset := h.withStock (Inventory.putBack ({ pool.stock with
              pending := pool.stock.pending - 1 }.emit (.ready connection.info)) connection) rfl
            refine ⟨hset.setPopulation owner (added + 1) hreserving, .moves (.single ?_)⟩
            rw [hbefore, hafter]
            exact .stocked _ (Holdings.fill_filling _ _) hsound hwanted
      · next error =>
          have hset := h.withStock ({ pool.stock with
            pending := pool.stock.pending - 1 }.discard connection .unknown)
            (Inventory.discard_closed _ _ _)
          obtain ⟨hcoherent, hsame⟩ := finish_population_frame hset owner (.failed _)
          refine ⟨hcoherent, .moves (.single ?_)⟩
          rw [hbefore, hsame]
          exact .abandoned _ (Holdings.fill_filling _ _)
  · exact .refl h

/-- A population is dropped where it is. -/
theorem abandon_population_moves (h : pool.Coherent) (owner : Owner) :
    (pool.abandonPopulation owner).Coherent ∧
      Moves pool.holdings (pool.abandonPopulation owner).holdings := by
  unfold abandonPopulation
  split
  · exact ⟨h, .refl⟩
  · next population hfind =>
      have hremoved := h.removePopulation owner
      dsimp only
      split
      · next hphase =>
          rw [holdings_reserving h hfind hphase]
          exact ⟨hremoved, .refl⟩
      · next connection hphase =>
          refine ⟨hremoved.congr rfl rfl rfl (Inventory.discard_closed _ _ _), .single ?_⟩
          rw [(holdings_split_population h hfind).1, Holdings.withFilling, hphase]
          exact .abandoned _ (Holdings.fill_filling _ _)

/-- Giving up the opening of a pool drops its first population. -/
theorem abandon_opening_advances (h : pool.Coherent) : pool.Advances pool.abandonOpening := by
  unfold abandonOpening
  split
  · exact .refl h
  · obtain ⟨hcoherent, hmoves⟩ := abandon_population_moves h .opening
    exact ⟨hcoherent.congr rfl rfl rfl rfl, .moves hmoves⟩

/-- A tick of the maintenance task. -/
theorem maintain_advances (h : pool.Coherent) : pool.Advances pool.maintain := by
  unfold maintain
  split
  · next due interval hdue hinterval =>
      split
      · next hidle =>
          split
          · exact ⟨h.congr rfl rfl rfl rfl, .moves .refl⟩
          · rw [Bool.and_eq_true, Bool.not_eq_true'] at hidle
            have hfresh : pool.population? .maintenance = none := by
              simpa [isMaintaining] using hidle.2
            obtain ⟨hcoherent, hturn⟩ := enlist_advances h hfresh (by simp)
            exact ⟨hcoherent.congr rfl rfl rfl rfl, hturn⟩
      · exact .refl h
  · exact .refl h

/-- A run of a stopped maintenance task is dropped. -/
theorem abandon_maintenance_advances (h : pool.Coherent) :
    pool.Advances pool.abandonMaintenance := by
  unfold abandonMaintenance
  split
  · obtain ⟨hcoherent, hmoves⟩ := abandon_population_moves h .maintenance
    exact ⟨hcoherent, .moves hmoves⟩
  · exact .refl h

end Pool

end ConnectionPool
