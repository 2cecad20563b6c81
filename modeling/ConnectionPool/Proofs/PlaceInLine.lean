import ConnectionPool.Proofs.Pool.Queueing
import ConnectionPool.Proofs.Reachable

/-!
# Places in line

A roll is kept of the acquisitions in the order in which they came to the line for the first
time. Who came earlier is ahead in line, with one exception: of two that were both served and
came back, the one that came back later is ahead, since each goes to the head of the line.
`Lined` says how the line agrees with the roll. What carries it is `Lined.behind`: while
somebody waits who was never served, nobody who came after him was.
-/

namespace ConnectionPool

/-- The call has not been served since it came to the line as the member: it waits, or it was
refused. -/
def Phase.Unserved (member : Nat) : Phase → Prop
  | .queued current => current = member
  | .answered (.error _) => True
  | _ => False

namespace Phase.Proceeds

variable {line : List Nat} {phase next : Phase} {member : Nat}

/-- Who is on the way to the line for the first time stays on it, and nobody else gets on it. -/
theorem entering_iff (h : phase.Proceeds line next) :
    phase = .entering false ↔ next = .entering false := by
  cases h with
  | still => exact Iff.rfl
  | served | refused => simp
  | onward before after =>
      constructor
      · rintro rfl
        cases before
      · rintro rfl
        cases after

/-- Who is not first in line is not served. -/
theorem unserved (h : phase.Proceeds line next) (hphase : phase.Unserved member)
    (hwaits : phase = .queued member → ∀ rest, line ≠ member :: rest) : next.Unserved member := by
  cases h with
  | still => exact hphase
  | @served current rest connection first =>
      obtain rfl : current = member := hphase
      exact absurd first (hwaits rfl rest)
  | refused => trivial
  | @onward phase next before after =>
      cases phase with
      | queued => cases before
      | answered answer => cases answer <;> simp [Phase.Served, Phase.Unserved] at before hphase
      | entering | connecting | connected => cases hphase

end Phase.Proceeds

/-! ## The roll -/

/-- An acquisition, and the member as which it came to the line for the first time. -/
structure Arrival where
  call : Nat
  member : Nat
  deriving DecidableEq

namespace Pool

variable {pool next : Pool} {id member : Nat} {call : Call} {action : Action}
  {roll : List Arrival}

/-- Who comes to the line at the action for the first time. -/
def arrivals (pool : Pool) : Action → List Arrival
  | .enter id =>
      match (pool.call? id).map Call.phase, ((pool.after (.enter id)).call? id).map
        Call.phase with
      | some (.entering false), some (.queued member) => [⟨id, member⟩]
      | _, _ => []
  | _ => []

/-- Those on the roll whose calls are not over. -/
def present (pool : Pool) (roll : List Arrival) : List Arrival :=
  roll.filter fun arrival => arrival.call ∈ pool.callIds

/-- The roll after an action. -/
def enroll (pool : Pool) (roll : List Arrival) (action : Action) : List Arrival :=
  (pool.after action).present (roll ++ pool.arrivals action)

/-- The roll after a history of actions. -/
def rollAfter (pool : Pool) (roll : List Arrival) : List Action → List Arrival
  | [] => roll
  | action :: rest => (pool.after action).rollAfter (pool.enroll roll action) rest

/-- The roll has everyone who came to the line and is not over, in the order in which they came.
Of two who wait, the one who came earlier is ahead, unless both were served and came back, the
other one later. While somebody waits who was not served, nobody was served who came after him. -/
structure Lined (roll : List Arrival) (pool : Pool) : Prop where
  present : ∀ arrival ∈ roll, arrival.call ∈ pool.callIds
  enrolled : ∀ call ∈ pool.calls, call.phase = .entering false ↔ call.id ∉ roll.map Arrival.call
  once : (roll.map Arrival.call).Nodup
  ascending : (roll.map Arrival.member).Pairwise (· < ·)
  issued : ∀ arrival ∈ roll, arrival.member ≤ pool.queue.lastMember
  since : ∀ arrival ∈ roll, ∀ member, pool.WaitsAs arrival.call member → arrival.member ≤ member
  order : ∀ first ∈ roll, ∀ second ∈ roll, first.member < second.member → ∀ m n,
    pool.WaitsAs first.call m → pool.WaitsAs second.call n →
    (pool.queue.Ahead m n ↔ ¬ (first.member ≠ m ∧ second.member ≠ n ∧ m < n))
  behind : ∀ first ∈ roll, ∀ second ∈ roll, first.member < second.member →
    pool.WaitsAs first.call first.member → ∀ call ∈ pool.calls, call.id = second.call →
      call.phase.Unserved second.member

/-- The roll is kept when nobody joins the line. -/
theorem Lined.recede (h : Lined roll pool) (hpool : pool.Coherent) (hnext : next.Coherent)
    (hline : next.queue.ids.Sublist pool.queue.ids)
    (hlast : next.queue.lastMember = pool.queue.lastMember) (hages : pool.Ages next) :
    Lined (next.present roll) next := by
  have hkept : ∀ arrival ∈ next.present roll, arrival ∈ roll ∧ arrival.call ∈ next.callIds := by
    intro arrival harrival
    obtain ⟨hroll, hhere⟩ := List.mem_filter.1 harrival
    exact ⟨hroll, decide_eq_true_iff.1 hhere⟩
  have hsub : (next.present roll).Sublist roll := List.filter_sublist
  constructor
  case present => exact fun arrival harrival => (hkept arrival harrival).2
  case enrolled =>
    intro call hcall
    have hhere : call.id ∈ next.callIds := List.mem_map_of_mem hcall
    have hsame : call.id ∈ (next.present roll).map Arrival.call ↔
        call.id ∈ roll.map Arrival.call := by
      refine ⟨fun hid => (hsub.map _).subset hid, fun hid => ?_⟩
      obtain ⟨arrival, harrival, heq⟩ := List.mem_map.1 hid
      rw [← heq]
      refine List.mem_map_of_mem (List.mem_filter.2 ⟨harrival, decide_eq_true_iff.2 ?_⟩)
      exact heq ▸ hhere
    rw [hsame]
    rcases hages call hcall with ⟨before, hbefore, hid, hproceeds⟩ | ⟨hfresh, hnew⟩
    · rw [← hproceeds.entering_iff, h.enrolled before hbefore, hid]
    · refine iff_of_true hnew fun hid => hfresh ?_
      obtain ⟨arrival, harrival, heq⟩ := List.mem_map.1 hid
      exact heq ▸ h.present arrival harrival
  case once => exact h.once.sublist (hsub.map _)
  case ascending => exact h.ascending.sublist (hsub.map _)
  case issued => exact fun arrival harrival => hlast ▸ h.issued arrival (hkept arrival harrival).1
  case since =>
    exact fun arrival harrival m hwaits =>
      h.since arrival (hkept arrival harrival).1 m (hages.waits hwaits)
  case order =>
    intro first hfirst second hsecond hlt m n hm hn
    rw [WaitQueue.ahead_iff_of_sublist hpool.line.ids hline (hm.queued hnext).1
      (hn.queued hnext).1]
    exact h.order first (hkept first hfirst).1 second (hkept second hsecond).1 hlt m n
      (hages.waits hm) (hages.waits hn)
  case behind =>
    intro first hfirst second hsecond hlt hwaits call hcall hid
    have hwaited := hages.waits hwaits
    rcases hages call hcall with ⟨before, hbefore, hsame, hproceeds⟩ | ⟨hfresh, -⟩
    · have hunserved := h.behind first (hkept first hfirst).1 second (hkept second hsecond).1 hlt
        hwaited before hbefore (hsame.trans hid)
      -- The one who came earlier is ahead, so the other one is not first in line.
      refine hproceeds.unserved hunserved fun hqueued rest hids => ?_
      have hahead := (h.order first (hkept first hfirst).1 second (hkept second hsecond).1 hlt _ _
        hwaited ⟨before, hbefore, hsame.trans hid, hqueued⟩).2 fun hboth => hboth.1 rfl
      exact WaitQueue.not_ahead_head hpool.line.ids hids hahead
    · exact absurd (hid ▸ h.present second (hkept second hsecond).1) hfresh

/-! ## Calls that join the line -/

section Joins

variable {readmitted : Bool}

/-- The calls have the same ids before and after. -/
theorem Joins.same_ids (h : pool.Joins next id readmitted) : next.callIds = pool.callIds := by
  rw [callIds, h.calls]
  exact set_phase_ids pool id _

/-- The call that joins the line was on its way there. -/
theorem Joins.entering (h : pool.Joins next id readmitted) :
    ∃ call ∈ pool.calls, call.id = id ∧ call.phase = .entering readmitted := by
  obtain ⟨call, hfind, hphase⟩ := Option.map_eq_some_iff.1 h.call
  exact ⟨call, Coherent.call_mem hfind, by simpa using List.find?_some hfind, hphase⟩

/-- The line is as it was but for the one that joins it. -/
theorem Joins.line_sublist (h : pool.Joins next id readmitted) :
    pool.queue.ids.Sublist next.queue.ids := by
  rw [h.line]
  cases readmitted with
  | true => exact List.sublist_cons_self _ _
  | false => exact List.sublist_append_left _ _

/-- Those who waited before are in the same order. -/
theorem Joins.ahead_iff {first second m n : Nat} (h : pool.Joins next id readmitted)
    (hpool : pool.Coherent) (hnext : next.Coherent) (hm : pool.WaitsAs first m)
    (hn : pool.WaitsAs second n) : next.queue.Ahead m n ↔ pool.queue.Ahead m n :=
  (WaitQueue.ahead_iff_of_sublist hnext.line.ids h.line_sublist (hm.queued hpool).1
    (hn.queued hpool).1).symm

/-- The others waited before. -/
theorem Joins.waited {other : Nat} (h : pool.Joins next id readmitted)
    (hwaits : next.WaitsAs other member) (hother : other ≠ id) : pool.WaitsAs other member :=
  ((h.waits hwaits).resolve_left fun hsame => hother hsame.1).2

/-- Who came later is another call. -/
theorem Lined.apart {first second : Arrival} (h : Lined roll pool) (hfirst : first ∈ roll)
    (hsecond : second ∈ roll) (hlt : first.member < second.member) :
    first.call ≠ second.call := by
  intro hcall
  rw [List.inj_on_of_nodup_map h.once hfirst hsecond hcall] at hlt
  exact Nat.lt_irrefl _ hlt

/-- An acquisition comes back to the line, to its head. -/
theorem Lined.come_back (h : Lined roll pool) (hpool : pool.Coherent) (hnext : next.Coherent)
    (hjoins : pool.Joins next id true) : Lined roll next := by
  obtain ⟨entering, hentering, hid, hphase⟩ := hjoins.entering
  have hline : next.queue.ids = next.queue.lastMember :: pool.queue.ids := hjoins.line
  have hlast := hjoins.last
  -- It was served before, so nobody who came earlier waits without having been served.
  have hserved : ∀ first ∈ roll, ∀ second ∈ roll, second.call = id →
      first.member < second.member → ¬ pool.WaitsAs first.call first.member := by
    intro first hfirst second hsecond hcall hlt hwaits
    have hunserved := h.behind first hfirst second hsecond hlt hwaits entering hentering
      (hid.trans hcall.symm)
    rw [hphase] at hunserved
    exact hunserved
  constructor
  case present => exact fun arrival harrival => hjoins.same_ids ▸ h.present arrival harrival
  case enrolled =>
    intro call hcall
    rcases hjoins.mem_calls hcall with ⟨hsame, hqueued⟩ | ⟨hbefore, -⟩
    · have hon := (not_congr (h.enrolled entering hentering)).1 (by simp [hphase])
      rw [hqueued, hsame, ← hid]
      exact iff_of_false (by simp) hon
    · exact h.enrolled call hbefore
  case once => exact h.once
  case ascending => exact h.ascending
  case issued =>
    intro arrival harrival
    have hissued := h.issued arrival harrival
    omega
  case since =>
    intro arrival harrival m hwaits
    rcases hjoins.waits hwaits with ⟨-, rfl⟩ | ⟨-, hwaited⟩
    · have hissued := h.issued arrival harrival
      omega
    · exact h.since arrival harrival m hwaited
  case order =>
    intro first hfirst second hsecond hlt m n hm hn
    rcases hjoins.waits hm with ⟨hfirstId, rfl⟩ | ⟨hfirstId, hm⟩
    · rcases hjoins.waits hn with ⟨hsecondId, rfl⟩ | ⟨hsecondId, hn⟩
      · exact absurd (hfirstId.trans hsecondId.symm) (h.apart hfirst hsecond hlt)
      · -- The one that came earlier comes back, ahead of the other one.
        obtain ⟨hqueued, hissued⟩ := hn.queued hpool
        refine iff_of_true (WaitQueue.head_ahead hline hqueued) ?_
        omega
    · rcases hjoins.waits hn with ⟨hsecondId, rfl⟩ | ⟨hsecondId, hn⟩
      · -- The one that came later comes back, ahead of the other one, which was served too.
        obtain ⟨hqueued, hissued⟩ := hm.queued hpool
        refine iff_of_false (WaitQueue.not_ahead_head hnext.line.ids hline) (not_not.2 ?_)
        refine ⟨?_, ?_, by omega⟩
        · rintro rfl
          exact hserved first hfirst second hsecond hsecondId hlt hm
        · have hbelow := h.issued second hsecond
          omega
      · rw [hjoins.ahead_iff hpool hnext hm hn]
        exact h.order first hfirst second hsecond hlt m n hm hn
  case behind =>
    intro first hfirst second hsecond hlt hwaits call hcall hsame
    rcases hjoins.waits hwaits with ⟨-, hnew⟩ | ⟨-, hwaited⟩
    · have hissued := h.issued first hfirst
      omega
    · rcases hjoins.mem_calls hcall with ⟨hcallId, -⟩ | ⟨hbefore, -⟩
      · exact absurd hwaited (hserved first hfirst second hsecond (hsame.symm.trans hcallId) hlt)
      · exact h.behind first hfirst second hsecond hlt hwaited call hbefore hsame

/-- A call that comes to the line for the first time is not on the roll yet. -/
theorem Lined.newcomer (h : Lined roll pool) (hjoins : pool.Joins next id false) :
    id ∉ roll.map Arrival.call := by
  obtain ⟨entering, hentering, rfl, hphase⟩ := hjoins.entering
  exact (h.enrolled entering hentering).1 hphase

/-- Whoever is on the roll after that is the new one, or another one that came before it. -/
theorem Lined.mem_come {arrival : Arrival} (h : Lined roll pool)
    (hjoins : pool.Joins next id false)
    (harrival : arrival ∈ roll ++ [⟨id, next.queue.lastMember⟩]) :
    arrival = ⟨id, next.queue.lastMember⟩ ∨
      arrival ∈ roll ∧ arrival.call ≠ id ∧ arrival.member < next.queue.lastMember := by
  rcases List.mem_append.1 harrival with hroll | hnew
  · have hissued := h.issued arrival hroll
    have hlast := hjoins.last
    refine .inr ⟨hroll, fun hcall => ?_, by omega⟩
    exact h.newcomer hjoins (hcall ▸ List.mem_map_of_mem hroll)
  · exact .inl (List.mem_singleton.1 hnew)

/-- An acquisition comes to the line for the first time, to its end. -/
theorem Lined.come (h : Lined roll pool) (hpool : pool.Coherent) (hnext : next.Coherent)
    (hjoins : pool.Joins next id false) :
    Lined (roll ++ [⟨id, next.queue.lastMember⟩]) next := by
  have hline : next.queue.ids = pool.queue.ids ++ [next.queue.lastMember] := hjoins.line
  have hlast := hjoins.last
  have hearlier : ∀ first ∈ roll ++ [⟨id, next.queue.lastMember⟩],
      ∀ second ∈ roll ++ [⟨id, next.queue.lastMember⟩], first.member < second.member →
        first ∈ roll ∧ first.call ≠ id := by
    intro first hfirst second hsecond hlt
    rcases h.mem_come hjoins hfirst with rfl | ⟨hroll, hother, -⟩
    · rcases h.mem_come hjoins hsecond with rfl | ⟨-, -, hbefore⟩
      · exact absurd hlt (Nat.lt_irrefl _)
      · exact absurd hlt (Nat.lt_asymm hbefore)
    · exact ⟨hroll, hother⟩
  constructor
  case present =>
    intro arrival harrival
    rw [hjoins.same_ids]
    rcases h.mem_come hjoins harrival with rfl | ⟨hroll, -, -⟩
    · obtain ⟨entering, hentering, rfl, -⟩ := hjoins.entering
      exact List.mem_map_of_mem hentering
    · exact h.present arrival hroll
  case enrolled =>
    intro call hcall
    rw [List.map_append, List.mem_append, List.map_singleton, List.mem_singleton]
    rcases hjoins.mem_calls hcall with ⟨hsame, hqueued⟩ | ⟨hbefore, hother⟩
    · rw [hqueued]
      exact iff_of_false (by simp) (not_not.2 (.inr hsame))
    · rw [h.enrolled call hbefore, or_iff_left hother]
  case once =>
    rw [List.map_append, List.map_singleton]
    refine List.nodup_append.2 ⟨h.once, List.nodup_singleton _, ?_⟩
    rintro call hcall other hother rfl
    obtain rfl : call = id := List.mem_singleton.1 hother
    exact h.newcomer hjoins hcall
  case ascending =>
    rw [List.map_append, List.map_singleton]
    refine List.pairwise_append.2 ⟨h.ascending, List.pairwise_singleton _ _, ?_⟩
    intro member hmember other hother
    obtain ⟨arrival, harrival, rfl⟩ := List.mem_map.1 hmember
    obtain rfl : other = next.queue.lastMember := List.mem_singleton.1 hother
    have hissued := h.issued arrival harrival
    omega
  case issued =>
    intro arrival harrival
    rcases h.mem_come hjoins harrival with rfl | ⟨-, -, hlt⟩
    · exact Nat.le_refl _
    · exact hlt.le
  case since =>
    intro arrival harrival m hwaits
    rcases h.mem_come hjoins harrival with rfl | ⟨hroll, hother, -⟩
    · rcases hjoins.waits hwaits with ⟨-, rfl⟩ | ⟨hne, -⟩
      · exact Nat.le_refl _
      · exact absurd rfl hne
    · exact h.since arrival hroll m (hjoins.waited hwaits hother)
  case order =>
    intro first hfirst second hsecond hlt m n hm hn
    obtain ⟨hfirstRoll, hfirstOther⟩ := hearlier first hfirst second hsecond hlt
    have hm := hjoins.waited hm hfirstOther
    rcases h.mem_come hjoins hsecond with rfl | ⟨hsecondRoll, hsecondOther, -⟩
    · rcases hjoins.waits hn with ⟨-, rfl⟩ | ⟨hne, -⟩
      · -- The new one is last in line, behind all who came before.
        refine iff_of_true (WaitQueue.ahead_last hline (hm.queued hpool).1) ?_
        exact fun hboth => hboth.2.1 rfl
      · exact absurd rfl hne
    · have hn := hjoins.waited hn hsecondOther
      rw [hjoins.ahead_iff hpool hnext hm hn]
      exact h.order first hfirstRoll second hsecondRoll hlt m n hm hn
  case behind =>
    intro first hfirst second hsecond hlt hwaits call hcall hsame
    obtain ⟨hfirstRoll, hfirstOther⟩ := hearlier first hfirst second hsecond hlt
    rcases h.mem_come hjoins hsecond with rfl | ⟨hsecondRoll, hsecondOther, -⟩
    · rcases hjoins.mem_calls hcall with ⟨-, hqueued⟩ | ⟨-, hother⟩
      · rw [hqueued]
        exact rfl
      · exact absurd hsame hother
    · rcases hjoins.mem_calls hcall with ⟨hid', -⟩ | ⟨hbefore, -⟩
      · exact absurd (hsame.symm.trans hid') hsecondOther
      · exact h.behind first hfirstRoll second hsecondRoll hlt
          (hjoins.waited hwaits hfirstOther) call
          hbefore hsame

end Joins

/-! ## Any history -/

/-- Nobody comes to the line when nobody joins it. -/
theorem Ages.arrivals_nil (h : pool.Ages (pool.after action)) (hpool : pool.Coherent) :
    pool.arrivals action = [] := by
  unfold arrivals
  split
  · next id =>
      split
      · next member hentering hqueued =>
          exfalso
          obtain ⟨before, hbefore, hphase⟩ := Option.map_eq_some_iff.1 hentering
          obtain ⟨call, hcall, hcallPhase⟩ := Option.map_eq_some_iff.1 hqueued
          have hid : call.id = id := by simpa using List.find?_some hcall
          obtain ⟨other, hother, hsame, hwaits⟩ :=
            h.waits ⟨call, Coherent.call_mem hcall, hid, hcallPhase⟩
          rw [hpool.call_eq hbefore hother hsame, hphase] at hwaits
          cases hwaits
      · rfl
  · rfl

/-- A call that joins the line for the first time comes to it. -/
theorem Joins.arrivals_eq {readmitted : Bool}
    (h : pool.Joins (pool.after (.enter id)) id readmitted)
    (hnext : (pool.after (.enter id)).Coherent) :
    pool.arrivals (.enter id) =
      if readmitted then [] else [⟨id, (pool.after (.enter id)).queue.lastMember⟩] := by
  obtain ⟨before, hbefore, rfl, -⟩ := h.entering
  have hcall : { before with phase := .queued (pool.after (.enter before.id)).queue.lastMember } ∈
      (pool.after (.enter before.id)).calls := by
    rw [h.calls]
    exact List.mem_map.2 ⟨before, hbefore, if_pos rfl⟩
  have hqueued : ((pool.after (.enter before.id)).call? before.id).map Call.phase =
      some (.queued (pool.after (.enter before.id)).queue.lastMember) :=
    congrArg (Option.map Call.phase) (Keyed.find_of_mem hnext.callIds hcall)
  rw [arrivals, h.call, hqueued]
  cases readmitted <;> rfl

/-- The roll is kept at every action. -/
theorem Lined.enroll (h : Lined roll pool) (hpool : pool.Coherent)
    (hnext : (pool.after action).Coherent) :
    Lined (pool.enroll roll action) (pool.after action) := by
  rcases (after_arranged hpool action).ages_or_joins with ⟨hages, hline, hlast⟩ |
    ⟨id, readmitted, rfl, hjoins⟩
  · rw [Pool.enroll, hages.arrivals_nil hpool, List.append_nil]
    exact h.recede hpool hnext hline hlast hages
  · have hlined : Lined (roll ++ pool.arrivals (.enter id)) (pool.after (.enter id)) := by
      rw [hjoins.arrivals_eq hnext]
      cases readmitted with
      | true =>
          rw [if_pos rfl, List.append_nil]
          exact h.come_back hpool hnext hjoins
      | false => exact h.come hpool hnext hjoins
    -- Those on the roll are all there.
    have hall : (pool.after (.enter id)).present (roll ++ pool.arrivals (.enter id)) =
        roll ++ pool.arrivals (.enter id) :=
      List.filter_eq_self.2 fun arrival harrival =>
        decide_eq_true_iff.2 (hlined.present arrival harrival)
    rw [Pool.enroll, hall]
    exact hlined

/-- The roll is kept through every history. -/
theorem Lined.run (h : Lined roll pool) (hreachable : pool.Reachable) (history : List Action) :
    Lined (pool.rollAfter roll history) (pool.run history) := by
  induction history generalizing roll pool with
  | nil => exact h
  | cons action rest ih =>
      have hnext := hreachable.after action
      exact ih (h.enroll hreachable.sound.1 hnext.sound.1) hnext

/-- Nobody has come to the line of a pool that was opened just now. -/
theorem lined_opened {config : Config} {source : LinkSource} {network : Network} {now : Instant}
    (hopened : create config source network now = .ok pool) : Lined [] pool := by
  unfold create at hopened
  split at hopened
  · cases hopened
  · cases hopened
    constructor <;> simp [WaitsAs]

/-- Acquisitions keep their places in line. After any history, a roll has those that came to the
line, in the order in which they came for the first time. Of two that wait, the one that came
earlier is ahead, except where both were served and came back after the pool was cleared, the
other one later: then the other one is ahead, since it went to the head of the line. -/
theorem places_kept {config : Config} {source : LinkSource} {network : Network} {now : Instant}
    {opened : Pool} (hopened : create config source network now = .ok opened)
    (history : List Action) (hpool : pool = opened.run history)
    (hroll : roll = opened.rollAfter [] history) :
    Lined roll pool ∧
      ∀ first second m n, [first, second].Sublist roll → pool.WaitsAs first.call m →
        pool.WaitsAs second.call n →
        if first.member ≠ m ∧ second.member ≠ n ∧ m < n then pool.queue.Ahead n m
        else pool.queue.Ahead m n := by
  have hreachable : opened.Reachable := .opened hopened
  have hcoherent : pool.Coherent := hpool ▸ (hreachable.run history).sound.1
  have hlined : Lined roll pool := by
    rw [hpool, hroll]
    exact (lined_opened hopened).run hreachable history
  refine ⟨hlined, fun first second m n hearlier hm hn => ?_⟩
  have hlt : first.member < second.member := by
    have hpair := hlined.ascending.sublist (hearlier.map Arrival.member)
    exact List.rel_of_pairwise_cons hpair (List.mem_singleton_self _)
  have horder := hlined.order first (hearlier.subset (by simp)) second (hearlier.subset (by simp))
    hlt m n hm hn
  split
  · next hboth =>
      have hbehind : ¬ pool.queue.Ahead m n := fun hahead => horder.1 hahead hboth
      have hne : m ≠ n := hboth.2.2.ne
      exact (WaitQueue.ahead_total (hm.queued hcoherent).1
        (hn.queued hcoherent).1 hne).resolve_left hbehind
  · next hnot => exact horder.2 hnot

/-- Two acquisitions are served and connect. The pool is cleared, so both come back to the line,
the first one first. -/
def bothComeBack : List Action :=
  openEmpty ++
    [.acquire 1, .acquire 2, .enter 1, .enter 2, .elapse 10000000, .tick 0, .elapse 10000000,
      .tick 0, .resume 1, .resume 2, .clear, .finishConnect 1, .register 1, .finishConnect 2,
      .register 2, .enter 1, .enter 2]

/-- Of the two the one that came to the line second is ahead when both have come back. -/
theorem last_back_first :
    small.rollAfter [] bothComeBack = [⟨1, 1⟩, ⟨2, 2⟩] ∧
      (small.run bothComeBack).queue.Ahead 4 3 := by
  have hroll : small.rollAfter [] bothComeBack = [⟨1, 1⟩, ⟨2, 2⟩] := by decide +kernel
  obtain ⟨-, horder⟩ := places_kept small_opened bothComeBack rfl hroll.symm
  exact ⟨hroll, horder ⟨1, 1⟩ ⟨2, 2⟩ 3 4 (.refl _) (by decide +kernel) (by decide +kernel)⟩

/-- It is not so that who came to the line first is always ahead in a pool that is open. -/
theorem not_always_ahead :
    ¬ ∀ (history : List Action) (first second : Arrival) (m n : Nat),
      (small.run history).isClosed = false →
      [first, second].Sublist (small.rollAfter [] history) →
      (small.run history).WaitsAs first.call m → (small.run history).WaitsAs second.call n →
      (small.run history).queue.Ahead m n := by
  intro halways
  have hahead := halways bothComeBack ⟨1, 1⟩ ⟨2, 2⟩ 3 4 (by decide +kernel) (by decide +kernel)
    (by decide +kernel) (by decide +kernel)
  exact absurd hahead (by decide +kernel)

end Pool

end ConnectionPool
