import Mathlib.Data.Multiset.MapFold

/-!
# Lists with keys

In a list whose elements have different keys, looking one up singles it out: changing the
elements of its key changes it alone, and leaving them out takes it away. This is `find_split`;
the calls, the populations and the loans of a pool are such lists.
-/

namespace ConnectionPool.Keyed

variable {α κ : Type} [DecidableEq κ] {key : α → κ} {elements : List α} {k : κ} {found : α}

/-- An element that was looked up, the others, and the two changes of the list that concern it. -/
theorem find_split (hnodup : (elements.map key).Nodup)
    (hfind : (elements.find? fun element => key element == k) = some found) :
    ∃ rest : Multiset α,
      (elements : Multiset α) = found ::ₘ rest ∧
      (∀ change : α → α,
        ((elements.map fun element =>
          if key element = k then change element else element : List α) : Multiset α) =
            change found ::ₘ rest) ∧
      (∀ keep : α → Bool, (∀ element, keep element = true ↔ key element ≠ k) →
        ((elements.filter keep : List α) : Multiset α) = rest) ∧
      key found = k := by
  -- The list splits at the element that was found, and no other element has its key.
  obtain ⟨hkey, before, after, rfl, hbefore⟩ := List.find?_eq_some_iff_append.1 hfind
  have hkey : key found = k := by simpa using hkey
  have hbefore : ∀ element ∈ before, key element ≠ k := by simpa using hbefore
  have hafter : ∀ element ∈ after, key element ≠ k := by
    rw [List.map_append, List.map_cons] at hnodup
    have hnot := (List.nodup_cons.1 (List.nodup_append.1 hnodup).2.1).1
    exact fun element hmem heq => hnot (hkey.trans heq.symm ▸ List.mem_map_of_mem hmem)
  refine ⟨(before ++ after : List α), ?_, ?_, ?_, hkey⟩
  · exact Multiset.coe_eq_coe.2 List.perm_middle
  · intro change
    have hsame : ∀ {others : List α}, (∀ element ∈ others, key element ≠ k) →
        (others.map fun element => if key element = k then change element else element) =
          others := fun hothers =>
      (List.map_congr_left fun element hmem => if_neg (hothers element hmem)).trans
        (List.map_id' _)
    rw [List.map_append, List.map_cons, hsame hbefore, hsame hafter, if_pos hkey]
    exact Multiset.coe_eq_coe.2 List.perm_middle
  · intro keep hkeep
    have hall : ∀ {others : List α}, (∀ element ∈ others, key element ≠ k) →
        others.filter keep = others := fun hothers =>
      List.filter_eq_self.2 fun element hmem => (hkeep element).2 (hothers element hmem)
    rw [List.filter_append, List.filter_cons_of_neg (by simp [hkeep, hkey]), hall hbefore,
      hall hafter]

omit [DecidableEq κ] in
/-- An element of a new key may be added at the end. -/
theorem nodup_snoc (hnodup : (elements.map key).Nodup)
    (hfresh : ∀ element ∈ elements, key element ≠ key found) :
    ((elements ++ [found]).map key).Nodup := by
  rw [List.map_append, List.map_cons, List.map_nil]
  refine List.nodup_append.2 ⟨hnodup, List.nodup_singleton _, ?_⟩
  intro k hk other hother
  obtain ⟨element, helement, rfl⟩ := List.mem_map.1 hk
  obtain rfl := List.mem_singleton.1 hother
  exact hfresh element helement

/-- An element of the list is found by its key. -/
theorem find_of_mem (hnodup : (elements.map key).Nodup) (hmem : found ∈ elements) :
    (elements.find? fun element => key element == key found) = some found := by
  cases hfind : elements.find? fun element => key element == key found with
  | none => simpa using List.find?_eq_none.1 hfind found hmem
  | some other =>
      have hkey : key other = key found := by simpa using List.find?_some hfind
      rw [List.inj_on_of_nodup_map hnodup (List.mem_of_find?_eq_some hfind) hmem hkey]

omit [DecidableEq κ] in
/-- Changing elements without their keys keeps the keys. -/
theorem map_keys {change : α → α} (hchange : ∀ element, key (change element) = key element) :
    (elements.map change).map key = elements.map key := by
  rw [List.map_map]
  exact List.map_congr_left fun element _ => hchange element

end ConnectionPool.Keyed
