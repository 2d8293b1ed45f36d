import Mathlib.Data.List.Nodup

/-!
# Items with distinct keys

Items are found by a key, and sorted by one. Both have one outcome only if no two items share a key.
In a store that keeps one item for a key, the last that is put there is found.

* `find?_key_eq_none_iff` and `find?_key_eq_some_iff`: what is found under a key;
* `find_foldl_insert`: what is found in a store that is filled item by item;
* `eq_of_perm_of_increasing`: items with distinct keys can be sorted in one way only.
-/

namespace MarkdownTemplate

section Find

variable {α β : Type} [BEq β] [LawfulBEq β] {key : α → β} {items : List α} {name : β}

theorem find?_key_eq_none_iff :
    (items.find? fun known => key known == name) = none ↔ name ∉ items.map key := by
  simp [List.find?_eq_none]

/-- `find?` by a key finds each of the items if their keys are distinct. -/
theorem find?_key_eq_some_iff (hnodup : (items.map key).Nodup) {item : α} :
    (items.find? fun known => key known == name) = some item ↔ item ∈ items ∧ key item = name := by
  constructor
  · intro hfind
    exact ⟨List.mem_of_find?_eq_some hfind, by simpa using List.find?_some hfind⟩
  · rintro ⟨hitem, hname⟩
    obtain ⟨known, hfind⟩ : ∃ known, (items.find? fun known => key known == name) = some known := by
      rw [← Option.isSome_iff_exists, List.find?_isSome]
      exact ⟨item, hitem, beq_iff_eq.mpr hname⟩
    have hknown : known ∈ items := List.mem_of_find?_eq_some hfind
    have hsame : key known = name := by simpa using List.find?_some hfind
    rw [hfind, List.inj_on_of_nodup_map hnodup hknown hitem (hsame.trans hname.symm)]

end Find

/-- If `insert` overwrites what `find` gives for `wanted` items and keeps it for others, then after
a fold `find` gives the last `wanted` item. -/
theorem find_foldl_insert {σ α β : Type} (find : σ → Option β) {insert : σ → α → σ}
    {wanted : α → Bool} {shown : α → β}
    (hinsert : ∀ store item,
      find (insert store item) = if wanted item then some (shown item) else find store)
    (store : σ) (items : List α) :
    find (items.foldl insert store) =
      ((items.reverse.find? wanted).map shown).or (find store) := by
  induction items generalizing store with
  | nil => rfl
  | cons item items ih =>
    rw [List.foldl_cons, ih, hinsert, List.reverse_cons, List.find?_append, Option.map_or,
      Option.or_assoc]
    congr 1
    -- the item that is put in first is the last one that a search from the end comes to
    rw [List.find?_singleton]
    cases wanted item with
    | true => rfl
    | false => rfl

/-- `items` with increasing keys are the only permutation of themselves in which keys do not
decrease. -/
theorem eq_of_perm_of_increasing {α : Type} {key : α → Nat} {items others : List α}
    (hitems : items.Pairwise fun first second => key first < key second)
    (hothers : others.Pairwise fun first second => key first ≤ key second)
    (hperm : items.Perm others) : items = others := by
  -- a sorted list is fixed by its elements only if no two of them have the same key
  have hunique : ∀ ⦃first⦄, first ∈ items → ∀ ⦃second⦄, second ∈ items →
      key first = key second → first = second := by
    apply List.Pairwise.forall_of_forall_of_flip
    · intro item _ _
      rfl
    · exact hitems.imp fun hlt heq => absurd heq (Nat.ne_of_lt hlt)
    · exact hitems.imp fun hlt heq => absurd heq.symm (Nat.ne_of_lt hlt)
  refine List.Perm.eq_of_pairwise ?_ (hitems.imp Nat.le_of_lt) hothers hperm
  intro first second hfirst hsecond hlt hgt
  exact hunique hfirst (hperm.mem_iff.mpr hsecond) (Nat.le_antisymm hlt hgt)

end MarkdownTemplate
