import Mathlib.Data.List.Count
import MarkdownTemplate.Proofs.Body.Reading
import MarkdownTemplate.Proofs.Node.Blocks

/-!
# Matching blocks

The blocks of a body are the pairs of its markers. `Forest.matching` brings the two together: it
lists the blocks that the nodes of a forest have, each with its pair.

* `Forest.blocksFrom_nodesOnto` and `Forest.map_snd_matching`: it lists all blocks and all pairs;
* `Forest.nestAlike_of_mem_matching`: a block is in another if and only if its pair lies inside that
  of the other;
* `blocks_ofString`: the blocks of a body are the pairs of its markers, and its diagnostics are
  about the opening markers without a pair.
-/

namespace MarkdownTemplate

/-- `leafNode` is no block. -/
theorem BodyState.isFlat_leafNode (state : BodyState) (piece : Piece) :
    (state.leafNode piece).IsFlat := by
  intro control content
  cases piece with
  | text chars => simp [BodyState.leafNode]
  | marker marker =>
    rw [BodyState.leafNode]
    split
    · split
      · simp
      · simp
    · simp

/-! ### Blocks and pairs of a forest -/

/-- One block is in the other if and only if its pair lies inside that of the other, both ways
round. -/
def NestAlike (first second : AddressedBlock × BlockPair) : Prop :=
  (first.1.IsDescendantOf second.1 ↔ first.2.LiesInside second.2) ∧
    (second.1.IsDescendantOf first.1 ↔ second.2.LiesInside first.2)

namespace NestAlike

variable {first second : AddressedBlock × BlockPair}

theorem symm (h : NestAlike first second) : NestAlike second first :=
  And.symm h

theorem refl (hopening : first.2.opening.2.start < first.2.opening.2.stop) :
    NestAlike first first := by
  have hblock : ¬ first.1.IsDescendantOf first.1 := fun h => h.2 rfl
  have hpair : ¬ first.2.LiesInside first.2 := fun h => absurd h.1 (Nat.not_le_of_lt hopening)
  exact ⟨iff_of_false hblock hpair, iff_of_false hblock hpair⟩

/-- `NestAlike` holds of blocks at different indices of one list whose pairs lie apart. -/
theorem of_apart {address firstInside secondInside : List Nat} {i j : Nat} (hindex : i < j)
    (hfirst : first.1.address = address ++ i :: firstInside)
    (hsecond : second.1.address = address ++ j :: secondInside)
    (hfirstPair : first.2.opening.2.start ≤ first.2.closing.2.start)
    (hbetween : first.2.closing.2.start < second.2.opening.2.start)
    (hsecondOpening : second.2.opening.2.start < second.2.opening.2.stop)
    (hsecondPair : second.2.opening.2.stop ≤ second.2.closing.2.stop) :
    NestAlike first second := by
  -- two addresses that part at `i` and `j` are prefixes of one another in neither direction
  constructor
  · apply iff_of_false
    · rintro ⟨hdown, -⟩
      simp [hfirst, hsecond, Nat.ne_of_gt hindex] at hdown
    · rintro ⟨hle, -⟩
      omega
  · apply iff_of_false
    · rintro ⟨hdown, -⟩
      simp [hfirst, hsecond, Nat.ne_of_lt hindex] at hdown
    · rintro ⟨-, hle⟩
      omega

/-- `NestAlike` holds of a block and one below it whose pair lies inside its own. -/
theorem of_inside {index : Nat} {inside : List Nat}
    (haddress : second.1.address = first.1.address ++ index :: inside)
    (hinside : second.2.LiesInside first.2)
    (hopening : second.2.opening.2.start < second.2.opening.2.stop)
    (houter : first.2.opening.2.start < first.2.opening.2.stop) :
    NestAlike first second := by
  -- the address of `second` is the longer one, so only one direction can hold
  constructor
  · apply iff_of_false
    · rintro ⟨hdown, -⟩
      have hlength := hdown.length_le
      rw [haddress, List.length_append, List.length_cons] at hlength
      omega
    · rintro ⟨hle, -⟩
      have hother := hinside.1
      omega
  · apply iff_of_true _ hinside
    constructor
    · rw [haddress]
      exact List.prefix_append _ _
    · simp [haddress]

end NestAlike

namespace Forest

/-- The blocks that `nodesOnto` adds after the nodes `before`, each with its pair. -/
def matching (address : List Nat) (before : List Node) :
    Forest Node → List (AddressedBlock × BlockPair)
  | nil => []
  | leaf _ node rest => rest.matching address (Node.push before node)
  | block opening content closing rest =>
    let own := address ++ [before.length]
    (⟨own, opening.1.name⟩, ⟨opening, closing⟩) :: (content.matching own [] ++
      rest.matching address (Node.push before (.block opening.1.name content.nodes)))

variable {address : List Nat} {before : List Node} {forest : Forest Node}

/-- `matching` has the pairs of the forest in their order. -/
theorem map_snd_matching (address : List Nat) (before : List Node) (forest : Forest Node) :
    (forest.matching address before).map Prod.snd = forest.pairs := by
  induction forest generalizing address before with
  | nil => rfl
  | leaf placed node rest ih => rw [matching, ih, pairs]
  | block opening content closing rest ihContent ihRest =>
    rw [matching, List.map_cons, List.map_append, ihContent, ihRest, pairs]

/-- `matching` has the blocks that `nodesOnto` adds, in their order. -/
theorem blocksFrom_nodesOnto (hleaves : ∀ leaf ∈ forest.leaves, leaf.2.IsFlat) :
    Node.blocksFrom address 0 (forest.nodesOnto before) =
      Node.blocksFrom address 0 before ++ (forest.matching address before).map Prod.fst := by
  induction forest generalizing address before with
  | nil => rw [nodesOnto, matching, List.map_nil, List.append_nil]
  | leaf placed node rest ih =>
    rw [leaves, List.forall_mem_cons] at hleaves
    rw [nodesOnto, ih hleaves.2, Node.blocksFrom_push _ _ _ hleaves.1, matching]
  | block opening content closing rest ihContent ihRest =>
    simp only [leaves, List.forall_mem_append] at hleaves
    have hcontent : Node.blocksFrom (address ++ [before.length]) 0 content.nodes =
        (content.matching (address ++ [before.length]) []).map Prod.fst :=
      ihContent hleaves.1
    -- a block never joins what is before it, so its index is `before.length`
    have hpush : Node.push before (.block opening.1.name content.nodes) =
        before ++ [.block opening.1.name content.nodes] := rfl
    rw [nodesOnto, ← nodes, ihRest hleaves.2, matching, List.map_cons, List.map_append,
      ← hcontent, hpush, Node.blocksFrom_concat, Node.blocksAt, Nat.zero_add, List.append_assoc]
    rfl

theorem control_of_mem_matching {found : AddressedBlock × BlockPair}
    (h : found ∈ forest.matching address before) : found.1.control = found.2.name := by
  induction forest generalizing address before with
  | nil => exact absurd h (by simp [matching])
  | leaf placed node rest ih => exact ih h
  | block opening content closing rest ihContent ihRest =>
    rw [matching, List.mem_cons, List.mem_append] at h
    rcases h with rfl | h | h
    · rfl
    · exact ihContent h
    · exact ihRest h

/-- An address in `matching` extends `address` by an index that is not in use in `before`. -/
theorem address_of_mem_matching {found : AddressedBlock × BlockPair}
    (h : found ∈ forest.matching address before) :
    ∃ index inside, found.1.address = address ++ index :: inside ∧ before.length ≤ index := by
  induction forest generalizing address before with
  | nil => exact absurd h (by simp [matching])
  | leaf placed node rest ih =>
    obtain ⟨index, inside, haddress, hindex⟩ := ih h
    exact ⟨index, inside, haddress, Nat.le_trans (Node.length_le_length_push before node) hindex⟩
  | block opening content closing rest ihContent ihRest =>
    rw [matching, List.mem_cons, List.mem_append] at h
    rcases h with rfl | h | h
    · exact ⟨before.length, [], rfl, Nat.le_refl _⟩
    · obtain ⟨index, inside, haddress, -⟩ := ihContent h
      refine ⟨before.length, index :: inside, ?_, Nat.le_refl _⟩
      rw [haddress, List.append_assoc, List.singleton_append]
    · obtain ⟨index, inside, haddress, hindex⟩ := ihRest h
      exact ⟨index, inside, haddress, Nat.le_trans (Node.length_le_length_push before _) hindex⟩

section Places

variable {start stop : Nat}

/-- A pair in `matching` lies between `start` and `stop`. -/
theorem bounds_of_mem_matching (h : Tiles start forest.pieces stop)
    {found : AddressedBlock × BlockPair} (hfound : found ∈ forest.matching address before) :
    start ≤ found.2.opening.2.start ∧ found.2.opening.2.start < found.2.opening.2.stop ∧
      found.2.opening.2.stop ≤ found.2.closing.2.start ∧
        found.2.closing.2.start < found.2.closing.2.stop ∧ found.2.closing.2.stop ≤ stop := by
  apply pair_bounds h
  rw [← map_snd_matching address before forest]
  exact List.mem_map_of_mem hfound

/-- `NestAlike` holds of each block in `matching` and those after it. -/
theorem nestAlike_pairwise (h : Tiles start forest.pieces stop) :
    (forest.matching address before).Pairwise NestAlike := by
  induction forest generalizing address before start stop with
  | nil => exact List.Pairwise.nil
  | leaf placed node rest ih => exact ih h.tail
  | block opening content closing rest ihContent ihRest =>
    obtain ⟨hstart, hopening, hcontent, hclosing, hrest⟩ := tiles_block h
    have hinner := hcontent.start_le_stop
    -- the blocks after this one have larger indices, and their pairs start after its closing marker
    have hafter : ∀ found ∈ rest.matching address
        (Node.push before (.block opening.1.name content.nodes)),
          ∃ index inside, found.1.address = address ++ index :: inside ∧
            before.length < index := by
      intro found hfound
      obtain ⟨index, inside, haddress, hindex⟩ := address_of_mem_matching hfound
      have hlength : (Node.push before (.block opening.1.name content.nodes)).length =
          before.length + 1 := List.length_append
      rw [hlength] at hindex
      exact ⟨index, inside, haddress, hindex⟩
    rw [matching, List.pairwise_cons, List.pairwise_append]
    refine ⟨?_, ihContent hcontent, ihRest hrest, ?_⟩
    -- this block, and those in it and after it
    · intro found hfound
      rcases List.mem_append.mp hfound with hfound | hfound
      · obtain ⟨index, inside, haddress, -⟩ := address_of_mem_matching hfound
        have hbounds := bounds_of_mem_matching hcontent hfound
        exact NestAlike.of_inside haddress ⟨hbounds.1, hbounds.2.2.2.2⟩ hbounds.2.1
          (by simp only; omega)
      · obtain ⟨index, inside, haddress, hindex⟩ := hafter found hfound
        have hbounds := bounds_of_mem_matching hrest hfound
        exact NestAlike.of_apart hindex rfl haddress (by simp only; omega)
          (by simp only; omega) hbounds.2.1 (by omega)
    -- the blocks in it, and those after it
    · intro first hfirst second hsecond
      obtain ⟨_, inside, hfirstAddress, -⟩ := address_of_mem_matching hfirst
      obtain ⟨index, _, hsecondAddress, hindex⟩ := hafter second hsecond
      rw [List.append_assoc, List.singleton_append] at hfirstAddress
      have hbefore := bounds_of_mem_matching hcontent hfirst
      have hbounds := bounds_of_mem_matching hrest hsecond
      exact NestAlike.of_apart hindex hfirstAddress hsecondAddress (by omega) (by omega)
        hbounds.2.1 (by omega)

/-- `NestAlike` holds of any two blocks in `matching`. -/
theorem nestAlike_of_mem_matching (h : Tiles start forest.pieces stop)
    {first second : AddressedBlock × BlockPair} (hfirst : first ∈ forest.matching address before)
    (hsecond : second ∈ forest.matching address before) : NestAlike first second := by
  have hpairwise : (forest.matching address before).Pairwise NestAlike := nestAlike_pairwise h
  refine hpairwise.forall_of_forall_of_flip ?_ (hpairwise.imp NestAlike.symm) hfirst hsecond
  intro found hfound
  exact NestAlike.refl (bounds_of_mem_matching h hfound).2.1

end Places

end Forest

/-- `Node.blocks` of a body correspond one to one to `blockPairs` of its markers, sorted by opening
marker: the names are the same, and `IsDescendantOf` holds of two blocks if and only if `LiesInside`
holds of their pairs. Each marker that opens a block has either a block or a diagnostic. There is
one diagnostic for each opening marker with `isUnpaired`, in document order, and no such marker lies
between those of a pair. -/
theorem blocks_ofString (header : Header) (body : String) :
    let parsed := ParsedBody.ofString .documentOrder header body
    let blocks := Node.blocks parsed.nodes
    let pairs := blockPairs (markers body)
    (blocks.map AddressedBlock.control = pairs.map BlockPair.name ∧
      (pairs.Pairwise fun first second => first.opening.2.start < second.opening.2.start) ∧
      ∀ inner ∈ blocks.zip pairs, ∀ outer ∈ blocks.zip pairs,
        inner.1.IsDescendantOf outer.1 ↔ inner.2.LiesInside outer.2) ∧
    (∀ opening ∈ markers body, opening.1.opensBlock = true →
      ((blocks.zip pairs).map fun found => found.2.opening).count opening +
        (parsed.diagnostics.map Diagnostic.span).count (some opening.2) = 1) ∧
    (parsed.diagnostics = ((markers body).filter (isUnpaired pairs)).map fun opening =>
      Diagnostic.unclosedBlock opening.1.text opening.2) ∧
    ∀ pair ∈ pairs, ∀ opening ∈ markers body, isUnpaired pairs opening = true →
      ¬ (pair.opening.2.start < opening.2.start ∧
        opening.2.start < pair.closing.2.start) := by
  intro parsed blocks pairs
  have htiles := tiles_forestOf header body
  have hflat := forall_mem_leaves_forestOf header body (fun _ node => node.IsFlat)
    BodyState.isFlat_leafNode
  have hblocks : ((forestOf header body).matching [] []).map Prod.fst = blocks := by
    have hnodes : Node.blocksFrom [] 0 (forestOf header body).nodes =
        Node.blocksFrom [] 0 [] ++ ((forestOf header body).matching [] []).map Prod.fst :=
      Forest.blocksFrom_nodesOnto hflat
    rw [← nodes_ofString, Node.blocksFrom, List.nil_append] at hnodes
    exact hnodes.symm
  have hpairs : ((forestOf header body).matching [] []).map Prod.snd = pairs := by
    rw [Forest.map_snd_matching, pairs_forestOf]
  -- blocks and pairs are the two sides of one list, so they correspond in order
  have hzip : blocks.zip pairs = (forestOf header body).matching [] [] :=
    (List.zip_of_prod hblocks hpairs).symm
  have hdiagnostics := diagnostics_ofString header body .documentOrder
  refine ⟨⟨?_, ?_, ?_⟩, ?_, hdiagnostics, ?_⟩
  · rw [← hblocks, ← hpairs, List.map_map, List.map_map]
    exact List.map_congr_left fun found hfound => Forest.control_of_mem_matching hfound
  · rw [← hpairs, Forest.map_snd_matching]
    exact Forest.pairs_pairwise htiles
  · intro inner hinner outer houter
    rw [hzip] at hinner houter
    exact (Forest.nestAlike_of_mem_matching htiles hinner houter).1
  · intro opening hopening hopens
    have hspans : parsed.diagnostics.map Diagnostic.span =
        (((markers body).filter (isUnpaired pairs)).map Prod.snd).map some := by
      rw [hdiagnostics, List.map_map, List.map_map]
      rfl
    have hopenings : (blocks.zip pairs).map (fun found => found.2.opening) =
        pairs.map BlockPair.opening := by
      rw [hzip, ← hpairs, List.map_map]
      rfl
    rw [hspans, hopenings, List.count_map_of_injective _ _ fun _ _ => Option.some.inj]
    exact count_opening_add_count_unpaired (markers_pairwise body) hopening hopens
  · intro pair hpair opening hopening hunpaired
    exact unpaired_not_inside_blockPairs (markers_pairwise body) hpair hopening hunpaired

/-- A closing marker with the name of an outer block closes nothing, so one without a name after it
closes the inner block and leaves the outer one open. -/
example :
    (blockPairs (markers "#{?a}#{?b}#{/a}#{/}")).map BlockPair.name =
      ["b"] := by
  cbv

end MarkdownTemplate
