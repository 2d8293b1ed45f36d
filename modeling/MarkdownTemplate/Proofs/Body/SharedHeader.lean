import MarkdownTemplate.Proofs.Body.Declarations

/-!
# One header for many bodies

Bodies can be parsed one after another with one header, which each of them leaves with more
declarations than it found. What is added depends on the names of opening markers only, so the
order of the bodies does not matter, and neither does whether blocks are closed.

* `Header.afterParsing`: the header after bodies are parsed;
* `find?_afterParsing`: what it declares;
* `afterParsing_eq_self`: parsing bodies again adds nothing;
* `header_afterParsing`: the final header, and the bodies parsed with it.
-/

namespace MarkdownTemplate

namespace Header

/-- The header after parsing `bodies` one after another, each with the header that the body before
it leaves. -/
def afterParsing (header : Header) (bodies : List (Recovery × String)) : Header :=
  bodies.foldl (fun header body => (ParsedBody.ofString body.1 header body.2).header) header

/-- Some body in `bodies` has an opening marker named `name`. -/
def OpensBlockIn (bodies : List (Recovery × String)) (name : String) : Prop :=
  ∃ body ∈ bodies, ∃ opening ∈ markers body.2,
    opening.1.kind = .opening ∧ opening.1.name = name ∧ name ≠ ""

theorem mem_flatMap_blockNames_iff {bodies : List (Recovery × String)} {name : String} :
    (name ∈ bodies.flatMap fun body => blockNames (markers body.2)) ↔ OpensBlockIn bodies name := by
  simp only [List.mem_flatMap, mem_blockNames_iff, OpensBlockIn, Marker.opensBlock_iff]
  constructor
  · rintro ⟨body, hbody, opening, hopening, ⟨hkind, hname⟩, rfl⟩
    exact ⟨body, hbody, opening, hopening, hkind, rfl, hname⟩
  · rintro ⟨body, hbody, opening, hopening, hkind, rfl, hname⟩
    exact ⟨body, hbody, opening, hopening, ⟨hkind, hname⟩, rfl⟩

theorem afterParsing_append (header : Header) (first second : List (Recovery × String)) :
    header.afterParsing (first ++ second) = (header.afterParsing first).afterParsing second :=
  List.foldl_append

/-- `afterParsing` is `declareBlocks` with the `blockNames` of all bodies. -/
theorem afterParsing_eq_declareBlocks (header : Header) (bodies : List (Recovery × String)) :
    header.afterParsing bodies =
      header.declareBlocks (bodies.flatMap fun body => blockNames (markers body.2)) := by
  induction bodies generalizing header with
  | nil => rfl
  | cons body bodies ih =>
    rw [afterParsing, List.foldl_cons, ← afterParsing, ih, header_ofString, List.flatMap_cons,
      declareBlocks_append]

/-- `afterParsing` keeps every declaration, and declares the other names with `OpensBlockIn` by
`Entry.ofBlock`. -/
theorem find?_afterParsing {header : Header} {bodies : List (Recovery × String)} {name : String}
    {entry : Entry} :
    (header.afterParsing bodies).find? name = some entry ↔
      header.find? name = some entry ∨
        (header.find? name = none ∧ OpensBlockIn bodies name ∧ entry = .ofBlock name) := by
  rw [afterParsing_eq_declareBlocks, find?_declareBlocks, ← mem_flatMap_blockNames_iff]
  cases header.find? name with
  | some known => simp
  | none =>
    simp only [Option.none_or, Option.ite_none_right_eq_some, Option.some.injEq, reduceCtorEq,
      false_or, true_and]
    exact and_congr_right fun _ => eq_comm

/-- `afterParsing` depends only on which names have `OpensBlockIn`. -/
theorem afterParsing_congr (header : Header) {bodies others : List (Recovery × String)}
    (h : ∀ name, OpensBlockIn others name ↔ OpensBlockIn bodies name) :
    header.afterParsing others = header.afterParsing bodies := by
  apply ext_find?
  intro name
  apply Option.ext
  intro entry
  rw [find?_afterParsing, find?_afterParsing, h name]

/-- `afterParsing` changes nothing if all names with `OpensBlockIn` are declared. -/
theorem afterParsing_eq_self {header : Header} {bodies : List (Recovery × String)}
    (h : ∀ name, OpensBlockIn bodies name → header.find? name ≠ none) :
    header.afterParsing bodies = header := by
  apply ext_find?
  intro name
  apply Option.ext
  intro entry
  rw [find?_afterParsing]
  constructor
  · rintro (hfind | ⟨hnone, hopens, -⟩)
    · exact hfind
    · exact absurd hnone (h name hopens)
  · exact Or.inl

end Header

/-- Parsing `bodies` with one shared header adds an optional entry for each undeclared name with
`Header.OpensBlockIn`, and changes no entry. The result does not depend on the order of the bodies,
and is the same for all `others` that open blocks of the same names. Parsing bodies of the list
again changes neither the header nor any result. -/
theorem header_afterParsing (header : Header) (bodies : List (Recovery × String)) :
    let final := header.afterParsing bodies
    (∀ name entry, final.find? name = some entry ↔
      header.find? name = some entry ∨
        (header.find? name = none ∧ Header.OpensBlockIn bodies name ∧
          entry = ⟨"Include the `" ++ name ++ "` section", true⟩)) ∧
    (∀ earlier body name entry, (header.afterParsing earlier).find? name = some entry →
      (header.afterParsing (earlier ++ [body])).find? name = some entry) ∧
    (∀ others : List (Recovery × String),
      (others.map Prod.snd).Perm (bodies.map Prod.snd) ∨
        (∀ name, Header.OpensBlockIn others name ↔ Header.OpensBlockIn bodies name) →
      header.afterParsing others = final) ∧
    ∀ again : List (Recovery × String), again.map Prod.snd ⊆ bodies.map Prod.snd →
      final.afterParsing again = final ∧
        ∀ recovery body, ParsedBody.ofString recovery (final.afterParsing again) body =
          ParsedBody.ofString recovery final body := by
  intro final
  -- which names are opened depends only on which bodies there are
  have hopens : ∀ (first second : List (Recovery × String)) name,
      first.map Prod.snd ⊆ second.map Prod.snd → Header.OpensBlockIn first name →
        Header.OpensBlockIn second name := by
    rintro first second name hsubset ⟨body, hbody, hopening⟩
    obtain ⟨other, hother, hsame⟩ := List.mem_map.mp (hsubset (List.mem_map_of_mem hbody))
    exact ⟨other, hother, by rwa [hsame]⟩
  refine ⟨fun name entry => Header.find?_afterParsing, ?_, ?_, ?_⟩
  · intro earlier body name entry hfind
    rw [Header.afterParsing_append, Header.find?_afterParsing]
    exact Or.inl hfind
  · rintro others (hperm | hsame)
    · exact header.afterParsing_congr fun name =>
        ⟨hopens others bodies name hperm.subset, hopens bodies others name hperm.symm.subset⟩
    · exact header.afterParsing_congr hsame
  · intro again hagain
    have hdeclared : ∀ name, Header.OpensBlockIn again name → final.find? name ≠ none := by
      intro name hname hnone
      have hbodies := hopens again bodies name hagain hname
      cases hfind : header.find? name with
      | none =>
        have hnew : final.find? name = some (.ofBlock name) :=
          Header.find?_afterParsing.mpr (Or.inr ⟨hfind, hbodies, rfl⟩)
        exact absurd (hnew.symm.trans hnone) (by simp)
      | some entry =>
        have hold : final.find? name = some entry := Header.find?_afterParsing.mpr (Or.inl hfind)
        exact absurd (hold.symm.trans hnone) (by simp)
    have hself := Header.afterParsing_eq_self hdeclared
    refine ⟨hself, ?_⟩
    intro recovery body
    rw [hself]

end MarkdownTemplate
