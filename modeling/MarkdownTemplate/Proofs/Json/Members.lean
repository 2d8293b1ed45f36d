import MarkdownTemplate.Json.Value
import MarkdownTemplate.Proofs.Keys

/-!
# Members of canonical objects

The canonical form of a JSON object has its members sorted by name, and the last of those that share
a name. If no two members share a name, then none is lost: the members only change their places, and
what is found under a name stays.

* `Json.sortMembers_perm`: members with distinct names are only moved;
* `Json.find?_sortMembers`: so what is found under a name stays;
* `Json.member?_canonical_object`: what is found in the canonical form of an object;
* `Json.find?_sortMembers_eq_find?_reverse`: of members that share a name the last is found;
* `Json.namesIncrease_sortMembers`: sorted members have increasing names.
-/

namespace MarkdownTemplate

namespace Json

/-- The value of the first member named `name` of an object. -/
def member? (name : String) : Json → Option Json
  | object members => (members.find? fun member => member.1 == name).map Prod.snd
  | _ => none

variable {name : String} {value : Json} {members : List (String × Json)}

/-- `insertMember` of a new name is a permutation of `cons`. -/
theorem insertMember_perm (hfresh : name ∉ members.map Prod.fst) :
    (insertMember name value members).Perm ((name, value) :: members) := by
  induction members with
  | nil => exact List.Perm.refl _
  | cons member members ih =>
    rw [List.map_cons, List.mem_cons, not_or] at hfresh
    obtain ⟨hne, hfresh⟩ := hfresh
    rw [insertMember]
    split
    · exact List.Perm.refl _
    · rw [if_neg (by simpa using hne)]
      exact ((ih hfresh).cons member).trans (List.Perm.swap _ _ _)

/-- Inserting members with new and distinct names is a permutation of `++`. -/
theorem foldl_insertMember_perm {sorted : List (String × Json)}
    (hnodup : ((sorted ++ members).map Prod.fst).Nodup) :
    (members.foldl (fun sorted member => insertMember member.1 member.2 sorted) sorted).Perm
      (sorted ++ members) := by
  induction members generalizing sorted with
  | nil => simp
  | cons member members ih =>
    -- the member to insert is moved to the front, where it is seen to have a new name
    have hmoved : ((member :: (sorted ++ members)).map Prod.fst).Nodup :=
      (List.perm_middle.map Prod.fst).nodup_iff.mp hnodup
    have hfresh : member.1 ∉ sorted.map Prod.fst := by
      rw [List.map_cons, List.map_append, List.nodup_cons] at hmoved
      exact fun hmem => hmoved.1 (List.mem_append_left _ hmem)
    have hinsert : (insertMember member.1 member.2 sorted ++ members).Perm
        (member :: (sorted ++ members)) :=
      (insertMember_perm hfresh).append_right members
    -- what is still to come is distinct from what is in place, the new member included
    have hnext := ih ((hinsert.map Prod.fst).nodup_iff.mpr hmoved)
    rw [List.foldl_cons]
    exact hnext.trans (hinsert.trans List.perm_middle.symm)

/-- `sortMembers` is a permutation of members with distinct names. -/
theorem sortMembers_perm (hnodup : (members.map Prod.fst).Nodup) :
    (sortMembers members).Perm members :=
  foldl_insertMember_perm hnodup

/-- `sortMembers` keeps what is found under each name, if names are distinct. -/
theorem find?_sortMembers (hnodup : (members.map Prod.fst).Nodup) (name : String) :
    ((sortMembers members).find? fun member => member.1 == name) =
      members.find? fun member => member.1 == name := by
  have hperm := sortMembers_perm hnodup
  have hsorted : ((sortMembers members).map Prod.fst).Nodup :=
    (hperm.map Prod.fst).nodup_iff.mpr hnodup
  refine Option.ext fun member => ?_
  rw [find?_key_eq_some_iff hsorted, find?_key_eq_some_iff hnodup, hperm.mem_iff]

theorem canonicalMembers_eq_map (members : List (String × Json)) :
    canonicalMembers members = members.map fun member => (member.1, member.2.canonical) := by
  induction members with
  | nil => rfl
  | cons member members ih => rw [canonicalMembers, List.map_cons, ih]

theorem canonicalItems_eq_map (items : List Json) : canonicalItems items = items.map canonical := by
  induction items with
  | nil => rfl
  | cons item items ih => rw [canonicalItems, List.map_cons, ih]

theorem map_fst_canonicalMembers (members : List (String × Json)) :
    (canonicalMembers members).map Prod.fst = members.map Prod.fst := by
  rw [canonicalMembers_eq_map, List.map_map]
  rfl

/-- `canonical` of an object with distinct names has the canonical value of each member. -/
theorem member?_canonical_object (hnodup : (members.map Prod.fst).Nodup) (name : String) :
    (object members).canonical.member? name = ((object members).member? name).map canonical := by
  have hcanonical : ((canonicalMembers members).map Prod.fst).Nodup := by
    rwa [map_fst_canonicalMembers]
  rw [canonical, member?, member?, find?_sortMembers hcanonical, canonicalMembers_eq_map,
    List.find?_map, Option.map_map, Option.map_map]
  rfl

/-! ### Members that share a name -/

/-- The cases of `insertMember`: it stops in front of a greater name, replaces an equal one, and
goes on behind a smaller one. -/
theorem insertMember_cons_cases (name : String) (value : Json) (first : String × Json)
    (members : List (String × Json)) :
    (name < first.1 ∧
      insertMember name value (first :: members) = (name, value) :: first :: members) ∨
    (name = first.1 ∧ insertMember name value (first :: members) = (name, value) :: members) ∨
    (first.1 < name ∧
      insertMember name value (first :: members) = first :: insertMember name value members) := by
  rw [insertMember]
  by_cases hbefore : name < first.1
  · exact .inl ⟨hbefore, if_pos hbefore⟩
  · rw [if_neg hbefore]
    by_cases hsame : name = first.1
    · exact .inr (.inl ⟨hsame, if_pos (beq_iff_eq.mpr hsame)⟩)
    · have hafter : first.1 < name :=
        Std.lt_of_le_of_ne (String.not_lt.mp hbefore) (Ne.symm hsame)
      exact .inr (.inr ⟨hafter, if_neg (by rwa [beq_iff_eq])⟩)

/-- `insertMember` sets what is found under `name` and keeps what is found under other names. -/
theorem find?_insertMember (name : String) (value : Json) (members : List (String × Json))
    (target : String) :
    ((insertMember name value members).find? fun member => member.1 == target) =
      if name == target then some (name, value)
      else members.find? fun member => member.1 == target := by
  induction members with
  | nil => rw [insertMember, List.find?_singleton, List.find?_nil]
  | cons first members ih =>
    rcases insertMember_cons_cases name value first members with
      ⟨-, heq⟩ | ⟨rfl, heq⟩ | ⟨hafter, heq⟩
    · rw [heq, List.find?_cons]
      cases name == target with
      | true => rfl
      | false => rfl
    · -- the member that gives way would be found under the same name only
      rw [heq, List.find?_cons, List.find?_cons]
      cases first.1 == target with
      | true => rfl
      | false => rfl
    · rw [heq, List.find?_cons, List.find?_cons, ih]
      by_cases htarget : name = target
      · have hfirst : first.1 ≠ target := by
          rintro rfl
          exact String.lt_irrefl _ (htarget ▸ hafter)
        rw [beq_false_of_ne hfirst]
      · rw [beq_false_of_ne htarget]
        rfl

/-- `sortMembers` keeps the last member of each name. -/
theorem find?_sortMembers_eq_find?_reverse (members : List (String × Json)) (name : String) :
    ((sortMembers members).find? fun member => member.1 == name) =
      members.reverse.find? fun member => member.1 == name := by
  have hfold := find_foldl_insert (List.find? fun member => member.1 == name)
    (fun sorted member => find?_insertMember member.1 member.2 sorted name) [] members
  rw [sortMembers, hfold, List.find?_nil, Option.or_none]
  exact Option.map_id'

/-- The names of `members` are strictly increasing. -/
def NamesIncrease (members : List (String × Json)) : Prop :=
  members.Pairwise fun first second => first.1 < second.1

theorem eq_or_mem_of_mem_insertMember {member : String × Json}
    (h : member ∈ insertMember name value members) : member = (name, value) ∨ member ∈ members := by
  induction members with
  | nil => exact Or.inl (List.mem_singleton.mp h)
  | cons first members ih =>
    rcases insertMember_cons_cases name value first members with ⟨-, heq⟩ | ⟨-, heq⟩ | ⟨-, heq⟩
    · rw [heq] at h
      exact List.mem_cons.mp h
    · rw [heq] at h
      exact (List.mem_cons.mp h).imp_right (List.mem_cons_of_mem first)
    · rw [heq] at h
      rcases List.mem_cons.mp h with rfl | h
      · exact Or.inr List.mem_cons_self
      · exact (ih h).imp_right (List.mem_cons_of_mem first)

/-- `insertMember` preserves `NamesIncrease`. -/
theorem NamesIncrease.insertMember (h : NamesIncrease members) (name : String) (value : Json) :
    NamesIncrease (insertMember name value members) := by
  induction members with
  | nil => exact List.pairwise_singleton _ _
  | cons first members ih =>
    obtain ⟨hfirst, hmembers⟩ := List.pairwise_cons.mp h
    rcases insertMember_cons_cases name value first members with
      ⟨hbefore, heq⟩ | ⟨hsame, heq⟩ | ⟨hafter, heq⟩
    · rw [heq]
      refine List.pairwise_cons.mpr ⟨fun member hmember => ?_, h⟩
      rcases List.mem_cons.mp hmember with rfl | hmember
      · exact hbefore
      · exact String.lt_trans hbefore (hfirst member hmember)
    · rw [heq]
      refine List.pairwise_cons.mpr ⟨fun member hmember => ?_, hmembers⟩
      rw [hsame]
      exact hfirst member hmember
    · rw [heq]
      refine List.pairwise_cons.mpr ⟨fun member hmember => ?_, ih hmembers⟩
      -- what stands behind the first member is the new one or was there before
      rcases eq_or_mem_of_mem_insertMember hmember with rfl | hmember
      · exact hafter
      · exact hfirst member hmember

theorem namesIncrease_sortMembers (members : List (String × Json)) :
    NamesIncrease (sortMembers members) := by
  have hfold (sorted : List (String × Json)) (h : NamesIncrease sorted) :
      NamesIncrease (members.foldl (fun sorted member => insertMember member.1 member.2 sorted)
        sorted) := by
    induction members generalizing sorted with
    | nil => exact h
    | cons member members ih => exact ih _ (h.insertMember member.1 member.2)
  exact hfold [] List.Pairwise.nil

end Json

end MarkdownTemplate
