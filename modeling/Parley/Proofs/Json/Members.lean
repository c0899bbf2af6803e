import Mathlib.Data.String.Basic
import Parley.Proofs.Json.Printed

/-!
# Laws of members

Adding members whose names are still free takes no value away, and of several new ones with one name
the first counts. Members that are added one by one are in the order of their names, without
repetition.
-/

namespace Parley.Json.Members

variable {members extra : Members} {name key : String} {value : Json}

theorem addMissing_cons (members : Members) (name : String) (value : Json) (extra : Members) :
    members.addMissing ((name, value) :: extra) =
      (if members.contains name then members else members.insert name value).addMissing extra :=
  rfl

/-- What was there goes before what is added. -/
theorem find?_addMissing (members extra : Members) (key : String) :
    (members.addMissing extra).find? key = (members.find? key).or (extra.find? key) := by
  induction extra generalizing members with
  | nil => exact Option.or_none.symm
  | cons member extra ih =>
    obtain ⟨name, value⟩ := member
    rw [addMissing_cons, find?.eq_def ((name, value) :: extra)]
    dsimp only
    rw [ih]
    by_cases there : members.contains name
    · rw [if_pos there]
      by_cases same : name = key
      · obtain ⟨old, found⟩ := Option.isSome_iff_exists.mp there
        rw [if_pos same, ← same, found, Option.some_or, Option.some_or]
      · rw [if_neg same]
    · rw [if_neg there, find?_insert]
      by_cases same : name = key
      · have absent : members.find? key = none := by
          rw [contains, same] at there
          exact Option.not_isSome_iff_eq_none.mp there
        rw [if_pos same, if_pos same, absent, Option.some_or, Option.none_or]
      · rw [if_neg same, if_neg same]

/-- The names are in order, without repetition. -/
def Sorted (members : Members) : Prop := members.names.Pairwise (· < ·)

theorem sorted_nil : Sorted [] := List.Pairwise.nil

/-- A member whose name comes after the others is added in the end. -/
theorem insert_of_last (last : ∀ other ∈ members.names, other < name) :
    members.insert name value = members ++ [(name, value)] := by
  induction members with
  | nil => rfl
  | cons member members ih =>
    obtain ⟨other, old⟩ := member
    obtain ⟨before, rest⟩ := List.forall_mem_cons.mp last
    rw [insert, if_neg (ne_of_gt before), if_neg (not_lt_of_gt before), ih rest, List.cons_append]

theorem mem_insert {member : String × Json} (h : member ∈ members.insert name value) :
    member = (name, value) ∨ member ∈ members := by
  induction members with
  | nil => exact .inl (List.mem_singleton.mp h)
  | cons first members ih =>
    obtain ⟨other, old⟩ := first
    rw [insert] at h
    split at h
    · exact (List.mem_cons.mp h).imp_right (List.mem_cons_of_mem _)
    · split at h
      · exact List.mem_cons.mp h
      · rcases List.mem_cons.mp h with rfl | later
        · exact .inr List.mem_cons_self
        · exact (ih later).imp_right (List.mem_cons_of_mem _)

theorem mem_names_insert (h : key ∈ (members.insert name value).names) :
    key = name ∨ key ∈ members.names := by
  obtain ⟨member, listed, rfl⟩ := List.mem_map.mp h
  exact (mem_insert listed).imp (congrArg Prod.fst) List.mem_map_of_mem

/-- What holds of each member goes on holding when one more is added. -/
theorem forall_insert {p : Json → Prop} (all : ∀ m ∈ members, p m.2) (new : p value) :
    ∀ m ∈ members.insert name value, p m.2 := by
  intro member listed
  rcases mem_insert listed with rfl | before
  · exact new
  · exact all member before

theorem forall_addMissing {p : Json → Prop} (all : ∀ m ∈ members, p m.2)
    (more : ∀ m ∈ extra, p m.2) : ∀ m ∈ members.addMissing extra, p m.2 := by
  induction extra generalizing members with
  | nil => exact all
  | cons member extra ih =>
    obtain ⟨name, value⟩ := member
    obtain ⟨first, rest⟩ := List.forall_mem_cons.mp more
    rw [addMissing_cons]
    split
    · exact ih all rest
    · exact ih (forall_insert all first) rest

theorem Sorted.insert (sorted : members.Sorted) (name : String) (value : Json) :
    (members.insert name value).Sorted := by
  induction members with
  | nil => exact List.pairwise_singleton _ _
  | cons member members ih =>
    obtain ⟨other, old⟩ := member
    obtain ⟨first, rest⟩ := List.pairwise_cons.mp sorted
    rw [Members.insert]
    split
    · next same => exact List.pairwise_cons.mpr ⟨same ▸ first, rest⟩
    · next apart =>
      split
      · next before =>
        refine List.pairwise_cons.mpr ⟨fun later listed => ?_, sorted⟩
        rcases List.mem_cons.mp listed with rfl | listed
        · exact before
        · exact lt_trans before (first later listed)
      · next behind =>
        refine List.pairwise_cons.mpr ⟨fun later listed => ?_, ih rest⟩
        rcases mem_names_insert listed with rfl | listed
        · exact lt_of_le_of_ne (not_lt.mp behind) (Ne.symm apart)
        · exact first later listed

theorem Sorted.addMissing (sorted : members.Sorted) (extra : Members) :
    (members.addMissing extra).Sorted := by
  induction extra generalizing members with
  | nil => exact sorted
  | cons member extra ih =>
    obtain ⟨name, value⟩ := member
    rw [addMissing_cons]
    split
    · exact ih sorted
    · exact ih (sorted.insert name value)

end Parley.Json.Members
