import MetricsAgent.Json.Value
import MetricsAgent.Name.Map

/-!
# Sorted members

Members are inserted one after the other where their keys belong. The keys of the outcome are in order, and if no key
occurs twice, the members are those that were inserted.
-/

namespace MetricsAgent.Json

variable {α : Type} {key : String} {value : α} {members sorted : List (String × α)}

theorem insertMember_eq_insertEntry (key : String) (value : α) (members : List (String × α)) :
    insertMember key value members = NameMap.insertEntry key value members := by
  induction members with
  | nil => rfl
  | cons m members ih => rw [insertMember, NameMap.insertEntry, ih]

theorem pairwise_foldl_insertMember (h : sorted.Pairwise (·.1 < ·.1)) :
    (members.foldl (fun sorted m => insertMember m.1 m.2 sorted) sorted).Pairwise (·.1 < ·.1) := by
  induction members generalizing sorted with
  | nil => exact h
  | cons m members ih =>
      rw [List.foldl_cons, insertMember_eq_insertEntry]
      exact ih (NameMap.sorted_insertEntry m.1 m.2 h)

theorem pairwise_sortMembers (members : List (String × α)) : (sortMembers members).Pairwise (·.1 < ·.1) :=
  pairwise_foldl_insertMember .nil

/-! ## Members without double keys -/

/-- Of keys that occur once, the members that are inserted hide those that were there. -/
theorem lookup_foldl_insertMember (h : (members.map (·.1)).Nodup) (key : String) :
    (members.foldl (fun sorted m => insertMember m.1 m.2 sorted) sorted).lookup key =
      (members.lookup key).or (sorted.lookup key) := by
  induction members generalizing sorted with
  | nil => rfl
  | cons m members ih =>
      obtain ⟨k, value⟩ := m
      obtain ⟨hk, h⟩ := List.nodup_cons.mp h
      rw [List.foldl_cons, ih h, insertMember_eq_insertEntry, NameMap.lookup_insertEntry, NameMap.lookup_cons]
      by_cases hkey : key = k
      · subst hkey
        have hnone : members.lookup key = none := by
          rw [List.lookup_eq_none_iff]
          intro p hp
          exact bne_iff_ne.mpr fun he => hk (List.mem_map.mpr ⟨p, hp, he.symm⟩)
        simp [hnone]
      · simp [hkey]

theorem lookup_sortMembers (h : (members.map (·.1)).Nodup) (key : String) :
    (sortMembers members).lookup key = members.lookup key := by
  rw [sortMembers, lookup_foldl_insertMember h]
  exact Option.or_none

theorem perm_insertMember (h : key ∉ members.map (·.1)) :
    (insertMember key value members).Perm ((key, value) :: members) := by
  induction members with
  | nil => exact .refl _
  | cons m members ih =>
      obtain ⟨hne, h⟩ := not_or.mp ((not_congr List.mem_cons).mp h)
      rw [insertMember]
      split
      · exact .refl _
      · exact ((ih h).cons m).trans (.swap _ _ _)

theorem perm_foldl_insertMember (h : ((sorted ++ members).map (·.1)).Nodup) :
    (members.foldl (fun sorted m => insertMember m.1 m.2 sorted) sorted).Perm (sorted ++ members) := by
  induction members generalizing sorted with
  | nil => simp
  | cons m members ih =>
      have hmiddle : (sorted ++ m :: members).Perm (m :: sorted ++ members) := List.perm_middle
      have hnodup := (hmiddle.map (·.1)).nodup_iff.mp h
      have hkey : m.1 ∉ sorted.map (·.1) := fun hk =>
        (List.nodup_cons.mp hnodup).1 (List.map_append ▸ List.mem_append_left _ hk)
      have hinsert : (insertMember m.1 m.2 sorted ++ members).Perm (m :: sorted ++ members) :=
        (perm_insertMember hkey).append_right members
      exact (ih ((hinsert.map (·.1)).nodup_iff.mpr hnodup)).trans (hinsert.trans hmiddle.symm)

theorem perm_sortMembers (h : (members.map (·.1)).Nodup) : (sortMembers members).Perm members :=
  perm_foldl_insertMember h

end MetricsAgent.Json
