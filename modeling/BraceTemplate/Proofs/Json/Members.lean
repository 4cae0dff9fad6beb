import BraceTemplate.Json.Basic
import BraceTemplate.Proofs.Dictionary
import Mathlib.Data.String.Basic

/-!
# Members in order

Members are put in the order of their names, each name once.  Members that are in
this order already stay as they are.
-/

namespace BraceTemplate.Json

open Dictionary (names)

def InOrder (members : Dictionary Json) : Prop := (names members).Pairwise (· < ·)

section Insert

variable (name : String) (document : Json)

theorem mem_names_insertMember {members : Dictionary Json} {other : String} :
    other ∈ names (insertMember name document members) ↔ other = name ∨ other ∈ names members := by
  induction members with
  | nil => simp [insertMember, names]
  | cons member rest ih =>
      obtain ⟨first, value⟩ := member
      simp only [names, List.mem_map] at ih
      rw [insertMember]
      split
      · simp [names]
      · split
        · rename_i hname
          simp [names, hname]
        · simp only [names, List.map_cons, List.mem_cons, List.mem_map, ih]
          tauto

theorem InOrder.insertMember {members : Dictionary Json} (h : InOrder members) :
    InOrder (insertMember name document members) := by
  induction members with
  | nil => exact List.pairwise_singleton _ _
  | cons member rest ih =>
      obtain ⟨first, value⟩ := member
      obtain ⟨hfirst, hrest⟩ := List.pairwise_cons.mp h
      rw [Json.insertMember]
      split
      · rename_i hlt
        refine List.pairwise_cons.mpr ⟨fun other hother => ?_, h⟩
        rcases List.mem_cons.mp hother with rfl | hother
        · exact hlt
        · exact hlt.trans (hfirst other hother)
      · rename_i hnot
        split
        · rename_i hname
          subst hname
          exact h
        · rename_i hne
          have hless : first < name := lt_of_le_of_ne (not_lt.mp hnot) (Ne.symm hne)
          refine List.pairwise_cons.mpr ⟨fun other hother => ?_, ih hrest⟩
          rcases (mem_names_insertMember name document).mp hother with rfl | hother
          · exact hless
          · exact hfirst other hother

theorem insertMember_of_forall_lt {members : Dictionary Json}
    (h : ∀ other ∈ names members, other < name) :
    Json.insertMember name document members = members ++ [(name, document)] := by
  induction members with
  | nil => rfl
  | cons member rest ih =>
      obtain ⟨first, value⟩ := member
      obtain ⟨hfirst, hrest⟩ := List.forall_mem_cons.mp h
      rw [Json.insertMember, if_neg hfirst.asymm, if_neg hfirst.ne', ih hrest, List.cons_append]

end Insert

theorem exists_ofMembers_inOrder (members : Dictionary Json) :
    ∃ sorted, ofMembers members = .object sorted ∧ InOrder sorted := by
  refine ⟨_, rfl, ?_⟩
  -- the members in front have been put in order already
  have general : ∀ sorted, InOrder sorted → InOrder (members.foldl
      (fun sorted member => insertMember member.1 member.2 sorted) sorted) := by
    induction members with
    | nil => exact fun sorted hsorted => hsorted
    | cons member rest ih =>
        exact fun sorted hsorted => ih _ (hsorted.insertMember member.1 member.2)
  exact general [] List.Pairwise.nil

theorem ofMembers_of_inOrder {members : Dictionary Json} (h : InOrder members) :
    ofMembers members = .object members := by
  have general : ∀ sorted, InOrder (sorted ++ members) → members.foldl
      (fun sorted member => insertMember member.1 member.2 sorted) sorted = sorted ++ members := by
    clear h
    induction members with
    | nil => simp
    | cons member rest ih =>
        intro sorted hsorted
        have hmoved : sorted ++ member :: rest = sorted ++ [member] ++ rest := by simp
        have hlast : ∀ other ∈ names sorted, other < member.1 := by
          rw [InOrder, names, List.map_append] at hsorted
          exact fun other hother =>
            (List.pairwise_append.mp hsorted).2.2 other hother member.1 List.mem_cons_self
        rw [List.foldl_cons, insertMember_of_forall_lt _ _ hlast, ih _ (hmoved ▸ hsorted), hmoved]
  exact congrArg Json.object (general [] h)

/-! ## Members of different names -/

theorem insertMember_perm {name : String} {members : Dictionary Json} (h : name ∉ names members)
    (document : Json) :
    (insertMember name document members).Perm ((name, document) :: members) := by
  induction members with
  | nil => exact .refl _
  | cons member rest ih =>
      obtain ⟨other, otherDocument⟩ := member
      obtain ⟨hother, hrest⟩ := not_or.mp (mt List.mem_cons.mpr h)
      rw [insertMember]
      split
      · exact .refl _
      · exact ((ih hrest).cons _).trans (.swap _ _ _)

theorem foldl_insertMember_perm {sorted members : Dictionary Json}
    (h : (names (sorted ++ members)).Nodup) :
    (members.foldl (fun sorted member => insertMember member.1 member.2 sorted) sorted).Perm
      (sorted ++ members) := by
  induction members generalizing sorted with
  | nil =>
      rw [List.append_nil]
      exact .refl _
  | cons member rest ih =>
      have hmiddle : (member :: (sorted ++ rest)).Perm (sorted ++ member :: rest) :=
        List.perm_middle.symm
      have hmoved : (names (member :: (sorted ++ rest))).Nodup :=
        (hmiddle.map Prod.fst).nodup_iff.mpr h
      have hnew : member.1 ∉ names sorted := by
        intro hmem
        refine (List.nodup_cons.mp hmoved).1 ?_
        simp only [List.map_append, List.mem_append]
        exact .inl hmem
      have hinserted : (insertMember member.1 member.2 sorted ++ rest).Perm
          (member :: (sorted ++ rest)) := (insertMember_perm hnew member.2).append_right rest
      exact (ih ((hinserted.map Prod.fst).nodup_iff.mpr hmoved)).trans (hinserted.trans hmiddle)

theorem exists_ofMembers_perm {members : Dictionary Json} (h : (names members).Nodup) :
    ∃ sorted, ofMembers members = .object sorted ∧ sorted.Perm members :=
  ⟨_, rfl, foldl_insertMember_perm (List.nil_append members ▸ h)⟩

theorem ofMembers_perm {first second : Dictionary Json} (hnames : (names first).Nodup)
    (h : first.Perm second) : ofMembers first = ofMembers second := by
  obtain ⟨sorted, hsorted, hperm⟩ := exists_ofMembers_perm hnames
  obtain ⟨other, hother, hotherPerm⟩ := exists_ofMembers_perm ((h.map Prod.fst).nodup_iff.mp hnames)
  have horder : InOrder sorted := by
    obtain ⟨_, hsame, horder⟩ := exists_ofMembers_inOrder first
    exact Json.object.inj (hsorted.symm.trans hsame) ▸ horder
  have hotherOrder : InOrder other := by
    obtain ⟨_, hsame, horder⟩ := exists_ofMembers_inOrder second
    exact Json.object.inj (hother.symm.trans hsame) ▸ horder
  have hequal : sorted = other := List.Perm.eq_of_pairwise
    (fun a b _ _ hless hgreater => absurd hgreater hless.asymm) (List.pairwise_map.mp horder)
    (List.pairwise_map.mp hotherOrder) (hperm.trans (h.trans hotherPerm.symm))
  rw [hsorted, hother, hequal]

end BraceTemplate.Json
