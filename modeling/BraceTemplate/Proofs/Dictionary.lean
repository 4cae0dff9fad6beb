import BraceTemplate.Dictionary

/-!
# Laws of dictionaries

A merge writes entry by entry.  What is found under a name afterwards is what
was written last under it; the names keep their places, and new ones follow in
the order in which they first appear.
-/

namespace BraceTemplate.Dictionary

variable {α : Type}

def lastWritten? (writes : List (String × α)) (name : String) : Option α :=
  find? writes.reverse name

/-- The names that are not known yet, each where it first appears. -/
def newNames (known names : List String) : List String :=
  (names.filter fun name => name ∉ known).eraseDups

section Insert

variable (d : Dictionary α) (name : String) (value : α)

theorem find?_append (first second : Dictionary α) :
    find? (first ++ second) name = (first.find? name).or (second.find? name) := by
  induction first with
  | nil => simp
  | cons entry first ih =>
      obtain ⟨other, old⟩ := entry
      rw [List.cons_append, find?_cons, find?_cons, ih]
      split <;> simp

theorem names_insert :
    (d.insert name value).names = if name ∈ d.names then d.names else d.names ++ [name] := by
  induction d with
  | nil => simp [insert, names]
  | cons entry rest ih =>
      obtain ⟨other, old⟩ := entry
      simp only [names] at ih
      by_cases hname : other = name
      · simp [insert, names, hname]
      · have hother : ¬ name = other := fun h => hname h.symm
        simp only [insert, names, hname, hother, if_false, List.map_cons, ih, List.mem_cons,
          false_or]
        by_cases hrest : name ∈ rest.map Prod.fst <;> simp [hrest]

theorem mem_names_insert : name ∈ (d.insert name value).names := by
  rw [names_insert]
  split <;> simp_all

theorem names_prefix_insert : d.names <+: (d.insert name value).names := by
  rw [names_insert]
  split
  · exact List.prefix_rfl
  · exact List.prefix_append _ _

theorem insert_insert (old : α) : (d.insert name old).insert name value = d.insert name value := by
  induction d with
  | nil => simp [insert]
  | cons first rest ih =>
      by_cases hname : first.1 = name
      · simp [insert, hname]
      · rw [insert, if_neg hname, insert, if_neg hname, ih, insert, if_neg hname]

theorem insert_comm {name : String} (h : name ∈ d.names) {other : String} (hother : other ≠ name)
    (otherValue : α) :
    (d.insert other otherValue).insert name value =
      (d.insert name value).insert other otherValue := by
  induction d with
  | nil => cases h
  | cons first rest ih =>
      by_cases hname : first.1 = name
      · have hfirst : ¬ first.1 = other := fun hsame => hother (hsame.symm.trans hname)
        simp [insert, hname, hother.symm]
      · have hrest : name ∈ names rest := (List.mem_cons.mp h).resolve_left (Ne.symm hname)
        by_cases hfirst : first.1 = other
        · simp [insert, hfirst, hother]
        · simp [insert, hname, hfirst, ih hrest]

end Insert

section Merge

variable (d : Dictionary α)

@[simp] theorem merge_nil : d.merge [] = d := rfl

theorem merge_cons (entry : String × α) (writes : Dictionary α) :
    d.merge (entry :: writes) = (d.insert entry.1 entry.2).merge writes := rfl

theorem merge_append (first second : Dictionary α) :
    d.merge (first ++ second) = (d.merge first).merge second :=
  List.foldl_append

theorem find?_merge (writes : Dictionary α) (name : String) :
    (d.merge writes).find? name = (lastWritten? writes name).or (d.find? name) := by
  induction writes generalizing d with
  | nil => simp [lastWritten?]
  | cons entry writes ih =>
      have hone : find? [entry] name = if name = entry.1 then some entry.2 else none :=
        find?_cons name entry.1 entry.2 []
      rw [merge_cons, ih, find?_insert]
      unfold lastWritten?
      rw [List.reverse_cons, find?_append, hone]
      cases find? writes.reverse name <;> split <;> simp

theorem names_merge (writes : Dictionary α) :
    (d.merge writes).names = d.names ++ newNames d.names (names writes) := by
  induction writes generalizing d with
  | nil => simp [newNames, names]
  | cons entry writes ih =>
      have hnames : names (entry :: writes) = entry.1 :: names writes := rfl
      rw [merge_cons, ih, names_insert, hnames]
      by_cases hknown : entry.1 ∈ d.names
      · simp [newNames, hknown]
      · -- a new name comes next, and further writes under it are not new any more
        have hfilter : (names writes).filter (fun name => name ∉ d.names ++ [entry.1]) =
            ((names writes).filter fun name => name ∉ d.names).filter fun name =>
              !name == entry.1 := by
          rw [List.filter_filter]
          apply List.filter_congr
          intro name _
          by_cases hname : name = entry.1 <;> simp [hname]
        rw [if_neg hknown, newNames, newNames, hfilter, List.filter_cons_of_pos (by simpa),
          List.eraseDups_cons]
        simp

theorem insert_merge_of_not_mem {writes : Dictionary α} {name : String} (hmem : name ∈ d.names)
    (h : name ∉ writes.names) (value : α) :
    (d.merge writes).insert name value = (d.insert name value).merge writes := by
  induction writes generalizing d with
  | nil => rfl
  | cons entry writes ih =>
      obtain ⟨hentry, hwrites⟩ := not_or.mp (mt List.mem_cons.mpr h)
      have hkept : name ∈ (d.insert entry.1 entry.2).names :=
        (names_prefix_insert d entry.1 entry.2).subset hmem
      rw [merge_cons, ih _ hkept hwrites, insert_comm _ _ hmem (Ne.symm hentry), merge_cons]

theorem merge_insert {writes : Dictionary α} (h : writes.names.Nodup) (name : String) (value : α) :
    d.merge (writes.insert name value) = (d.merge writes).insert name value := by
  induction writes generalizing d with
  | nil => rfl
  | cons entry writes ih =>
      obtain ⟨hentry, hwrites⟩ := List.nodup_cons.mp h
      by_cases hname : entry.1 = name
      · have hmem : name ∈ (d.insert name entry.2).names := mem_names_insert _ _ _
        rw [insert, if_pos hname, merge_cons, merge_cons, hname,
          insert_merge_of_not_mem _ hmem (hname ▸ hentry), insert_insert]
      · rw [insert, if_neg hname, merge_cons, ih _ hwrites, merge_cons]

theorem nodup_names_insert (h : d.names.Nodup) (name : String) (value : α) :
    (d.insert name value).names.Nodup := by
  rw [names_insert]
  split
  · exact h
  · rename_i hnew
    refine List.nodup_append.mpr ⟨h, by simp, fun other hother single hsingle hsame => ?_⟩
    rw [hsame, List.mem_singleton.mp hsingle] at hother
    exact hnew hother

theorem merge_ofList (writes : Dictionary α) : d.merge (ofList writes) = d.merge writes := by
  -- the first writes have been merged already
  have general : ∀ done : Dictionary α, done.names.Nodup →
      d.merge (done.merge writes) = (d.merge done).merge writes := by
    induction writes with
    | nil => exact fun done _ => rfl
    | cons entry writes ih =>
        intro done hdone
        rw [merge_cons, ih _ (nodup_names_insert done hdone entry.1 entry.2),
          merge_insert _ hdone, merge_cons]
  exact general [] List.nodup_nil

theorem names_subset_merge (writes : Dictionary α) : d.names ⊆ (d.merge writes).names := by
  rw [names_merge]
  exact List.subset_append_left _ _

end Merge

/-! ## Entries of different names -/

section Entries

variable {d : Dictionary α}

theorem names_map {β : Type} (f : α → β) (d : Dictionary α) :
    names (d.map fun entry => (entry.1, f entry.2)) = d.names := by
  rw [names, List.map_map]
  rfl

theorem find?_map {β : Type} (f : α → β) (d : Dictionary α) (name : String) :
    find? (d.map fun entry => (entry.1, f entry.2)) name = (d.find? name).map f := by
  induction d with
  | nil => rfl
  | cons entry rest ih =>
      rw [List.map_cons, find?_cons, find?_cons, ih]
      split <;> rfl

theorem find?_of_mem (hnames : d.names.Nodup) {entry : String × α} (h : entry ∈ d) :
    d.find? entry.1 = some entry.2 := by
  induction d with
  | nil => cases h
  | cons first rest ih =>
      obtain ⟨hfirst, hrest⟩ := List.nodup_cons.mp hnames
      rw [find?_cons]
      rcases List.mem_cons.mp h with rfl | hmem
      · exact if_pos rfl
      · have hother : entry.1 ≠ first.1 := by
          intro hsame
          exact hfirst (hsame ▸ List.mem_map_of_mem hmem)
        rw [if_neg hother, ih hrest hmem]

theorem mem_of_find? {name : String} {value : α} (h : d.find? name = some value) :
    (name, value) ∈ d := by
  induction d with
  | nil => cases h
  | cons first rest ih =>
      rw [find?_cons] at h
      split at h
      · rename_i hname
        subst hname
        obtain rfl := Option.some.inj h
        exact List.mem_cons_self
      · exact List.mem_cons_of_mem _ (ih h)

theorem find?_of_not_mem {name : String} (h : name ∉ d.names) : d.find? name = none :=
  Option.eq_none_iff_forall_ne_some.mpr fun _ hvalue =>
    h (List.mem_map_of_mem (f := Prod.fst) (mem_of_find? hvalue))

theorem find?_of_perm (hnames : d.names.Nodup) {other : Dictionary α} (h : d.Perm other)
    (name : String) : other.find? name = d.find? name := by
  have hother : other.names.Nodup := (h.map Prod.fst).nodup_iff.mp hnames
  cases hfound : d.find? name with
  | some value => exact find?_of_mem hother (h.mem_iff.mp (mem_of_find? hfound))
  | none =>
      refine Option.eq_none_iff_forall_ne_some.mpr fun value hvalue => ?_
      rw [find?_of_mem hnames (h.mem_iff.mpr (mem_of_find? hvalue))] at hfound
      cases hfound

theorem insert_of_not_mem {name : String} (h : name ∉ d.names) (value : α) :
    d.insert name value = d ++ [(name, value)] := by
  induction d with
  | nil => rfl
  | cons first rest ih =>
      obtain ⟨hfirst, hrest⟩ := not_or.mp (mt List.mem_cons.mpr h)
      have hother : ¬ first.1 = name := fun hsame => hfirst hsame.symm
      rw [insert, if_neg hother, ih hrest, List.cons_append]

theorem not_mem_names_of_nodup {entry : String × α} {rest : Dictionary α}
    (h : (names (d ++ entry :: rest)).Nodup) : entry.1 ∉ d.names := by
  intro hmem
  rw [names, List.map_append, List.nodup_append] at h
  exact h.2.2 _ hmem _ List.mem_cons_self rfl

theorem merge_of_nodup {writes : Dictionary α} (h : (names (d ++ writes)).Nodup) :
    d.merge writes = d ++ writes := by
  induction writes generalizing d with
  | nil => rw [merge_nil, List.append_nil]
  | cons entry writes ih =>
      have hmoved : d ++ entry :: writes = d ++ [entry] ++ writes := by simp
      rw [merge_cons, insert_of_not_mem (not_mem_names_of_nodup h), ih (hmoved ▸ h), hmoved]

theorem ofList_of_nodup (h : d.names.Nodup) : ofList d = d := merge_of_nodup h

end Entries

end BraceTemplate.Dictionary
