import BraceTemplate.Proofs.Json.Members

/-!
# Documents in order

A document is in order if the members of all its objects are.  Every document has
such a form, and one that is in order already stays as it is.
-/

namespace BraceTemplate.Json

open Dictionary (names)

inductive Ordered : Json → Prop
  | null : Ordered .null
  | bool (b : Bool) : Ordered (.bool b)
  | integer (n : Int) : Ordered (.integer n)
  | float (x : Float) : Ordered (.float x)
  | string (s : String) : Ordered (.string s)
  | array {items : List Json} (hitems : ∀ item ∈ items, Ordered item) : Ordered (.array items)
  | object {members : Dictionary Json} (horder : InOrder members)
      (hmembers : ∀ member ∈ members, Ordered member.2) : Ordered (.object members)

def sorted : Json → Json
  | .null => .null
  | .bool b => .bool b
  | .integer n => .integer n
  | .float x => .float x
  | .string s => .string s
  | .array items => .array (items.map sorted)
  | .object members => ofMembers (members.map fun member => (member.1, sorted member.2))
termination_by document => document
decreasing_by
  · have := List.sizeOf_lt_of_mem ‹_›
    simp only [Json.array.sizeOf_spec]
    omega
  · have := Dictionary.sizeOf_snd_lt ‹_›
    simp only [Json.object.sizeOf_spec]
    omega

theorem mem_insertMember {members : Dictionary Json} {name : String} {document : Json}
    {member : String × Json} (h : member ∈ insertMember name document members) :
    member = (name, document) ∨ member ∈ members := by
  induction members with
  | nil => exact .inl (List.mem_singleton.mp h)
  | cons first rest ih =>
      obtain ⟨other, otherDocument⟩ := first
      rw [insertMember] at h
      split at h
      · exact List.mem_cons.mp h
      · split at h
        · exact (List.mem_cons.mp h).imp_right (List.mem_cons_of_mem _)
        · rcases List.mem_cons.mp h with rfl | hrest
          · exact .inr List.mem_cons_self
          · exact (ih hrest).imp_right (List.mem_cons_of_mem _)

theorem mem_of_ofMembers {members sorted : Dictionary Json}
    (h : ofMembers members = .object sorted) : sorted ⊆ members := by
  obtain rfl := Json.object.inj h
  -- what is in place already comes from members that were in front
  have general : ∀ done : Dictionary Json, members.foldl
      (fun done member => insertMember member.1 member.2 done) done ⊆ done ++ members := by
    clear h
    induction members with
    | nil => simp
    | cons first rest ih =>
        refine fun done member hmember => ?_
        rcases List.mem_append.mp (ih _ hmember) with hdone | hrest
        · rcases mem_insertMember hdone with rfl | hold
          · simp
          · exact List.mem_append_left _ hold
        · exact List.mem_append_right _ (List.mem_cons_of_mem _ hrest)
  exact general []

theorem ordered_ofMembers {members : Dictionary Json}
    (h : ∀ member ∈ members, Ordered member.2) : Ordered (ofMembers members) := by
  obtain ⟨sorted, hsorted, horder⟩ := exists_ofMembers_inOrder members
  rw [hsorted]
  exact .object horder fun member hmem => h member (mem_of_ofMembers hsorted hmem)

theorem Ordered.sorted_eq {document : Json} (h : Ordered document) :
    sorted document = document := by
  induction h with
  | null | bool | integer | float | string => rw [sorted]
  | array _ ih => rw [sorted, List.map_congr_left ih, List.map_id']
  | @object members horder _ ih =>
      have hmembers : members.map (fun member => (member.1, sorted member.2)) = members.map id :=
        List.map_congr_left fun member hmem => congrArg (Prod.mk member.1) (ih member hmem)
      rw [sorted, hmembers, List.map_id, ofMembers_of_inOrder horder]

end BraceTemplate.Json
