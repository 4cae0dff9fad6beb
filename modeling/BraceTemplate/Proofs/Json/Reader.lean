import BraceTemplate.Proofs.Json.Members
import BraceTemplate.Proofs.Json.Number

/-!
# Reading what was written

A document of integers and texts that is not nested too deep is read back from
its compact text.
-/

namespace BraceTemplate.Json

/--
Documents without fractions that are nested no deeper than so many arrays and
objects, with their members in order.
-/
inductive Exact : Nat → Json → Prop
  | null {depth : Nat} : Exact depth .null
  | bool {depth : Nat} (b : Bool) : Exact depth (.bool b)
  | integer {depth : Nat} {n : Int} (hlow : -2 ^ 63 ≤ n) (hhigh : n < 2 ^ 64) :
      Exact depth (.integer n)
  | string {depth : Nat} (s : String) : Exact depth (.string s)
  | array {depth : Nat} {items : List Json} (hitems : ∀ item ∈ items, Exact depth item) :
      Exact (depth + 1) (.array items)
  | object {depth : Nat} {members : Dictionary Json} (horder : InOrder members)
      (hmembers : ∀ member ∈ members, Exact depth member.2) : Exact (depth + 1) (.object members)

/-! ## Tokens -/

theorem toList_write_array (items : List Json) :
    (write (.array items)).toList =
      '[' :: ([','].intercalate (items.map fun item => item.write.toList) ++ [']']) := by
  simp [write, Function.comp_def]

theorem toList_write_object (members : Dictionary Json) :
    (write (.object members)).toList =
      '\x7b' :: ([','].intercalate (members.map fun member =>
        (writeString member.1).toList ++ ':' :: member.2.write.toList) ++ ['\x7d']) := by
  simp [write, Function.comp_def]

theorem Exact.readsAs {depth : Nat} {document : Json} (h : Exact depth document) :
    ReadsAs document.write.toList (tokensOf document) := by
  induction h with
  | null =>
      rw [write, tokensOf]
      exact readsAs_null
  | bool b =>
      rw [write, tokensOf]
      exact readsAs_bool b
  | integer hlow hhigh =>
      rw [write, tokensOf]
      exact readsAs_integer hlow hhigh
  | string s =>
      rw [write, tokensOf]
      exact (readsWhole_writeString s).readsAs
  | @array _ items _ ih =>
      have hopen : ReadsWhole ['['] [.openArray] := .punctuation rfl rfl rfl
      have hclose : ReadsWhole [']'] [.closeArray] := .punctuation rfl rfl rfl
      have hitems : List.Forall₂ ReadsAs (items.map fun item => item.write.toList)
          (items.map tokensOf) := by
        rw [List.forall₂_map_left_iff, List.forall₂_map_right_iff]
        exact List.forall₂_same.mpr ih
      have hbody := readsWhole_intercalate hitems rfl hclose
      rw [toList_write_array, tokensOf]
      exact (hopen.append hbody).readsAs
  | @object _ members _ _ ih =>
      have hopen : ReadsWhole ['\x7b'] [.openObject] := .punctuation rfl rfl rfl
      have hclose : ReadsWhole ['\x7d'] [.closeObject] := .punctuation rfl rfl rfl
      have hcolon : ReadsWhole [':'] [.colon] := .punctuation rfl rfl rfl
      have hmembers : List.Forall₂ ReadsAs
          (members.map fun member =>
            (writeString member.1).toList ++ ':' :: member.2.write.toList)
          (members.map fun member => .string member.1 :: .colon :: tokensOf member.2) := by
        rw [List.forall₂_map_left_iff, List.forall₂_map_right_iff]
        refine List.forall₂_same.mpr fun member hmem => ?_
        exact (readsWhole_writeString member.1).append_readsAs
          (hcolon.append_readsAs (ih member hmem))
      have hbody := readsWhole_intercalate hmembers rfl hclose
      rw [toList_write_object, tokensOf]
      exact (hopen.append hbody).readsAs

/-! ## Building -/

def Builds (depth : Nat) (document : Json) : Prop :=
  ∀ stack expects, stack.length + depth ≤ maxNesting → expects = .value ∨ expects = .itemOrEnd →
    (tokensOf document).foldlM Builder.step? ⟨stack, expects⟩ = some (Builder.give stack document)

theorem step?_startValue {stack : List Frame} {expects : Expectation}
    (h : expects = .value ∨ expects = .itemOrEnd) {token : Token} (hclose : token ≠ .closeArray) :
    Builder.step? ⟨stack, expects⟩ token = Builder.startValue? stack token := by
  rcases h with rfl | rfl
  · rfl
  · unfold Builder.step?
    split <;> simp_all

theorem openFrame?_of_lt {stack : List Frame} {frame : Frame} {expects : Expectation}
    (h : stack.length < maxNesting) :
    Builder.openFrame? stack frame expects = some ⟨frame :: stack, expects⟩ := if_pos h

theorem foldlM_name {expects : Expectation} (hexpects : expects = .name ∨ expects = .nameOrEnd)
    (outer : List Frame)
    (done : Dictionary Json) (name : String) (tokens : List Token) :
    (Token.string name :: Token.colon :: tokens).foldlM Builder.step?
        ⟨.members done :: outer, expects⟩ =
      tokens.foldlM Builder.step? ⟨.named done name :: outer, .value⟩ := by
  rcases hexpects with rfl | rfl <;> rfl

section Members

variable {depth : Nat} {outer : List Frame} (hdepth : outer.length + 1 + depth ≤ maxNesting)

include hdepth

theorem foldlM_items {item : Json} {rest : List Json} (h : ∀ each ∈ item :: rest, Builds depth each)
    {expects : Expectation} (hexpects : expects = .value ∨ expects = .itemOrEnd)
    (done : List Json) :
    ([Token.comma].intercalate ((item :: rest).map tokensOf) ++ [Token.closeArray]).foldlM
        Builder.step? ⟨.array done :: outer, expects⟩ =
      some (Builder.give outer (.array (done.reverse ++ item :: rest))) := by
  induction rest generalizing item done expects with
  | nil =>
      have hbuilt := h item List.mem_cons_self (.array done :: outer) expects hdepth hexpects
      simp [List.foldlM_append, hbuilt, Builder.give, Builder.step?]
  | cons next rest ih =>
      have hbuilt := h item List.mem_cons_self (.array done :: outer) expects hdepth hexpects
      have hcomma : Builder.step? (Builder.give (.array done :: outer) item) .comma =
          some ⟨.array (item :: done) :: outer, .value⟩ := rfl
      have hthen := ih (List.forall_mem_cons.mp h).2 (.inl rfl) (item :: done)
      rw [List.map_cons] at hthen ⊢
      rw [List.map_cons, List.intercalate_cons_cons, List.append_assoc, List.append_assoc,
        List.foldlM_append, hbuilt, Option.bind_eq_bind, Option.bind_some, List.cons_append,
        List.foldlM_cons, hcomma, Option.bind_eq_bind, Option.bind_some, List.nil_append, hthen]
      simp

theorem foldlM_members {member : String × Json} {rest : Dictionary Json}
    (h : ∀ each ∈ member :: rest, Builds depth each.2) {expects : Expectation}
    (hexpects : expects = .name ∨ expects = .nameOrEnd) (done : Dictionary Json) :
    ([Token.comma].intercalate ((member :: rest).map fun member =>
        Token.string member.1 :: Token.colon :: tokensOf member.2) ++ [Token.closeObject]).foldlM
        Builder.step? ⟨.members done :: outer, expects⟩ =
      some (Builder.give outer (ofMembers (done.reverse ++ member :: rest))) := by
  induction rest generalizing member done expects with
  | nil =>
      have hbuilt := h member List.mem_cons_self (.named done member.1 :: outer) .value hdepth
        (.inl rfl)
      simp [foldlM_name hexpects, List.foldlM_append, hbuilt, Builder.give, Builder.step?]
  | cons next rest ih =>
      have hbuilt := h member List.mem_cons_self (.named done member.1 :: outer) .value hdepth
        (.inl rfl)
      have hcomma : Builder.step? (Builder.give (.named done member.1 :: outer) member.2) .comma =
          some ⟨.members (member :: done) :: outer, .name⟩ := rfl
      have hthen := ih (List.forall_mem_cons.mp h).2 (.inl rfl) (member :: done)
      rw [List.map_cons] at hthen ⊢
      rw [List.map_cons, List.intercalate_cons_cons, List.append_assoc, List.append_assoc,
        List.cons_append, List.cons_append, foldlM_name hexpects, List.foldlM_append, hbuilt,
        Option.bind_eq_bind, Option.bind_some, List.cons_append, List.foldlM_cons, hcomma,
        Option.bind_eq_bind, Option.bind_some, List.nil_append, hthen]
      simp

end Members

theorem Exact.builds {depth : Nat} {document : Json} (h : Exact depth document) :
    Builds depth document := by
  induction h with
  | null | bool | integer | string =>
      intro stack expects _ hexpects
      rw [tokensOf, List.foldlM_cons, step?_startValue hexpects (by simp)]
      rfl
  | @array depth items _ ih =>
      intro stack expects hdepth hexpects
      have hopen : Builder.startValue? stack .openArray =
          some ⟨.array [] :: stack, .itemOrEnd⟩ := openFrame?_of_lt (by omega)
      rw [tokensOf, List.foldlM_cons, step?_startValue hexpects (by simp), hopen,
        Option.bind_eq_bind, Option.bind_some]
      cases items with
      | nil => rfl
      | cons item rest => exact foldlM_items (by omega) ih (.inr rfl) []
  | @object depth members horder _ ih =>
      intro stack expects hdepth hexpects
      have hopen : Builder.startValue? stack .openObject =
          some ⟨.members [] :: stack, .nameOrEnd⟩ := openFrame?_of_lt (by omega)
      rw [tokensOf, List.foldlM_cons, step?_startValue hexpects (by simp), hopen,
        Option.bind_eq_bind, Option.bind_some]
      cases members with
      | nil => rfl
      | cons member rest =>
          rw [foldlM_members (by omega) ih (.inr rfl) [], List.reverse_nil, List.nil_append,
            ofMembers_of_inOrder horder]

theorem Exact.read?_write {document : Json} (h : Exact maxNesting document) :
    read? document.write.toList = some document := by
  have htokens : tokens? document.write.toList = some (tokensOf document) := by
    have := h.readsAs.atEnd []
    rwa [List.append_nil, List.reverse_reverse] at this
  have hbuilt := h.builds [] .value le_rfl (.inl rfl)
  rw [read?, htokens, Option.bind_some, ofTokens?, Builder.initial, hbuilt]
  rfl

end BraceTemplate.Json
