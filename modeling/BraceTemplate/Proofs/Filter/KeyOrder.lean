import BraceTemplate.Filter.Registry
import BraceTemplate.Proofs.Filter.Insertion
import BraceTemplate.Proofs.Value.KeyOrder

/-!
# Filters and the order of keys

A built-in filter looks at the entries of a map by name, by count and in their
sorted form only.  On reordered values it fails alike or gives values that are
reordered again.
-/

namespace BraceTemplate

inductive Outcome {ε α β : Type} (rel : α → β → Prop) : Except ε α → Except ε β → Prop where
  | ok {a : α} {b : β} : rel a b → Outcome rel (.ok a) (.ok b)
  | error (cause : ε) : Outcome rel (.error cause) (.error cause)

namespace Outcome

variable {ε α β γ δ : Type}

theorem of_eq {rel : α → α → Prop} (hrefl : ∀ a, rel a a) {first second : Except ε α}
    (h : first = second) : Outcome rel first second := by
  subst h
  cases first with
  | error cause => exact .error cause
  | ok a => exact .ok (hrefl a)

theorem eq {first second : Except ε α} (h : Outcome Eq first second) : first = second := by
  cases h with
  | error cause => rfl
  | ok hsame => rw [hsame]

theorem bind {rel : α → β → Prop} {next : γ → δ → Prop} {first : Except ε α} {second : Except ε β}
    {f : α → Except ε γ} {g : β → Except ε δ} (h : Outcome rel first second)
    (hnext : ∀ a b, rel a b → Outcome next (f a) (g b)) :
    Outcome next (first >>= f) (second >>= g) := by
  cases h with
  | error cause => exact .error cause
  | ok hrel => exact hnext _ _ hrel

theorem bind_same {next : γ → δ → Prop} (outcome : Except ε α) {f : α → Except ε γ}
    {g : α → Except ε δ} (hnext : ∀ a, Outcome next (f a) (g a)) :
    Outcome next (outcome >>= f) (outcome >>= g) :=
  (of_eq (fun _ => rfl) rfl).bind fun a _ hsame => hsame ▸ hnext a

end Outcome

namespace Filter

open Value (Reordered)

variable {H : Type}

/-- Gives reordered values for reordered values, or fails alike. -/
def IgnoresOrder (filter : Filter H) : Prop :=
  ∀ ⦃value other : Value H⦄, value.Reordered other → ∀ arguments,
    Outcome Reordered (filter value arguments) (filter other arguments)

theorem IgnoresOrder.of_eq {filter : Filter H}
    (h : ∀ ⦃value other : Value H⦄, value.Reordered other → ∀ arguments,
      filter value arguments = filter other arguments) : IgnoresOrder filter :=
  fun _ _ hvalue arguments => Outcome.of_eq Reordered.refl (h hvalue arguments)

/-! ## Inputs and items -/

section Input

variable {value other : Value H} (h : value.Reordered other)

include h

theorem textInput_eq [HostObject H] (filter : String) :
    textInput filter value = textInput filter other := by
  rw [textInput, textInput, h.isUndefined_eq, h.display_eq]

theorem numberInput_eq (filter : String) : numberInput filter value = numberInput filter other := by
  rw [numberInput, numberInput, h.asNumber?_eq]

theorem arrayInput_outcome (filter : String) :
    Outcome (List.Forall₂ Reordered) (arrayInput filter value) (arrayInput filter other) := by
  have hitems := h.asArray?
  unfold arrayInput
  generalize value.asArray? = items? at hitems ⊢
  generalize other.asArray? = others? at hitems ⊢
  cases hitems with
  | none => exact .error _
  | some hitems => exact .ok hitems

theorem passIf_reordered (condition : Bool) :
    (passIf value condition).Reordered (passIf other condition) := by
  cases condition with
  | false => exact .refl _
  | true => exact h

end Input

section Items

variable {items others : List (Value H)} (h : List.Forall₂ Reordered items others)

include h

theorem map_eq {α : Type} {f : Value H → α}
    (hf : ∀ ⦃value other⦄, Reordered value other → f value = f other) :
    items.map f = others.map f := by
  induction h with
  | nil => rfl
  | cons hitem _ ih => rw [List.map_cons, List.map_cons, hf hitem, ih]

theorem getD_reordered (index : Nat) :
    Reordered (items[index]?.getD .undefined) (others[index]?.getD .undefined) := by
  have hitem := Reordered.getElem? h index
  generalize items[index]? = item? at hitem ⊢
  generalize others[index]? = other? at hitem ⊢
  cases hitem with
  | none => exact .refl _
  | some hitem => exact hitem

theorem window_reordered (start count : Nat) :
    (window items start count).Reordered (window others start count) :=
  .of_forall₂ (List.forall₂_take count (List.forall₂_drop start h))

end Items

/-! ## Filters that look at kinds, counts and numbers -/

@[simp] theorem truthy_ignoresOrder : IgnoresOrder (truthy : Filter H) :=
  .of_eq fun _ _ h _ => by rw [truthy, truthy, h.isTruthy_eq]

@[simp] theorem falsy_ignoresOrder : IgnoresOrder (falsy : Filter H) :=
  .of_eq fun _ _ h _ => by rw [falsy, falsy, h.isTruthy_eq]

@[simp] theorem choose_ignoresOrder : IgnoresOrder (choose : Filter H) :=
  .of_eq fun _ _ h _ => by rw [choose, choose, h.isTruthy_eq]

@[simp] theorem blank_ignoresOrder : IgnoresOrder (blank : Filter H) := by
  intro value other h arguments
  have hpresent := h.isTruthy_eq
  rcases h.shape with rfl | ⟨items, others, rfl, rfl, -⟩ | ⟨entries, others, rfl, rfl, -⟩
  · exact .of_eq .refl rfl
  · simp only [blank, hpresent]
    split
    · exact .ok h
    · exact .ok (.refl _)
  · exact .ok h

@[simp] theorem comparison_ignoresOrder (filter : String) (accept : Ordering → Bool) :
    IgnoresOrder (comparison filter accept : Filter H) := by
  intro value other h _
  rw [comparison, comparison, h.measure_eq]
  exact .bind_same _ fun _ => .ok (passIf_reordered h _)

@[simp] theorem between_ignoresOrder : IgnoresOrder (between : Filter H) := by
  intro value other h _
  rw [between, between, h.measure_eq]
  exact .bind_same _ fun _ => .bind_same _ fun _ => .ok (passIf_reordered h _)

@[simp] theorem round_ignoresOrder : IgnoresOrder (round : Filter H) :=
  .of_eq fun _ _ h _ => by rw [round, round, numberInput_eq h]

@[simp] theorem fix_ignoresOrder : IgnoresOrder (fix : Filter H) :=
  .of_eq fun _ _ h _ => by rw [fix, fix, numberInput_eq h]

@[simp] theorem arithmetic_ignoresOrder (filter : String) (operation : Float → Float → Float) :
    IgnoresOrder (arithmetic filter operation : Filter H) :=
  .of_eq fun _ _ h _ => by rw [arithmetic, arithmetic, numberInput_eq h]

@[simp] theorem divisible_ignoresOrder : IgnoresOrder (divisible : Filter H) := by
  intro value other h _
  rw [divisible, divisible, h.isFalse_eq, numberInput_eq h]
  split
  · exact .ok (.refl _)
  · exact .bind_same _ fun _ => .bind_same _ fun _ => .ok (passIf_reordered h _)

@[simp] theorem parity_ignoresOrder (filter : String) (remainder : Float) :
    IgnoresOrder (parity filter remainder : Filter H) := by
  intro value other h _
  rw [parity, parity, h.isFalse_eq, numberInput_eq h]
  split
  · exact .ok (.refl _)
  · exact .bind_same _ fun _ => .ok (passIf_reordered h _)

@[simp] theorem size_ignoresOrder : IgnoresOrder (size : Filter H) :=
  .of_eq fun _ _ h _ => by rw [size, size, h.length?_eq]

@[simp] theorem reverse_ignoresOrder : IgnoresOrder (reverse : Filter H) := by
  intro value other h _
  rcases h.shape with rfl | ⟨items, others, rfl, rfl, hitems⟩ | ⟨entries, others, rfl, rfl, -⟩
  · exact .of_eq .refl rfl
  · exact .ok (.of_forall₂ (List.rel_reverse hitems))
  · exact .error _

@[simp] theorem limit_ignoresOrder : IgnoresOrder (limit : Filter H) := by
  intro value other h _
  refine (arrayInput_outcome h "limit").bind fun items others hitems => ?_
  refine .bind_same _ fun count => ?_
  dsimp only
  split <;> exact .bind_same _ fun offset => .ok (window_reordered hitems offset count)

@[simp] theorem slice_ignoresOrder : IgnoresOrder (slice : Filter H) := by
  intro value other h _
  refine (arrayInput_outcome h "slice").bind fun items others hitems => ?_
  rw [hitems.length_eq]
  refine .bind_same _ fun start => ?_
  dsimp only
  split <;> exact .bind_same _ fun count => .ok (window_reordered hitems start count)

@[simp] theorem first_ignoresOrder : IgnoresOrder (first : Filter H) := by
  intro value other h _
  rcases h.shape with rfl | ⟨items, others, rfl, rfl, hitems⟩ | ⟨entries, others, rfl, rfl, -⟩
  · exact .of_eq .refl rfl
  · have hitem := getD_reordered hitems 0
    rw [← List.head?_eq_getElem?, ← List.head?_eq_getElem?, ← List.headD_eq_head?_getD,
      ← List.headD_eq_head?_getD] at hitem
    exact .ok hitem
  · exact .error _

@[simp] theorem last_ignoresOrder : IgnoresOrder (last : Filter H) := by
  intro value other h _
  rcases h.shape with rfl | ⟨items, others, rfl, rfl, hitems⟩ | ⟨entries, others, rfl, rfl, -⟩
  · exact .of_eq .refl rfl
  · have hitem := getD_reordered hitems (items.length - 1)
    nth_rewrite 2 [hitems.length_eq] at hitem
    rw [← List.getLast?_eq_getElem?, ← List.getLast?_eq_getElem?, ← List.getLastD_eq_getLast?,
      ← List.getLastD_eq_getLast?] at hitem
    exact .ok hitem
  · exact .error _

/-! ## Texts and members of inputs -/

variable [HostObject H]

theorem sortKey_eq (property : Option String) {value other : Value H} (h : value.Reordered other) :
    sortKey property value = sortKey property other := by
  cases property with
  | none => exact h.measure_eq
  | some name =>
      have hchild := h.child? name
      simp only [sortKey]
      generalize value.child? name = child? at hchild ⊢
      generalize other.child? name = other? at hchild ⊢
      cases hchild with
      | none => rfl
      | some hchild => exact hchild.measure_eq

theorem sortItems_reordered (property : Option String) {items others : List (Value H)}
    (h : List.Forall₂ Reordered items others) :
    List.Forall₂ Reordered (sortItems property items) (sortItems property others) := by
  -- items that belong together are sorted by the same measure
  let rel := fun (item other : Option Measure × Value H) =>
    item.1 = other.1 ∧ item.2.Reordered other.2
  have hkeyed : List.Forall₂ rel (items.map fun item => (sortKey property item, item))
      (others.map fun item => (sortKey property item, item)) :=
    List.rel_map (fun _ _ hitem => ⟨sortKey_eq property hitem, hitem⟩) h
  refine List.rel_map (fun _ _ hitem => hitem.2) (insertionSort_forall₂ ?_ hkeyed)
  intro a b hab c d hcd
  rw [hab.1, hcd.1]

theorem propertyEquals_eq (property expected : String) {value other : Value H}
    (h : value.Reordered other) :
    propertyEquals property expected value = propertyEquals property expected other := by
  have hchild := h.child? property
  simp only [propertyEquals]
  generalize value.child? property = child? at hchild ⊢
  generalize other.child? property = other? at hchild ⊢
  cases hchild with
  | none => rfl
  | some hchild => simp [hchild.display_eq]

theorem isBlankText_eq {value other : Value H} (h : value.Reordered other) :
    isBlankText value = isBlankText other := by
  rw [isBlankText, isBlankText, h.isTruthy_eq, h.display_eq]

theorem equalsText_eq {value other : Value H} (h : value.Reordered other) (s : String) :
    equalsText value s = equalsText other s := by
  have hdisplay := h.display_eq
  rcases h.shape with rfl | ⟨items, others, rfl, rfl, -⟩ | ⟨entries, others, rfl, rfl, -⟩
  · rfl
  · simp only [equalsText, Value.asNumber?, hdisplay]
  · simp only [equalsText, Value.asNumber?, hdisplay]

theorem callMethod_outcome {value other : Value H} (h : value.Reordered other) (method : String)
    (arguments : List String) :
    Outcome Reordered (value.callMethod method arguments) (other.callMethod method arguments) := by
  have hdisplay := h.display_eq
  rcases h.shape with rfl | ⟨items, others, rfl, rfl, hitems⟩ |
    ⟨entries, others, rfl, rfl, hlength, -⟩
  · exact .of_eq .refl rfl
  · have hdisplays := map_eq hitems fun _ _ hitem => hitem.display_eq
    refine .of_eq .refl ?_
    simp only [Value.callMethod, Value.asNumber?, Value.asArray?, Value.length?, hdisplay,
      hdisplays, hitems.length_eq]
  · refine .of_eq .refl ?_
    simp only [Value.callMethod, Value.asNumber?, Value.asArray?, Value.length?, hdisplay, hlength]

/-! ## Filters that look at texts and members -/

@[simp] theorem onText_ignoresOrder (filter : String) (f : Text → Text) :
    IgnoresOrder (onText filter f : Filter H) :=
  .of_eq fun _ _ h _ => by rw [onText, onText, textInput_eq h]

@[simp] theorem chop_ignoresOrder : IgnoresOrder (chop : Filter H) :=
  .of_eq fun _ _ h _ => by rw [chop, chop, textInput_eq h]

@[simp] theorem tease_ignoresOrder : IgnoresOrder (tease : Filter H) :=
  .of_eq fun _ _ h _ => by rw [tease, tease, textInput_eq h]

@[simp] theorem style_ignoresOrder : IgnoresOrder (style : Filter H) :=
  .of_eq fun _ _ h _ => by rw [style, style, textInput_eq h]

@[simp] theorem split_ignoresOrder : IgnoresOrder (split : Filter H) :=
  .of_eq fun _ _ h _ => by rw [split, split, textInput_eq h]

@[simp] theorem repeatText_ignoresOrder : IgnoresOrder (repeatText : Filter H) :=
  .of_eq fun _ _ h _ => by rw [repeatText, repeatText, textInput_eq h]

@[simp] theorem substitute_ignoresOrder : IgnoresOrder (substitute : Filter H) :=
  .of_eq fun _ _ h _ => by rw [substitute, substitute, textInput_eq h]

@[simp] theorem pluralize_ignoresOrder : IgnoresOrder (pluralize : Filter H) :=
  .of_eq fun _ _ h _ => by rw [pluralize, pluralize, textInput_eq h]

@[simp] theorem toggle_ignoresOrder : IgnoresOrder (toggle : Filter H) :=
  .of_eq fun _ _ h _ => by rw [toggle, toggle, h.display_eq]

@[simp] theorem number_ignoresOrder : IgnoresOrder (number : Filter H) := by
  refine .of_eq fun value other h _ => ?_
  have htext := textInput_eq h
  rcases h.shape with rfl | ⟨items, others, rfl, rfl, -⟩ | ⟨entries, others, rfl, rfl, -⟩
  · rfl
  · simp only [number, htext]
  · simp only [number, htext]

@[simp] theorem call_ignoresOrder : IgnoresOrder (call : Filter H) :=
  fun _ _ h _ => .bind_same _ fun _ => callMethod_outcome h _ _

@[simp] theorem empty_ignoresOrder : IgnoresOrder (empty : Filter H) := by
  intro value other h _
  rw [empty, empty, isBlankText_eq h]
  exact .ok (passIf_reordered h _)

@[simp] theorem notempty_ignoresOrder : IgnoresOrder (notempty : Filter H) := by
  intro value other h _
  rw [notempty, notempty, isBlankText_eq h]
  exact .ok (passIf_reordered h _)

@[simp] theorem equality_ignoresOrder (filter : String) (expected : Bool) :
    IgnoresOrder (equality filter expected : Filter H) := by
  intro value other h _
  simp only [equality, equalsText_eq h]
  exact .bind_same _ fun _ => .ok (passIf_reordered h _)

@[simp] theorem matching_ignoresOrder (filter : String) (expected : Bool) :
    IgnoresOrder (matching filter expected : Filter H) := by
  intro value other h _
  rw [matching, matching, textInput_eq h]
  exact .bind_same _ fun _ => .bind_same _ fun _ => .bind_same _ fun _ => .ok (passIf_reordered h _)

@[simp] theorem join_ignoresOrder : IgnoresOrder (join : Filter H) := by
  intro value other h _
  refine (arrayInput_outcome h "join").bind fun items others hitems => ?_
  rw [map_eq hitems fun _ _ hitem => hitem.display_eq]
  exact .ok (.refl _)

@[simp] theorem sort_ignoresOrder : IgnoresOrder (sort : Filter H) := by
  intro value other h _
  refine (arrayInput_outcome h "sort").bind fun items others hitems => ?_
  exact .ok (.of_forall₂ (sortItems_reordered _ hitems))

@[simp] theorem has_ignoresOrder : IgnoresOrder (has : Filter H) := by
  intro value other h _
  refine .bind_same _ fun property => .bind_same _ fun expected => ?_
  refine (arrayInput_outcome h "has").bind fun items others hitems => ?_
  have hany := congrArg (List.any · id)
    (map_eq hitems fun _ _ hitem => propertyEquals_eq property expected hitem)
  simp only [List.any_map, Function.id_comp] at hany
  rw [hany]
  exact .ok (.refl _)

@[simp] theorem sift_ignoresOrder : IgnoresOrder (sift : Filter H) := by
  intro value other h _
  refine .bind_same _ fun property => .bind_same _ fun expected => ?_
  refine (arrayInput_outcome h "sift").bind fun items others hitems => ?_
  have hproperty : ∀ ⦃item other : Value H⦄, item.Reordered other →
      (propertyEquals property expected item ↔ propertyEquals property expected other) :=
    fun _ _ hitem => by rw [propertyEquals_eq property expected hitem]
  exact .ok (.of_forall₂ (List.rel_filter hproperty hitems))

end Filter

theorem Registry.ignoresOrder_of_mem_builtin {H : Type} [HostObject H] :
    ∀ entry ∈ (builtin : Registry H), Filter.IgnoresOrder entry.2 := by
  simp [builtin, Filter.upcase, Filter.downcase, Filter.trim, Filter.pack, Filter.clean,
    Filter.sanitize, Filter.url, Filter.capcase]

end BraceTemplate
