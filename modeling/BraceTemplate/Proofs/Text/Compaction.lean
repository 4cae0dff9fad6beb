import BraceTemplate.Proofs.Text.Trim
import BraceTemplate.Text.Spacing

/-!
# Laws of compaction

A gap is a run of blanks right behind `>` and right before `<`.  Compaction
drops the characters in gaps, keeps all others in their order and leaves no gap.
-/

namespace BraceTemplate.Text

/-! ## Gaps -/

/-- The character at `place` is in a run of blanks right behind `>` and right before `<`. -/
def InGap (t : Text) (place : Nat) : Prop :=
  ∃ before gap after, t = before ++ '>' :: (gap ++ '<' :: after) ∧ AllBlank gap ∧
    before.length < place ∧ place ≤ before.length + gap.length

def NoGap (t : Text) : Prop :=
  ∀ before gap after, t = before ++ '>' :: (gap ++ '<' :: after) → AllBlank gap → gap = []

theorem noGap_nil : NoGap [] := by
  intro before gap after ht
  simp at ht

def gapLength (t : Text) : Nat :=
  if t.trimStart.head? = some '<' then (t.takeWhile isBlank).length else 0

theorem gapLength_append {blanks t : Text} (hblanks : AllBlank blanks)
    (ht : ∀ c, t.head? = some c → isBlank c = false) :
    gapLength (blanks ++ t) = if t.head? = some '<' then blanks.length else 0 := by
  have hself : t.takeWhile isBlank = [] ∧ t.trimStart = t := by
    cases t with
    | nil => exact ⟨rfl, rfl⟩
    | cons c t => simp [trimStart, ht c rfl]
  rw [gapLength, trimStart_append hblanks, List.takeWhile_append_of_pos hblanks, hself.1, hself.2,
    List.append_nil]

theorem gapLength_gap {gap : Text} (hgap : AllBlank gap) (after : Text) :
    gapLength (gap ++ '<' :: after) = gap.length := by
  rw [gapLength_append hgap (by simp [isBlank])]
  rfl

theorem lt_gapLength_iff {t : Text} {place : Nat} :
    place < gapLength t ↔
      ∃ gap after, t = gap ++ '<' :: after ∧ AllBlank gap ∧ place < gap.length := by
  constructor
  · intro h
    unfold gapLength at h
    split at h
    · rename_i hsign
      obtain ⟨after, hafter⟩ := List.head?_eq_some_iff.mp hsign
      refine ⟨t.takeWhile isBlank, after, ?_, fun c hc => List.mem_takeWhile_imp hc, h⟩
      rw [← hafter, trimStart, List.takeWhile_append_dropWhile]
    · omega
  · rintro ⟨gap, after, rfl, hgap, hplace⟩
    rwa [gapLength_gap hgap]

theorem not_inGap_zero (t : Text) : ¬ InGap t 0 := by
  rintro ⟨before, gap, after, -, -, hplace, -⟩
  omega

theorem inGap_cons_succ {c : Char} {t : Text} {place : Nat} :
    InGap (c :: t) (place + 1) ↔ InGap t place ∨ (c = '>' ∧ place < gapLength t) := by
  rw [lt_gapLength_iff]
  constructor
  · rintro ⟨before, gap, after, ht, hgap, hlow, hhigh⟩
    cases before with
    | nil =>
        obtain ⟨rfl, rfl⟩ := List.cons.inj ht
        simp only [List.length_nil] at hhigh
        exact .inr ⟨rfl, gap, after, rfl, hgap, by omega⟩
    | cons d before =>
        obtain ⟨rfl, rfl⟩ := List.cons.inj ht
        simp only [List.length_cons] at hlow hhigh
        exact .inl ⟨before, gap, after, rfl, hgap, by omega, by omega⟩
  · rintro (⟨before, gap, after, rfl, hgap, hlow, hhigh⟩ | ⟨rfl, gap, after, rfl, hgap, hplace⟩)
    · exact ⟨c :: before, gap, after, rfl, hgap, by simp; omega, by simp; omega⟩
    · exact ⟨[], gap, after, rfl, hgap, by simp, by simp; omega⟩

instance decidableInGap : (t : Text) → (place : Nat) → Decidable (InGap t place)
  | [], _ => isFalse (by rintro ⟨before, gap, after, ht, -⟩; simp at ht)
  | _ :: _, 0 => isFalse (not_inGap_zero _)
  | c :: t, place + 1 =>
      have := decidableInGap t place
      decidable_of_iff (InGap t place ∨ (c = '>' ∧ place < gapLength t)) inGap_cons_succ.symm

theorem not_inGap_of_lt_gapLength {t : Text} {place : Nat} (h : place < gapLength t) :
    ¬ InGap t place := by
  obtain ⟨gap, after, rfl, hgap, hplace⟩ := lt_gapLength_iff.mp h
  rintro ⟨before, other, rest, ht, -, hlow, -⟩
  have hsign : (gap ++ '<' :: after)[before.length]? = some '>' := by
    rw [ht]
    simp
  rw [List.getElem?_append_left (by omega)] at hsign
  exact absurd (hgap '>' (List.mem_of_getElem? hsign)) (by decide)

theorem noGap_iff {t : Text} : NoGap t ↔ ∀ place, ¬ InGap t place := by
  constructor
  · rintro h place ⟨before, gap, after, ht, hgap, hlow, hhigh⟩
    obtain rfl := h before gap after ht hgap
    simp only [List.length_nil] at hhigh
    omega
  · intro h before gap after ht hgap
    cases gap with
    | nil => rfl
    | cons c gap =>
        exact absurd ⟨before, c :: gap, after, ht, hgap, by omega, by simp⟩ (h (before.length + 1))

theorem noGap_cons_iff {c : Char} {t : Text} :
    NoGap (c :: t) ↔ NoGap t ∧ (c = '>' → gapLength t = 0) := by
  simp only [noGap_iff]
  constructor
  · intro h
    refine ⟨fun place hplace => h (place + 1) (inGap_cons_succ.mpr (.inl hplace)), ?_⟩
    rintro rfl
    by_contra hpos
    exact h 1 (inGap_cons_succ.mpr (.inr ⟨rfl, by omega⟩))
  · rintro ⟨ht, hsign⟩ (_ | place) hplace
    · exact not_inGap_zero _ hplace
    · rcases inGap_cons_succ.mp hplace with hlater | ⟨rfl, hlt⟩
      · exact ht place hlater
      · have := hsign rfl
        omega

/-! ## One character at a time -/

theorem compactStep_eq (c : Char) (t : Text) :
    compactStep c t = c :: if c = '>' then t.drop (gapLength t) else t := by
  unfold compactStep
  by_cases hsign : c = '>'
  · rw [if_pos hsign, if_pos (by simpa using hsign), gapLength, trimStart]
    have hsplit := List.takeWhile_append_dropWhile (p := isBlank) (l := t)
    split
    · rename_i tail hdrop
      have hgap : (t.takeWhile isBlank ++ t.dropWhile isBlank).drop
          (t.takeWhile isBlank).length = t.dropWhile isBlank := List.drop_left
      rw [hsplit] at hgap
      rw [hdrop, List.head?_cons, if_pos rfl, hgap, hdrop]
    · rename_i hother
      rw [if_neg, List.drop_zero]
      intro hhead
      obtain ⟨tail, htail⟩ := List.head?_eq_some_iff.mp hhead
      exact hother tail htail
  · rw [if_neg hsign, if_neg (by simpa using hsign)]

theorem compact_cons (c : Char) (t : Text) :
    compact (c :: t) =
      c :: if c = '>' then (compact t).drop (gapLength (compact t)) else compact t :=
  compactStep_eq c (compact t)

theorem compact_append_of_allBlank {blanks : Text} (h : AllBlank blanks) (t : Text) :
    compact (blanks ++ t) = blanks ++ compact t := by
  induction blanks with
  | nil => rfl
  | cons c blanks ih =>
      obtain ⟨hc, hblanks⟩ := List.forall_mem_cons.mp h
      have hsign : c ≠ '>' := by
        rintro rfl
        exact absurd hc (by decide)
      rw [List.cons_append, compact_cons, if_neg hsign, ih hblanks, List.cons_append]

theorem head?_compact (t : Text) : (compact t).head? = t.head? := by
  cases t with
  | nil => rfl
  | cons c t => simp [compact_cons]

theorem gapLength_compact (t : Text) : gapLength (compact t) = gapLength t := by
  have hblanks : AllBlank (t.takeWhile isBlank) := fun c hc => List.mem_takeWhile_imp hc
  have hsplit : t.takeWhile isBlank ++ t.trimStart = t := List.takeWhile_append_dropWhile
  have hstart : ∀ c, t.trimStart.head? = some c → isBlank c = false := by
    intro c hc
    have hfirst := List.head?_dropWhile_not isBlank t
    rw [← trimStart, hc] at hfirst
    exact hfirst
  conv_lhs => rw [← hsplit, compact_append_of_allBlank hblanks,
    gapLength_append hblanks (by rwa [head?_compact]), head?_compact]
  rfl

/-! ## Places -/

def dropPlaces (dropped : Nat → Prop) [DecidablePred dropped] (t : Text) : Text :=
  (t.zipIdx.filter fun entry => ¬ dropped entry.2).map Prod.fst

section Places

variable (dropped : Nat → Prop) [DecidablePred dropped]

theorem dropPlaces_cons (c : Char) (t : Text) :
    dropPlaces dropped (c :: t) =
      if dropped 0 then dropPlaces (fun place => dropped (place + 1)) t
      else c :: dropPlaces (fun place => dropped (place + 1)) t := by
  have hlater : ((t.zipIdx 1).filter fun entry => ¬ dropped entry.2).map Prod.fst =
      dropPlaces (fun place => dropped (place + 1)) t := by
    rw [← Nat.zero_add 1, List.zipIdx_succ, List.filter_map, List.map_map]
    rfl
  rw [dropPlaces, List.zipIdx_cons, List.filter_cons]
  split <;> simp_all

theorem dropPlaces_congr {other : Nat → Prop} [DecidablePred other]
    (h : ∀ place, dropped place ↔ other place) (t : Text) :
    dropPlaces dropped t = dropPlaces other t := by
  simp only [dropPlaces, h]

theorem dropPlaces_eq_self (h : ∀ place, ¬ dropped place) (t : Text) :
    dropPlaces dropped t = t := by
  simp [dropPlaces, h]

theorem dropPlaces_or_lt {length : Nat} (h : ∀ place < length, ¬ dropped place) (t : Text) :
    dropPlaces (fun place => dropped place ∨ place < length) t =
      (dropPlaces dropped t).drop length := by
  induction length generalizing dropped t with
  | zero => simp
  | succ length ih =>
      cases t with
      | nil => rfl
      | cons c t =>
          have hlater := ih (fun place => dropped (place + 1)) (fun place hplace =>
            h (place + 1) (by omega)) t
          rw [dropPlaces_cons, dropPlaces_cons, if_pos (.inr (by omega)), if_neg (h 0 (by omega)),
            List.drop_succ_cons, ← hlater]
          exact dropPlaces_congr _ (by simp) t

end Places

theorem compact_eq_dropPlaces (t : Text) : compact t = dropPlaces (InGap t) t := by
  induction t with
  | nil => rfl
  | cons c t ih =>
      rw [compact_cons, dropPlaces_cons, if_neg (not_inGap_zero _), gapLength_compact, ih]
      congr 1
      split
      · rename_i hsign
        rw [← dropPlaces_or_lt _ fun place => not_inGap_of_lt_gapLength]
        exact dropPlaces_congr _ (fun place => by simp [inGap_cons_succ, hsign]) t
      · rename_i hsign
        exact dropPlaces_congr _ (fun place => by simp [inGap_cons_succ, hsign]) t

/-! ## What is left -/

theorem NoGap.drop {t : Text} (h : NoGap t) (length : Nat) : NoGap (t.drop length) := by
  intro before gap after ht hgap
  refine h (t.take length ++ before) gap after ?_ hgap
  rw [List.append_assoc, ← ht, List.take_append_drop]

theorem gapLength_drop (t : Text) : gapLength (t.drop (gapLength t)) = 0 := by
  rcases Nat.eq_zero_or_pos (gapLength t) with hzero | hpos
  · rw [hzero, List.drop_zero, hzero]
  · obtain ⟨gap, after, rfl, hgap, -⟩ := lt_gapLength_iff.mp hpos
    rw [gapLength_gap hgap, List.drop_left]
    exact gapLength_gap (by decide : AllBlank []) after

theorem noGap_compact (t : Text) : NoGap (compact t) := by
  induction t with
  | nil => exact noGap_nil
  | cons c t ih =>
      rw [compact_cons, noGap_cons_iff]
      split
      · exact ⟨ih.drop _, fun _ => gapLength_drop (compact t)⟩
      · rename_i hsign
        exact ⟨ih, fun h => absurd h hsign⟩

theorem compact_of_noGap {t : Text} (h : NoGap t) : compact t = t := by
  rw [compact_eq_dropPlaces, dropPlaces_eq_self _ (noGap_iff.mp h)]

theorem compact_compact (t : Text) : compact (compact t) = compact t :=
  compact_of_noGap (noGap_compact t)

end BraceTemplate.Text
