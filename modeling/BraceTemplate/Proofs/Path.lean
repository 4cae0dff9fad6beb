import BraceTemplate.Path
import BraceTemplate.Proofs.Text.Trim

/-!
# Laws of paths

The first segment of a path alone picks the root, from the context if it can,
else from the captured values, else from the globals.  Every further segment is
looked up in what the path before it leads to, and never in another scope.
-/

namespace BraceTemplate.Path

/-! ## Segments -/

def first (path : String) : String := String.ofList (path.toList.takeWhile (· != '.'))

theorem segments_eq_cons (path : String) : ∃ rest, segments path = first path :: rest := by
  have hhead := Text.headD_fields (· == '.') path.toList
  obtain ⟨piece, pieces, hfields⟩ :=
    List.exists_cons_of_ne_nil (Text.fields_ne_nil (· == '.') path.toList)
  rw [hfields, List.headD_cons] at hhead
  refine ⟨pieces.map String.ofList, ?_⟩
  rw [segments, hfields, List.map_cons, hhead]
  rfl

theorem segments_eq_map_splitOn (path : String) :
    segments path = (path.toList.splitOn '.').map String.ofList := by
  rw [segments, Text.fields_eq_splitOnP]
  rfl

theorem segments_append {segment : String} (hdot : '.' ∉ segment.toList) (path : String) :
    segments (path ++ "." ++ segment) = segments path ++ [segment] := by
  have htext : (path ++ "." ++ segment).toList = path.toList ++ '.' :: segment.toList := by simp
  rw [segments_eq_map_splitOn, segments_eq_map_splitOn, htext, List.splitOn_append_cons_self,
    List.splitOn_eq_singleton hdot]
  simp

theorem segments_of_not_mem {path : String} (h : '.' ∉ path.toList) : segments path = [path] := by
  rw [segments_eq_map_splitOn, List.splitOn_eq_singleton h]
  simp

theorem first_append {segment : String} (hdot : '.' ∉ segment.toList) (path : String) :
    first (path ++ "." ++ segment) = first path := by
  obtain ⟨rest, hpath⟩ := segments_eq_cons path
  obtain ⟨more, hlonger⟩ := segments_eq_cons (path ++ "." ++ segment)
  rw [segments_append hdot, hpath, List.cons_append] at hlonger
  exact (List.cons.inj hlonger).1.symm

theorem first_of_not_mem {path : String} (h : '.' ∉ path.toList) : first path = path := by
  obtain ⟨rest, hpath⟩ := segments_eq_cons path
  rw [segments_of_not_mem h] at hpath
  exact (List.cons.inj hpath).1.symm

/-! ## Resolution -/

variable {H : Type} [HostObject H] {captures globals : Dictionary (Value H)} {context : Value H}
  {path : String} {rest : List String}

theorem ne_dot_of_first (h : first path ≠ "") : path ≠ "." := by
  rintro rfl
  exact h (by decide)

theorem resolve?_of_segments (hfirst : first path ≠ "") (h : segments path = first path :: rest) :
    resolve? captures globals path context =
      (root? captures globals context (first path)).bind fun value => descend? value rest := by
  simp [resolve?, ne_dot_of_first hfirst, h, hfirst]

theorem descend?_append (value : Value H) (rest : List String) (segment : String) :
    descend? value (rest ++ [segment]) =
      (descend? value rest).bind fun below => below.child? segment := by
  simp [descend?, List.foldlM_append]

theorem resolve?_append (hfirst : first path ≠ "") {segment : String}
    (hdot : '.' ∉ segment.toList) :
    resolve? captures globals (path ++ "." ++ segment) context =
      (resolve? captures globals path context).bind fun value => value.child? segment := by
  obtain ⟨rest, hpath⟩ := segments_eq_cons path
  have hlonger : segments (path ++ "." ++ segment) =
      first (path ++ "." ++ segment) :: (rest ++ [segment]) := by
    rw [segments_append hdot, first_append hdot, hpath, List.cons_append]
  rw [resolve?_of_segments (by rwa [first_append hdot]) hlonger,
    resolve?_of_segments hfirst hpath, first_append hdot, Option.bind_assoc]
  simp only [descend?_append]

theorem resolve?_congr {others otherGlobals : Dictionary (Value H)} {other : Value H}
    (hfirst : first path ≠ "")
    (hroot : root? others otherGlobals other (first path) =
      root? captures globals context (first path)) :
    resolve? others otherGlobals path other = resolve? captures globals path context := by
  obtain ⟨rest, hpath⟩ := segments_eq_cons path
  rw [resolve?_of_segments hfirst hpath, resolve?_of_segments hfirst hpath, hroot]

/--
A path with one more segment leads to the child of that name of what the path
leads to.  Its first segment picks the root: if the context has such a child, no
other scope matters, and if only the captured values have it, neither the globals
nor the rest of the context do.
-/
theorem resolve?_compositional (captures globals : Dictionary (Value H)) (context : Value H)
    (path : String) :
    (first path ≠ "" →
      (∀ segment, '.' ∉ segment.toList →
        resolve? captures globals (path ++ "." ++ segment) context =
          (resolve? captures globals path context).bind fun value => value.child? segment) ∧
      ('.' ∉ path.toList →
        resolve? captures globals path context =
          ((context.child? path).or (captures.find? path)).or (globals.find? path)) ∧
      ((context.child? (first path)).isSome = true → ∀ others otherGlobals,
        resolve? others otherGlobals path context = resolve? captures globals path context) ∧
      (context.child? (first path) = none → (captures.find? (first path)).isSome = true →
        ∀ otherGlobals other, other.child? (first path) = none →
          resolve? captures otherGlobals path other = resolve? captures globals path context)) ∧
    resolve? captures globals "." context = some context ∧
    (first path = "" → path ≠ "." → resolve? captures globals path context = none) := by
  refine ⟨fun hfirst => ⟨?_, ?_, ?_, ?_⟩, by simp [resolve?], ?_⟩
  · intro segment hdot
    exact resolve?_append hfirst hdot
  · intro hdot
    have hwhole := first_of_not_mem hdot
    have hpath : segments path = [first path] := by rw [hwhole, segments_of_not_mem hdot]
    rw [resolve?_of_segments hfirst hpath, hwhole]
    simp [root?, descend?]
  · intro hlocal others otherGlobals
    obtain ⟨value, hvalue⟩ := Option.isSome_iff_exists.mp hlocal
    exact resolve?_congr hfirst (by simp [root?, hvalue])
  · intro hlocal hcaptured otherGlobals other hother
    obtain ⟨value, hvalue⟩ := Option.isSome_iff_exists.mp hcaptured
    exact resolve?_congr hfirst (by simp [root?, hlocal, hother, hvalue])
  · intro hfirst hdot
    obtain ⟨rest, hpath⟩ := segments_eq_cons path
    simp [resolve?, hdot, hpath, hfirst]

theorem resolve?_compositional_partial :
    let context : Value Empty := .map [("a", .map [("b", .string "x")])]
    let captures : Dictionary (Value Empty) := [("a", .map [("c", .null)]), ("k", .array [.null])]
    let globals : Dictionary (Value Empty) :=
      [("a", .map [("c", .null)]), ("k", .map [("1", .null)]), ("g", .map [("n", .bool true)])]
    resolve? captures globals "a.b" context = some (.string "x") ∧
      (∀ otherGlobals, resolve? captures otherGlobals "k.0" context = some .null) ∧
      resolve? captures globals "g.n" context = some (.bool true) ∧
      (∀ others otherGlobals, resolve? others otherGlobals "a.c" context = none) ∧
      (∀ otherGlobals, resolve? captures otherGlobals "k.1" .null = none) ∧
      resolve? captures globals ".k" context = none := by
  intro context captures globals
  obtain ⟨hlocal, -, -⟩ := resolve?_compositional captures globals context "a"
  obtain ⟨happend, hroot, -, -⟩ := hlocal (by decide)
  have hpresent : resolve? captures globals "a.b" context = some (.string "x") := by
    refine (happend "b" (by decide)).trans ?_
    rw [hroot (by decide)]
    rfl
  have hlonger : resolve? captures globals "a.c" context = none := by
    refine (happend "c" (by decide)).trans ?_
    rw [hroot (by decide)]
    rfl
  obtain ⟨hcapturedRoot, -, -⟩ := resolve?_compositional captures globals context "k"
  obtain ⟨hcapturedAppend, hcapturedName, -, -⟩ := hcapturedRoot (by decide)
  have hitem : resolve? captures globals "k.0" context = some .null := by
    refine (hcapturedAppend "0" (by decide)).trans ?_
    rw [hcapturedName (by decide)]
    rfl
  have hnoItem : resolve? captures globals "k.1" context = none := by
    refine (hcapturedAppend "1" (by decide)).trans ?_
    rw [hcapturedName (by decide)]
    rfl
  obtain ⟨hglobalRoot, -, -⟩ := resolve?_compositional captures globals context "g"
  obtain ⟨hglobalAppend, hglobalName, -, -⟩ := hglobalRoot (by decide)
  have hglobal : resolve? captures globals "g.n" context = some (.bool true) := by
    refine (hglobalAppend "n" (by decide)).trans ?_
    rw [hglobalName (by decide)]
    rfl
  obtain ⟨hpartial, -, -⟩ := resolve?_compositional captures globals context "a.c"
  obtain ⟨-, -, hscopes, -⟩ := hpartial (by decide)
  obtain ⟨hfirst, -, -⟩ := resolve?_compositional captures globals context "k.0"
  obtain ⟨-, -, -, hsameItem⟩ := hfirst (by decide)
  obtain ⟨hsecond, -, -⟩ := resolve?_compositional captures globals context "k.1"
  obtain ⟨-, -, -, hsameNone⟩ := hsecond (by decide)
  obtain ⟨-, -, hempty⟩ := resolve?_compositional captures globals context ".k"
  refine ⟨hpresent, ?_, hglobal, ?_, ?_, hempty (by decide) (by decide)⟩
  · intro otherGlobals
    exact (hsameItem rfl (by decide) otherGlobals context rfl).trans hitem
  · intro others otherGlobals
    exact (hscopes (by decide) others otherGlobals).trans hlonger
  · intro otherGlobals
    exact (hsameNone rfl (by decide) otherGlobals .null rfl).trans hnoItem

end BraceTemplate.Path
