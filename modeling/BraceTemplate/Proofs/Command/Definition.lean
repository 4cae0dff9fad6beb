import BraceTemplate.Command.Run
import BraceTemplate.Proofs.Command.Arguments
import BraceTemplate.Proofs.Json.Reader
import BraceTemplate.Proofs.Value.Reload

/-!
# Printed maps as definitions

A map is displayed as JSON.  If it is made of texts, integers and constants and is
not nested too deep, it can be passed back as the value of a definition.
-/

namespace BraceTemplate

open Binary64

namespace Value

variable {H : Type}

/--
Made of null, booleans, texts and integers that fit a machine word, nested no deeper
than so many arrays and maps.
-/
inductive Exact : Nat → Value H → Prop
  | null {depth : Nat} : Exact depth null
  | bool {depth : Nat} (b : Bool) : Exact depth (bool b)
  | number {depth : Nat} {x : Float} (hintegral : (ofFloat x).isIntegral = true)
      (hfits : (ofFloat x).truncate.natAbs < 2 ^ 63) : Exact depth (number x)
  | string {depth : Nat} (s : String) : Exact depth (string s)
  | array {depth : Nat} {items : List (Value H)} (hitems : ∀ item ∈ items, Exact depth item) :
      Exact (depth + 1) (array items)
  | map {depth : Nat} {entries : Dictionary (Value H)} (hnames : entries.names.Nodup)
      (hentries : ∀ entry ∈ entries, Exact depth entry.2) : Exact (depth + 1) (map entries)

namespace Exact

variable {depth : Nat} {value : Value H}

theorem plain (h : Exact depth value) : Plain value := by
  induction h with
  | null => exact .null
  | bool b => exact .bool b
  | number hintegral _ => exact .number (isFinite_of_isIntegral hintegral)
  | string s => exact .string s
  | array _ ih => exact .array ih
  | map hnames _ ih => exact .map hnames ih

variable [HostObject H]

theorem toJson (h : Exact depth value) : Json.Exact depth value.toJson := by
  induction h with
  | null => rw [Value.toJson]; exact .null
  | bool b => rw [Value.toJson]; exact .bool b
  | number hintegral hfits =>
      rw [Value.toJson, numberToJson, if_pos (by simpa [hintegral] using hfits)]
      exact .integer (by omega) (by omega)
  | string s => rw [Value.toJson]; exact .string s
  | array _ ih =>
      rw [Value.toJson]
      exact .array (List.forall_mem_map.mpr ih)
  | @map depth entries hnames _ ih =>
      have hdocuments : (Dictionary.names
          (entries.map fun entry => (entry.1, Value.toJson entry.2))).Nodup := by
        rwa [Dictionary.names_map]
      obtain ⟨members, hmembers, horder⟩ := Json.exists_ofMembers_inOrder
        (entries.map fun entry => (entry.1, Value.toJson entry.2))
      obtain ⟨others, hothers, hperm⟩ := Json.exists_ofMembers_perm hdocuments
      obtain rfl := Json.object.inj (hmembers.symm.trans hothers)
      rw [Value.toJson, hmembers]
      refine .object horder fun member hmem => ?_
      obtain ⟨entry, hentry, rfl⟩ := List.mem_map.mp (hperm.mem_iff.mp hmem)
      exact ih entry hentry

end Exact

end Value

namespace Command

variable {H : Type} [HostObject H] [BEq H]

/--
Behind a name and an equals sign a displayed map is a definition of that name, and
its text stands for an equal map.
-/
theorem readGlobal_display {key : String} {entries : Dictionary (Value H)} (hkey : '=' ∉ key.toList)
    (hexact : Value.Exact 127 (.map entries)) :
    readDefinition (key ++ "=" ++ (Value.map entries).display) =
        .ok (key, (Value.map entries).display) ∧
      (readGlobal (Value.map entries).display == Value.map entries) = true := by
  have hread : Json.read? (Value.map entries).display.toList = some (Value.map entries).toJson := by
    rw [Value.display]
    exact hexact.toJson.read?_write
  refine ⟨readDefinition_eq_ok_iff.mpr ⟨hkey, rfl⟩, ?_⟩
  rw [readGlobal, hread]
  exact hexact.plain.reload_beq

theorem readGlobal_display_nested :
    let value : Value Empty := .map [("s", .string "a=\"\\\x01"),
      ("n", .array [.number 9007199254740994, .map [("", .null)]])]
    Value.Exact 127 value ∧ readDefinition ("k=" ++ value.display) = .ok ("k", value.display) ∧
      (readGlobal value.display == value) = true := by
  intro value
  have hnumber : Value.Exact 125 (.number 9007199254740994 : Value Empty) :=
    .number (by rfl) (by decide)
  have hinner : Value.Exact 125 (.map [("", .null)] : Value Empty) :=
    .map (by decide) (List.forall_mem_singleton.mpr .null)
  have hexact : Value.Exact 127 value := by
    refine .map (by decide) (List.forall_mem_cons.mpr ⟨.string _, ?_⟩)
    refine List.forall_mem_singleton.mpr (.array ?_)
    exact List.forall_mem_cons.mpr ⟨hnumber, List.forall_mem_singleton.mpr hinner⟩
  have hkey : '=' ∉ "k".toList := by decide
  obtain ⟨hdefinition, hequal⟩ := readGlobal_display hkey hexact
  exact ⟨hexact, hdefinition, hequal⟩

end Command

end BraceTemplate
