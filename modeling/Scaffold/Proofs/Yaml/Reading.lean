import Mathlib.Tactic.SplitIfs
import Scaffold.Proofs.Except
import Scaffold.Proofs.Json.Structure
import Scaffold.Yaml.Reader

/-! A value that is read from a text of nodes has no object with one key twice either, whatever the
texts of the keys are. -/
namespace Scaffold.Yaml

private theorem keysDistinct_toJson_scalar (value : ScalarValue) :
    value.toJson.keysDistinct = true := by
  cases value with
  | double bits =>
    change Json.keysDistinct (if _ then _ else _) = true
    split_ifs <;> rfl
  | null => rfl
  | bool b => rfl
  | integer n => rfl
  | text s => rfl

private theorem keysDistinct_underTag {mode : KeyMode} {tag : Option String} {value result : Json}
    (hv : value.keysDistinct = true) (h : underTag mode tag value = .ok result) :
    result.keysDistinct = true := by
  unfold underTag at h
  split at h
  · split at h
    · split at h
      · rw [← Except.ok.inj h, Json.keysDistinct_object]
        exact ⟨by simp, List.forall_mem_singleton.mpr hv⟩
      · cases h
    · exact Except.ok.inj h ▸ hv
  · exact Except.ok.inj h ▸ hv

private theorem keysDistinct_zip {texts : List String} {values : List Json}
    (hv : ∀ value ∈ values, value.keysDistinct = true) :
    Json.keysDistinct (.object (Entries.ofList (texts.zip values))) = true := by
  refine (Json.keysDistinct_object _).mpr ⟨Entries.nodup_ofList _, ?_⟩
  rintro ⟨key, value⟩ h
  exact hv value (List.of_mem_zip (Entries.mem_ofList h)).2

mutual
private theorem keysDistinct_toJson {mode : KeyMode} (data : Data) {value : Json}
    (h : data.toJson mode = .ok value) : value.keysDistinct = true := by
  cases data with
  | scalar tag isPlain text =>
    obtain ⟨scalar, -, h⟩ := Except.exists_of_bind_eq_ok h
    exact keysDistinct_underTag (keysDistinct_toJson_scalar scalar) h
  | sequence tag items =>
    obtain ⟨values, hi, h⟩ := Except.exists_of_bind_eq_ok h
    refine keysDistinct_underTag ?_ h
    exact (Json.keysDistinct_array values).mpr (keysDistinct_itemsToJson items hi)
  | mapping tag entries =>
    obtain ⟨texts, -, h⟩ := Except.exists_of_bind_eq_ok h
    obtain ⟨values, he, h⟩ := Except.exists_of_bind_eq_ok h
    exact keysDistinct_underTag (keysDistinct_zip (keysDistinct_entryValues entries he)) h

private theorem keysDistinct_itemsToJson {mode : KeyMode} (items : List Data) {values : List Json}
    (h : itemsToJson mode items = .ok values) : ∀ value ∈ values, value.keysDistinct = true := by
  cases items with
  | nil => rw [← Except.ok.inj h]; exact List.forall_mem_nil _
  | cons item rest =>
    obtain ⟨value, hv, h⟩ := Except.exists_of_bind_eq_ok h
    obtain ⟨more, hm, h⟩ := Except.exists_of_bind_eq_ok h
    rw [← Except.ok.inj h]
    exact List.forall_mem_cons.mpr ⟨keysDistinct_toJson item hv, keysDistinct_itemsToJson rest hm⟩

private theorem keysDistinct_entryValues {mode : KeyMode} (entries : List (Data × Data))
    {values : List Json} (h : entryValues mode entries = .ok values) :
    ∀ value ∈ values, value.keysDistinct = true := by
  cases entries with
  | nil => rw [← Except.ok.inj h]; exact List.forall_mem_nil _
  | cons entry rest =>
    obtain ⟨key, item⟩ := entry
    obtain ⟨value, hv, h⟩ := Except.exists_of_bind_eq_ok h
    obtain ⟨more, hm, h⟩ := Except.exists_of_bind_eq_ok h
    rw [← Except.ok.inj h]
    exact List.forall_mem_cons.mpr ⟨keysDistinct_toJson item hv, keysDistinct_entryValues rest hm⟩
end

/-- No object of a value that a text denotes has one key twice. -/
theorem keysDistinct_of_read {mode : KeyMode} {text : String} {value : Json}
    (h : read mode text = .ok value) : value.keysDistinct = true := by
  obtain ⟨data, -, h⟩ := Except.exists_of_bind_eq_ok h
  cases data with
  | none => exact Except.ok.inj h ▸ rfl
  | some data => exact keysDistinct_toJson data h

end Scaffold.Yaml
