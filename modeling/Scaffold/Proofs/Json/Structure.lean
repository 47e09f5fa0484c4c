import Scaffold.Json.Pointer
import Scaffold.Proofs.Entries

/-! Values as trees: induction on a value through its items and fields, what passes on to all that a
pointer designates, and values in which no object has one key twice. -/
namespace Scaffold.Json

/-- To prove something of all values, prove it of an array from its items, and of an object from
the values of its fields. -/
theorem induction {motive : Json → Prop} (null : motive .null)
    (bool : ∀ value, motive (.bool value)) (number : ∀ value, motive (.number value))
    (string : ∀ value, motive (.string value))
    (array : ∀ items, (∀ item ∈ items, motive item) → motive (.array items))
    (object : ∀ fields : List (String × Json), (∀ field ∈ fields, motive field.2) →
      motive (.object fields)) (value : Json) : motive value :=
  @Json.rec motive (fun items => ∀ item ∈ items, motive item)
    (fun fields => ∀ field ∈ fields, motive field.2) (fun field => motive field.2)
    null bool number string array object nofun
    (fun _ _ hi hr => List.forall_mem_cons.mpr ⟨hi, hr⟩) nofun
    (fun _ _ hf hr => List.forall_mem_cons.mpr ⟨hf, hr⟩) (fun _ _ hv => hv) value

def isScalar : Json → Bool
  | .array _ | .object _ => false
  | _ => true

mutual
/-- No object of the value has one key twice. -/
def keysDistinct : Json → Bool
  | .array items => keysDistinctItems items
  | .object fields => (fields.map Prod.fst).Nodup && keysDistinctFields fields
  | _ => true
termination_by structural value => value

def keysDistinctItems : List Json → Bool
  | [] => true
  | item :: rest => keysDistinct item && keysDistinctItems rest
termination_by structural items => items

def keysDistinctFields : List (String × Json) → Bool
  | [] => true
  | (_, value) :: rest => keysDistinct value && keysDistinctFields rest
termination_by structural fields => fields
end

theorem keysDistinctItems_iff (items : List Json) :
    keysDistinctItems items = true ↔ ∀ item ∈ items, item.keysDistinct = true := by
  induction items with
  | nil => simp [keysDistinctItems]
  | cons item rest ih => simp [keysDistinctItems, ih]

theorem keysDistinctFields_iff (fields : List (String × Json)) :
    keysDistinctFields fields = true ↔ ∀ field ∈ fields, field.2.keysDistinct = true := by
  induction fields with
  | nil => simp [keysDistinctFields]
  | cons field rest ih => simp [keysDistinctFields, ih]

@[simp] theorem keysDistinct_array (items : List Json) :
    keysDistinct (.array items) = true ↔ ∀ item ∈ items, item.keysDistinct = true := by
  rw [keysDistinct, keysDistinctItems_iff]

@[simp] theorem keysDistinct_object (fields : List (String × Json)) :
    keysDistinct (.object fields) = true ↔
      (fields.map Prod.fst).Nodup ∧ ∀ field ∈ fields, field.2.keysDistinct = true := by
  rw [keysDistinct, Bool.and_eq_true, decide_eq_true_iff, keysDistinctFields_iff]

/-- What holds of an array holds of its items and what holds of an object of its fields' values:
such a property passes on to all that a step reaches. -/
theorem step?_induct {motive : Json → Prop}
    (array : ∀ items, motive (.array items) → ∀ item ∈ items, motive item)
    (object : ∀ fields, motive (.object fields) → ∀ field ∈ fields, motive field.2)
    {value found : Json} {key : List Char} (hv : motive value)
    (h : step? value key = some found) : motive found := by
  cases value with
  | array items =>
    obtain ⟨i, -, hi⟩ := Option.bind_eq_some_iff.mp h
    exact array items hv found (List.mem_of_getElem? hi)
  | object fields => exact object fields hv _ (Entries.mem_of_lookup h)
  | null => simp [step?] at h
  | bool b => simp [step?] at h
  | number n => simp [step?] at h
  | string s => simp [step?] at h

private theorem foldlM_step?_induct {motive : Json → Prop}
    (array : ∀ items, motive (.array items) → ∀ item ∈ items, motive item)
    (object : ∀ fields, motive (.object fields) → ∀ field ∈ fields, motive field.2)
    (keys : List (List Char)) {value found : Json} (hv : motive value)
    (h : keys.foldlM step? value = some found) : motive found := by
  induction keys generalizing value with
  | nil => exact Option.some.inj h ▸ hv
  | cons key rest ih =>
    rw [List.foldlM_cons] at h
    obtain ⟨next, hn, hr⟩ := Option.bind_eq_some_iff.mp h
    exact ih (step?_induct array object hv hn) hr

theorem pointer?_induct {motive : Json → Prop}
    (array : ∀ items, motive (.array items) → ∀ item ∈ items, motive item)
    (object : ∀ fields, motive (.object fields) → ∀ field ∈ fields, motive field.2)
    {value found : Json} {pointer : String} (hv : motive value)
    (h : value.pointer? pointer = some found) : motive found := by
  unfold pointer? at h
  split at h
  · exact Option.some.inj h ▸ hv
  · exact foldlM_step?_induct array object _ hv h
  · cases h

theorem keysDistinct_pointer? {value found : Json} {pointer : String}
    (hv : value.keysDistinct = true) (h : value.pointer? pointer = some found) :
    found.keysDistinct = true := by
  refine pointer?_induct (motive := fun v => v.keysDistinct = true) ?_ ?_ hv h
  · intro items hi
    exact (keysDistinct_array items).mp hi
  · intro fields hf
    exact ((keysDistinct_object fields).mp hf).2

theorem eq_object_of_fields? {value : Json} {fields : List (String × Json)}
    (h : value.fields? = some fields) : value = .object fields := by
  cases value with
  | object found => exact congrArg Json.object (Option.some.inj h)
  | _ => cases h

theorem keysDistinct_field? {key : String} {value found : Json} (hv : value.keysDistinct = true)
    (h : value.field? key = some found) : found.keysDistinct = true := by
  obtain ⟨fields, hf, hg⟩ := Option.bind_eq_some_iff.mp h
  rw [eq_object_of_fields? hf, keysDistinct_object] at hv
  exact hv.2 _ (Entries.mem_of_lookup hg)

/-- The value that is reached along some keys. -/
def lookup? : List String → Json → Option Json
  | [], value => some value
  | key :: rest, value => (value.field? key).bind (lookup? rest)

theorem lookup?_singleton (key : String) : lookup? [key] = field? key := by
  funext value
  exact Option.bind_fun_some (value.field? key)

theorem lookup?_cons (key : String) (rest : List String) (value : Json) :
    value.lookup? (key :: rest) = (value.field? key).bind (lookup? rest) := rfl

@[simp] theorem pointer?_empty (value : Json) : value.pointer? "" = some value := rfl

/-- A value is part of another, and the objects around it have fields that meet a condition. -/
inductive Within (through : List (String × Json) → Prop) (inner : Json) : Json → Prop
  | refl : Within through inner inner
  | item {items item} (hm : item ∈ items) (h : Within through inner item) :
      Within through inner (.array items)
  | field {fields field} (ht : through fields) (hm : field ∈ fields)
      (h : Within through inner field.2) : Within through inner (.object fields)

namespace Within

variable {through : List (String × Json) → Prop} {inner middle value found : Json}

theorem trans (h : Within through inner middle) (k : Within through middle value) :
    Within through inner value := by
  induction k with
  | refl => exact h
  | item hm _ ih => exact .item hm ih
  | field ht hm _ ih => exact .field ht hm ih

theorem anywhere (h : Within through inner value) : Within (fun _ => True) inner value := by
  induction h with
  | refl => exact .refl
  | item hm _ ih => exact .item hm ih
  | field _ hm _ ih => exact .field trivial hm ih

theorem of_pointer? {pointer : String} (h : value.pointer? pointer = some found) :
    Within (fun _ => True) found value := by
  refine pointer?_induct (motive := fun v => Within (fun _ => True) v value) ?_ ?_ .refl h
  · intro items hi item hm
    exact (Within.item hm .refl).trans hi
  · intro fields hf field hm
    exact (Within.field trivial hm .refl).trans hf

end Within

end Scaffold.Json
