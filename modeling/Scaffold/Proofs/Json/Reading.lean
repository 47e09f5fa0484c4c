import Mathlib.Tactic.SplitIfs
import Scaffold.Json.Reader
import Scaffold.Proofs.Except
import Scaffold.Proofs.Json.Structure

/-! A value that is read from its text has no object with one key twice: a field that comes again
replaces the earlier one. -/
namespace Scaffold.Json

theorem keysDistinct_put {key : String} {value : Json} {fields : List (String × Json)}
    (hf : keysDistinct (.object fields) = true) (hv : value.keysDistinct = true) :
    keysDistinct (.object (Entries.put key value fields)) = true := by
  obtain ⟨hn, hd⟩ := (keysDistinct_object fields).mp hf
  refine (keysDistinct_object _).mpr ⟨Entries.nodup_put key value hn, ?_⟩
  intro field h
  rcases Entries.mem_put h with rfl | h
  · exact hv
  · exact hd field h

/-- What the readers promise with some fuel: values and items have distinct keys, and fields have
distinct keys if those read before them have. -/
private structure ReadsDistinct (fuel : Nat) : Prop where
  value : ∀ {depth cs value rest}, readValue fuel depth cs = .ok (value, rest) →
    value.keysDistinct = true
  items : ∀ {depth cs items rest}, readItems fuel depth cs = .ok (items, rest) →
    ∀ item ∈ items, item.keysDistinct = true
  fields : ∀ {depth fields cs result rest}, keysDistinct (.object fields) = true →
    readFields fuel depth fields cs = .ok (result, rest) → keysDistinct (.object result) = true

private theorem readValue_step {fuel : Nat} (ih : ReadsDistinct fuel) {depth : Nat}
    {cs rest : List Char} {value : Json} (h : readValue (fuel + 1) depth cs = .ok (value, rest)) :
    value.keysDistinct = true := by
  unfold readValue at h
  split at h
  · obtain ⟨rfl, -⟩ := Prod.mk.inj (Except.ok.inj h); rfl
  · obtain ⟨rfl, -⟩ := Prod.mk.inj (Except.ok.inj h); rfl
  · obtain ⟨rfl, -⟩ := Prod.mk.inj (Except.ok.inj h); rfl
  · obtain ⟨⟨text, _⟩, -, hr⟩ := Except.exists_of_bind_eq_ok h
    obtain ⟨rfl, -⟩ := Prod.mk.inj (Except.ok.inj hr)
    rfl
  · split_ifs at h
    split at h
    · obtain ⟨rfl, -⟩ := Prod.mk.inj (Except.ok.inj h); rfl
    · obtain ⟨⟨items, _⟩, hi, hr⟩ := Except.exists_of_bind_eq_ok h
      obtain ⟨rfl, -⟩ := Prod.mk.inj (Except.ok.inj hr)
      exact (keysDistinct_array items).mpr (ih.items hi)
  · split_ifs at h
    split at h
    · obtain ⟨rfl, -⟩ := Prod.mk.inj (Except.ok.inj h); rfl
    · obtain ⟨⟨fields, _⟩, hf, hr⟩ := Except.exists_of_bind_eq_ok h
      obtain ⟨rfl, -⟩ := Prod.mk.inj (Except.ok.inj hr)
      exact ih.fields rfl hf
  · obtain ⟨⟨n, _⟩, -, hr⟩ := Except.exists_of_bind_eq_ok h
    obtain ⟨rfl, -⟩ := Prod.mk.inj (Except.ok.inj hr)
    rfl
  · obtain ⟨⟨n, _⟩, -, hr⟩ := Except.exists_of_bind_eq_ok h
    obtain ⟨rfl, -⟩ := Prod.mk.inj (Except.ok.inj hr)
    rfl

private theorem readItems_step {fuel : Nat} (ih : ReadsDistinct fuel) {depth : Nat}
    {cs rest : List Char} {items : List Json}
    (h : readItems (fuel + 1) depth cs = .ok (items, rest)) :
    ∀ item ∈ items, item.keysDistinct = true := by
  unfold readItems at h
  obtain ⟨⟨first, behind⟩, hv, h⟩ := Except.exists_of_bind_eq_ok h
  dsimp only at h
  split at h
  · obtain ⟨⟨more, _⟩, hm, hr⟩ := Except.exists_of_bind_eq_ok h
    obtain ⟨rfl, -⟩ := Prod.mk.inj (Except.ok.inj hr)
    exact List.forall_mem_cons.mpr ⟨ih.value hv, ih.items hm⟩
  · obtain ⟨rfl, -⟩ := Prod.mk.inj (Except.ok.inj h)
    exact List.forall_mem_singleton.mpr (ih.value hv)
  · cases h

private theorem readFields_step {fuel : Nat} (ih : ReadsDistinct fuel) {depth : Nat}
    {cs rest : List Char} {fields result : List (String × Json)}
    (hf : keysDistinct (.object fields) = true)
    (h : readFields (fuel + 1) depth fields cs = .ok (result, rest)) :
    keysDistinct (.object result) = true := by
  unfold readFields at h
  split at h
  · obtain ⟨⟨key, behind⟩, -, h⟩ := Except.exists_of_bind_eq_ok h
    dsimp only at h
    split at h
    · obtain ⟨⟨value, behind⟩, hv, h⟩ := Except.exists_of_bind_eq_ok h
      have hp : keysDistinct (.object (Entries.put (String.ofList key) value fields)) = true :=
        keysDistinct_put hf (ih.value hv)
      dsimp only at h
      split at h
      · exact ih.fields hp h
      · obtain ⟨rfl, -⟩ := Prod.mk.inj (Except.ok.inj h)
        exact hp
      · cases h
    · cases h
  · cases h

private theorem readsDistinct (fuel : Nat) : ReadsDistinct fuel := by
  induction fuel with
  | zero =>
    constructor
    · intro depth cs value rest h; cases h
    · intro depth cs items rest h; cases h
    · intro depth fields cs result rest hf h; cases h
  | succ fuel ih => exact ⟨readValue_step ih, readItems_step ih, readFields_step ih⟩

/-- No object of a value that a text denotes has one key twice. -/
theorem keysDistinct_of_read {text : String} {value : Json} (h : read text = .ok value) :
    value.keysDistinct = true := by
  obtain ⟨⟨found, rest⟩, hv, h⟩ := Except.exists_of_bind_eq_ok h
  dsimp only at h
  split_ifs at h
  exact Except.ok.inj h ▸ (readsDistinct _).value hv

end Scaffold.Json
