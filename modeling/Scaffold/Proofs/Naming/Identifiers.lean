import Scaffold.OpenApi.Verb
import Scaffold.Proofs.Config.Acceptance
import Scaffold.Proofs.Naming.Words

/-! When names are identifiers. Of the characters that paths and service names are made of, all but
the dash may stand in one, so it depends on the dashes that camel case leaves behind. -/
namespace Scaffold.Naming

open Text OpenApi

variable {cs : List Char} {c d : Char} {name front back path service : String}

/-- A letter, a digit or an underscore. -/
def IsNameChar (c : Char) : Prop := c.isAlphanum = true ∨ c = '_'

/-- Letters, digits and underscores, of which the first is no digit. -/
def IsIdentifier (name : String) : Prop :=
  name.toList.head?.any (fun first => first.isAlpha || first = '_') = true ∧
    ∀ c ∈ name.toList, IsNameChar c

/-- A character of a plain path: one of a name, a dash, a slash or a brace. -/
def IsPathChar (c : Char) : Prop := IsNameChar c ∨ c ∈ ['-', '/', '\x7b', '\x7d']

instance : DecidablePred IsNameChar := fun _ => inferInstanceAs (Decidable (_ ∨ _))

instance : DecidablePred IsPathChar := fun _ => inferInstanceAs (Decidable (_ ∨ _))

instance : DecidablePred IsIdentifier := fun _ =>
  @instDecidableAnd _ _ inferInstance (List.decidableBAll _ _)

instance : DecidablePred IsKebab := fun _ => inferInstanceAs (Decidable (_ ∧ _))

theorem IsNameChar.ascii (h : IsNameChar c) : c.val < 0x80 := by
  rcases h with h | rfl
  · simp only [Char.isAlphanum, Config.isAlpha_iff, Char.isDigit, Bool.or_eq_true,
      Bool.and_eq_true, decide_eq_true_eq] at h
    rcases h with (⟨-, h⟩ | ⟨-, h⟩) | ⟨-, h⟩ <;> exact UInt32.lt_of_le_of_lt h (by decide)
  · decide

/-- The uppercase form of a character of a name is one, and no digit unless it was one. -/
theorem IsNameChar.upper (h : IsNameChar c) : ∀ d ∈ upperChar c,
    IsNameChar d ∧ (c.isDigit = false → d.isDigit = false) := by
  have hforms : IsNameChar c →
      IsNameChar c.toUpper ∧ (c.isDigit = false → c.toUpper.isDigit = false) :=
    forall_ascii (P := fun c => IsNameChar c →
      IsNameChar c.toUpper ∧ (c.isDigit = false → c.toUpper.isDigit = false)) (by decide +kernel)
      h.ascii
  rw [upperChar_of_ascii h.ascii]
  exact List.forall_mem_singleton.mpr (hforms h)

/-- The characters that names and the words between dashes are made of. -/
def IsWordChar (c : Char) : Prop := IsNameChar c ∨ c = '-'

instance : DecidablePred IsWordChar := fun _ => inferInstanceAs (Decidable (_ ∨ _))

theorem IsWordChar.upper (h : IsWordChar c) : ∀ d ∈ upperChar c,
    IsWordChar d ∧ (c.isDigit = false → d.isDigit = false) := by
  intro d hd
  rcases h with h | rfl
  · exact (h.upper d hd).imp_left .inl
  · obtain rfl : d = '-' := List.mem_singleton.mp hd
    exact ⟨.inr rfl, id⟩

theorem isWordChar_of_mem_dashed (h : ∀ c ∈ cs, IsPathChar c) : ∀ d ∈ dashed cs, IsWordChar d := by
  induction cs with
  | nil => exact List.forall_mem_nil _
  | cons c cs ih =>
    obtain ⟨hc, hcs⟩ := List.forall_mem_cons.mp h
    have hrest := ih hcs
    unfold dashed
    split
    · exact List.forall_mem_cons.mpr ⟨.inl (by decide),
        List.forall_mem_cons.mpr ⟨.inl (by decide), List.forall_mem_cons.mpr ⟨.inr rfl, hrest⟩⟩⟩
    · split
      · exact hrest
      · split
        · exact List.forall_mem_cons.mpr ⟨.inr rfl, hrest⟩
        · refine List.forall_mem_cons.mpr ⟨?_, hrest⟩
          rcases hc with hc | hc
          · exact .inl hc
          · simp_all [IsWordChar]

/-- A text of words that does not start with a digit is an identifier when it has no dash. -/
theorem isIdentifier_iff_dash_not_mem {first : Char} (hfirst : name.toList.head? = some first)
    (hdigit : first.isDigit = false) (h : ∀ c ∈ name.toList, IsWordChar c) :
    IsIdentifier name ↔ '-' ∉ name.toList := by
  constructor
  · rintro ⟨-, hall⟩ hm
    exact absurd (hall _ hm) (by decide)
  · intro hm
    have hall : ∀ c ∈ name.toList, IsNameChar c := fun c hc =>
      (h c hc).resolve_right fun he => hm (he ▸ hc)
    have hn := hall first (List.mem_of_mem_head? hfirst)
    refine ⟨?_, hall⟩
    simpa [hfirst, IsNameChar, Char.isAlphanum, hdigit] using hn

theorem not_isDigit_of_letter (h : c.isAlpha = true ∨ c = '_') : c.isDigit = false := by
  have hname : IsNameChar c := h.imp_left fun halpha => by simp [Char.isAlphanum, halpha]
  exact forall_ascii (P := fun c => c.isAlpha = true ∨ c = '_' → c.isDigit = false)
    (by decide +kernel) hname.ascii h

/-- The name of a path between an identifier and other characters of a name. -/
theorem isIdentifier_pathName_iff (hpath : ∀ c ∈ path.toList, IsPathChar c)
    (hfront : IsIdentifier front) (hback : ∀ c ∈ back.toList, IsNameChar c) :
    IsIdentifier (front ++ pathName path ++ back) ↔ IsKebab (normalizePath path).toList := by
  have hwords := isWordChar_of_mem_dashed hpath
  have hname : ∀ c ∈ pathWord path.toList, IsWordChar c := by
    have hupper : ∀ c, IsWordChar c → ∀ d ∈ upperChar c, IsWordChar d := fun c hc d hd =>
      (hc.upper d hd).1
    exact forall_mem_capital hupper (forall_mem_camel hupper hwords)
  have hchars : (front ++ pathName path ++ back).toList =
      front.toList ++ pathWord path.toList ++ back.toList := by
    simp [pathName_eq]
  have hbreak : '\n' ∉ dashed path.toList := fun hm => absurd (hwords _ hm) (by decide)
  have hdash : '-' ∉ (front ++ pathName path ++ back).toList ↔ '-' ∉ pathWord path.toList := by
    have hf : '-' ∉ front.toList := fun hm => absurd (hfront.2 _ hm) (by decide)
    have hb : '-' ∉ back.toList := fun hm => absurd (hback _ hm) (by decide)
    simp [hchars, hf, hb]
  have hall : ∀ c ∈ (front ++ pathName path ++ back).toList, IsWordChar c := by
    rw [hchars]
    exact List.forall_mem_append.mpr ⟨List.forall_mem_append.mpr
      ⟨fun c hc => .inl (hfront.2 c hc), hname⟩, fun c hc => .inl (hback c hc)⟩
  obtain ⟨first, hfirst, hletter⟩ := (Option.any_eq_true _ _).mp hfront.1
  have hhead : (front ++ pathName path ++ back).toList.head? = some first := by
    rw [hchars, List.append_assoc]
    exact List.head?_append.trans (by rw [hfirst]; rfl)
  have hdigit := not_isDigit_of_letter (by simpa using hletter)
  rw [isIdentifier_iff_dash_not_mem hhead hdigit hall, hdash, pathWord,
    mem_capital_iff (by decide), dash_not_mem_camel_iff hbreak, normalizePath, String.toList_ofList]

/-- A character of a word that may also stand first. -/
def IsServiceChar (c : Char) : Prop := IsWordChar c ∧ c.isDigit = false

theorem IsServiceChar.of_letter (h : c.isAlpha = true ∨ c = '_') : IsServiceChar c :=
  ⟨.inl (h.imp_left fun halpha => by simp [Char.isAlphanum, halpha]), not_isDigit_of_letter h⟩

theorem IsServiceChar.upper (h : IsServiceChar c) : ∀ d ∈ upperChar c, IsServiceChar d :=
  fun d hd => (h.1.upper d hd).imp_right fun hdigit => hdigit h.2

/-- The class of a service begins with the first letter of the service, if camel case leaves any. -/
theorem isIdentifier_controllerClass_iff (h : Config.IsServiceName service) :
    IsIdentifier (controllerClass service) ↔ IsKebab service.toList := by
  obtain ⟨-, h⟩ := h
  have hservice : ∀ c ∈ service.toList, IsServiceChar c := by
    intro c hc
    rcases or_assoc.mpr (h c hc) with hletter | rfl
    · exact .of_letter hletter
    · exact ⟨.inr rfl, by decide⟩
  have hupper : ∀ c, IsServiceChar c → ∀ d ∈ upperChar c, IsServiceChar d := fun _ hc => hc.upper
  have hname := forall_mem_capital hupper (forall_mem_camel hupper hservice)
  have hback : ∀ c ∈ "Controller".toList, IsServiceChar c := fun c hc =>
    .of_letter (.inl (List.all_eq_true.mp (by decide : "Controller".toList.all Char.isAlpha) c hc))
  have hchars : (controllerClass service).toList =
      capital (camel service.toList) ++ "Controller".toList := by
    simp [controllerClass, capitalize, camelize]
  have hall : ∀ c ∈ (controllerClass service).toList, IsServiceChar c :=
    hchars ▸ List.forall_mem_append.mpr ⟨hname, hback⟩
  have hbreak : '\n' ∉ service.toList := fun hm => absurd (hservice _ hm).1 (by decide)
  obtain ⟨first, rest, heq⟩ : ∃ first rest, (controllerClass service).toList = first :: rest :=
    List.exists_cons_of_ne_nil (by simp [hchars])
  rw [isIdentifier_iff_dash_not_mem (by rw [heq]; rfl) (hall first (by simp [heq])).2
    fun c hc => (hall c hc).1, hchars, List.mem_append, not_or,
    and_iff_left (by decide), mem_capital_iff (by decide), dash_not_mem_camel_iff hbreak]

/-- The names of an operation are identifiers just where the path, put in words, has a word behind
every dash; and so is the class of a service. -/
theorem isIdentifier_iff_isKebab :
    (∀ path : String, (∀ c ∈ path.toList, IsPathChar c) → ∀ verb : Verb,
      (IsIdentifier (OperationNames.derive path verb.key).method ↔
        IsKebab (normalizePath path).toList) ∧
      (IsIdentifier (OperationNames.derive path verb.key).responseType ↔
        IsKebab (normalizePath path).toList) ∧
      (IsIdentifier (OperationNames.derive path verb.key).validation ↔
        IsKebab (normalizePath path).toList)) ∧
    ∀ service : String, Config.Constraints.serviceName.accepts (.string service) = true →
      (IsIdentifier (controllerClass service) ↔ IsKebab service.toList) := by
  refine ⟨fun path hpath verb => ?_, fun service hservice =>
    isIdentifier_controllerClass_iff (Config.accepts_serviceName.mp hservice)⟩
  have hverb : IsIdentifier verb.key := by
    cases verb <;> decide
  have hcapital : IsIdentifier (capitalize verb.key) := by
    cases verb <;> decide
  have hvalidate : IsIdentifier ("validate" ++ capitalize verb.key) := by
    cases verb <;> decide
  have hresponse : IsIdentifier "ResponseBody" := by decide
  have hbody : IsIdentifier "Body" := by decide
  have hmethod : IsIdentifier (verb.key ++ pathName path ++ "") ↔
      IsKebab (normalizePath path).toList :=
    isIdentifier_pathName_iff hpath hverb (List.forall_mem_nil _)
  rw [String.append_empty] at hmethod
  exact ⟨hmethod, isIdentifier_pathName_iff hpath hcapital hresponse.2,
    isIdentifier_pathName_iff hpath hvalidate hbody.2⟩

/-- A path with a parameter has good names; an empty parameter, or an empty word in a service,
leaves a dash. -/
theorem isIdentifier_emptyParameter :
    IsIdentifier (OperationNames.derive "/todo_lists/\x7bid\x7d" "put").validation ∧
    ¬IsIdentifier (OperationNames.derive "/\x7b\x7d/1" "get").method ∧
    IsIdentifier (controllerClass "-todo-lists") ∧
    ¬IsIdentifier (controllerClass "todo---lists") := by
  obtain ⟨hpaths, hservices⟩ := isIdentifier_iff_isKebab
  have hchars : ∀ path : String, path.toList.all (fun c => decide (IsPathChar c)) = true →
      ∀ c ∈ path.toList, IsPathChar c := fun path h c hc =>
    of_decide_eq_true (List.all_eq_true.mp h c hc)
  have hgood := hpaths "/todo_lists/\x7bid\x7d" (hchars _ (by decide)) .put
  have hbad := hpaths "/\x7b\x7d/1" (hchars _ (by decide)) .get
  refine ⟨hgood.2.2.mpr ?_, fun h => ?_, (hservices "-todo-lists" (by decide +kernel)).mpr ?_,
    fun h => ?_⟩
  · decide
  · exact absurd (hbad.1.mp h) (by decide)
  · decide
  · exact absurd ((hservices _ (by decide +kernel)).mp h) (by decide)

end Scaffold.Naming
