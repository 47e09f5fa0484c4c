import Scaffold.Proofs.Naming.Words
import Scaffold.Proofs.Path.Text
import Scaffold.Proofs.Plan

/-! Paths made of segments. The name of such a path is the capitalized words of its segments, with
`By` before those of a parameter. When all words are plain, capitals show where each word begins, so
that the name of a method tells the verb and the path, and no two operations collide. -/
namespace Scaffold.Naming

open Text OpenApi

variable {cs word : List Char} {words : List (List Char)} {c : Char}

/-- A segment of a path: words with dashes between them, in braces where it is a parameter. -/
@[ext] structure Segment where
  isParameter : Bool
  words : List (List Char)

namespace Segment

def text (s : Segment) : List Char :=
  if s.isParameter then '/' :: '\x7b' :: (['-'].intercalate s.words ++ ['\x7d'])
  else '/' :: ['-'].intercalate s.words

/-- The words that a segment gives to a name. -/
def spoken (s : Segment) : List (List Char) :=
  if s.isParameter then ['b', 'y'] :: s.words else s.words

end Segment

/-- A word between dashes. A line feed in front of it would keep its dash. -/
structure IsWord (word : List Char) : Prop where
  ne_nil : word ≠ []
  plain : ∀ c ∈ word, c ≠ '-' ∧ c ≠ '/' ∧ c ≠ '\x7b' ∧ c ≠ '\x7d'
  head : word.head? ≠ some '\n'

instance (word : List Char) : Decidable (IsWord word) :=
  decidable_of_iff (word ≠ [] ∧
      (word.all fun c => c ≠ '-' ∧ c ≠ '/' ∧ c ≠ '\x7b' ∧ c ≠ '\x7d') ∧ word.head? ≠ some '\n')
    ⟨fun h => ⟨h.1, fun c hc => of_decide_eq_true (List.all_eq_true.mp h.2.1 c hc), h.2.2⟩,
      fun h => ⟨h.ne_nil, List.all_eq_true.mpr fun c hc => decide_eq_true (h.plain c hc), h.head⟩⟩

/-- A text with another one in place of each occurrence of a character. -/
def replaced (c : Char) (new cs : List Char) : List Char :=
  cs.flatMap fun d => if d = c then new else [d]

/-- One pass over a path does what three replacements do, one after the other: none of them brings
in a character that a later one replaces. -/
theorem dashed_eq_replaced (cs : List Char) :
    dashed cs = replaced '/' ['-'] (replaced '\x7d' [] (replaced '\x7b' ['b', 'y', '-'] cs)) := by
  induction cs with
  | nil => rfl
  | cons c cs ih =>
    rw [dashed, ih]
    simp only [replaced, List.flatMap_cons]
    split_ifs with hopen hclose hslash
    · rfl
    · simp [hclose]
    · simp [hslash]
    · simp [hclose, hslash]

theorem dashed_append (xs ys : List Char) : dashed (xs ++ ys) = dashed xs ++ dashed ys := by
  simp only [dashed_eq_replaced, replaced, List.flatMap_append]

theorem dashed_eq_self (h : ∀ c ∈ cs, c ≠ '/' ∧ c ≠ '\x7b' ∧ c ≠ '\x7d') : dashed cs = cs := by
  induction cs with
  | nil => rfl
  | cons c cs ih =>
    obtain ⟨⟨hslash, hopen, hclose⟩, hcs⟩ := List.forall_mem_cons.mp h
    rw [dashed, if_neg hopen, if_neg hclose, if_neg hslash, ih hcs]

theorem dash_intercalate (h : words ≠ []) :
    '-' :: ['-'].intercalate words = words.flatMap ('-' :: ·) := by
  induction words with
  | nil => exact absurd rfl h
  | cons word rest ih =>
    cases rest with
    | nil => simp
    | cons next rest =>
      rw [List.flatMap_cons, ← ih (List.cons_ne_nil _ _)]
      rfl

theorem dashed_intercalate (h : ∀ word ∈ words, IsWord word) :
    dashed (['-'].intercalate words) = ['-'].intercalate words := by
  induction words with
  | nil => rfl
  | cons word rest ih =>
    obtain ⟨hword, hrest⟩ := List.forall_mem_cons.mp h
    have hself : dashed word = word := dashed_eq_self fun c hc => (hword.plain c hc).2
    cases rest with
    | nil => rw [List.intercalate_singleton, hself]
    | cons next rest =>
      change dashed (word ++ '-' :: ['-'].intercalate (next :: rest)) =
        word ++ '-' :: ['-'].intercalate (next :: rest)
      rw [dashed_append, hself]
      exact congrArg (word ++ '-' :: ·) (ih hrest)

theorem Segment.dashed_text {s : Segment} (hn : s.words ≠ []) (h : ∀ word ∈ s.words, IsWord word) :
    dashed s.text = s.spoken.flatMap ('-' :: ·) := by
  unfold text spoken
  cases s.isParameter with
  | true =>
    change '-' :: 'b' :: 'y' :: '-' :: dashed (['-'].intercalate s.words ++ ['\x7d']) = _
    rw [dashed_append, dashed_intercalate h, if_pos rfl, List.flatMap_cons, ← dash_intercalate hn]
    simp [dashed]
  | false =>
    change '-' :: dashed (['-'].intercalate s.words) = _
    rw [dashed_intercalate h]
    exact dash_intercalate hn

theorem camel_flatMap_dash (h : ∀ word ∈ words, IsWord word) :
    camel (words.flatMap ('-' :: ·)) = words.flatMap capital := by
  induction words with
  | nil => rfl
  | cons word rest ih =>
    obtain ⟨hword, hrest⟩ := List.forall_mem_cons.mp h
    obtain ⟨c, cs, rfl⟩ := List.exists_cons_of_ne_nil hword.ne_nil
    have hc : c ≠ '\n' := fun hc => hword.head (by rw [hc]; rfl)
    have hcs : '-' ∉ cs := fun hm => (hword.plain _ (.tail _ hm)).1 rfl
    rw [List.flatMap_cons, List.flatMap_cons, List.cons_append, List.cons_append, camel_dash hc,
      camel_append hcs, ih hrest, capital, List.append_assoc]

theorem isWord_by : IsWord ['b', 'y'] :=
  ⟨by decide, by simp, by decide⟩

theorem Segment.isWord_of_mem_spoken {s : Segment} (h : ∀ word ∈ s.words, IsWord word) :
    ∀ word ∈ s.spoken, IsWord word := by
  unfold spoken
  split
  · exact List.forall_mem_cons.mpr ⟨isWord_by, h⟩
  · exact h

theorem camel_dashed_segments {segments : List Segment} (hn : ∀ s ∈ segments, s.words ≠ [])
    (h : ∀ s ∈ segments, ∀ word ∈ s.words, IsWord word) :
    camel (dashed (segments.flatMap Segment.text)) =
      (segments.flatMap Segment.spoken).flatMap capital := by
  have hdashed : dashed (segments.flatMap Segment.text) =
      (segments.flatMap Segment.spoken).flatMap ('-' :: ·) := by
    induction segments with
    | nil => rfl
    | cons s rest ih =>
      obtain ⟨hfirst, hn⟩ := List.forall_mem_cons.mp hn
      obtain ⟨hwords, h⟩ := List.forall_mem_cons.mp h
      rw [List.flatMap_cons, List.flatMap_cons, dashed_append, List.flatMap_append,
        Segment.dashed_text hfirst hwords, ih hn h]
  rw [hdashed, camel_flatMap_dash]
  intro word hm
  obtain ⟨s, hs, hw⟩ := List.mem_flatMap.mp hm
  exact Segment.isWord_of_mem_spoken (h s hs) word hw

/-- The capitalized words of a segment, with `By` in front of those of a parameter. -/
def Segment.name (s : Segment) : String :=
  (if s.isParameter then "By" else "") ++
    String.join (s.words.map fun word => capitalize (String.ofList word))

theorem Segment.toList_name (s : Segment) : s.name.toList = s.spoken.flatMap capital := by
  have hwords : (String.join (s.words.map fun word => capitalize (String.ofList word))).toList =
      s.words.flatMap capital := by
    simp [capitalize, List.flatMap_map]
  rw [name, String.toList_append, hwords, spoken]
  cases s.isParameter with
  | true =>
    have hby : "By".toList = capital ['b', 'y'] := by decide
    simp only [if_true, List.flatMap_cons, hby]
  | false => rfl

/-- The name of a path of segments is made of the names of its segments. -/
theorem pathName_of_segments {path : String} {segments : List Segment}
    (hpath : path.toList = segments.flatMap Segment.text) (hn : ∀ s ∈ segments, s.words ≠ [])
    (h : ∀ s ∈ segments, ∀ word ∈ s.words, IsWord word) :
    pathName path = capitalize (String.join (segments.map Segment.name)) := by
  have hcamel : camel (dashed path.toList) = (segments.flatMap Segment.spoken).flatMap capital := by
    rw [hpath]
    exact camel_dashed_segments hn h
  have hname : (String.join (segments.map Segment.name)).toList =
      (segments.flatMap Segment.spoken).flatMap capital := by
    rw [List.flatMap_assoc, String.toList_join, List.flatMap_map]
    simp only [Segment.toList_name]
  rw [pathName_eq, pathWord, hcamel, capitalize, hname]

/-- Characters with several capitals, and a line feed inside of a word. -/
def gardenSegments : List Segment :=
  [⟨false, ["ßa".toList, "b\nc".toList]⟩, ⟨true, ["ŉame".toList, "ﬁeld".toList]⟩]

theorem pathName_gardenSegments :
    "/ßa-b\nc/\x7bŉame-ﬁeld\x7d".toList = gardenSegments.flatMap Segment.text ∧
    (∀ s ∈ gardenSegments, s.words ≠ []) ∧ (∀ s ∈ gardenSegments, ∀ word ∈ s.words, IsWord word) ∧
    pathName "/ßa-b\nc/\x7bŉame-ﬁeld\x7d" = "SSaB\ncByʼNameFIeld" := by
  have hpath : "/ßa-b\nc/\x7bŉame-ﬁeld\x7d".toList = gardenSegments.flatMap Segment.text := by
    decide +kernel
  have hn : ∀ s ∈ gardenSegments, s.words ≠ [] := by decide +kernel
  have hw : ∀ s ∈ gardenSegments, ∀ word ∈ s.words, IsWord word := by decide +kernel
  refine ⟨hpath, hn, hw, (pathName_of_segments hpath hn hw).trans ?_⟩
  decide +kernel

/-- A lowercase letter, with lowercase letters, digits and underscores behind it. -/
def IsPlainWord (word : List Char) : Prop :=
  ∃ first rest, word = first :: rest ∧ first.isLower = true ∧
    ∀ c ∈ rest, c.isLower = true ∨ c.isDigit = true ∨ c = '_'

theorem not_isUpper (h : c.isLower = true ∨ c.isDigit = true ∨ c = '_') : c.isUpper = false := by
  cases hc : c.isUpper with
  | false => rfl
  | true =>
    have hascii : c.val < 0x80 := UInt32.lt_of_le_of_lt (of_decide_eq_true hc).2 (by decide)
    have hnone := forall_ascii (P := fun c => c.isUpper = true →
      ¬(c.isLower = true ∨ c.isDigit = true ∨ c = '_')) (by decide +kernel) hascii hc
    exact absurd h hnone

theorem upperChar_of_isLower (h : c.isLower = true) :
    upperChar c = [c.toUpper] ∧ c.toUpper.isUpper = true ∧ c.toUpper.toLower = c := by
  obtain ⟨-, hle⟩ := Bool.and_eq_true_iff.mp h
  have hascii : c.val < 0x80 := UInt32.lt_of_le_of_lt (of_decide_eq_true hle) (by decide)
  exact forall_ascii (P := fun c => c.isLower = true →
    upperChar c = [c.toUpper] ∧ c.toUpper.isUpper = true ∧ c.toUpper.toLower = c)
    (by decide +kernel) hascii h

theorem upperChar_of_isUpper (h : c.isUpper = true) : upperChar c = [c] := by
  have hascii : c.val < 0x80 := UInt32.lt_of_le_of_lt (of_decide_eq_true h).2 (by decide)
  exact forall_ascii (P := fun c => c.isUpper = true → upperChar c = [c]) (by decide +kernel)
    hascii h

theorem IsPlainWord.isWord (h : IsPlainWord word) : IsWord word := by
  obtain ⟨first, rest, rfl, hfirst, hrest⟩ := h
  have hall : ∀ c ∈ first :: rest, c.isLower = true ∨ c.isDigit = true ∨ c = '_' :=
    List.forall_mem_cons.mpr ⟨.inl hfirst, hrest⟩
  refine ⟨List.cons_ne_nil _ _, fun c hc => ?_, ?_⟩
  · refine ⟨?_, ?_, ?_, ?_⟩ <;> rintro rfl <;> exact absurd (hall _ hc) (by decide)
  · rintro hhead
    obtain rfl := Option.some.inj hhead
    exact absurd hfirst (by decide)

/-- The text is empty or starts with a capital letter. -/
def StartsUpper (cs : List Char) : Prop := ∀ c ∈ cs.head?, c.isUpper = true

theorem capital_eq_self (h : StartsUpper cs) : capital cs = cs := by
  cases cs with
  | nil => rfl
  | cons c cs => rw [capital, upperChar_of_isUpper (h c rfl), List.singleton_append]

/-- What stands before the first capital letter and what stands behind it are fixed by the whole. -/
theorem append_upper_inj {a b p q : List Char} (ha : ∀ c ∈ a, c.isUpper = false)
    (hb : ∀ c ∈ b, c.isUpper = false) (hp : StartsUpper p) (hq : StartsUpper q)
    (h : a ++ p = b ++ q) : a = b ∧ p = q := by
  have hfront {a p : List Char} (ha : ∀ c ∈ a, c.isUpper = false) (hp : StartsUpper p) :
      (a ++ p).takeWhile (!·.isUpper) = a := by
    have hnone : p.takeWhile (!·.isUpper) = [] := by
      cases p with
      | nil => rfl
      | cons c p => simp [hp c rfl]
    rw [List.takeWhile_append_of_pos (by simpa using ha), hnone, List.append_nil]
  have hab : a = b := by rw [← hfront ha hp, h, hfront hb hq]
  subst hab
  exact ⟨rfl, List.append_cancel_left h⟩

theorem startsUpper_flatMap_capital (h : ∀ word ∈ words, IsPlainWord word) :
    StartsUpper (words.flatMap capital) := by
  cases words with
  | nil => nofun
  | cons word rest =>
    obtain ⟨⟨first, others, rfl, hfirst, -⟩, -⟩ := List.forall_mem_cons.mp h
    obtain ⟨hupper, hisUpper, -⟩ := upperChar_of_isLower hfirst
    rw [List.flatMap_cons, capital, hupper]
    exact fun c hc => Option.some.inj hc ▸ hisUpper

theorem flatMap_capital_inj {words' : List (List Char)} (h : ∀ word ∈ words, IsPlainWord word)
    (h' : ∀ word ∈ words', IsPlainWord word)
    (heq : words.flatMap capital = words'.flatMap capital) : words = words' := by
  induction words generalizing words' with
  | nil =>
    cases words' with
    | nil => rfl
    | cons word rest =>
      obtain ⟨⟨first, others, rfl, hfirst, -⟩, -⟩ := List.forall_mem_cons.mp h'
      simp [capital, (upperChar_of_isLower hfirst).1] at heq
  | cons word rest ih =>
    obtain ⟨⟨first, others, rfl, hfirst, hothers⟩, hrest⟩ := List.forall_mem_cons.mp h
    obtain ⟨hupper, -, hlower⟩ := upperChar_of_isLower hfirst
    cases words' with
    | nil => simp [capital, hupper] at heq
    | cons word' rest' =>
      obtain ⟨⟨first', others', rfl, hfirst', hothers'⟩, hrest'⟩ := List.forall_mem_cons.mp h'
      obtain ⟨hupper', -, hlower'⟩ := upperChar_of_isLower hfirst'
      simp only [List.flatMap_cons, capital, hupper, hupper', List.cons_append,
        List.nil_append, List.cons.injEq] at heq
      obtain ⟨hcapital, htail⟩ := heq
      obtain rfl : first = first' := by rw [← hlower, hcapital, hlower']
      obtain ⟨rfl, hwords⟩ := append_upper_inj (fun c hc => not_isUpper (hothers c hc))
        (fun c hc => not_isUpper (hothers' c hc)) (startsUpper_flatMap_capital hrest)
        (startsUpper_flatMap_capital hrest') htail
      rw [ih hrest hrest' hwords]

/-- A segment of one plain word, which is not `by` unless it stands for a parameter. -/
def Segment.IsPlain (s : Segment) : Prop :=
  ∃ word, s.words = [word] ∧ IsPlainWord word ∧ (s.isParameter = false → word ≠ ['b', 'y'])

/-- A path of one or more plain segments. -/
def IsPlainPath (path : String) : Prop :=
  ∃ segments : List Segment, segments ≠ [] ∧ (∀ s ∈ segments, s.IsPlain) ∧
    path.toList = segments.flatMap Segment.text

theorem isPlainWord_by : IsPlainWord ['b', 'y'] := ⟨'b', ['y'], rfl, by decide, by simp⟩

theorem Segment.IsPlain.isPlainWord {s : Segment} (h : s.IsPlain) :
    ∀ word ∈ s.spoken, IsPlainWord word := by
  obtain ⟨word, hwords, hword, -⟩ := h
  unfold spoken
  rw [hwords]
  split
  · exact List.forall_mem_cons.mpr ⟨isPlainWord_by, List.forall_mem_singleton.mpr hword⟩
  · exact List.forall_mem_singleton.mpr hword

theorem flatMap_spoken_inj {segments segments' : List Segment} (h : ∀ s ∈ segments, s.IsPlain)
    (h' : ∀ s ∈ segments', s.IsPlain)
    (heq : segments.flatMap Segment.spoken = segments'.flatMap Segment.spoken) :
    segments = segments' := by
  induction segments generalizing segments' with
  | nil =>
    cases segments' with
    | nil => rfl
    | cons s rest =>
      obtain ⟨⟨word, hwords, -⟩, -⟩ := List.forall_mem_cons.mp h'
      cases hp : s.isParameter <;> simp [Segment.spoken, hp, hwords] at heq
  | cons s rest ih =>
    obtain ⟨⟨word, hwords, -, hby⟩, hrest⟩ := List.forall_mem_cons.mp h
    cases segments' with
    | nil => cases hp : s.isParameter <;> simp [Segment.spoken, hp, hwords] at heq
    | cons s' rest' =>
      obtain ⟨⟨word', hwords', -, hby'⟩, hrest'⟩ := List.forall_mem_cons.mp h'
      cases hp : s.isParameter <;> cases hp' : s'.isParameter <;>
        simp only [List.flatMap_cons, Segment.spoken, hp, hp', hwords, hwords', List.cons_append,
          List.nil_append, List.cons.injEq, if_true, Bool.false_eq_true, if_false] at heq
      -- Two segments of one kind have one word; of two kinds, the other one would have to be `by`.
      case false.false =>
        obtain ⟨rfl, htail⟩ := heq
        rw [ih hrest hrest' htail, Segment.ext (hp.trans hp'.symm) (hwords.trans hwords'.symm)]
      case false.true => exact absurd heq.1 (hby hp)
      case true.false => exact absurd heq.1.symm (hby' hp')
      case true.true =>
        obtain ⟨-, rfl, htail⟩ := heq
        rw [ih hrest hrest' htail, Segment.ext (hp.trans hp'.symm) (hwords.trans hwords'.symm)]

theorem isPlainWord_of_mem_spoken {segments : List Segment} (h : ∀ s ∈ segments, s.IsPlain) :
    ∀ word ∈ segments.flatMap Segment.spoken, IsPlainWord word := by
  intro word hm
  obtain ⟨s, hs, hw⟩ := List.mem_flatMap.mp hm
  exact (h s hs).isPlainWord word hw

theorem pathWord_of_isPlain {segments : List Segment} (h : ∀ s ∈ segments, s.IsPlain) :
    pathWord (segments.flatMap Segment.text) =
      (segments.flatMap Segment.spoken).flatMap capital := by
  have hn : ∀ s ∈ segments, s.words ≠ [] := fun s hs => by
    obtain ⟨word, hwords, -⟩ := h s hs
    simp [hwords]
  have hw : ∀ s ∈ segments, ∀ word ∈ s.words, IsWord word := fun s hs => by
    obtain ⟨word, hwords, hword, -⟩ := h s hs
    rw [hwords]
    exact List.forall_mem_singleton.mpr hword.isWord
  rw [pathWord, camel_dashed_segments hn hw,
    capital_eq_self (startsUpper_flatMap_capital (isPlainWord_of_mem_spoken h))]

/-- A method name ends its verb where the first capital letter stands. -/
theorem method_inj {path path' : String} {v w : Verb} (h : IsPlainPath path)
    (h' : IsPlainPath path')
    (heq : (OperationNames.derive path v.key).method = (OperationNames.derive path' w.key).method) :
    path = path' ∧ v = w := by
  obtain ⟨segments, -, hplain, hpath⟩ := h
  obtain ⟨segments', -, hplain', hpath'⟩ := h'
  have hwords := isPlainWord_of_mem_spoken hplain
  have hwords' := isPlainWord_of_mem_spoken hplain'
  have hverb (v : Verb) : ∀ c ∈ v.key.toList, c.isUpper = false := fun c hc => by
    have hall : v.key.toList.all (!·.isUpper) = true := by cases v <;> decide
    simpa using List.all_eq_true.mp hall c hc
  have hchars := congrArg String.toList heq
  simp only [OperationNames.derive, String.toList_append, pathName_eq, String.toList_ofList, hpath,
    hpath', pathWord_of_isPlain hplain, pathWord_of_isPlain hplain'] at hchars
  obtain ⟨hkey, hname⟩ := append_upper_inj (hverb v) (hverb w) (startsUpper_flatMap_capital hwords)
    (startsUpper_flatMap_capital hwords') hchars
  obtain rfl := flatMap_spoken_inj hplain hplain' (flatMap_capital_inj hwords hwords' hname)
  have hverbs : v = w := Verb.key_inj.mp (String.toList_inj.mp hkey)
  exact ⟨String.toList_inj.mp (hpath.trans hpath'.symm), hverbs⟩

/-- Operations on plain paths have different names, so that they can always be planned. -/
theorem build_of_plainPaths :
    (∀ spec : Specification, spec.document.keysDistinct = true →
      (∀ entry ∈ spec.paths, IsPlainPath entry.1) → ∃ plan, Plan.build spec = .ok plan) ∧
    ∀ (path path' : String) (v w : Verb), IsPlainPath path → IsPlainPath path' →
      (OperationNames.derive path v.key).method = (OperationNames.derive path' w.key).method →
        path = path' ∧ v = w := by
  refine ⟨fun spec hk hpaths => ?_, fun path path' v w h h' => method_inj h h'⟩
  have hdistinct : ((Plan.declared spec).map Plan.methodName).Nodup := by
    refine List.pairwise_map.mpr ((Plan.declared_pairwise hk).imp_of_mem ?_)
    intro a b ha hb hne heq
    obtain ⟨_, hpath, -⟩ := Plan.mem_declared.mp ha
    obtain ⟨_, hpath', -⟩ := Plan.mem_declared.mp hb
    exact hne (method_inj (hpaths _ hpath) (hpaths _ hpath') heq)
  obtain ⟨plan, hb, -⟩ := Plan.build_of_nodup hdistinct
  exact ⟨plan, hb⟩

/-- A document in which one word stands in braces and without, and a parameter is called `by`. -/
def roomsSpecification : Specification where
  service := "rooms"
  source := ⟨"rooms.json"⟩
  document := .object [("paths", .object
    [("/rooms", .object [("get", .object []), ("put", .object [])]),
      ("/\x7brooms\x7d", .object [("get", .object [])]),
      ("/rooms/\x7bby\x7d", .object [("get", .object [])])])]

theorem build_roomsSpecification :
    (∀ entry ∈ roomsSpecification.paths, IsPlainPath entry.1) ∧
    (∃ plan, Plan.build roomsSpecification = .ok plan) ∧
    (OperationNames.derive "/rooms" "get").method ≠
      (OperationNames.derive "/\x7brooms\x7d" "get").method := by
  have hword : IsPlainWord "rooms".toList := ⟨_, _, rfl, by decide, by simp; decide⟩
  have hliteral : (⟨false, ["rooms".toList]⟩ : Segment).IsPlain := ⟨_, rfl, hword, by decide⟩
  have hparameter : (⟨true, ["rooms".toList]⟩ : Segment).IsPlain := ⟨_, rfl, hword, nofun⟩
  have hby : (⟨true, ["by".toList]⟩ : Segment).IsPlain := ⟨_, rfl, isPlainWord_by, nofun⟩
  have hrooms : IsPlainPath "/rooms" :=
    ⟨[_], by simp, List.forall_mem_singleton.mpr hliteral, by decide⟩
  have hbraced : IsPlainPath "/\x7brooms\x7d" :=
    ⟨[_], by simp, List.forall_mem_singleton.mpr hparameter, by decide⟩
  have hlonger : IsPlainPath "/rooms/\x7bby\x7d" :=
    ⟨[_, _], by simp, List.forall_mem_cons.mpr ⟨hliteral, List.forall_mem_singleton.mpr hby⟩,
      by decide⟩
  have hpaths : ∀ entry ∈ roomsSpecification.paths, IsPlainPath entry.1 :=
    List.forall_mem_cons.mpr ⟨hrooms, List.forall_mem_cons.mpr ⟨hbraced,
      List.forall_mem_singleton.mpr hlonger⟩⟩
  obtain ⟨hbuild, hmethods⟩ := build_of_plainPaths
  refine ⟨hpaths, hbuild _ (by decide +kernel) hpaths, fun heq => ?_⟩
  have hsame := (hmethods _ _ .get .get hrooms hbraced heq).1
  exact absurd hsame (by decide)

end Scaffold.Naming
