import Scaffold.Pattern.Match

/-! What patterns spell. A pattern without conditions leads from a place to those behind the texts
of a language: a set spells its characters, a sequence the texts of its parts one behind the other,
and a repeated set the runs of its characters. -/
namespace Scaffold.Pattern

variable {p q r : Place} {set : CharSet} {first second body : Pattern} {run more : List Char}

/-- A place lies behind another one, with a text between them. -/
structure Place.Past (p : Place) (run : List Char) (q : Place) : Prop where
  before : q.before = run.reverse ++ p.before
  after : p.after = run ++ q.after
  groups : q.groups = p.groups

theorem Place.past_nil : p.Past [] q ↔ q = p := by
  constructor
  · rintro ⟨hb, ha, hg⟩
    cases p
    cases q
    simp_all
  · rintro rfl
    exact ⟨rfl, rfl, rfl⟩

theorem Place.past_append : p.Past (run ++ more) q ↔ ∃ r, p.Past run r ∧ r.Past more q := by
  constructor
  · rintro ⟨hb, ha, hg⟩
    refine ⟨⟨run.reverse ++ p.before, more ++ q.after, p.groups⟩, ⟨rfl, ?_, rfl⟩, ⟨?_, rfl, hg⟩⟩
    · rw [ha, List.append_assoc]
    · rw [hb, List.reverse_append, List.append_assoc]
  · rintro ⟨r, ⟨hb, ha, hg⟩, hb', ha', hg'⟩
    refine ⟨?_, ?_, hg'.trans hg⟩
    · rw [hb', hb, List.reverse_append, List.append_assoc]
    · rw [ha, ha', List.append_assoc]

theorem Place.past_cons {c : Char} :
    p.Past (c :: run) q ↔ ∃ r, p.Past [c] r ∧ r.Past run q :=
  @Place.past_append p q [c] run

/-- From every place, the pattern leads to just those behind a text of the language. -/
def Spells (pattern : Pattern) (language : List Char → Prop) : Prop :=
  ∀ p q : Place, q ∈ pattern.follow p ↔ ∃ run, language run ∧ p.Past run q

theorem Spells.of_iff {pattern : Pattern} {l m : List Char → Prop} (h : pattern.Spells l)
    (hlm : ∀ run, l run ↔ m run) : pattern.Spells m := by
  intro p q
  rw [h p q]
  simp only [hlm]

theorem mem_follow_seq :
    q ∈ (seq first second).follow p ↔ ∃ r ∈ first.follow p, q ∈ second.follow r := by
  rw [follow, List.mem_eraseDups, List.mem_flatMap]

theorem mem_follow_anchor {a : Anchor} :
    q ∈ (anchor a).follow p ↔ p.satisfies a = true ∧ q = p := by
  rw [follow]
  split <;> simp_all

theorem Place.step?_eq_some_iff :
    p.step? set = some q ↔ ∃ c, set.holds c = true ∧ p.Past [c] q := by
  obtain ⟨before, after, groups⟩ := p
  cases after with
  | nil =>
    refine iff_of_false (by simp [Place.step?]) ?_
    rintro ⟨c, -, h⟩
    cases h.after
  | cons d rest =>
    simp only [Place.step?, Option.ite_none_right_eq_some, Option.some.injEq]
    constructor
    · rintro ⟨hd, rfl⟩
      exact ⟨d, hd, rfl, rfl, rfl⟩
    · rintro ⟨c, hc, hb, ha, hg⟩
      obtain ⟨rfl, rfl⟩ := List.cons.inj ha
      exact ⟨hc, by cases q; simp_all⟩

theorem spells_one (set : CharSet) : (one set).Spells fun run => ∃ c, set.holds c ∧ run = [c] := by
  intro p q
  rw [follow, Option.mem_toList, Place.step?_eq_some_iff]
  constructor
  · rintro ⟨c, hc, hp⟩
    exact ⟨[c], ⟨c, hc, rfl⟩, hp⟩
  · rintro ⟨_, ⟨c, hc, rfl⟩, hp⟩
    exact ⟨c, hc, hp⟩

theorem spells_seq {l m : List Char → Prop} (h : first.Spells l) (h' : second.Spells m) :
    (seq first second).Spells fun text => ∃ run more, l run ∧ m more ∧ text = run ++ more := by
  intro p q
  rw [mem_follow_seq]
  constructor
  · rintro ⟨r, hr, hq⟩
    obtain ⟨run, hl, hp⟩ := (h p r).mp hr
    obtain ⟨more, hm, hp'⟩ := (h' r q).mp hq
    exact ⟨_, ⟨run, more, hl, hm, rfl⟩, Place.past_append.mpr ⟨r, hp, hp'⟩⟩
  · rintro ⟨_, ⟨run, more, hl, hm, rfl⟩, hp⟩
    obtain ⟨r, hr, hq⟩ := Place.past_append.mp hp
    exact ⟨r, (h p r).mpr ⟨run, hl, hr⟩, (h' r q).mpr ⟨more, hm, hq⟩⟩

/-- A run of characters of a set is empty, or goes on behind a step. -/
theorem Place.exists_run_iff :
    (∃ run, (∀ c ∈ run, set.holds c = true) ∧ p.Past run q) ↔
      q = p ∨ ∃ next, p.step? set = some next ∧
        ∃ run, (∀ c ∈ run, set.holds c = true) ∧ next.Past run q := by
  constructor
  · rintro ⟨run, hrun, hp⟩
    cases run with
    | nil => exact .inl (Place.past_nil.mp hp)
    | cons c run =>
      obtain ⟨hc, hrun⟩ := List.forall_mem_cons.mp hrun
      obtain ⟨next, hnext, hq⟩ := Place.past_cons.mp hp
      exact .inr ⟨next, Place.step?_eq_some_iff.mpr ⟨c, hc, hnext⟩, run, hrun, hq⟩
  · rintro (rfl | ⟨next, hnext, run, hrun, hq⟩)
    · exact ⟨[], List.forall_mem_nil _, Place.past_nil.mpr rfl⟩
    · obtain ⟨c, hc, hp⟩ := Place.step?_eq_some_iff.mp hnext
      exact ⟨c :: run, List.forall_mem_cons.mpr ⟨hc, hrun⟩,
        Place.past_cons.mpr ⟨next, hp, hq⟩⟩

theorem Place.length_after_of_step? (h : p.step? set = some q) :
    q.after.length + 1 = p.after.length := by
  obtain ⟨c, -, hp⟩ := Place.step?_eq_some_iff.mp h
  rw [hp.after, List.length_append, List.length_singleton, Nat.add_comm]

/-- Further repetitions of a set lead behind all runs of its characters. -/
theorem mem_repeatFurther_one {fuel : Nat} {seen : List (Option Nat × Place)}
    (hf : p.after.length < fuel) (hs : ∀ entry ∈ seen, p.after.length < entry.2.after.length) :
    q ∈ (repeatFurther (one set).follow true fuel none p seen).1 ↔
      ∃ run, (∀ c ∈ run, set.holds c = true) ∧ p.Past run q := by
  induction fuel generalizing p seen with
  | zero => omega
  | succ fuel ih =>
    -- Every repetition moves on by a character, so that no place comes up twice.
    have hnew : seen.contains (none, p) = false := by
      have : (none, p) ∉ seen := fun h => absurd (hs _ h) (Nat.lt_irrefl _)
      simpa using this
    rw [repeatFurther, if_neg nofun, hnew, Place.exists_run_iff, follow]
    simp only [Bool.false_eq_true, if_false, if_true, Option.map_none, List.mem_append,
      List.mem_singleton]
    cases hstep : p.step? set with
    | none => simp
    | some next =>
      have hlength := Place.length_after_of_step? hstep
      have hseen : ∀ entry ∈ (none, p) :: seen, next.after.length < entry.2.after.length := by
        refine List.forall_mem_cons.mpr ⟨by dsimp only; omega, fun entry he => ?_⟩
        have := hs entry he
        omega
      simp only [Option.toList_some, List.foldl_cons, List.foldl_nil, List.nil_append,
        if_pos (show next.after.length < p.after.length by omega)]
      rw [ih (by omega) hseen]
      simp [or_comm]

theorem repeatExactly_one (follow : Place → List Place) (p : Place) :
    repeatExactly follow 1 [p] = (follow p).eraseDups := by
  have hflat : [p].flatMap follow = follow p := by simp
  simp only [repeatExactly, hflat]
  split
  · next h => exact h.symm
  · rfl

theorem spells_many_one (set : CharSet) :
    (many (one set)).Spells fun run => run ≠ [] ∧ ∀ c ∈ run, set.holds c = true := by
  intro p q
  have hfollow : q ∈ (many (one set)).follow p ↔ ∃ next, p.step? set = some next ∧
      q ∈ (repeatFurther (one set).follow true (next.after.length + 1) none next []).1 := by
    simp only [many, follow, repeatExactly_one, List.mem_eraseDups, List.mem_flatMap,
      Option.mem_toList, Option.map_none]
  rw [hfollow]
  constructor
  · rintro ⟨next, hnext, hq⟩
    obtain ⟨run, hrun, hp⟩ :=
      (mem_repeatFurther_one (Nat.lt_succ_self _) (List.forall_mem_nil _)).mp hq
    obtain ⟨c, hc, hstep⟩ := Place.step?_eq_some_iff.mp hnext
    exact ⟨c :: run, ⟨List.cons_ne_nil _ _, List.forall_mem_cons.mpr ⟨hc, hrun⟩⟩,
      Place.past_cons.mpr ⟨next, hstep, hp⟩⟩
  · rintro ⟨run, ⟨hne, hrun⟩, hp⟩
    obtain ⟨c, run, rfl⟩ := List.exists_cons_of_ne_nil hne
    obtain ⟨hc, hrun⟩ := List.forall_mem_cons.mp hrun
    obtain ⟨next, hstep, hp⟩ := Place.past_cons.mp hp
    exact ⟨next, Place.step?_eq_some_iff.mpr ⟨c, hc, hstep⟩,
      (mem_repeatFurther_one (Nat.lt_succ_self _) (List.forall_mem_nil _)).mpr ⟨run, hrun, hp⟩⟩

theorem matchesBehind_eq_true_iff {pattern : Pattern} {before text : List Char} :
    pattern.matchesBehind before text = true ↔ ∃ front rest, text = front ++ rest ∧
      ∃ q, q ∈ pattern.follow ⟨front.reverse ++ before, rest, []⟩ := by
  have hhere : ∀ p : Place, (!(pattern.follow p).isEmpty) = true ↔ ∃ q, q ∈ pattern.follow p := by
    intro p
    cases pattern.follow p <;> simp
  induction text generalizing before with
  | nil =>
    rw [matchesBehind, hhere]
    constructor
    · exact fun h => ⟨[], [], rfl, h⟩
    · rintro ⟨front, rest, ht, h⟩
      obtain ⟨rfl, rfl⟩ := List.append_eq_nil_iff.mp ht.symm
      exact h
  | cons c text ih =>
    rw [matchesBehind, Bool.or_eq_true, hhere]
    refine (or_congr_right ih).trans ?_
    constructor
    · rintro (h | ⟨front, rest, rfl, h⟩)
      · exact ⟨[], _, rfl, h⟩
      · refine ⟨c :: front, rest, rfl, ?_⟩
        rwa [List.reverse_cons, List.append_assoc]
    · rintro ⟨front, rest, ht, h⟩
      cases front with
      | nil =>
        obtain rfl : c :: text = rest := ht
        exact .inl h
      | cons d front =>
        obtain ⟨rfl, rfl⟩ := List.cons.inj ht
        refine .inr ⟨front, rest, rfl, ?_⟩
        rwa [List.reverse_cons, List.append_assoc] at h

/-- A pattern that holds on to the start of a text matches nowhere else. -/
theorem matchesText_start {pattern : Pattern} {text : String} :
    (seq (anchor .start) pattern).matchesText text = true ↔
      ∃ q, q ∈ pattern.follow (.start text.toList) := by
  have hstart : ∀ (p q : Place), q ∈ (seq (anchor .start) pattern).follow p ↔
      p.before = [] ∧ q ∈ pattern.follow p := by
    intro p q
    simp only [mem_follow_seq, mem_follow_anchor, Place.satisfies, List.isEmpty_iff]
    constructor
    · rintro ⟨_, ⟨hb, rfl⟩, hq⟩
      exact ⟨hb, hq⟩
    · rintro ⟨hb, hq⟩
      exact ⟨p, ⟨hb, rfl⟩, hq⟩
  rw [matchesText, matchesBehind_eq_true_iff]
  constructor
  · rintro ⟨front, rest, ht, q, hq⟩
    obtain ⟨hb, hq⟩ := (hstart _ _).mp hq
    obtain rfl : front = [] := by simpa using hb
    exact ⟨q, by rwa [ht]⟩
  · rintro ⟨q, hq⟩
    exact ⟨[], text.toList, rfl, q, (hstart _ _).mpr ⟨rfl, hq⟩⟩

theorem Spells.matchesText_start {pattern : Pattern} {language : List Char → Prop} {text : String}
    (h : pattern.Spells language) : (seq (anchor .start) pattern).matchesText text = true ↔
      ∃ run rest, language run ∧ text.toList = run ++ rest := by
  rw [Pattern.matchesText_start]
  constructor
  · rintro ⟨q, hq⟩
    obtain ⟨run, hrun, hp⟩ := (h _ q).mp hq
    exact ⟨run, q.after, hrun, hp.after⟩
  · rintro ⟨run, rest, hrun, ht⟩
    refine ⟨⟨run.reverse, rest, []⟩, (h _ _).mpr ⟨run, hrun, ?_, ht, rfl⟩⟩
    exact (List.append_nil _).symm

theorem Spells.matchesText_whole {pattern : Pattern} {language : List Char → Prop} {text : String}
    (h : pattern.Spells language) :
    (seq (anchor .start) (seq pattern (anchor .finish))).matchesText text = true ↔
      language text.toList := by
  rw [Pattern.matchesText_start]
  simp only [mem_follow_seq, mem_follow_anchor, Place.satisfies, List.isEmpty_iff]
  constructor
  · rintro ⟨_, q, hq, ha, -⟩
    obtain ⟨run, hrun, hp⟩ := (h _ q).mp hq
    have ht : text.toList = run ++ q.after := hp.after
    rwa [ht, ha, List.append_nil]
  · intro ht
    have hend : Place.Past (.start text.toList) text.toList ⟨text.toList.reverse, [], []⟩ :=
      ⟨(List.append_nil _).symm, (List.append_nil _).symm, rfl⟩
    exact ⟨_, _, (h _ _).mpr ⟨_, ht, hend⟩, rfl, rfl⟩

end Scaffold.Pattern
