import Mathlib.Logic.Relation
import Scaffold.Proofs.Output.Inventory

/-! The sources of a project, looked through one directory after the other. Directories wait on a
stack, and the entries of each come in whichever order they are listed in. Every such scan ends, and
it ends with the files that `existingFiles` tells. -/
namespace Scaffold.Output

open FileTree Relation

variable {t : FileTree} {d root : Path} {place : Location} {name : String}
  {children listed : List (String × Entry)} {files waiting : List Path}

/-- The directories that wait to be looked through, the next one first, and the files found so
far. -/
structure Scan where
  waiting : List Path
  found : List Path

namespace Scan

/-- An entry of a directory is come to: a directory waits from now on, a file is found. -/
def look (d : Path) (s : Scan) : String × Entry → Scan
  | (name, .directory) => { s with waiting := d.join ⟨name⟩ :: s.waiting }
  | (name, .file _) => { s with found := s.found ++ [d.join ⟨name⟩] }

/-- A scan has come to an end: nothing waits any more, or the next directory cannot be listed. -/
def EndsAs (t : FileTree) (s : Scan) : Except ScanError (List Path) → Prop
  | .ok files => s.waiting = [] ∧ s.found.mergeSort (fun p q => !q.before p) = files
  | .error e => ∃ waiting, s.waiting = e.path :: waiting ∧ t.list e.path = .error e.cause ∧
      e.cause ≠ .notFound

end Scan

/-- One turn of a scan. A directory that is missing is passed over, any other one is listed. -/
inductive Turn (t : FileTree) : Scan → Scan → Prop
  | missing {d : Path} {waiting found : List Path} (h : t.list d = .error .notFound) :
      Turn t ⟨d :: waiting, found⟩ ⟨waiting, found⟩
  | listed {d : Path} {waiting found : List Path} {children listed : List (String × Entry)}
      (h : t.list d = .ok children) (hp : listed.Perm children) :
      Turn t ⟨d :: waiting, found⟩ (listed.foldl (Scan.look d) ⟨waiting, found⟩)

/-- How many directories there can still be, one in the other, where a path leads. -/
def rank (t : FileTree) (d : Path) : Nat :=
  match t.resolve d with
  | .ok l => t.entries.length - l.length
  | .error _ => 0

theorem rank_of_resolve {l : Location} (h : t.resolve d = .ok l) :
    rank t d = t.entries.length - l.length := by
  rw [rank, h]

theorem rank_le (t : FileTree) (d : Path) : rank t d ≤ t.entries.length := by
  unfold rank
  split <;> omega

theorem rank_join_lt (ht : t.WellFormed) (hl : t.list d = .ok children)
    (hm : (name, .directory) ∈ children) : rank t (d.join ⟨name⟩) < rank t d := by
  obtain ⟨l, hres, hdir, rfl⟩ : ∃ l, t.resolve d = .ok l ∧ t.isDirectoryAt l ∧
      t.childrenAt l = children := by
    unfold FileTree.list at hl
    split at hl
    · cases hl
    · next l hres =>
      split at hl
      · next hdir => exact ⟨l, hres, hdir, Except.ok.inj hl⟩
      · cases hl
  have hentry := mem_childrenAt.mp hm
  have hname := ht.names _ (List.mem_map_of_mem hentry) name List.mem_cons_self
  have hsome : (t.find? (name :: l)).isSome := by
    rw [ht.find?_of_mem hentry]
    rfl
  have hlength : l.length + 1 ≤ t.entries.length := length_le_entries ht hsome
  have hrank := rank_of_resolve hres
  cases hjoin : t.resolve (d.join ⟨name⟩) with
  | error e =>
    have hzero : rank t (d.join ⟨name⟩) = 0 := by rw [rank, hjoin]
    omega
  | ok m =>
    have hstep := resolve_join (place?_of_resolve hres) hdir hname.no_slash
      (checkText_of_resolve hjoin)
    rw [step_of_isName hname hdir hsome] at hstep
    have hbelow := rank_of_resolve hstep
    rw [List.length_cons] at hbelow
    omega

/-- A scan that ends without some directory ends with it, as those in it are of a smaller rank. -/
theorem acc_turn_cons (ht : t.WellFormed) (d : Path)
    (hw : ∀ found, Acc (fun s' s => Turn t s s') ⟨waiting, found⟩) (found : List Path) :
    Acc (fun s' s => Turn t s s') ⟨d :: waiting, found⟩ := by
  induction hn : rank t d using Nat.strongRecOn generalizing d waiting found with
  | ind n ih =>
    refine Acc.intro _ fun s' hturn => ?_
    cases hturn with
    | missing => exact hw found
    | @listed _ _ _ children listed h hp =>
      have hrank : ∀ child ∈ listed, child.2 = .directory → rank t (d.join ⟨child.1⟩) < n := by
        rintro ⟨name, entry⟩ hm rfl
        exact hn ▸ rank_join_lt ht h (hp.mem_iff.mp hm)
      clear h hp
      -- Each directory in it is put on a stack that ends without it already.
      induction listed generalizing waiting found with
      | nil => exact hw found
      | cons child rest ihrest =>
        obtain ⟨hchild, hrest⟩ := List.forall_mem_cons.mp hrank
        obtain ⟨name, entry⟩ := child
        cases entry with
        | file content => exact ihrest hw _ hrest
        | directory => exact ihrest (fun found => ih _ (hchild rfl) _ hw found rfl) _ hrest

theorem wellFounded_turn (ht : t.WellFormed) : WellFounded fun s' s => Turn t s s' := by
  refine ⟨?_⟩
  rintro ⟨waiting, found⟩
  induction waiting generalizing found with
  | nil => exact Acc.intro _ nofun
  | cons d waiting ih => exact acc_turn_cons ht d ih found

theorem filesAmong_congr {below below' : Path → Except ScanError (List Path)}
    (h : ∀ name, (name, .directory) ∈ children → below (d.join ⟨name⟩) = below' (d.join ⟨name⟩)) :
    filesAmong below d children = filesAmong below' d children := by
  induction children with
  | nil => rfl
  | cons child rest ih =>
    obtain ⟨name, entry⟩ := child
    have hrest := ih fun other hm => h other (List.mem_cons_of_mem _ hm)
    rw [filesAmong_cons, filesAmong_cons, hrest]
    cases entry with
    | file content => rfl
    | directory => rw [h name List.mem_cons_self]

theorem filesBelow_of_error {cause : FileError} (h : t.list d = .error cause) (depth : Nat) :
    filesBelow t (depth + 1) d = if cause = .notFound then .ok [] else .error ⟨d, cause⟩ := by
  rw [filesBelow, h]
  cases cause <;> rfl

/-- It makes no difference how deep it is looked, beyond the rank. -/
theorem filesBelow_of_rank_lt {depth depth' : Nat} (ht : t.WellFormed) (h : rank t d < depth)
    (h' : rank t d < depth') : filesBelow t depth d = filesBelow t depth' d := by
  induction depth generalizing d depth' with
  | zero => omega
  | succ depth ih =>
    cases depth' with
    | zero => omega
    | succ depth' =>
      cases hl : t.list d with
      | error cause => rw [filesBelow_of_error hl, filesBelow_of_error hl]
      | ok children =>
        rw [filesBelow, filesBelow, hl]
        apply filesAmong_congr
        intro name hm
        have hlt := rank_join_lt ht hl hm
        exact ih (by omega) (by omega)

/-- The files below a directory, however deep they lie. -/
def allBelow (t : FileTree) : Path → Except ScanError (List Path) :=
  filesBelow t (t.entries.length + 1)

theorem allBelow_of_list (ht : t.WellFormed) (h : t.list d = .ok children) :
    allBelow t d = filesAmong (allBelow t) d children := by
  rw [allBelow, filesBelow, h]
  apply filesAmong_congr
  intro name hm
  have hlt := rank_join_lt ht h hm
  have hle := rank_le t d
  exact filesBelow_of_rank_lt ht (by omega) (by omega)

theorem allBelow_of_missing (h : t.list d = .error .notFound) : allBelow t d = .ok [] := by
  rw [allBelow, filesBelow_of_error h, if_pos rfl]

theorem allBelow_of_error {cause : FileError} (h : t.list d = .error cause)
    (hc : cause ≠ .notFound) : allBelow t d = .error ⟨d, cause⟩ := by
  rw [allBelow, filesBelow_of_error h, if_neg hc]

/-- What lies below a directory, if that can be told. -/
def reached (t : FileTree) (d : Path) : List Path :=
  match allBelow t d with
  | .ok files => files
  | .error _ => []

def reachedBy (t : FileTree) (d : Path) : String × Entry → List Path
  | (name, .directory) => reached t (d.join ⟨name⟩)
  | (name, .file _) => [d.join ⟨name⟩]

theorem reached_of_ok (h : allBelow t d = .ok files) : reached t d = files := by
  rw [reached, h]

theorem filesAmong_eq_ok_iff : filesAmong (allBelow t) d children = .ok files ↔
    (∀ name, (name, .directory) ∈ children → ∃ here, allBelow t (d.join ⟨name⟩) = .ok here) ∧
      children.flatMap (reachedBy t d) = files := by
  constructor
  · intro h
    refine ⟨fun name hm => exists_of_filesAmong_eq_ok h hm, ?_⟩
    induction children generalizing files with
    | nil => exact Except.ok.inj h
    | cons child rest ih =>
      obtain ⟨name, entry⟩ := child
      rw [filesAmong_cons] at h
      obtain ⟨here, hhere, h⟩ := Except.exists_of_bind_eq_ok h
      obtain ⟨others, hothers, h⟩ := Except.exists_of_bind_eq_ok h
      rw [List.flatMap_cons, ih hothers, ← Except.ok.inj h]
      cases entry with
      | file content => rw [← Except.ok.inj hhere, reachedBy]
      | directory => rw [reachedBy, reached_of_ok hhere]
  · rintro ⟨hall, rfl⟩
    induction children with
    | nil => rfl
    | cons child rest ih =>
      obtain ⟨name, entry⟩ := child
      rw [filesAmong_cons, ih fun other hm => hall other (List.mem_cons_of_mem _ hm),
        List.flatMap_cons]
      cases entry with
      | file content => rfl
      | directory =>
        obtain ⟨here, hhere⟩ := hall name List.mem_cons_self
        rw [reachedBy, reached_of_ok hhere, hhere]
        rfl

namespace Scan

def Clear (t : FileTree) (s : Scan) : Prop := ∀ d ∈ s.waiting, ∃ files, allBelow t d = .ok files

/-- The files that are found, and those that lie below what waits. -/
def total (t : FileTree) (s : Scan) : List Path := s.found ++ s.waiting.flatMap (reached t)

/-- A scan goes on without a change to what it comes to. -/
structure Keeps (t : FileTree) (s s' : Scan) : Prop where
  clear_iff : s'.Clear t ↔ s.Clear t
  perm : s.Clear t → (s'.total t).Perm (s.total t)

theorem clear_cons (d : Path) (waiting found : List Path) : Clear t ⟨d :: waiting, found⟩ ↔
    (∃ here, allBelow t d = .ok here) ∧ Clear t ⟨waiting, found⟩ :=
  List.forall_mem_cons

theorem clear_foldl_look (s : Scan) : (listed.foldl (look d) s).Clear t ↔
    (∀ name, (name, .directory) ∈ listed → ∃ here, allBelow t (d.join ⟨name⟩) = .ok here) ∧
      s.Clear t := by
  induction listed generalizing s with
  | nil => simp
  | cons child rest ih =>
    obtain ⟨name, entry⟩ := child
    rw [List.foldl_cons, ih]
    cases entry with
    | file content => simp [look, Clear]
    | directory =>
      rw [look, clear_cons]
      constructor
      · rintro ⟨hrest, hname, hs⟩
        refine ⟨fun other hm => ?_, hs⟩
        rcases List.mem_cons.mp hm with heq | hm
        · obtain ⟨rfl, -⟩ := Prod.mk.inj heq
          exact hname
        · exact hrest other hm
      · rintro ⟨hall, hs⟩
        exact ⟨fun other hm => hall other (List.mem_cons_of_mem _ hm),
          hall name List.mem_cons_self, hs⟩

theorem total_foldl_look (s : Scan) : ((listed.foldl (look d) s).total t).Perm
    (listed.flatMap (reachedBy t d) ++ s.total t) := by
  induction listed generalizing s with
  | nil => exact List.Perm.refl _
  | cons child rest ih =>
    obtain ⟨name, entry⟩ := child
    have hchild : ((s.look d (name, entry)).total t).Perm
        (reachedBy t d (name, entry) ++ s.total t) := by
      cases entry with
      | file content =>
        simp only [look, total, reachedBy, List.append_assoc]
        exact List.perm_middle
      | directory => exact List.perm_append_comm_assoc _ _ _
    rw [List.foldl_cons, List.flatMap_cons, List.append_assoc]
    exact (ih _).trans ((hchild.append_left _).trans (List.perm_append_comm_assoc _ _ _))

end Scan

open Scan

theorem keeps_of_turn {s s' : Scan} (ht : t.WellFormed) (h : Turn t s s') : Keeps t s s' := by
  cases h with
  | @missing d waiting found h =>
    have hnone := allBelow_of_missing h
    constructor
    · rw [clear_cons, and_iff_right ⟨[], hnone⟩]
    · intro _
      rw [total, total, List.flatMap_cons, reached_of_ok hnone, List.nil_append]
  | @listed d waiting found children listed h hp =>
    have heq := allBelow_of_list ht h
    have hclear : (∀ name, (name, .directory) ∈ listed →
        ∃ here, allBelow t (d.join ⟨name⟩) = .ok here) ↔ ∃ here, allBelow t d = .ok here := by
      simp only [heq, filesAmong_eq_ok_iff, hp.mem_iff]
      exact ⟨fun hall => ⟨_, hall, rfl⟩, fun ⟨_, hall, _⟩ => hall⟩
    constructor
    · rw [clear_foldl_look, hclear, clear_cons]
    · intro hw
      obtain ⟨here, hhere⟩ := ((clear_cons d waiting found).mp hw).1
      have hfiles : children.flatMap (reachedBy t d) = here :=
        (filesAmong_eq_ok_iff.mp (heq ▸ hhere)).2
      have hlisted : ((listed.foldl (look d) ⟨waiting, found⟩).total t).Perm
          (listed.flatMap (reachedBy t d) ++ total t ⟨waiting, found⟩) := total_foldl_look _
      have hchildren : (listed.flatMap (reachedBy t d)).Perm (reached t d) := by
        rw [reached_of_ok hhere, ← hfiles]
        exact hp.flatMap_right _
      refine hlisted.trans ((hchildren.append_right _).trans ?_)
      rw [total, total, List.flatMap_cons]
      exact List.perm_append_comm_assoc _ _ _

theorem keeps_of_turns {s s' : Scan} (ht : t.WellFormed) (h : ReflTransGen (Turn t) s s') :
    Keeps t s s' := by
  induction h with
  | refl => exact ⟨Iff.rfl, fun _ => List.Perm.refl _⟩
  | tail _ hturn ih =>
    have hstep := keeps_of_turn ht hturn
    constructor
    · exact hstep.clear_iff.trans ih.clear_iff
    · intro hs
      exact (hstep.perm (ih.clear_iff.mpr hs)).trans (ih.perm hs)

theorem turn_or_endsAs (t : FileTree) (s : Scan) :
    (∃ s', Turn t s s') ∨ ∃ result, s.EndsAs t result := by
  obtain ⟨waiting, found⟩ := s
  cases waiting with
  | nil => exact .inr ⟨.ok _, rfl, rfl⟩
  | cons d waiting =>
    cases hl : t.list d with
    | ok children => exact .inl ⟨_, .listed hl (.refl _)⟩
    | error cause =>
      by_cases hc : cause = .notFound
      · exact .inl ⟨_, .missing (hc ▸ hl)⟩
      · exact .inr ⟨.error ⟨d, cause⟩, waiting, rfl, hl, hc⟩

/-- Where a scan of the sources ends, it has found what `existingFiles` tells. -/
theorem eq_ok_iff_of_endsAs {s : Scan} {result : Except ScanError (List Path)} (ht : t.WellFormed)
    (hd : t.place? root = some place) (hplace : t.isDirectoryAt place)
    (hrun : ReflTransGen (Turn t) ⟨[root.join ⟨"src"⟩], []⟩ s) (hend : s.EndsAs t result) :
    result = .ok files ↔ existingFiles t root = .ok files := by
  have hkeeps := keeps_of_turns ht hrun
  have hclear : Clear t ⟨[root.join ⟨"src"⟩], []⟩ ↔
      ∃ here, allBelow t (root.join ⟨"src"⟩) = .ok here := List.forall_mem_singleton
  cases result with
  | error e =>
    obtain ⟨waiting, hw, hl, hc⟩ := hend
    refine ⟨nofun, fun h => ?_⟩
    obtain ⟨listed, hb, -⟩ := existingFiles_eq_ok_iff.mp h
    obtain ⟨here, hhere⟩ := hkeeps.clear_iff.mpr (hclear.mpr ⟨listed, hb⟩) e.path
      (hw ▸ List.mem_cons_self)
    rw [allBelow_of_error hl hc] at hhere
    cases hhere
  | ok sorted =>
    obtain ⟨hw, rfl⟩ := hend
    have hs : s.Clear t := by
      rw [Clear, hw]
      nofun
    obtain ⟨here, hhere⟩ := hclear.mp (hkeeps.clear_iff.mp hs)
    have hperm := hkeeps.perm (hkeeps.clear_iff.mp hs)
    simp only [total, hw, List.flatMap_nil, List.append_nil, List.flatMap_singleton,
      List.nil_append,
      reached_of_ok hhere] at hperm
    have hfiles : existingFiles t root = .ok (here.mergeSort fun p q => !q.before p) :=
      existingFiles_eq_ok_iff.mpr ⟨here, hhere, rfl⟩
    have hsorted : s.found.mergeSort (fun p q => !q.before p) =
        here.mergeSort fun p q => !q.before p := by
      apply Path.mergeSort_eq_of_perm
      · exact hperm.trans (List.mergeSort_perm _ _).symm
      · exact pairwise_existingFiles ht hd hplace hfiles
    rw [hsorted, hfiles]

/-- Looking through the sources ends, whichever order the entries of directories are listed in. It
fails just when the sources are a file or the path of some directory among them is too long; each
file that lies there is found once otherwise, in the order of paths. -/
theorem existingFiles_complete (ht : t.WellFormed) (hd : t.place? root = some place)
    (hplace : t.isDirectoryAt place) :
    WellFounded (fun s' s => Turn t s s') ∧
    (∀ s, ReflTransGen (Turn t) ⟨[root.join ⟨"src"⟩], []⟩ s →
      (∃ s', Turn t s s') ∨ ∃ result, s.EndsAs t result ∧
        ∀ files, result = .ok files ↔ existingFiles t root = .ok files) ∧
    ((∃ e, existingFiles t root = .error e) ↔
      (∃ content, t.find? ("src" :: place) = some (.file content)) ∨
      pathLimit < (root.join ⟨"src"⟩).text.utf8ByteSize ∨
      ∃ names, t.isDirectoryAt (names.reverse ++ "src" :: place) ∧
        pathLimit < (descend (root.join ⟨"src"⟩) names).text.utf8ByteSize) ∧
    ∀ files, existingFiles t root = .ok files →
      (t.find? ("src" :: place) = none → files = []) ∧
      files.Pairwise (fun p q => p.before q = true) ∧
      ∃ found : List (List String), found.Nodup ∧
        files = found.map (descend (root.join ⟨"src"⟩)) ∧
        ∀ names, names ∈ found ↔ names ≠ [] ∧
          ∃ content, t.find? (names.reverse ++ "src" :: place) = some (.file content) := by
  refine ⟨wellFounded_turn ht, ?_, existingFiles_eq_error_iff ht hd hplace, ?_⟩
  · intro s hrun
    rcases turn_or_endsAs t s with hturn | ⟨result, hend⟩
    · exact .inl hturn
    · exact .inr ⟨result, hend, fun files => eq_ok_iff_of_endsAs ht hd hplace hrun hend⟩
  · intro files h
    refine ⟨fun hmissing => ?_, pairwise_existingFiles ht hd hplace h, ?_⟩
    · have hc := (fits_of_existingFiles ht hd hplace h).1
      obtain ⟨listed, hb, rfl⟩ := existingFiles_eq_ok_iff.mp h
      rw [filesBelow_of_missing hd hplace hc hmissing] at hb
      rw [← Except.ok.inj hb, List.mergeSort_nil]
    · obtain ⟨found, ⟨hnodup, -, hfiles⟩, hmem⟩ := exists_found_of_existingFiles ht hd hplace h
      exact ⟨found, hnodup, hfiles, hmem⟩

/-- In the order of texts, the file beside the directory would come first. -/
def branchingTree : FileTree :=
  ⟨[], [(["p"], .directory), (["src", "p"], .directory), (["a-b.ts", "src", "p"], .file ⟨#[]⟩),
    (["empty", "src", "p"], .directory), (["a", "src", "p"], .directory),
    (["z.ts", "a", "src", "p"], .file ⟨#[]⟩)]⟩

theorem existingFiles_branchingTree : branchingTree.WellFormed ∧
    branchingTree.place? ⟨"p"⟩ = some ["p"] ∧ branchingTree.isDirectoryAt ["p"] ∧
    existingFiles branchingTree ⟨"p"⟩ = .ok [⟨"p/src/a/z.ts"⟩, ⟨"p/src/a-b.ts"⟩] ∧
    ∀ s, ReflTransGen (Turn branchingTree) ⟨[⟨"p/src"⟩], []⟩ s → (∃ s', Turn branchingTree s s') ∨
      s.EndsAs branchingTree (.ok [⟨"p/src/a/z.ts"⟩, ⟨"p/src/a-b.ts"⟩]) := by
  have hwell : branchingTree.WellFormed := by decide +kernel
  have hplace : branchingTree.place? ⟨"p"⟩ = some ["p"] := by decide +kernel
  have hdir : branchingTree.isDirectoryAt ["p"] := by decide +kernel
  have hfiles : existingFiles branchingTree ⟨"p"⟩ =
      .ok [⟨"p/src/a/z.ts"⟩, ⟨"p/src/a-b.ts"⟩] := by
    have hb : filesBelow branchingTree (branchingTree.entries.length + 1)
        ((⟨"p"⟩ : Path).join ⟨"src"⟩) = .ok [⟨"p/src/a-b.ts"⟩, ⟨"p/src/a/z.ts"⟩] := by
      decide +kernel
    have hsorted := Path.mergeSort_eq_of_perm
      (.swap (⟨"p/src/a/z.ts"⟩ : Path) ⟨"p/src/a-b.ts"⟩ []) (by decide +kernel)
    exact existingFiles_eq_ok_iff.mpr ⟨_, hb, hsorted⟩
  have hsrc : (⟨"p"⟩ : Path).join ⟨"src"⟩ = ⟨"p/src"⟩ := by decide
  obtain ⟨-, hruns, -⟩ := existingFiles_complete hwell hplace hdir
  refine ⟨hwell, hplace, hdir, hfiles, ?_⟩
  intro s hrun
  rcases hruns s (hsrc ▸ hrun) with hturn | ⟨result, hend, hresult⟩
  · exact .inl hturn
  · exact .inr ((hresult _).mpr hfiles ▸ hend)

def innerTree : FileTree :=
  ⟨[], [(["p"], .directory), (["src", "p"], .directory), (["inner", "src", "p"], .directory),
    (["a.ts", "inner", "src", "p"], .file ⟨#[]⟩)]⟩

/-- Slashes behind the directory of the project leave room for the path of the sources, but not for
the path of the directory among them. -/
theorem existingFiles_innerTree : innerTree.WellFormed ∧
    innerTree.place? ⟨"p" ++ String.ofList (List.replicate 4089 '/')⟩ = some ["p"] ∧
    innerTree.isDirectoryAt ["p"] ∧ innerTree.isDirectoryAt ["src", "p"] ∧
    ∃ e, existingFiles innerTree ⟨"p" ++ String.ofList (List.replicate 4089 '/')⟩ = .error e := by
  have hwell : innerTree.WellFormed := by decide +kernel
  have hdir : innerTree.isDirectoryAt ["p"] := by decide +kernel
  have hinner : innerTree.isDirectoryAt ["inner", "src", "p"] := by decide +kernel
  obtain ⟨n, hn⟩ : ∃ n, 4089 = n + 1 := ⟨4088, rfl⟩
  rw [hn]
  have hplace : innerTree.place? ⟨"p" ++ String.ofList (List.replicate (n + 1) '/')⟩ =
      some ["p"] := by
    rw [place?_append_slashes innerTree (p := ⟨"p"⟩) rfl]
    decide +kernel
  have hnames : ∀ name ∈ ["src", "inner"], IsName name := by decide
  have hrelative : (⟨"src/inner"⟩ : Path).isAbsolute = false := by decide
  have hjoin (d : Path) : descend (d.join ⟨"src"⟩) ["inner"] = d.join ⟨"src/inner"⟩ :=
    descend_eq_join d hnames (List.cons_ne_nil _ _) hrelative rfl
  have hsize := Path.utf8ByteSize_join_slashes ⟨"p"⟩ hrelative n
  have hlong : pathLimit < "p".utf8ByteSize + (n + 1) + "src/inner".utf8ByteSize := by
    rw [← hn]
    decide
  rw [← hsize, ← hjoin] at hlong
  refine ⟨hwell, hplace, hdir, by decide +kernel, ?_⟩
  exact (existingFiles_eq_error_iff hwell hplace hdir).mpr
    (.inr (.inr ⟨["inner"], hinner, hlong⟩))

end Scaffold.Output
