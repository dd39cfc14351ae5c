import Conformance.Corpus
import Conformance.Proofs.Utf8
import Conformance.Proofs.Words

/-!
# What belongs to the corpus

A directory lists the names of the entries right below it, each once and in the order of their bytes.
Of the names below the directory of the tests those are suites that are not hidden and lead to a
directory which may be listed; of the names below a suite those are tests that have the extension and
lead to a regular file.
-/

namespace Conformance

/-- Names in the order of their bytes. -/
def Precedes (a b : String) : Prop :=
  Text.Utf8.encode a.toList < Text.Utf8.encode b.toList

instance : DecidableRel Precedes := fun _ _ => inferInstanceAs (Decidable (_ < _))

theorem precedes_iff {a b : String} : Precedes a b ↔ a < b := by
  rw [Precedes, Text.Utf8.encode_lt_encode_iff, String.lt_iff]

theorem eq_of_pairwise_precedes {xs ys : List String} (hx : xs.Pairwise Precedes)
    (hy : ys.Pairwise Precedes) (hmem : ∀ name, name ∈ xs ↔ name ∈ ys) : xs = ys := by
  have hne : ∀ {a b}, Precedes a b → a ≠ b := fun h => String.ne_of_lt (precedes_iff.mp h)
  have hperm := (List.perm_ext_iff_of_nodup (hx.imp hne) (hy.imp hne)).mpr hmem
  refine hperm.eq_of_pairwise (fun a b _ _ hab hba => ?_) hx hy
  exact absurd (precedes_iff.mp hba) (String.lt_asymm (precedes_iff.mp hab))

/-- Something stands before the last dot of the name, and this after it. -/
def HasExtension (name extension : String) : Prop :=
  ∃ stem, stem ≠ [] ∧ name.toList = stem ++ '.' :: extension.toList ∧ '.' ∉ extension.toList

theorem splitWhen_dot_append {stem s : List Char} (hs : '.' ∉ s) :
    (Text.splitWhen (· == '.') (stem ++ '.' :: s)).reverse =
      s :: (Text.splitWhen (· == '.') stem).reverse := by
  rw [Text.splitWhen_append_cons (by simp), Text.splitWhen_beq_of_notMem hs]
  simp

/-- A name has a last dot, or none at all. -/
theorem exists_last_dot (s : List Char) :
    '.' ∉ s ∨ ∃ stem rest, s = stem ++ '.' :: rest ∧ '.' ∉ rest := by
  by_cases hs : '.' ∈ s
  · obtain ⟨rest, stem, hsplit, hrest⟩ := List.eq_append_cons_of_mem (List.mem_reverse.mpr hs)
    refine .inr ⟨stem.reverse, rest.reverse, ?_, by simpa using hrest⟩
    rw [← s.reverse_reverse, hsplit]
    simp
  · exact .inl hs

theorem hasExtension_iff {name extension : String} {stem rest : List Char}
    (hname : name.toList = stem ++ '.' :: rest) (hrest : '.' ∉ rest) :
    HasExtension name extension ↔ stem ≠ [] ∧ String.ofList rest = extension := by
  constructor
  · rintro ⟨other, hother, hname', hdot⟩
    have hparts := congrArg (fun s => (Text.splitWhen (· == '.') s).reverse.head?)
      (hname.symm.trans hname')
    simp only [splitWhen_dot_append hrest, splitWhen_dot_append hdot, List.head?_cons,
      Option.some.injEq] at hparts
    subst hparts
    obtain rfl := List.append_cancel_right (hname.symm.trans hname')
    exact ⟨hother, String.ofList_toList⟩
  · rintro ⟨hstem, rfl⟩
    exact ⟨stem, hstem, by rw [hname, String.toList_ofList], by rwa [String.toList_ofList]⟩

theorem extension?_eq_some_iff {name extension : String} :
    extension? name = some extension ↔ HasExtension name extension := by
  unfold extension?
  rcases exists_last_dot name.toList with hdot | ⟨stem, rest, hname, hrest⟩
  · have hnot : ¬ HasExtension name extension := by
      rintro ⟨stem, _, hname, _⟩
      simp [hname] at hdot
    simpa [Text.splitWhen_beq_of_notMem hdot] using hnot
  · rw [hasExtension_iff hname hrest, hname, splitWhen_dot_append hrest]
    cases stem with
    | nil => simp
    | cons c stem =>
        have hne := Text.splitWhen_cons_ne_singleton_nil (· == '.') c stem
        rcases hparts : (Text.splitWhen (· == '.') (c :: stem)).reverse with _ | ⟨part, parts⟩
        · exact absurd (List.reverse_eq_nil_iff.mp hparts) (Text.splitWhen_ne_nil _ _)
        · cases part with
          | cons d part => simp
          | nil =>
              cases parts with
              | cons other parts => simp
              | nil => exact absurd (List.reverse_eq_iff.mp hparts) hne

namespace FileTree

variable {t : FileTree} {dir loc : Location} {path : Path} {name : String}

/-- The path leads to the directory at this location, links followed, and it may be listed. -/
def Lists (t : FileTree) (dir : Location) (path : Path) (loc : Location) : Prop :=
  t.lookup dir path true = .ok (loc, .directory) ∧ t.mayRead loc = true

theorem Lists.unique {other : Location} (hloc : t.Lists dir path loc)
    (hother : t.Lists dir path other) : loc = other := by
  have hsame := hloc.1.symm.trans hother.1
  cases hsame
  rfl

theorem list_eq_ok_iff {names : List String} :
    t.list dir path = .ok names ↔ ∃ loc, t.Lists dir path loc ∧ t.names loc = names := by
  unfold list Lists
  rcases t.lookup dir path true with cause | ⟨loc, entry⟩
  · simp [bind, Except.bind]
  · cases entry with
    | directory =>
        by_cases hread : t.mayRead loc = true
        · simp [bind, Except.bind, pure, Except.pure, hread]
        · simp [bind, Except.bind, throw, throwThe, MonadExceptOf.throw, hread]
    | file content => simp [bind, Except.bind, throw, throwThe, MonadExceptOf.throw]
    | link target => simp [bind, Except.bind, throw, throwThe, MonadExceptOf.throw]

theorem not_lists_of_list_eq_error {cause : IoError} (hlist : t.list dir path = .error cause)
    (loc : Location) : ¬ t.Lists dir path loc := fun hloc => by
  have hnames := list_eq_ok_iff.mpr ⟨loc, hloc, rfl⟩
  rw [hlist] at hnames
  cases hnames

theorem nameBelow_eq_some_iff : nameBelow dir loc = some name ↔ loc = dir ++ [name] := by
  have hloc : loc = dir ++ [name] ↔ loc.reverse = name :: dir.reverse := by
    rw [← List.reverse_inj, List.reverse_append, List.reverse_singleton, List.singleton_append]
  rw [hloc, nameBelow]
  rcases loc.reverse with _ | ⟨last, up⟩
  · simp
  · by_cases hup : up.reverse = dir
    · subst hup
      simp
    · have hne : up ≠ dir.reverse := fun heq => hup (by rw [heq, List.reverse_reverse])
      simp [hup, hne]

/-- A directory lists the entries right below it. -/
theorem mem_names : name ∈ t.names loc ↔ (t.find (loc ++ [name])).isSome := by
  rw [names, List.mem_mergeSort, List.mem_eraseDups, List.mem_filterMap, find, node?,
    if_neg (by simp), Option.isSome_map, List.find?_isSome]
  simp only [nameBelow_eq_some_iff, decide_eq_true_eq]

theorem nodup_eraseDups (xs : List String) : xs.eraseDups.Nodup := by
  match xs with
  | [] => simp
  | x :: xs =>
      rw [List.eraseDups_cons, List.nodup_cons, List.mem_eraseDups]
      exact ⟨by simp, nodup_eraseDups _⟩
termination_by xs.length
decreasing_by exact Nat.lt_succ_of_le (List.length_filter_le _ _)

theorem pairwise_precedes_names (t : FileTree) (loc : Location) :
    (t.names loc).Pairwise Precedes := by
  have hle (a b : String) : (!decide (b < a)) = true ↔ a ≤ b := by
    rw [Bool.not_eq_true', decide_eq_false_iff_not, String.not_lt]
  have hsorted : (t.names loc).Pairwise fun a b => (!decide (b < a)) = true := by
    apply List.pairwise_mergeSort
    · intro a b c hab hbc
      exact (hle a c).mpr (String.le_trans ((hle a b).mp hab) ((hle b c).mp hbc))
    · intro a b
      rw [Bool.or_eq_true, hle, hle]
      exact String.le_total a b
  have hnodup : (t.names loc).Nodup :=
    (List.mergeSort_perm _ _).nodup_iff.mpr (nodup_eraseDups _)
  refine (hsorted.and hnodup).imp fun {a b} h => ?_
  exact precedes_iff.mpr (Std.lt_of_le_of_ne ((hle a b).mp h.1) h.2)

end FileTree

namespace Corpus

open FileTree

variable {t : FileTree} {dir loc sub : Location} {root top : Path} {extension name : String}
  {s : Suite} {suites others : List Suite}

/-- The suite has the tests that stand in the directory at a location. -/
def HasTests (t : FileTree) (dir : Location) (extension : String) (top : Path) (s : Suite)
    (sub : Location) : Prop :=
  ∃ files : List String, files.Pairwise Precedes ∧
    s.cases = files.map (fun file => ⟨(top.join s.name).join file, s.name⟩) ∧
    ∀ file, file ∈ files ↔ (t.find (sub ++ [file])).isSome ∧
      t.isRegularFile dir ((top.join s.name).join file) = true ∧ HasExtension file extension

/-- The suites are those that stand in the directory at a location, where the path `top` leads. -/
structure IsCorpus (t : FileTree) (dir : Location) (extension : String) (top : Path)
    (loc : Location) (suites : List Suite) : Prop where
  ordered : (suites.map Suite.name).Pairwise Precedes
  mem_names (name : String) : name ∈ suites.map Suite.name ↔
    (t.find (loc ++ [name])).isSome ∧ name.toList.head? ≠ some '.' ∧
      ∃ sub, t.Lists dir (top.join name) sub
  hasTests (s : Suite) : s ∈ suites →
    ∃ sub, t.Lists dir (top.join s.name) sub ∧ HasTests t dir extension top s sub

theorem hasTests_iff :
    HasTests t dir extension top s sub ↔
      s.cases = casesOf t dir extension s.name (top.join s.name) (t.names sub) := by
  have hfiles (file : String) : file ∈ (t.names sub).filter (fun name =>
      t.isRegularFile dir ((top.join s.name).join name) && extension? name == some extension) ↔
      (t.find (sub ++ [file])).isSome ∧
        t.isRegularFile dir ((top.join s.name).join file) = true ∧ HasExtension file extension := by
    rw [List.mem_filter, mem_names, Bool.and_eq_true, beq_iff_eq, extension?_eq_some_iff]
  have hordered := t.pairwise_precedes_names sub
  constructor
  · rintro ⟨files, hfiles', hcases, hmem⟩
    obtain rfl := eq_of_pairwise_precedes hfiles' (hordered.filter _) fun file =>
      (hmem file).trans (hfiles file).symm
    exact hcases
  · intro hcases
    exact ⟨_, hordered.filter _, hcases, hfiles⟩

theorem suiteOf?_eq_some_iff :
    suiteOf? t dir extension top name = some s ↔
      s.name = name ∧ name.toList.head? ≠ some '.' ∧
        ∃ sub, t.Lists dir (top.join name) sub ∧ HasTests t dir extension top s sub := by
  by_cases hhidden : name.toList.head? = some '.'
  · simp [suiteOf?, isHidden, hhidden]
  · cases hlist : t.list dir (top.join name) with
    | error cause =>
        simp [suiteOf?, isHidden, hhidden, hlist, not_lists_of_list_eq_error hlist]
    | ok names =>
        obtain ⟨sub, hsub, rfl⟩ := list_eq_ok_iff.mp hlist
        simp only [suiteOf?, isHidden, hhidden, hlist, beq_iff_eq, if_false, Option.some.injEq]
        constructor
        · rintro rfl
          exact ⟨rfl, hhidden, sub, hsub, hasTests_iff.mpr rfl⟩
        · rintro ⟨rfl, _, sub', hsub', htests⟩
          obtain rfl := hsub.unique hsub'
          rw [← hasTests_iff.mp htests]

theorem isCorpus_filterMap (t : FileTree) (dir : Location) (extension : String) (top : Path)
    (loc : Location) :
    IsCorpus t dir extension top loc ((t.names loc).filterMap (suiteOf? t dir extension top)) where
  ordered := by
    rw [List.pairwise_map, List.pairwise_filterMap]
    refine (t.pairwise_precedes_names loc).imp fun {a b} hab s hs s' hs' => ?_
    obtain ⟨rfl, _⟩ := suiteOf?_eq_some_iff.mp hs
    obtain ⟨rfl, _⟩ := suiteOf?_eq_some_iff.mp hs'
    exact hab
  mem_names name := by
    simp only [List.mem_map, List.mem_filterMap, suiteOf?_eq_some_iff, mem_names]
    constructor
    · rintro ⟨s, ⟨_, hfound, rfl, hhidden, sub, hsub, _⟩, rfl⟩
      exact ⟨hfound, hhidden, sub, hsub⟩
    · rintro ⟨hfound, hhidden, sub, hsub⟩
      exact ⟨⟨name, casesOf t dir extension name (top.join name) (t.names sub)⟩,
        ⟨name, hfound, rfl, hhidden, sub, hsub, hasTests_iff.mpr rfl⟩, rfl⟩
  hasTests s hs := by
    obtain ⟨name, _, hsuite⟩ := List.mem_filterMap.mp hs
    obtain ⟨rfl, _, htests⟩ := suiteOf?_eq_some_iff.mp hsuite
    exact htests

theorem IsCorpus.map_suiteOf? (hs : IsCorpus t dir extension top loc suites) :
    (suites.map Suite.name).map (suiteOf? t dir extension top) = suites.map some := by
  rw [List.map_map]
  refine List.map_congr_left fun s hmem => suiteOf?_eq_some_iff.mpr ⟨rfl, ?_, hs.hasTests s hmem⟩
  exact ((hs.mem_names s.name).mp (List.mem_map_of_mem hmem)).2.1

/-- The names and the directories below them leave no choice of suites. -/
theorem isCorpus_iff :
    IsCorpus t dir extension top loc suites ↔
      suites = (t.names loc).filterMap (suiteOf? t dir extension top) := by
  have hfound := isCorpus_filterMap t dir extension top loc
  constructor
  · intro hs
    have hnames := eq_of_pairwise_precedes hs.ordered hfound.ordered fun name =>
      (hs.mem_names name).trans (hfound.mem_names name).symm
    have hsome := hs.map_suiteOf?
    rw [hnames, hfound.map_suiteOf?] at hsome
    exact ((List.map_inj_right fun _ _ => Option.some.inj).mp hsome).symm
  · rintro rfl
    exact hfound

theorem discover_of_absolute?_eq_none (habsolute : Path.absolute? dir.toPath root = none) :
    discover t dir root extension = .error (.corpus root .emptyPath) := by
  simp only [discover, habsolute]

theorem discover_of_list_eq_error {cause : IoError}
    (habsolute : Path.absolute? dir.toPath root = some top)
    (hlist : t.list dir top = .error cause) :
    discover t dir root extension = .error (.corpus top cause) := by
  simp only [discover, habsolute, hlist]

theorem discover_of_lists (habsolute : Path.absolute? dir.toPath root = some top)
    (hloc : t.Lists dir top loc) :
    discover t dir root extension =
      .ok ((t.names loc).filterMap (suiteOf? t dir extension top)) := by
  simp only [discover, habsolute, list_eq_ok_iff.mpr ⟨loc, hloc, rfl⟩]

/-- Either the search fails, with a fault that ends the run, or it finds a corpus. -/
theorem discover_cases (t : FileTree) (dir : Location) (root : Path) (extension : String) :
    (∃ fault, discover t dir root extension = .error fault ∧ fault.isFatal = true) ∨
      ∃ top loc suites, discover t dir root extension = .ok suites ∧
        IsCorpus t dir extension top loc suites := by
  cases habsolute : Path.absolute? dir.toPath root with
  | none => exact .inl ⟨_, discover_of_absolute?_eq_none habsolute, rfl⟩
  | some top =>
      cases hlist : t.list dir top with
      | error cause => exact .inl ⟨_, discover_of_list_eq_error habsolute hlist, rfl⟩
      | ok names =>
          obtain ⟨loc, hloc, -⟩ := list_eq_ok_iff.mp hlist
          exact .inr ⟨top, loc, _, discover_of_lists habsolute hloc, isCorpus_filterMap ..⟩

/-- The search for the suites fails just where the directory of the tests cannot be made absolute or
cannot be listed; otherwise it finds those suites with those tests that belong to the corpus, each
once and in order. -/
theorem discover_exact (t : FileTree) (dir : Location) (root : Path) (extension : String) :
    (∀ fault, discover t dir root extension = .error fault ↔
      (Path.absolute? dir.toPath root = none ∧ fault = .corpus root .emptyPath) ∨
        ∃ top cause, Path.absolute? dir.toPath root = some top ∧
          t.list dir top = .error cause ∧ fault = .corpus top cause) ∧
    ∀ suites, discover t dir root extension = .ok suites ↔
      ∃ top loc, Path.absolute? dir.toPath root = some top ∧ t.Lists dir top loc ∧
        IsCorpus t dir extension top loc suites := by
  cases habsolute : Path.absolute? dir.toPath root with
  | none =>
      rw [discover_of_absolute?_eq_none habsolute]
      simp [eq_comm]
  | some top =>
      cases hlist : t.list dir top with
      | error cause =>
          rw [discover_of_list_eq_error habsolute hlist]
          simp [hlist, not_lists_of_list_eq_error hlist, eq_comm]
      | ok names =>
          obtain ⟨loc, hloc, rfl⟩ := list_eq_ok_iff.mp hlist
          rw [discover_of_lists habsolute hloc]
          refine ⟨fun fault => by simp [hlist], fun suites => ⟨fun hfound => ?_, ?_⟩⟩
          · exact ⟨top, loc, rfl, hloc, isCorpus_iff.mpr (Except.ok.inj hfound).symm⟩
          · rintro ⟨top', loc', htop, hloc', hs⟩
            cases htop
            obtain rfl := hloc.unique hloc'
            rw [isCorpus_iff.mp hs]

end Corpus

end Conformance
