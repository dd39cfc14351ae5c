import Conformance.Proofs.Outcome
import Conformance.Proofs.Trail

/-!
# Spellings of the directory of the tests

A closing slash changes nothing about what a directory lists, and neither do two slashes in front.  So
the suites that are found hang on the trail of the directory alone, however it is spelled, and the
path of a test is the trail with two more names.  Only where exactly two slashes stand in front, as
one more slash behind the top makes them, all these paths keep both.
-/

namespace Conformance

open FileTree

namespace FileTree

variable {t : FileTree} {dir : Location} {path : Path}

/-- What a closing slash makes of the spot in front of it. -/
def Spot.entered (s : Spot) : Except Errno Spot :=
  match s.found? with
  | none => .error .noEntry
  | some e => if e.isDirectory then .ok s else .error .notDirectory

theorem walkTo_closing (t : FileTree) {follow : Location → Path → List String → Except Errno Spot}
    (hfollow : ∀ here target rest,
      follow here target (rest ++ [""]) = (follow here target rest).bind Spot.entered)
    (here : Location) (names : List String) :
    t.walkTo true follow here (names ++ [""]) =
      (t.walkTo true follow here names).bind Spot.entered := by
  fun_induction walkTo t true follow here names with
  | case1 here =>
      rw [List.nil_append, walkTo]
      cases hnode : t.node? here with
      | none => simp [find, hnode, Except.bind, Spot.entered]
      | some n => cases hdir : n.entry.isDirectory <;>
          simp [find, hnode, hdir, walkTo, Except.bind, Spot.entered]
  -- A fault on the way comes before the slash.
  | case2 | case3 | case5 | case8 =>
      rw [List.cons_append, walkTo]
      simp [*, Except.bind]
  | case10 _ _ _ _ _ _ _ _ _ _ _ next hnext =>
      rw [List.cons_append, walkTo]
      simp only [next] at hnext
      simp [*, Except.bind]
  | case11 _ _ _ _ _ _ _ _ _ _ _ _ _ _ hstay => simp at hstay
  | case4 | case6 | case7 =>
      rw [List.cons_append, walkTo]
      simp [*]
  -- The last name is free: the slash asks for what is not there.
  | case9 _ _ _ _ _ _ _ _ _ _ next hnext =>
      rw [List.cons_append, walkTo]
      simp only [next] at hnext
      simp [*, Except.bind, Spot.entered]
  | case12 _ _ _ _ _ _ _ _ _ _ _ next _ hnext =>
      rw [List.cons_append, walkTo]
      simp only [next] at hnext
      simp [*]
  | case13 _ _ _ _ _ _ _ _ _ _ _ next _ _ hnext ih =>
      rw [List.cons_append, walkTo]
      simp only [next] at hnext ih ⊢
      simp [*]

theorem walk_closing (t : FileTree) (links : Nat) (here : Location) (names : List String) :
    t.walk true links here (names ++ [""]) = (t.walk true links here names).bind Spot.entered := by
  induction links generalizing here names with
  | zero => exact t.walkTo_closing (fun _ _ _ => rfl) here names
  | succ links ih =>
      refine t.walkTo_closing (fun here target rest => ?_) here names
      split
      · rfl
      · rw [← List.append_assoc, ih]

/-- The text of the path is no longer than the system takes. -/
def Fits (path : Path) : Prop := path.text.utf8ByteSize < pathLimit

instance : DecidablePred Fits := fun _ => inferInstanceAs (Decidable (_ < _))

theorem checkText_of_fits (hempty : path.isEmpty = false) (hfits : Fits path) :
    checkText path = if path.text.toList.contains '\x00' then .error .nulInName else .ok () := by
  have hlength : ¬ path.text.utf8ByteSize ≥ pathLimit := Nat.not_le.mpr hfits
  by_cases hnul : path.text.toList.contains '\x00' = true
  · rw [checkText, if_pos hnul, if_pos hnul]
    rfl
  · rw [checkText, if_neg hnul, if_neg hnul, hempty]
    simp [pure, Except.pure, hlength]

theorem contains_nul_closed (path : Path) :
    path.closed.text.toList.contains '\x00' = path.text.toList.contains '\x00' := by
  unfold Path.closed
  split
  · rfl
  · simp

theorem Fits.of_closed (hclosed : Fits path.closed) : Fits path := by
  unfold Path.closed at hclosed
  split at hclosed
  · exact hclosed
  · simp only [Fits, String.utf8ByteSize_append] at hclosed ⊢
    omega

theorem lookup_closed (t : FileTree) (dir : Location) (hempty : path.isEmpty = false)
    (hslash : path.endsWithSlash = false) (hclosed : Fits path.closed) :
    t.lookup dir path.closed true = (t.lookup dir path true).bind fun found =>
      if found.2.isDirectory then .ok found else .error (.os .notDirectory) := by
  have hempty' : path.closed.isEmpty = false := by simp [Path.closed, hslash, Path.isEmpty]
  obtain ⟨hsteps, horigin⟩ := Path.steps_closed dir hempty hslash
  have hwalk := walk_closing t linkLimit (origin dir path) (steps path)
  simp only [lookup, locate, checkText_of_fits hempty hclosed.of_closed,
    checkText_of_fits hempty' hclosed, contains_nul_closed, hsteps, horigin, hwalk]
  cases path.text.toList.contains '\x00' with
  | true => rfl
  | false =>
      rcases t.walk true linkLimit (origin dir path) (steps path) with e | ⟨loc, found?⟩
      · rfl
      · rcases found? with _ | e
        · rfl
        · cases hdirectory : e.isDirectory <;>
            simp [bind, Except.bind, Spot.entered, pure, Except.pure, hdirectory, throw, throwThe,
              MonadExceptOf.throw]

theorem list_closed (t : FileTree) (dir : Location) (hempty : path.isEmpty = false)
    (hclosed : Fits path.closed) : t.list dir path.closed = t.list dir path := by
  cases hslash : path.endsWithSlash with
  | true => rw [Path.closed, if_pos hslash]
  | false =>
      rw [list, list, lookup_closed t dir hempty hslash hclosed]
      rcases t.lookup dir path true with cause | ⟨loc, e⟩
      · rfl
      · cases e <;> rfl

theorem Fits.of_doubled (hdoubled : Fits path.doubled) : Fits path := by
  simp only [Fits, Path.doubled, String.utf8ByteSize_append] at hdoubled ⊢
  omega

/-- Two slashes in front lead to the same place as one. -/
theorem lookup_doubled (t : FileTree) (dir : Location) (followLast : Bool)
    (hempty : path.isEmpty = false) (habsolute : path.isAbsolute = true)
    (hdoubled : Fits path.doubled) :
    t.lookup dir path.doubled followLast = t.lookup dir path followLast := by
  have hempty' : path.doubled.isEmpty = false := by simp [Path.doubled, Path.isEmpty]
  have hnul : path.doubled.text.toList.contains '\x00' = path.text.toList.contains '\x00' := by
    simp [Path.doubled]
  obtain ⟨hsteps, horigin⟩ := Path.steps_doubled dir hempty habsolute
  simp only [lookup, locate, checkText_of_fits hempty hdoubled.of_doubled,
    checkText_of_fits hempty' hdoubled, hnul, hsteps, horigin]

theorem list_doubled (t : FileTree) (dir : Location) (hempty : path.isEmpty = false)
    (habsolute : path.isAbsolute = true) (hdoubled : Fits path.doubled) :
    t.list dir path.doubled = t.list dir path := by
  rw [list, list, lookup_doubled t dir true hempty habsolute hdoubled]

theorem isRegularFile_doubled (t : FileTree) (dir : Location) (hempty : path.isEmpty = false)
    (habsolute : path.isAbsolute = true) (hdoubled : Fits path.doubled) :
    t.isRegularFile dir path.doubled = t.isRegularFile dir path := by
  rw [isRegularFile, isRegularFile, lookup_doubled t dir true hempty habsolute hdoubled]

end FileTree

/-- The case with one more slash in front of its path. -/
def Case.doubled (c : Case) : Case := { c with path := c.path.doubled }

/-- The suite with one more slash in front of all paths. -/
def Suite.doubled (s : Suite) : Suite := { s with cases := s.cases.map Case.doubled }

namespace Corpus

variable {t : FileTree} {dir : Location} {extension : String} {r r' : Path} {suites : List Suite}

theorem suiteOf?_closed (t : FileTree) (dir : Location) (extension : String) {top : Path}
    (hempty : top.isEmpty = false) :
    suiteOf? t dir extension top.closed = suiteOf? t dir extension top := by
  funext name
  simp only [suiteOf?, Path.join_closed hempty]

/-- What is found hangs on the absolute path without its closing slash. -/
theorem discover_eq_ok_iff {top : Path} {isClosed : Bool}
    (habsolute : Path.absolute? dir.toPath r = some (if isClosed then top.closed else top))
    (htop : top.isEmpty = false) (hfits : Fits (if isClosed then top.closed else top)) :
    discover t dir r extension = .ok suites ↔ ∃ names, t.list dir top = .ok names ∧
      suites = names.filterMap (suiteOf? t dir extension top) := by
  have hlist : t.list dir (if isClosed then top.closed else top) = t.list dir top := by
    cases isClosed with
    | false => rfl
    | true => exact list_closed t dir htop hfits
  have hsuites : suiteOf? t dir extension (if isClosed then top.closed else top) =
      suiteOf? t dir extension top := by
    cases isClosed with
    | false => rfl
    | true => exact suiteOf?_closed t dir extension htop
  simp only [discover, habsolute, hlist, hsuites]
  cases t.list dir top with
  | error cause => simp
  | ok names => simp [eq_comm]

/-- All paths below a directory that are looked at are short enough with one more slash. -/
structure FitsDoubled (t : FileTree) (dir : Location) (top : Path) : Prop where
  suite : ∀ names, t.list dir top = .ok names → ∀ name ∈ names, Fits (top.join name).doubled
  file : ∀ names, t.list dir top = .ok names → ∀ name ∈ names,
    ∀ files, t.list dir (top.join name) = .ok files → ∀ file ∈ files,
      Fits ((top.join name).join file).doubled

theorem isAbsolute_join {p : Path} (hp : p.isEmpty = false) (name : String) :
    (p.join name).isAbsolute = p.isAbsolute := by
  unfold Path.join
  split
  · exact Path.isAbsolute_append hp _
  · rw [String.append_assoc]
    exact Path.isAbsolute_append hp _

theorem casesOf_doubled {path : Path} {suite : String} {files : List String}
    (hpath : path.isEmpty = false) (habsolute : path.isAbsolute = true)
    (hfits : ∀ file ∈ files, Fits (path.join file).doubled) :
    casesOf t dir extension suite path.doubled files =
      (casesOf t dir extension suite path files).map Case.doubled := by
  have hregular : ∀ file ∈ files,
      t.isRegularFile dir (path.doubled.join file) = t.isRegularFile dir (path.join file) := by
    intro file hfile
    rw [Path.join_doubled hpath]
    refine isRegularFile_doubled t dir (Path.isEmpty_join hpath file) ?_ (hfits file hfile)
    rw [isAbsolute_join hpath, habsolute]
  have hfilter : (files.filter fun file =>
        t.isRegularFile dir (path.doubled.join file) && extension? file == some extension) =
      files.filter fun file =>
        t.isRegularFile dir (path.join file) && extension? file == some extension :=
    List.filter_congr fun file hfile => by rw [hregular file hfile]
  rw [casesOf, casesOf, hfilter, List.map_map]
  refine List.map_congr_left fun file _ => ?_
  rw [Path.join_doubled hpath]
  rfl

theorem suiteOf?_doubled {top : Path} {name : String} (htop : top.isEmpty = false)
    (habsolute : top.isAbsolute = true) (hsuite : Fits (top.join name).doubled)
    (hfiles : ∀ files, t.list dir (top.join name) = .ok files → ∀ file ∈ files,
      Fits ((top.join name).join file).doubled) :
    suiteOf? t dir extension top.doubled name =
      (suiteOf? t dir extension top name).map Suite.doubled := by
  have hjoin : (top.join name).isEmpty = false := Path.isEmpty_join htop name
  have habsolute' : (top.join name).isAbsolute = true := by rw [isAbsolute_join htop, habsolute]
  simp only [suiteOf?, Path.join_doubled htop, list_doubled t dir hjoin habsolute' hsuite]
  split
  · rfl
  · cases hlist : t.list dir (top.join name) with
    | error => rfl
    | ok files =>
        simp only [Option.map_some, Suite.doubled,
          casesOf_doubled hjoin habsolute' (hfiles files hlist)]

end Corpus

namespace FileTree

variable {t : FileTree} {loc : Location} {name : String}

/-- All entries stand under names. -/
def IsNamed (t : FileTree) : Prop := ∀ n ∈ t.nodes, ∀ name ∈ n.location, IsName name

instance (t : FileTree) : Decidable t.IsNamed :=
  inferInstanceAs (Decidable (∀ n ∈ t.nodes, ∀ name ∈ n.location, IsName name))

theorem IsNamed.isName (ht : t.IsNamed) (hfound : (t.find (loc ++ [name])).isSome) :
    IsName name := by
  rw [find, node?, if_neg (by simp), Option.isSome_map] at hfound
  obtain ⟨n, hn, hloc⟩ := List.find?_isSome.mp hfound
  have hloc : n.location = loc ++ [name] := by simpa using hloc
  exact ht n hn name (by simp [hloc])

end FileTree

namespace Corpus

variable {t : FileTree} {dir : Location} {extension : String} {r r' : Path} {suites : List Suite}

/-- The path of a test is the trail of the directory with the names of its suite and its file. -/
theorem exists_file_of_mem_cases (hdir : ∀ name ∈ dir, IsName name) (ht : t.IsNamed)
    {names : List String} (hlist : t.list dir (r.trail dir).toPath = .ok names) {test : Case}
    (htest : test ∈ cases
      (names.filterMap (suiteOf? t dir extension (r.trail dir).toPath))) :
    ∃ file, test.path = Location.toPath (r.trail dir ++ [test.suite, file]) ∧
      ∀ name ∈ r.trail dir ++ [test.suite, file], IsName name := by
  obtain ⟨loc, hloc, rfl⟩ := list_eq_ok_iff.mp hlist
  have hcorpus := isCorpus_filterMap t dir extension (r.trail dir).toPath loc
  obtain ⟨s, hs, hcase⟩ := List.mem_flatMap.mp htest
  obtain ⟨sub, _, files, _, hcases, hfiles⟩ := hcorpus.hasTests s hs
  rw [hcases] at hcase
  obtain ⟨file, hfile, rfl⟩ := List.mem_map.mp hcase
  obtain ⟨hfound, _⟩ := (hcorpus.mem_names s.name).mp (List.mem_map_of_mem hs)
  have hsuite : IsName s.name := ht.isName hfound
  have hfile : IsName file := ht.isName ((hfiles file).mp hfile).1
  have htrail : ∀ name ∈ r.trail dir, IsName name := fun _ => Path.isName_of_mem_trail hdir
  have hbelow : ∀ name ∈ r.trail dir ++ [s.name], IsName name := by
    simpa [or_imp, forall_and] using ⟨htrail, hsuite⟩
  refine ⟨file, ?_, ?_⟩
  · rw [Path.join_toPath htrail, Path.join_toPath hbelow, List.append_assoc]
    rfl
  · simpa [or_imp, forall_and] using ⟨htrail, hsuite, hfile⟩

section

variable (t dir extension)

/-- Without exactly two slashes in front, what is found hangs on the trail alone. -/
theorem discover_eq_ok_iff_of_trail (hdir : ∀ name ∈ dir, IsName name) (hempty : r.isEmpty = false)
    (htwo : ¬ r.BeginsWithTwo)
    (hfits : ∀ top, Path.absolute? dir.toPath r = some top → Fits top) (suites : List Suite) :
    discover t dir r extension = .ok suites ↔ ∃ names, t.list dir (r.trail dir).toPath = .ok names ∧
      suites = names.filterMap (suiteOf? t dir extension (r.trail dir).toPath) := by
  have habsolute := Path.absolute?_eq hdir hempty htwo
  have htop : (r.trail dir).toPath.isEmpty = false := Path.isEmpty_toPath _
  exact discover_eq_ok_iff habsolute htop (hfits _ habsolute)

/-- With two slashes in front the same directory is listed. -/
theorem discover_eq_ok_iff_of_two (htwo : r.BeginsWithTwo)
    (hfits : ∀ top, Path.absolute? dir.toPath r = some top → Fits top) (suites : List Suite) :
    discover t dir r extension = .ok suites ↔ ∃ names, t.list dir (r.trail dir).toPath = .ok names ∧
      suites = names.filterMap (suiteOf? t dir extension (r.trail dir).toPath.doubled) := by
  have habsolute := htwo.absolute?_eq dir
  have hclosed := hfits _ habsolute
  have hdoubled : Fits (r.trail dir).toPath.doubled := by
    split at hclosed
    · exact hclosed.of_closed
    · exact hclosed
  rw [← list_doubled t dir (Path.isEmpty_toPath _) (Path.isAbsolute_toPath _) hdoubled]
  exact discover_eq_ok_iff habsolute (by simp [Path.isEmpty, Path.doubled]) hclosed

end

/-- However a directory is spelled, suites are found from one spelling if and only if they are from
the other, and they are the same suites with the same tests.  The path of a test begins at the top and
holds no dot and no empty name; it goes along all names of the directory as they were written, those
that lead upwards among them.  Where the other spelling has come to begin with exactly two slashes, it
gives each of these paths one more slash in front. -/
theorem discover_respelled (t : FileTree) (dir : Location) (extension : String)
    (hdir : ∀ name ∈ dir, IsName name) (ht : t.IsNamed) (hempty : r.isEmpty = false)
    (htwo : ¬ r.BeginsWithTwo)
    (hspelled : Relation.ReflTransGen (Path.Respells dir.toPath) r r')
    (hfits : ∀ top, Path.absolute? dir.toPath r = some top → Fits top)
    (hfits' : ∀ top, Path.absolute? dir.toPath r' = some top → Fits top) :
    ((∃ suites, discover t dir r' extension = .ok suites) ↔
      ∃ suites, discover t dir r extension = .ok suites) ∧
    ∀ suites, discover t dir r extension = .ok suites →
      (¬ r'.BeginsWithTwo → discover t dir r' extension = .ok suites) ∧
      (r'.BeginsWithTwo → FitsDoubled t dir (r.trail dir).toPath →
        discover t dir r' extension = .ok (suites.map Suite.doubled)) ∧
      ∀ test ∈ cases suites, test.path.isAbsolute = true ∧ ∃ file,
        test.path = Location.toPath (origin dir r ++ r.names ++ [test.suite, file]) ∧
        ∀ name ∈ origin dir r ++ r.names ++ [test.suite, file], IsName name := by
  obtain ⟨hempty', htrail⟩ := Path.trail_eq_of_respelled hdir hspelled hempty
  have hfound := discover_eq_ok_iff_of_trail t dir extension hdir hempty htwo hfits
  have hone (hone : ¬ r'.BeginsWithTwo) :=
    htrail ▸ discover_eq_ok_iff_of_trail t dir extension hdir hempty' hone hfits'
  have hdoubled (hdoubled : r'.BeginsWithTwo) :=
    htrail ▸ discover_eq_ok_iff_of_two t dir extension hdoubled hfits'
  refine ⟨?_, fun suites hsuites => ?_⟩
  · by_cases htwo' : r'.BeginsWithTwo
    · simp only [hfound, hdoubled htwo', exists_and_left, exists_comm (α := List Suite), exists_eq]
    · simp only [hfound, hone htwo']
  · obtain ⟨names, hlist, rfl⟩ := (hfound suites).mp hsuites
    refine ⟨fun htwo' => (hone htwo' _).mpr ⟨names, hlist, rfl⟩, fun htwo' hall => ?_, fun test htest => ?_⟩
    · refine (hdoubled htwo' _).mpr ⟨names, hlist, ?_⟩
      rw [List.map_filterMap]
      refine List.filterMap_congr fun name hname => ?_
      exact (suiteOf?_doubled (Path.isEmpty_toPath _) (Path.isAbsolute_toPath _)
        (hall.suite names hlist name hname) (hall.file names hlist name hname)).symm
    · obtain ⟨file, hpath, hnames⟩ := exists_file_of_mem_cases hdir ht hlist htest
      exact ⟨hpath ▸ Path.isAbsolute_toPath _, file, hpath, hnames⟩

/-- The desk has its tests in a directory below the top. -/
theorem discover_respelled_desk :
    let t := (Workplace.desk (Workplace.deskScript ["7"])).tree ⟨""⟩
    Relation.ReflTransGen (Path.Respells (Location.toPath [])) ⟨"tests"⟩ ⟨"/./tests//."⟩ ∧
      discover t [] ⟨"/./tests//."⟩ "sc" = .ok [⟨"basic", [Workplace.deskCase]⟩] := by
  intro t
  have hfromTop : Path.Respells (Location.toPath []) ⟨"tests"⟩ ⟨"/tests"⟩ := .fromTop _ (by decide)
  have hdot : Path.Respells (Location.toPath []) ⟨"/tests"⟩ ⟨"/./tests"⟩ := .dot "" "tests"
  have hslash : Path.Respells (Location.toPath []) ⟨"/./tests"⟩ ⟨"/./tests/"⟩ := .closingSlash _
  have hclosing : Path.Respells (Location.toPath []) ⟨"/./tests/"⟩ ⟨"/./tests//."⟩ := .closingDot _
  have hspelled : Relation.ReflTransGen (Path.Respells (Location.toPath [])) ⟨"tests"⟩
      ⟨"/./tests//."⟩ := (((Relation.ReflTransGen.single hfromTop).tail hdot).tail hslash).tail hclosing
  have htwo : ¬ (⟨"tests"⟩ : Path).BeginsWithTwo := by decide
  have htwo' : ¬ (⟨"/./tests//."⟩ : Path).BeginsWithTwo := by decide
  have hnamed : t.IsNamed := by decide
  have htop : ∀ top, Path.absolute? (Location.toPath []) ⟨"tests"⟩ = some top → Fits top := by
    rintro top ⟨⟩
    decide
  have htop' : ∀ top, Path.absolute? (Location.toPath []) ⟨"/./tests//."⟩ = some top →
      Fits top := by
    rintro top ⟨⟩
    decide
  obtain ⟨-, hfound⟩ := discover_respelled t [] "sc" (by simp) hnamed (by decide) htwo hspelled htop
    htop'
  exact ⟨hspelled, (hfound _ (Workplace.suites_desk _ _)).1 htwo'⟩

/-- A tree with one suite of one test right below the top. -/
def shelf : FileTree :=
  ⟨[⟨["s"], .directory, ⟨3, 0o755, 0, 0, 0⟩⟩,
    ⟨["s", "a.sc"], .file (.bytes [0x37]), ⟨4, 0o644, 0, 0, 0⟩⟩], 5, 0⟩

theorem list_shelf : shelf.list [] ⟨"/"⟩ = .ok ["s"] := by
  refine list_eq_ok_iff.mpr ⟨[], ⟨rfl, rfl⟩, ?_⟩
  simp [shelf, FileTree.names, nameBelow, List.eraseDups_cons]

theorem list_shelfSuite : shelf.list [] ⟨"/s"⟩ = .ok ["a.sc"] := by
  refine list_eq_ok_iff.mpr ⟨["s"], ⟨rfl, rfl⟩, ?_⟩
  simp [shelf, FileTree.names, nameBelow, List.eraseDups_cons]

theorem suiteOf?_shelf : suiteOf? shelf [] "sc" ⟨"/"⟩ "s" = some ⟨"s", [⟨⟨"/s/a.sc"⟩, "s"⟩]⟩ := by
  have hregular : shelf.isRegularFile [] ⟨"/s/a.sc"⟩ = true := rfl
  have hjoin : Path.join ⟨"/"⟩ "s" = ⟨"/s"⟩ := by decide
  have hjoinFile : Path.join ⟨"/s"⟩ "a.sc" = ⟨"/s/a.sc"⟩ := by decide
  have hhidden : isHidden "s" = false := by decide
  have hextension : extension? "a.sc" = some "sc" := by decide
  simp [suiteOf?, casesOf, hhidden, hjoin, list_shelfSuite, hjoinFile, hregular, hextension]

/-- One more slash behind the top makes exactly two, and these are kept. -/
theorem discover_slash_slash :
    Path.Respells (Location.toPath []) ⟨"/"⟩ ⟨"//"⟩ ∧ ¬ (⟨"/"⟩ : Path).BeginsWithTwo ∧
      discover shelf [] ⟨"/"⟩ "sc" = .ok [⟨"s", [⟨⟨"/s/a.sc"⟩, "s"⟩]⟩] ∧
      discover shelf [] ⟨"//"⟩ "sc" = .ok [⟨"s", [⟨⟨"//s/a.sc"⟩, "s"⟩]⟩] := by
  have hone : ¬ (⟨"/"⟩ : Path).BeginsWithTwo := by decide
  have htwo : (⟨"//"⟩ : Path).BeginsWithTwo := by decide
  have htop : ∀ top, Path.absolute? (Location.toPath []) ⟨"/"⟩ = some top → Fits top := by
    rintro top ⟨⟩
    decide
  have htop' : ∀ top, Path.absolute? (Location.toPath []) ⟨"//"⟩ = some top → Fits top := by
    rintro top ⟨⟩
    decide
  have htrail : ((⟨"/"⟩ : Path).trail []).toPath = ⟨"/"⟩ := by decide
  have htrail' : ((⟨"//"⟩ : Path).trail []).toPath = ⟨"/"⟩ := by decide
  have hfiles : ∀ files, shelf.list [] (Path.join ⟨"/"⟩ "s") = .ok files → ∀ file ∈ files,
      Fits ((Path.join ⟨"/"⟩ "s").join file).doubled := by
    have hlist : shelf.list [] (Path.join ⟨"/"⟩ "s") = .ok ["a.sc"] := list_shelfSuite
    rw [hlist]
    rintro _ ⟨⟩
    decide
  have hsuite : Fits (Path.join ⟨"/"⟩ "s").doubled := by decide
  have hdoubled : suiteOf? shelf [] "sc" (Path.doubled ⟨"/"⟩) "s" =
      some ⟨"s", [⟨⟨"//s/a.sc"⟩, "s"⟩]⟩ := by
    rw [suiteOf?_doubled (by decide) (by decide) hsuite hfiles, suiteOf?_shelf]
    decide
  refine ⟨.closingSlash _, hone, ?_, ?_⟩
  · refine (discover_eq_ok_iff_of_trail shelf [] "sc" (by simp) (by decide) hone htop _).mpr ?_
    rw [htrail]
    exact ⟨["s"], list_shelf, by simp [suiteOf?_shelf]⟩
  · refine (discover_eq_ok_iff_of_two shelf [] "sc" htwo htop' _).mpr ?_
    rw [htrail']
    exact ⟨["s"], list_shelf, by simp [hdoubled]⟩

end Corpus

end Conformance
