import Conformance.FileTree.Walk
import Conformance.Proofs.Words
import Mathlib.Data.List.Induction
import Mathlib.Logic.Relation

/-!
# Trails

A path leads along names, from the top or from the working directory.  Single dots in it, and slashes
that stand twice or at the end, do not change this trail of names, and a path that does not begin
with exactly two slashes has an absolute form that is written from the trail alone, with or without a
closing slash.  Exactly two slashes in front are kept as they are.
-/

namespace Conformance

open FileTree

/-- A name under which an entry can stand in a directory. -/
structure IsName (name : String) : Prop where
  ne_empty : name ≠ ""
  ne_dot : name ≠ "."
  slash : '/' ∉ name.toList

instance : DecidablePred IsName := fun name =>
  decidable_of_iff (name ≠ "" ∧ name ≠ "." ∧ '/' ∉ name.toList)
    ⟨fun h => ⟨h.1, h.2.1, h.2.2⟩, fun h => ⟨h.ne_empty, h.ne_dot, h.slash⟩⟩

namespace Path

variable {p q : Path} {dir loc : Location} {name u v : String}

/-! ## Names around a slash -/

theorem parts_append_slash (u v : String) :
    (⟨u ++ "/" ++ v⟩ : Path).parts = (⟨u⟩ : Path).parts ++ (⟨v⟩ : Path).parts := by
  have hsplit := Text.splitWhen_append_cons (p := (· == '/')) (c := '/') (s := u.toList)
    (t := v.toList) rfl
  have htext : (u ++ "/" ++ v).toList = u.toList ++ '/' :: v.toList := by simp
  simp only [parts, htext, hsplit, List.filter_append, List.map_append]

theorem names_append_slash (u v : String) :
    (⟨u ++ "/" ++ v⟩ : Path).names = (⟨u⟩ : Path).names ++ (⟨v⟩ : Path).names := by
  simp only [Path.names, parts_append_slash, List.filter_append]

theorem isName_of_mem_names (hname : name ∈ p.names) : IsName name := by
  obtain ⟨hpart, hdot⟩ := List.mem_filter.mp hname
  obtain ⟨chars, hchars, rfl⟩ := List.mem_map.mp hpart
  obtain ⟨hsplit, hne⟩ := List.mem_filter.mp hchars
  refine ⟨by simpa using hne, by simpa using hdot, ?_⟩
  rw [String.toList_ofList]
  intro hslash
  simpa using (Text.of_mem_splitWhen hsplit hslash).1

theorem names_of_isName (hname : IsName name) : (⟨name⟩ : Path).names = [name] := by
  have hsplit : Text.splitWhen (· == '/') name.toList = [name.toList] :=
    Text.splitWhen_beq_of_notMem hname.slash
  simp [Path.names, parts, hsplit, hname.ne_empty, hname.ne_dot]

theorem endsWithSlash_append (u : String) (hname : IsName name) :
    (⟨u ++ name⟩ : Path).endsWithSlash = false := by
  have hne : name.toList ≠ [] := by simpa using hname.ne_empty
  have hlast : name.toList.getLast hne ≠ '/' := fun heq =>
    hname.slash (heq ▸ List.getLast_mem hne)
  simp [endsWithSlash, List.getLast?_append, List.getLast?_eq_some_getLast hne, hlast]

/-! ## Absolute paths that are written from names -/

theorem isEmpty_toPath (loc : Location) : loc.toPath.isEmpty = false := by
  simp [isEmpty, Location.toPath]

theorem isAbsolute_toPath (loc : Location) : loc.toPath.isAbsolute = true := by
  simp [isAbsolute, Location.toPath]

theorem toPath_concat (loc : Location) (name : String) (hloc : loc ≠ []) :
    Location.toPath (loc ++ [name]) = ⟨loc.toPath.text ++ "/" ++ name⟩ := by
  simp [Location.toPath, String.intercalate_append_of_ne_nil hloc, String.append_assoc]

theorem endsWithSlash_toPath (hloc : ∀ name ∈ loc, IsName name) (hne : loc ≠ []) :
    loc.toPath.endsWithSlash = false := by
  obtain ⟨init, last, rfl⟩ := List.eq_nil_or_concat' loc |>.resolve_left hne
  have hlast : IsName last := hloc last (by simp)
  by_cases hinit : init = []
  · subst hinit
    simpa [Location.toPath] using endsWithSlash_append "/" hlast
  · rw [toPath_concat init last hinit]
    exact endsWithSlash_append _ hlast

theorem join_toPath (hloc : ∀ name ∈ loc, IsName name) (name : String) :
    loc.toPath.join name = Location.toPath (loc ++ [name]) := by
  by_cases hne : loc = []
  · subst hne
    simp [join, Location.toPath, isEmpty, endsWithSlash]
  · simp [join, isEmpty_toPath, endsWithSlash_toPath hloc hne, toPath_concat loc name hne]

theorem foldl_join_toPath (names : List String) (hloc : ∀ name ∈ loc, IsName name)
    (hnames : ∀ name ∈ names, IsName name) :
    names.foldl join loc.toPath = Location.toPath (loc ++ names) := by
  induction names generalizing loc with
  | nil => simp
  | cons name names ih =>
      obtain ⟨hname, hrest⟩ := List.forall_mem_cons.mp hnames
      have hconcat : ∀ other ∈ loc ++ [name], IsName other := by
        simpa [or_imp, forall_and] using ⟨hloc, hname⟩
      rw [List.foldl_cons, join_toPath hloc, ih hconcat hrest]
      simp

theorem names_toPath (hloc : ∀ name ∈ loc, IsName name) : loc.toPath.names = loc := by
  induction loc using List.reverseRecOn with
  | nil => decide
  | append_singleton init last ih =>
      have hinit : ∀ name ∈ init, IsName name := fun name hmem =>
        hloc name (List.mem_append_left _ hmem)
      have hlast : IsName last := hloc last (by simp)
      by_cases hne : init = []
      · subst hne
        have htext : Location.toPath ([] ++ [last]) = ⟨"" ++ "/" ++ last⟩ := by
          simp [Location.toPath]
        rw [htext, names_append_slash, names_of_isName hlast]
        rfl
      · rw [toPath_concat init last hne, names_append_slash, names_of_isName hlast]
        exact congrArg (· ++ [last]) (ih hinit)

/-! ## Trails -/

/-- The path begins with two slashes and not with three. -/
def BeginsWithTwo (p : Path) : Prop :=
  ∃ rest, p.text.toList = '/' :: '/' :: rest ∧ rest.head? ≠ some '/'

/-- The names that lead from the top along a path, for a working directory. -/
def trail (dir : Location) (p : Path) : Location := origin dir p ++ p.names

theorem isName_of_mem_trail (hdir : ∀ name ∈ dir, IsName name) (hname : name ∈ p.trail dir) :
    IsName name := by
  rcases List.mem_append.mp hname with horigin | hnames
  · unfold origin at horigin
    split at horigin
    · cases horigin
    · exact hdir name horigin
  · exact isName_of_mem_names hnames

theorem topText_eq (hp : ¬ p.BeginsWithTwo) : p.topText = "/" := by
  unfold topText
  split
  · rfl
  · rename_i rest hthree htext
    refine absurd ⟨rest, htext, fun hhead => ?_⟩ hp
    obtain ⟨tail, rfl⟩ := List.head?_eq_some_iff.mp hhead
    exact hthree tail rfl
  · rfl

theorem BeginsWithTwo.topText_eq (hp : p.BeginsWithTwo) : p.topText = "//" := by
  obtain ⟨rest, htext, hrest⟩ := hp
  unfold topText
  rw [htext]
  split
  · simp_all
  · rfl
  · simp_all

theorem topText_eq_iff : p.topText = "//" ↔ p.BeginsWithTwo := by
  refine ⟨fun htop => ?_, BeginsWithTwo.topText_eq⟩
  by_contra hp
  rw [topText_eq hp] at htop
  exact absurd htop (by decide)

instance : DecidablePred BeginsWithTwo := fun _ => decidable_of_iff _ topText_eq_iff

/-- The absolute form is written from the trail; a closing slash is kept. -/
theorem absolute?_eq (hdir : ∀ name ∈ dir, IsName name) (hempty : p.isEmpty = false)
    (htwo : ¬ p.BeginsWithTwo) :
    absolute? dir.toPath p = some
      (if p.endsWithSlash then (p.trail dir).toPath.closed else (p.trail dir).toPath) := by
  have hstart : (if p.isAbsolute then ⟨p.topText⟩ else dir.toPath : Path) =
      (origin dir p).toPath := by
    unfold origin
    split
    · rw [topText_eq htwo]
      rfl
    · rfl
  have horigin : ∀ name ∈ origin dir p, IsName name := fun name hname =>
    isName_of_mem_trail hdir (List.mem_append_left _ hname)
  have hwhole := foldl_join_toPath p.names horigin fun _ => isName_of_mem_names
  simp only [absolute?, hempty, Bool.false_eq_true, if_false, hstart, hwhole, trail]

/-! ## Two slashes in front -/

/-- The path with one more slash in front. -/
def doubled (p : Path) : Path := ⟨"/" ++ p.text⟩

theorem endsWithSlash_doubled (hp : p.isEmpty = false) :
    p.doubled.endsWithSlash = p.endsWithSlash := by
  have hne : p.text.toList ≠ [] := by simpa [isEmpty] using hp
  have htext : p.doubled.text.toList = ['/'] ++ p.text.toList := by simp [doubled]
  rw [endsWithSlash, endsWithSlash, htext, List.getLast?_append_of_ne_nil _ hne]

theorem join_doubled (hp : p.isEmpty = false) (name : String) :
    p.doubled.join name = (p.join name).doubled := by
  have hempty : p.doubled.isEmpty = false := by simp [doubled, isEmpty]
  simp only [join, hp, hempty, endsWithSlash_doubled hp, Bool.false_or]
  split <;> simp [doubled, String.append_assoc]

theorem isEmpty_join (hp : p.isEmpty = false) (name : String) : (p.join name).isEmpty = false := by
  have hne : p.text ≠ "" := by simpa [isEmpty] using hp
  unfold join
  split <;> simp [isEmpty, hne]

theorem foldl_join_doubled (hp : p.isEmpty = false) (names : List String) :
    names.foldl join p.doubled = (names.foldl join p).doubled := by
  induction names generalizing p with
  | nil => rfl
  | cons name names ih =>
      rw [List.foldl_cons, List.foldl_cons, join_doubled hp, ih (isEmpty_join hp name)]

theorem BeginsWithTwo.absolute?_eq (dir : Location) (htwo : p.BeginsWithTwo) :
    absolute? dir.toPath p = some (if p.endsWithSlash then (p.trail dir).toPath.doubled.closed
      else (p.trail dir).toPath.doubled) := by
  have htop := htwo.topText_eq
  obtain ⟨rest, htext, -⟩ := htwo
  have habsolute : p.isAbsolute = true := by simp [isAbsolute, htext]
  have hempty : p.isEmpty = false := by
    simp [isEmpty, ← String.toList_inj, htext]
  have hstart : (⟨p.topText⟩ : Path) = (Location.toPath []).doubled := by
    rw [htop]
    rfl
  have hwhole := @foldl_join_toPath [] p.names (by simp) fun _ => isName_of_mem_names
  have horigin : origin dir p = [] := by simp [origin, habsolute]
  simp only [absolute?, hempty, habsolute, Bool.false_eq_true, if_false, if_true, hstart,
    foldl_join_doubled (p := Location.toPath []) (by decide), hwhole, trail, horigin]

theorem steps_doubled (dir : Location) (hp : p.isEmpty = false) (habsolute : p.isAbsolute = true) :
    steps p.doubled = steps p ∧ origin dir p.doubled = origin dir p := by
  have hparts : p.doubled.parts = p.parts := by
    have htext : p.doubled.text = "" ++ "/" ++ p.text := by simp [doubled]
    exact (congrArg (fun text => parts ⟨text⟩) htext).trans (parts_append_slash "" p.text)
  have hdoubled : p.doubled.isAbsolute = true := by simp [isAbsolute, doubled]
  constructor
  · rw [steps, steps, endsWithSlash_doubled hp, hparts]
  · rw [origin, origin, hdoubled, habsolute]

/-! ## Spellings -/

/-- One step to another way of writing a path. -/
inductive Respells (workingDirectory : Path) : Path → Path → Prop
  | dot (u v : String) : Respells workingDirectory ⟨u ++ "/" ++ v⟩ ⟨u ++ "/./" ++ v⟩
  | leadingDot (p : Path) : p.isAbsolute = false →
      Respells workingDirectory p ⟨"./" ++ p.text⟩
  | slash (u v : String) : Respells workingDirectory ⟨u ++ "/" ++ v⟩ ⟨u ++ "//" ++ v⟩
  | closingSlash (p : Path) : Respells workingDirectory p ⟨p.text ++ "/"⟩
  | closingDot (p : Path) : Respells workingDirectory p ⟨p.text ++ "/."⟩
  | fromTop (p : Path) : p.isAbsolute = false →
      Respells workingDirectory p (workingDirectory.join p.text)

theorem isAbsolute_append_slash (u v w : String) :
    (⟨u ++ "/" ++ v⟩ : Path).isAbsolute = (⟨u ++ "/" ++ w⟩ : Path).isAbsolute := by
  cases hu : u.toList <;> simp [isAbsolute, hu]

theorem isAbsolute_append (hp : p.isEmpty = false) (v : String) :
    (⟨p.text ++ v⟩ : Path).isAbsolute = p.isAbsolute := by
  have hne : p.text.toList ≠ [] := by simpa [isEmpty] using hp
  obtain ⟨c, rest, htext⟩ := List.exists_cons_of_ne_nil hne
  simp [isAbsolute, htext]

theorem trail_congr (hnames : q.names = p.names) (habsolute : q.isAbsolute = p.isAbsolute) :
    q.trail dir = p.trail dir := by
  rw [trail, trail, origin, origin, hnames, habsolute]

theorem trail_join (hdir : ∀ name ∈ dir, IsName name) (hrelative : p.isAbsolute = false) :
    (dir.toPath.join p.text).trail dir = p.trail dir := by
  have hp : p.trail dir = dir ++ p.names := by simp [trail, origin, hrelative]
  rw [join_toPath hdir, hp]
  by_cases hne : dir = []
  · subst hne
    have htext : Location.toPath ([] ++ [p.text]) = ⟨"" ++ "/" ++ p.text⟩ := by
      simp [Location.toPath]
    rw [htext, trail, names_append_slash]
    simp [origin, isAbsolute]
    rfl
  · rw [toPath_concat dir p.text hne, trail, names_append_slash]
    have hdirNames : (⟨dir.toPath.text⟩ : Path).names = dir := names_toPath hdir
    have habsolute : (⟨dir.toPath.text ++ "/" ++ p.text⟩ : Path).isAbsolute = true := by
      simp [isAbsolute, Location.toPath]
    rw [hdirNames, origin, habsolute]
    rfl

/-- A step keeps the trail. -/
theorem Respells.trail_eq (hdir : ∀ name ∈ dir, IsName name) (h : Respells dir.toPath p q)
    (hp : p.isEmpty = false) : q.isEmpty = false ∧ q.trail dir = p.trail dir := by
  cases h with
  | dot u v =>
      have htext : u ++ "/./" ++ v = u ++ "/" ++ ("." ++ "/" ++ v) := by
        simp [← String.toList_inj]
      refine ⟨by simp [isEmpty], trail_congr ?_ ?_⟩
      · rw [htext, names_append_slash, names_append_slash, names_append_slash]
        rfl
      · rw [htext, isAbsolute_append_slash]
  | leadingDot p hrelative =>
      have htext : "./" ++ p.text = "." ++ "/" ++ p.text := rfl
      refine ⟨by simp [isEmpty], trail_congr ?_ ?_⟩
      · rw [htext, names_append_slash]
        rfl
      · rw [hrelative]
        simp [isAbsolute]
  | slash u v =>
      have htext : u ++ "//" ++ v = u ++ "/" ++ ("" ++ "/" ++ v) := by
        simp [← String.toList_inj]
      refine ⟨by simp [isEmpty], trail_congr ?_ ?_⟩
      · rw [htext, names_append_slash, names_append_slash, names_append_slash]
        rfl
      · rw [htext, isAbsolute_append_slash]
  | closingSlash p =>
      have htext : p.text ++ "/" = p.text ++ "/" ++ "" := by simp
      refine ⟨by simp [isEmpty], trail_congr ?_ (isAbsolute_append hp _)⟩
      rw [htext, names_append_slash]
      exact List.append_nil _
  | closingDot p =>
      have htext : p.text ++ "/." = p.text ++ "/" ++ "." := by simp [← String.toList_inj]
      refine ⟨by simp [isEmpty], trail_congr ?_ (isAbsolute_append hp _)⟩
      rw [htext, names_append_slash]
      exact List.append_nil _
  | fromTop p hrelative =>
      refine ⟨?_, trail_join hdir hrelative⟩
      rw [join_toPath hdir]
      exact isEmpty_toPath _

/-- Any number of steps keeps the trail. -/
theorem trail_eq_of_respelled (hdir : ∀ name ∈ dir, IsName name)
    (h : Relation.ReflTransGen (Respells dir.toPath) p q) (hp : p.isEmpty = false) :
    q.isEmpty = false ∧ q.trail dir = p.trail dir := by
  induction h with
  | refl => exact ⟨hp, rfl⟩
  | tail _ hstep ih =>
      obtain ⟨hempty, htrail⟩ := ih
      obtain ⟨hempty', htrail'⟩ := hstep.trail_eq hdir hempty
      exact ⟨hempty', htrail'.trans htrail⟩

/-! ## Closing slashes -/

theorem join_closed (hp : p.isEmpty = false) (name : String) : p.closed.join name = p.join name := by
  unfold closed
  split
  · rfl
  · have hslash : (⟨p.text ++ "/"⟩ : Path).endsWithSlash = true := by simp [endsWithSlash]
    have hfree : p.endsWithSlash = false := by simpa using ‹¬ p.endsWithSlash = true›
    simp [join, hp, hslash, hfree]

theorem steps_closed (dir : Location) (hp : p.isEmpty = false) (hslash : p.endsWithSlash = false) :
    steps p.closed = steps p ++ [""] ∧ origin dir p.closed = origin dir p := by
  have hclosed : p.closed = ⟨p.text ++ "/"⟩ := by simp [closed, hslash]
  have hends : (⟨p.text ++ "/"⟩ : Path).endsWithSlash = true := by simp [endsWithSlash]
  have hparts : (⟨p.text ++ "/"⟩ : Path).parts = p.parts := by
    have htext : p.text ++ "/" = p.text ++ "/" ++ "" := by simp
    rw [htext, parts_append_slash]
    exact List.append_nil _
  constructor
  · rw [steps, steps, hclosed, hends, hparts, hslash]
    rfl
  · rw [hclosed, origin, origin, isAbsolute_append hp]

end Path

end Conformance
