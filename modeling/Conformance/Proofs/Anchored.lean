import Conformance.Computer.Machine.Launch
import Conformance.Proofs.CommandWords
import Conformance.Proofs.Decoding
import Conformance.Proofs.Respelling
import Conformance.Proofs.Stage

/-!
# Where the executable is looked for

A program whose path has a slash in it is not searched for.  The path of the executable is anchored
for this: it gets a dot and a slash in front if it has no parent but the empty path.  What the parent
is hangs on the components of a path, not on its text, so a closing slash or a closing dot needs the
anchor as much as a name alone does (`isBare_iff`).

The anchor adds one component, a dot, and leads to the same place.  From then on the toolchain keeps
to the anchored path: it is cleared, looked at, handed on and executed.
-/

namespace Conformance

open FileTree

namespace Path

variable {p : Path} {dir : Location} {t : FileTree}

/-- A component of a path: the top, a dot in front of a relative path, or a name or two dots. -/
inductive Component where
  | top
  | here
  | named (name : String)
  deriving DecidableEq

/-- The component that a path has before its names. -/
def lead (p : Path) : List Component :=
  if p.isAbsolute then [.top] else if p.startsWithDot then [.here] else []

def components (p : Path) : List Component := p.lead ++ p.names.map .named

/-- The components of the parent.  The top has none, nor has the empty path. -/
def parent? (p : Path) : Option (List Component) :=
  match p.components.getLast? with
  | none | some .top => none
  | some .here | some (.named _) => some p.components.dropLast

theorem components_of_isAbsolute (h : p.isAbsolute = true) :
    p.components = .top :: p.names.map .named := by
  simp [components, lead, h]

theorem length_components (h : p.isAbsolute = false) : p.components.length = p.relativeLength := by
  cases hdot : p.startsWithDot <;>
    simp [components, lead, relativeLength, h, hdot, Nat.add_comm]

theorem top_notMem_components (h : p.isAbsolute = false) : .top ∉ p.components := by
  cases hdot : p.startsWithDot <;> simp [components, lead, h, hdot]

theorem isBare_iff : p.isBare = true ↔ p.parent? = some [] := by
  cases habsolute : p.isAbsolute with
  | true =>
      refine iff_of_false (by simp [isBare, habsolute]) fun hparent => ?_
      rw [parent?, components_of_isAbsolute habsolute] at hparent
      cases hnames : p.names with
      | nil => simp [hnames] at hparent
      | cons name names =>
          rw [hnames] at hparent
          split at hparent <;> simp_all
  | false =>
      have hbare : p.isBare = true ↔ p.components.length = 1 := by
        simp [isBare, habsolute, length_components habsolute]
      have htop := top_notMem_components habsolute
      rw [hbare, parent?]
      rcases hlast : p.components.getLast? with _ | component
      · simp [List.getLast?_eq_none_iff.mp hlast]
      · obtain ⟨init, heq⟩ := List.getLast?_eq_some_iff.mp hlast
        rw [heq] at htop ⊢
        cases component <;> simp_all

/-! ## The slash -/

theorem parts_of_slash_notMem (hslash : '/' ∉ p.text.toList) (hp : p.isEmpty = false) :
    p.parts = [p.text] := by
  have hsplit : Text.splitWhen (· == '/') p.text.toList = [p.text.toList] :=
    Text.splitWhen_beq_of_notMem hslash
  have hne : p.text ≠ "" := by simpa [isEmpty] using hp
  simp [parts, hsplit, hne]

theorem isBare_of_slash_notMem (hslash : '/' ∉ p.text.toList) (hp : p.isEmpty = false) :
    p.isBare = true := by
  have habsolute : p.isAbsolute = false := by
    rw [isAbsolute, beq_eq_false_iff_ne]
    exact fun hhead => hslash (List.mem_of_mem_head? hhead)
  have hparts := parts_of_slash_notMem hslash hp
  by_cases hdot : p.text = "." <;>
    simp [isBare, habsolute, relativeLength, names, startsWithDot, hparts, hdot]

theorem slash_mem_anchored (hp : p.isEmpty = false) : '/' ∈ p.anchored.text.toList := by
  unfold anchored
  split
  · simp
  · rename_i hbare
    exact not_not.mp fun hslash => hbare (isBare_of_slash_notMem hslash hp)

/-! ## The place -/

theorem parts_dotted (p : Path) : (⟨"./" ++ p.text⟩ : Path).parts = "." :: p.parts :=
  parts_append_slash "." p.text

theorem isAbsolute_dotted (p : Path) : (⟨"./" ++ p.text⟩ : Path).isAbsolute = false := by
  simp [isAbsolute]

theorem filter_components (p : Path) : p.components.filter (· ≠ .here) =
    (if p.isAbsolute then [.top] else []) ++ p.names.map .named := by
  have hnames : (p.names.map Component.named).filter (· ≠ .here) = p.names.map .named :=
    List.filter_eq_self.mpr fun component hcomponent => by
      obtain ⟨name, -, rfl⟩ := List.mem_map.mp hcomponent
      rfl
  rw [components, List.filter_append, hnames, lead]
  split
  · rfl
  · split <;> rfl

/-- But for dots the anchored path has the same components. -/
theorem filter_components_anchored (p : Path) :
    p.anchored.components.filter (· ≠ .here) = p.components.filter (· ≠ .here) := by
  rw [filter_components, filter_components]
  unfold anchored
  split
  · rename_i hbare
    have habsolute : p.isAbsolute = false := by simp_all [isBare]
    have hnames : (⟨"./" ++ p.text⟩ : Path).names = p.names := by
      rw [names, parts_dotted]
      rfl
    rw [isAbsolute_dotted, habsolute, hnames]
  · rfl

theorem exists_part_of_isBare (h : p.isBare = true) :
    ∃ name rest, p.parts = name :: rest ∧ name ≠ "" := by
  cases hparts : p.parts with
  | nil => simp [isBare, relativeLength, names, startsWithDot, hparts] at h
  | cons name rest =>
      have hmem : name ∈ p.parts := hparts ▸ List.mem_cons_self
      obtain ⟨chars, hchars, rfl⟩ := List.mem_map.mp hmem
      exact ⟨_, rest, rfl, by simpa using (List.mem_filter.mp hchars).2⟩

end Path

/-- The directory that a dot asks for is asked for by the name behind it as well. -/
theorem FileTree.walkTo_dot (t : FileTree) (followLast : Bool)
    (follow : Location → Path → List String → Except Errno Spot) (here : Location) (name : String)
    (rest : List String) (hname : name ≠ "") :
    t.walkTo followLast follow here ("." :: name :: rest) =
      t.walkTo followLast follow here (name :: rest) := by
  conv_lhs => rw [walkTo]
  cases hnode : t.node? here with
  | none => simp [walkTo, hnode]
  | some node =>
      cases hdirectory : node.entry.isDirectory with
      | false => simp [walkTo, hnode, hdirectory]
      | true =>
          cases hsearch : node.stamp.isExecutable with
          | false => simp [walkTo, hnode, hdirectory, hsearch, hname]
          | true => simp [hdirectory, hsearch]

theorem FileTree.walk_dot (t : FileTree) (followLast : Bool) (links : Nat) (here : Location)
    (name : String) (rest : List String) (hname : name ≠ "") :
    t.walk followLast links here ("." :: name :: rest) =
      t.walk followLast links here (name :: rest) := by
  cases links with
  | zero => exact t.walkTo_dot followLast _ here name rest hname
  | succ links => exact t.walkTo_dot followLast _ here name rest hname

namespace Path

variable {p : Path} {dir : Location} {t : FileTree}

/-- The anchored path leads to the same place, if its text is not too long for the system. -/
theorem lookup_anchored (t : FileTree) (dir : Location) (followLast : Bool)
    (hp : p.isEmpty = false) (hfits : Fits p.anchored) :
    t.lookup dir p.anchored followLast = t.lookup dir p followLast := by
  unfold anchored at hfits ⊢
  split
  · rename_i hbare
    rw [if_pos hbare] at hfits
    have hfits' : Fits p := by
      simp only [Fits, String.utf8ByteSize_append] at hfits ⊢
      omega
    have hempty : (⟨"./" ++ p.text⟩ : Path).isEmpty = false := by simp [isEmpty]
    have hnul : ("./" ++ p.text).toList.contains '\x00' = p.text.toList.contains '\x00' := by simp
    have hends : (⟨"./" ++ p.text⟩ : Path).endsWithSlash = p.endsWithSlash := by
      have hne : p.text.toList ≠ [] := by simpa [isEmpty] using hp
      rw [endsWithSlash, endsWithSlash, String.toList_append, List.getLast?_append_of_ne_nil _ hne]
    have hsteps : steps ⟨"./" ++ p.text⟩ = "." :: steps p := by
      rw [steps, steps, hends, parts_dotted]
      split <;> rfl
    have horigin : origin dir ⟨"./" ++ p.text⟩ = origin dir p := by
      have habsolute : p.isAbsolute = false := by simp_all [isBare]
      rw [origin, origin, isAbsolute_dotted, habsolute]
    obtain ⟨name, rest, hparts, hname⟩ := exists_part_of_isBare hbare
    obtain ⟨rest', hsteps'⟩ : ∃ rest', steps p = name :: rest' := by
      rw [steps, hparts]
      split <;> exact ⟨_, rfl⟩
    have hwalk : t.walk followLast linkLimit (origin dir p) ("." :: steps p) =
        t.walk followLast linkLimit (origin dir p) (steps p) := by
      rw [hsteps']
      exact t.walk_dot followLast linkLimit (origin dir p) name rest' hname
    simp only [lookup, locate, checkText_of_fits hp hfits', checkText_of_fits hempty hfits, hnul,
      hsteps, horigin, hwalk]
  · rfl

end Path

/-- A program whose path has a slash in it is not searched for. -/
theorem Launch.image_of_slash {path : String} (hslash : '/' ∈ path.toList) (t : FileTree)
    (dir : Location) (search : Octets) (args : List Octets) :
    image t dir search none (Octets.ofString path :: args) =
      imageAt t dir interpreterLimit (Octets.ofString path) (Octets.ofString path :: args) := by
  have hbyte : (47 : UInt8) ∈ Text.Utf8.encode path.toList :=
    Text.Utf8.mem_encode_of_mem (n := 47) (by decide) hslash
  have hmem : '/' ∈ Octets.ofString path := List.mem_map.mpr ⟨47, hbyte, rfl⟩
  have hempty : (Octets.ofString path).isEmpty = false := by
    rw [List.isEmpty_eq_false_iff]
    exact List.ne_nil_of_mem hmem
  simp [image, hempty, hmem]

/-! ## The stages -/

namespace Host

variable {σ : Type}

/-- What a host is asked for about the executable, it is asked for at one path: to remove what is there
before the build, to say whether a file is there afterwards, and to start it as a command.  The build
hands this path on, and its execution comes to what the start of the path comes to. -/
structure KeepsTo (h : Host σ) (settings : Settings) (path : Path) : Prop where
  build (g : Host σ) : (∀ s, g.clock s = h.clock s) → (∀ s, g.remove path s = h.remove path s) →
    (∀ s, g.isFile path s = h.isFile path s) →
    (∀ until? s, g.start settings.build.toCommand until? s =
      h.start settings.build.toCommand until? s) →
    ∀ s, g.build settings s = h.build settings s
  stale (cause : IoError) : cause ≠ .os .noEntry → ∀ s, h.remove path s = .error cause →
    h.build settings s = .returned (.error (.staleArtifact path cause)) s
  produces {capture : Capture} {s t u : σ} :
    h.remove path s = .ok t ∨ h.remove path s = .error (.os .noEntry) ∧ s = t →
    h.capture settings.limit (toString settings.build) settings.build.toCommand t =
      .returned (.ok capture) u →
    h.build settings s =
      .returned (if h.isFile path u then .ok ⟨path, true⟩ else .error (.missingArtifact path)) u
  built {artifact : Artifact} {s t : σ} : h.build settings s = .returned (.ok artifact) t →
    artifact = ⟨path, true⟩ ∧ h.isFile path t = true
  execute (g : Host σ) : (∀ s, g.clock s = h.clock s) → (∀ s, g.remove path s = h.remove path s) →
    (∀ until? s, g.start ⟨path.text, []⟩ until? s = h.start ⟨path.text, []⟩ until? s) →
    ∀ s, g.execute settings ⟨path, true⟩ s = h.execute settings ⟨path, true⟩ s
  refused {cause : IoError} {s : σ} : Command.hasNul path.text = false →
    (∀ until?, h.start ⟨path.text, []⟩ until? s = .error cause) →
    h.execute settings ⟨path, true⟩ s = if h.canCount settings.limit s
      then .returned (.error (.invocation path.text cause)) (h.release ⟨path, true⟩ s)
      else .stopped .aborted (h.release ⟨path, true⟩ s)
  started {started : Started σ} {result : Except Fault Capture} {s t : σ} :
    Command.hasNul path.text = false → h.canCount settings.limit s = true →
    h.start ⟨path.text, []⟩ ((settings.limit.map Span.micros).map Course.pollFrom) s = .ok started →
    started.reply settings.limit path.text (started.course.ending (settings.limit.map Span.micros)) =
      .returned result t →
    h.execute settings ⟨path, true⟩ s = .returned result (h.release ⟨path, true⟩ t)

variable {h : Host σ} {settings : Settings} {artifact : Artifact} {s t : σ}

theorem isPassable_artifact (hnul : Command.hasNul artifact.path.text = false) :
    (⟨artifact.path.text, []⟩ : Command).isPassable = true := by
  simp [Command.isPassable, hnul]

/-- An execution that cannot start the artifact has no other way. -/
theorem execute_of_start_error {cause : IoError} (hnul : Command.hasNul artifact.path.text = false)
    (hstart : ∀ until?, h.start ⟨artifact.path.text, []⟩ until? s = .error cause) :
    h.execute settings artifact s = if h.canCount settings.limit s
      then .returned (.error (.invocation artifact.path.text cause)) (h.release artifact s)
      else .stopped .aborted (h.release artifact s) := by
  have hcapture : h.capture settings.limit (toString artifact) ⟨artifact.path.text, []⟩ s = _ :=
    capture_of_start_error (isPassable_artifact hnul) hstart
  cases hcount : h.canCount settings.limit s with
  | true =>
      rw [hcount, if_pos rfl] at hcapture
      exact (Executes.returned hcapture).unique
  | false =>
      rw [hcount, if_neg Bool.false_ne_true] at hcapture
      exact (Executes.aborted hcapture).unique

theorem execute_of_started {started : Started σ} {result : Except Fault Capture}
    (hnul : Command.hasNul artifact.path.text = false)
    (hcount : h.canCount settings.limit s = true)
    (hstart : h.start ⟨artifact.path.text, []⟩
      ((settings.limit.map Span.micros).map Course.pollFrom) s = .ok started)
    (hreply : started.reply settings.limit artifact.path.text
      (started.course.ending (settings.limit.map Span.micros)) = .returned result t) :
    h.execute settings artifact s = .returned result (h.release artifact t) := by
  have hcapture : h.capture settings.limit (toString artifact) ⟨artifact.path.text, []⟩ s = _ :=
    capture_of_started hcount (isPassable_artifact hnul) hstart
  exact (Executes.returned (hcapture.trans hreply)).unique

theorem clear_of_error {path : Path} {cause : IoError}
    (hcause : cause ≠ .os .noEntry) (hremove : h.remove path s = .error cause) :
    h.clear path s = .error (.staleArtifact path cause) := by
  unfold clear
  split
  · simp_all
  · rename_i herror
    exact absurd (Except.error.inj (hremove.symm.trans herror)) hcause
  · rename_i herror
    obtain rfl := Except.error.inj (hremove.symm.trans herror)
    rfl

theorem clear_of_free {path : Path}
    (hfree : h.remove path s = .ok t ∨ h.remove path s = .error (.os .noEntry) ∧ s = t) :
    h.clear path s = .ok t := by
  obtain hremove | ⟨hremove, rfl⟩ := hfree
  · simp only [clear, hremove]
  · simp only [clear, hremove, Errno.noEntry]

theorem keepsTo_anchored (h : Host σ) (settings : Settings) :
    h.KeepsTo settings settings.executable.anchored where
  build g hclock hremove hfile hstart s := by
    have hcapture (s : σ) :
        g.capture settings.limit (toString settings.build) settings.build.toCommand s =
          h.capture settings.limit (toString settings.build) settings.build.toCommand s :=
      capture_congr (hclock s) (hstart · s)
    simp only [Host.build, clear, hremove, hfile, hcapture]
  stale cause hcause s hremove := by
    simp only [Host.build, clear_of_error hcause hremove]
  produces {capture s t u} hfree hcapture := by
    simp only [Host.build, clear_of_free hfree, hcapture]
    split <;> rfl
  built hbuild := by
    cases builds_of_eq hbuild with
    | built _ _ hfile => exact ⟨rfl, hfile⟩
  execute g hclock hremove hstart s := by
    have hcapture (label : String) :
        g.capture settings.limit label ⟨settings.executable.anchored.text, []⟩ s =
          h.capture settings.limit label ⟨settings.executable.anchored.text, []⟩ s :=
      capture_congr (hclock s) (hstart · s)
    simp only [Host.execute, hcapture, release, hremove]
  refused hnul hstart := execute_of_start_error hnul hstart
  started hnul hcount hstart hreply := execute_of_started hnul hcount hstart hreply

end Host

/-- The executable, at whatever path it may be, is found by that path: with a dot and a slash in front
if the parent of the path is empty, and as it is otherwise, there is a slash in the path, so that
it is not searched for; the path has the same components but for dots and leads to the same place;
and the toolchain clears, looks at, hands on and executes this path. -/
theorem Path.anchored_found {σ : Type} (h : Host σ) (settings : Settings)
    (hp : settings.executable.isEmpty = false) :
    let p := settings.executable
    let q := p.anchored
    q = (if p.parent? = some [] then ⟨"./" ++ p.text⟩ else p) ∧
    '/' ∈ q.text.toList ∧
    (∀ t dir search args, Launch.image t dir search none (Octets.ofString q.text :: args) =
      Launch.imageAt t dir Launch.interpreterLimit (Octets.ofString q.text)
        (Octets.ofString q.text :: args)) ∧
    q.components.filter (· ≠ .here) = p.components.filter (· ≠ .here) ∧
    (Fits q → ∀ t dir followLast, FileTree.lookup t dir q followLast = t.lookup dir p followLast) ∧
    h.KeepsTo settings q := by
  intro p q
  have hslash : '/' ∈ q.text.toList := slash_mem_anchored hp
  refine ⟨?_, hslash, Launch.image_of_slash hslash, filter_components_anchored p,
    fun hfits t dir followLast => lookup_anchored t dir followLast hp hfits,
    h.keepsTo_anchored settings⟩
  simp only [q, anchored, isBare_iff]

/-- A name with a closing dot has no parent but the empty path.  A host that starts nothing tells which path
it was asked for. -/
theorem Path.anchored_found_closing :
    let settings := Settings.standard.withExecutable ⟨"a.out/."⟩
    let tree := FileTree.empty.insert ["a.out"] .directory
    let host : Host Unit :=
      ⟨fun _ _ => .ok (), fun _ _ => true, fun _ _ _ => .error (.os .noEntry), fun _ => 0⟩
    settings.executable.isEmpty = false ∧ settings.executable.parent? = some [] ∧
      settings.executable.anchored = ⟨"./a.out/."⟩ ∧
      tree.lookup [] ⟨"./a.out/."⟩ true = tree.lookup [] ⟨"a.out/."⟩ true ∧
      host.execute settings ⟨⟨"./a.out/."⟩, true⟩ () =
        .returned (.error (.invocation "./a.out/." (.os .noEntry))) () := by
  intro settings tree host
  have hparent : settings.executable.parent? = some [] := by decide
  obtain ⟨hanchored, -, -, -, hlookup, hkeeps⟩ := Path.anchored_found host settings (by decide)
  rw [if_pos hparent] at hanchored
  rw [hanchored] at hlookup hkeeps
  refine ⟨by decide, hparent, hanchored, hlookup (by decide) tree [] true, ?_⟩
  exact (hkeeps.refused (by decide) fun _ => rfl).trans (if_pos (by decide))

end Conformance
