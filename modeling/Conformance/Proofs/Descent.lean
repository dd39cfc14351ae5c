import Conformance.Computer.Machine.Host
import Conformance.Proofs.Stage

/-!
# The descendants of a command

Which processes descend from another one is told by what has happened: the child of a descendant is a
descendant as well, and who ends is none any more.  A command that is started on a machine is a new process
from outside (`Machine.Launches`).  Then all kinds of things happen to it and to the others, and at some
time it is taken away by its number (`Machine.Runs`).  However the processes behave, this is what comes of
every command.
-/

namespace Conformance

namespace Roster

variable {r s : Roster} {e : Event} {events : List Event} {first id group : Nat}

/-! ## Descent -/

/-- The numbers of some processes and their descendants after an event. -/
def Event.descend (kin : Nat → Prop) : Event → Nat → Prop
  | .forks parent child _, id => kin id ∨ id = child ∧ kin parent
  | .ends gone, id => id ≠ gone ∧ kin id
  | .moves .., id | .comes _, id | .notices _, id => kin id

/-- After the events the number belongs to the process that had the first number before them, or to a
descendant of it. -/
def Descends (first : Nat) (events : List Event) : Nat → Prop :=
  events.foldl Event.descend (· = first)

theorem descends_nil : Descends first [] id ↔ id = first := Iff.rfl

theorem descends_concat :
    Descends first (events ++ [e]) id ↔ e.descend (Descends first events) id := by
  simp [Descends]

theorem Descends.concat (h : Descends first events id) (hstays : e ≠ .ends id) :
    Descends first (events ++ [e]) id := by
  rw [descends_concat]
  cases e with
  | forks parent child group => exact .inl h
  | ends gone => exact ⟨fun hgone => hstays (hgone ▸ rfl), h⟩
  | moves _ _ | comes _ | notices _ => exact h

theorem Descends.child {parent : Nat} (h : Descends first events parent) :
    Descends first (events ++ [.forks parent id group]) id :=
  descends_concat.mpr (.inr ⟨rfl, h⟩)

/-! ## What a single event can do -/

/-- Whoever is in a group after an event was there before, or is new in it: a child of a member, a
process that has gone there, or one that has come from outside. -/
theorem has_after (h : (r.after e).has id group) :
    r.has id group ∧ e ≠ .ends id ∨ (∃ parent, e = .forks parent id group) ∨
      e = .moves id group ∨ e = .comes id ∧ group = id := by
  cases e with
  | forks parent child _ =>
    rcases h with h | ⟨rfl, rfl⟩
    · exact .inl ⟨h, Event.noConfusion⟩
    · exact .inr (.inl ⟨parent, rfl⟩)
  | moves _ _ =>
    rcases h with ⟨_, h⟩ | ⟨rfl, rfl⟩
    · exact .inl ⟨h, Event.noConfusion⟩
    · exact .inr (.inr (.inl rfl))
  | ends gone => exact .inl ⟨h.2, fun heq => h.1 (Event.ends.inj heq).symm⟩
  | comes _ =>
    rcases h with h | ⟨rfl, rfl⟩
    · exact .inl ⟨h, Event.noConfusion⟩
    · exact .inr (.inr (.inr ⟨rfl, rfl⟩))
  | notices _ => exact .inl ⟨h, Event.noConfusion⟩

theorem Holds.taken (h : r.Holds id) : r.Taken id := by
  obtain ⟨group, h⟩ := h
  exact .inr ⟨id, group, h, .inl rfl⟩

theorem Holds.after (h : r.Holds id) (hstays : e ≠ .ends id) : (r.after e).Holds id := by
  obtain ⟨group, h⟩ := h
  cases e with
  | forks _ _ _ | comes _ => exact ⟨group, .inl h⟩
  | moves mover target =>
    by_cases hid : id = mover
    · exact ⟨target, .inr ⟨hid, rfl⟩⟩
    · exact ⟨group, .inl ⟨hid, h⟩⟩
  | ends gone => exact ⟨group, fun hgone => hstays (hgone ▸ rfl), h⟩
  | notices _ => exact ⟨group, h⟩

/-- One who is there before an event has not become a descendant by it. -/
theorem descends_of_concat (hallows : r.Allows e) (hholds : r.Holds id)
    (h : Descends first (events ++ [e]) id) : Descends first events id := by
  rw [descends_concat] at h
  cases e with
  | forks parent child _ =>
    rcases h with h | ⟨rfl, _⟩
    · exact h
    · exact absurd hholds.taken hallows.2
  | ends _ => exact h.2
  | moves _ _ | comes _ | notices _ => exact h

/-! ## What a history can do -/

namespace Steps

theorem holds_of_descends (hsteps : Steps r events s) (hfirst : r.Holds first)
    (h : Descends first events id) : s.Holds id := by
  induction hsteps generalizing id with
  | done => exact descends_nil.mp h ▸ hfirst
  | @next _ _ e _ _ ih =>
    rw [descends_concat] at h
    cases e with
    | forks parent child group =>
      rcases h with h | ⟨rfl, _⟩
      · exact (ih h).after Event.noConfusion
      · exact ⟨group, .inr ⟨rfl, rfl⟩⟩
    | ends gone => exact (ih h.2).after fun heq => h.1 (Event.ends.inj heq).symm
    | moves _ _ | comes _ | notices _ => exact (ih h).after Event.noConfusion

/-- As long as the end of a process from outside has not been noticed, it is awaited. -/
theorem awaits_or_noticed (hsteps : Steps r events s) (hfirst : r.awaits first) :
    s.awaits first ∨ .notices first ∈ events := by
  induction hsteps with
  | done => exact .inl hfirst
  | @next _ _ e _ _ ih =>
    rcases ih with h | h
    · cases e with
      | forks _ _ _ | moves _ _ | ends _ => exact .inl h
      | comes _ => exact .inl (.inl h)
      | notices seen =>
        by_cases hseen : first = seen
        · exact .inr (by simp [hseen])
        · exact .inl ⟨hseen, h⟩
    · exact .inr (List.mem_append_left _ h)

end Steps

end Roster

open Roster (Event Steps Descends)

/-! ## Commands that are taken away -/

namespace Machine

variable {m : Machine} {w : Watch} {id group i : Nat}

theorem roster_has_foldl_finish (s : ExitStatus) (l : List Process) :
    (l.foldl (fun m p => m.finish p.id s) m).roster.has i group ↔
      m.roster.has i group ∧ ∀ p ∈ l, i ≠ p.id := by
  induction l generalizing m with
  | nil => simp
  | cons p l ih => rw [List.foldl_cons, ih, roster_has_finish, List.forall_mem_cons, and_assoc]

theorem awaited_foldl_finish (s : ExitStatus) (l : List Process) :
    (l.foldl (fun m p => m.finish p.id s) m).awaited = m.awaited := by
  induction l generalizing m with
  | nil => rfl
  | cons p l ih => rw [List.foldl_cons, ih, awaited_finish]

theorem roster_has_killGroup :
    (m.killGroup group).roster.has id i ↔ m.roster.has id i ∧ ¬m.roster.has id group := by
  rw [killGroup, roster_has_foldl_finish]
  simp only [List.mem_filter, decide_eq_true_eq, roster_has, not_exists, not_and]
  grind

/-- A command is taken away with all its group, and by itself as long as its end has not been
noticed. -/
theorem isAlive_takeAway : (m.takeAway w).isAlive id = true ↔
    m.isAlive id = true ∧ ¬m.roster.has id w.id ∧ ¬(id = w.id ∧ m.roster.awaits w.id) := by
  have hawaited : (m.killGroup w.id).awaited = m.awaited := awaited_foldl_finish _ _
  have hroster : (m.takeAway w).roster.Holds id ↔ (if m.awaited.contains w.id then
      (m.killGroup w.id).finish w.id (.signal .kill) else m.killGroup w.id).roster.Holds id := by
    rw [← hawaited]
    rfl
  rw [← holds_iff, ← holds_iff, hroster, roster_awaits]
  split
  · rename_i h
    have hmem : w.id ∈ m.awaited := by simpa using h
    simp only [Roster.Holds, roster_has_finish, roster_has_killGroup, hmem, and_true]
    grind
  · rename_i h
    have hmem : w.id ∉ m.awaited := by simpa using h
    simp only [Roster.Holds, roster_has_killGroup, hmem, and_false, not_false_eq_true, and_true]
    grind

/-- A command is started in a directory: the machine with its process, and the watch that is kept on it. -/
def Launches (m : Machine) (dir : Location) (environment : List (Octets × Octets))
    (command : Command) (polls : Bool) (begun : Machine) (first : Watch) : Prop :=
  ∃ image, m.commandImage dir environment command = .ok image ∧
    m.launch dir environment polls image.1 image.2 = (begun, first)

/-- The history of a command that has begun: things have happened up to those who were there last, and then
the command has been taken away. -/
structure Runs (begun : Machine) (first : Watch) (events : List Event) (last : Roster)
    (after : Machine) : Prop where
  steps : Steps begun.roster events last
  takenAway : ∃ l : Machine, l.roster = last ∧ after = l.takeAway first

theorem Runs.isAlive_iff {begun after : Machine} {first : Watch} {events : List Event}
    {last : Roster} (h : begun.Runs first events last after) : after.isAlive id = true ↔
      last.Holds id ∧ ¬last.has id first.id ∧ ¬(id = first.id ∧ last.awaits first.id) := by
  obtain ⟨l, rfl, rfl⟩ := h.takenAway
  rw [isAlive_takeAway, holds_iff]

theorem roster_launch (m : Machine) (dir : Location) (environment : List (Octets × Octets))
    (polls : Bool) (name : String) (argv : List Octets) :
    ¬m.roster.Taken (m.launch dir environment polls name argv).2.id ∧
      (m.launch dir environment polls name argv).1.roster =
        m.roster.after (.comes (m.launch dir environment polls name argv).2.id) := by
  have hleader (world : Machine) (leader : Nat → Process) :
      ¬m.roster.Taken ((m.inWorld world).addLeader leader).1 ∧
        ((m.inWorld world).addLeader leader).2.roster =
          m.roster.after (.comes ((m.inWorld world).addLeader leader).1) := by
    rw [← m.roster_inWorld world]
    exact ⟨not_taken_addLeader leader, roster_addLeader leader⟩
  simp only [launch]
  split <;> exact hleader _ _

namespace Launches

variable {dir : Location} {environment : List (Octets × Octets)} {command : Command} {polls : Bool}
  {begun : Machine} {first : Watch}

theorem comes (h : m.Launches dir environment command polls begun first) :
    ¬m.roster.Taken first.id ∧ begun.roster = m.roster.after (.comes first.id) := by
  obtain ⟨image, -, hlaunch⟩ := h
  have hroster := m.roster_launch dir environment polls image.1 image.2
  rwa [hlaunch] at hroster

theorem holds_first (h : m.Launches dir environment command polls begun first) :
    begun.roster.Holds first.id := by
  rw [h.comes.2]
  exact ⟨first.id, .inr ⟨rfl, rfl⟩⟩

theorem awaits_first (h : m.Launches dir environment command polls begun first) :
    begun.roster.awaits first.id := by
  rw [h.comes.2]
  exact .inr rfl

/-- At first the process of the command belongs to its own group only, and nobody else does. -/
theorem first_group (h : m.Launches dir environment command polls begun first)
    (hhas : begun.roster.has id group) (hmeets : id = first.id ∨ group = first.id) :
    id = first.id ∧ group = first.id := by
  obtain ⟨hfresh, hcomes⟩ := h.comes
  rw [hcomes] at hhas
  rcases hhas with hhas | hnew
  · exact absurd (.inr ⟨id, group, hhas, hmeets⟩) hfresh
  · exact hnew

end Launches

/-! ## What comes of a command -/

section Capture

variable {b : Behaviour} {dir : Location} {environment : List (Octets × Octets)} {command : Command}

theorem launches_of_start {limit : Option Nat} {started : Started Machine}
    (hstart : (hostOf b dir environment).start command limit m = .ok started) :
    ∃ first, m.Launches dir environment command limit.isSome started.begun first ∧
      ∀ time, ∃ events last, started.begun.Runs first events last (started.takenAway time) := by
  simp only [hostOf, startCommand, bind, Except.bind] at hstart
  split at hstart
  · cases hstart
  · rename_i image himage
    rcases hlaunch : m.launch dir environment limit.isSome image.1 image.2 with ⟨begun, first⟩
    rw [hlaunch] at hstart
    obtain rfl := Except.ok.inj hstart
    refine ⟨first, ⟨image, himage, hlaunch⟩, fun time => ?_⟩
    obtain ⟨events, hsteps⟩ := b.evolves begun first limit time
    exact ⟨events, _, hsteps, _, rfl, rfl⟩

/-- A command is not started, or it is waited for without an end, or it is taken away in whatever way the
wait ends: with its output, out of time, or with the error of a wait that fails. -/
theorem capture_runs (b : Behaviour) (dir : Location) (environment : List (Octets × Octets))
    (limit : Option Span) (label : String) (command : Command) (m : Machine) :
    let captured := (hostOf b dir environment).capture limit label command m
    captured = .stopped .aborted m ∨
      (∃ cause, captured = .returned (.error (.invocation label cause)) m) ∨
      ∃ begun first, m.Launches dir environment command limit.isSome begun first ∧
        (captured = .stopped .endless begun ∨ ∃ result events last after,
          captured = .returned result after ∧ begun.Runs first events last after) := by
  intro captured
  have hruns {started : Started Machine} (hstart : (hostOf b dir environment).start command
      ((limit.map Span.micros).map Course.pollFrom) m = .ok started) :
      ∃ first, m.Launches dir environment command limit.isSome started.begun first ∧
        ∀ time, ∃ events last, started.begun.Runs first events last (started.takenAway time) := by
    simpa using launches_of_start hstart
  have htaken {started : Started Machine} {result : Except Fault Capture} {time : Nat}
      (hstart : (hostOf b dir environment).start command
        ((limit.map Span.micros).map Course.pollFrom) m = .ok started)
      (hresult : captured = .returned result (started.takenAway time)) :
      ∃ begun first, m.Launches dir environment command limit.isSome begun first ∧
        (captured = .stopped .endless begun ∨ ∃ result events last after,
          captured = .returned result after ∧ begun.Runs first events last after) := by
    obtain ⟨first, hlaunches, hhistory⟩ := hruns hstart
    obtain ⟨events, last, hlast⟩ := hhistory time
    exact ⟨_, first, hlaunches, .inr ⟨result, events, last, _, hresult, hlast⟩⟩
  generalize hcaptured : captured = reply
  rw [← hcaptured]
  cases Host.captures_of_eq hcaptured with
  | aborted hcount => exact .inl hcaptured
  | notStarted hcount hcause => exact .inr (.inl ⟨_, hcaptured⟩)
  | finished hstart hending => exact .inr (.inr (htaken hstart hcaptured))
  | failed hstart hending => exact .inr (.inr (htaken hstart hcaptured))
  | overtime hstart hending => exact .inr (.inr (htaken hstart hcaptured))
  | endless hstart hending =>
      obtain ⟨first, hlaunches, -⟩ := hruns hstart
      exact .inr (.inr ⟨_, first, hlaunches, .inl hcaptured⟩)

end Capture

/-! ## Commands whose doings are given -/

/-- What is seen of a command that exits at once but whose output is kept open for a second. -/
def lingering : Course := ⟨some (0, .ok (.code 0)), some (1000000, []), some 0⟩

/-- The same is done by the process of every command and by the others. -/
def Behaviour.playing (play : Nat → Machine → Machine)
    (hplay : ∀ id (m : Machine), m.roster.Evolves (play id m).roster) : Behaviour where
  conduct begun first _ := (lingering, fun _ => play first.id begun)
  evolves m w _ _ := hplay w.id m

/-- A machine that has no files but a program and the number that was given last. -/
def bare : Machine :=
  let counted := FileTree.empty.insert lastNumberPlace (.file (numberContent 4000))
  .start (counted.insert ["c"] (.file (.program "true")))

/-- Starts the program of that machine. -/
def bareCommand : Command := ⟨"/c", []⟩

/-- The machine when the command has begun, and the watch on it. -/
def bareLaunch (m : Machine) : Machine × Watch := m.launch [] [] false "true" ["/c".toList]

theorem launches_bareLaunch
    (himage : (m.commandImage [] [] bareCommand).toOption = some ("true", ["/c".toList])) :
    m.Launches [] [] bareCommand false m.bareLaunch.1 m.bareLaunch.2 := by
  refine ⟨("true", ["/c".toList]), ?_, rfl⟩
  cases hok : m.commandImage [] [] bareCommand with
  | error cause =>
      rw [hok] at himage
      cases himage
  | ok image =>
      rw [hok] at himage
      exact congrArg Except.ok (Option.some.inj himage)

theorem capture_playing {play : Nat → Machine → Machine}
    {hplay : ∀ id (m : Machine), m.roster.Evolves (play id m).roster} {begun : Machine} {first : Watch}
    (hlaunches : m.Launches [] [] bareCommand false begun first) :
    (hostOf (.playing play hplay) [] []).capture none "/c" bareCommand m =
      .returned (.ok ⟨[], some 0⟩) ((play first.id begun).takeAway first) := by
  obtain ⟨image, himage, hlaunch⟩ := hlaunches
  have hstart : (hostOf (.playing play hplay) [] []).start bareCommand none m =
      .ok ⟨begun, lingering, fun _ => (play first.id begun).takeAway first⟩ := by
    simp only [hostOf, startCommand, himage, bind, Except.bind, Option.isSome_none, hlaunch,
      Behaviour.playing]
    rfl
  have hcount : (hostOf (.playing play hplay) [] []).canCount none m = true := rfl
  exact Host.capture_of_started hcount (by decide) hstart

variable {child : Nat}

/-- A process ends after it has had a child, which may go to a group of its own. -/
def leaveChild (goes : Bool) (id : Nat) (m : Machine) : Machine :=
  let (child, m) := m.addChild id Act.nobody
  let m := if goes then m.regroup child else m
  m.finish id (.code 0)

theorem evolves_leaveChild (goes : Bool) (id : Nat) (m : Machine) :
    m.roster.Evolves (m.leaveChild goes id).roster := by
  refine (evolves_addChild id Act.nobody).trans (.trans ?_ (evolves_finish _))
  split
  · exact evolves_regroup
  · exact .refl

theorem steps_leaveChild (hid : (m.process? id).map Process.group = some group)
    (hchild : (m.addChild id Act.nobody).1 = child) (goes : Bool) :
    Steps m.roster (.forks id child group ::
      (if goes then [.moves child child, .ends id] else [.ends id])) (m.leaveChild goes id).roster := by
  have hforks := steps_addChild hid hchild
  have hparent : (m.addChild id Act.nobody).2.isAlive id = true :=
    (isAlive_addChild hid).mpr (.inl (isAlive_of_group hid))
  simp only [leaveChild, hchild]
  cases goes with
  | false => exact hforks.append (steps_finish (.code 0) hparent)
  | true =>
    have hmoves := steps_regroup ((isAlive_addChild hid).mpr (.inr hchild.symm))
    rw [← isAlive_regroup child] at hparent
    exact (hforks.append hmoves).append (steps_finish (.code 0) hparent)

theorem launches_bare : bare.Launches [] [] bareCommand false bare.bareLaunch.1 bare.bareLaunch.2 :=
  launches_bareLaunch (by decide +kernel)

theorem id_bareLaunch : bare.bareLaunch.2.id = 4001 := by decide +kernel

/-- The command has a child, which may go to a group of its own, and ends. -/
theorem runs_bareLaunch (goes : Bool) : bare.bareLaunch.1.Runs bare.bareLaunch.2
    (.forks 4001 4002 4001 :: if goes then [.moves 4002 4002, .ends 4001] else [.ends 4001])
    (leaveChild goes bare.bareLaunch.2.id bare.bareLaunch.1).roster
    ((leaveChild goes bare.bareLaunch.2.id bare.bareLaunch.1).takeAway bare.bareLaunch.2) := by
  have hgroup : (bare.bareLaunch.1.process? 4001).map Process.group = some 4001 := by decide +kernel
  have hchild : (bare.bareLaunch.1.addChild 4001 Act.nobody).1 = 4002 := by decide +kernel
  refine ⟨?_, _, rfl, rfl⟩
  rw [id_bareLaunch]
  exact steps_leaveChild hgroup hchild goes

end Machine

end Conformance
