import Conformance.Computer.Machine.Basic

/-!
# Who is there

The numbers and the groups of the processes, without all that the processes do, and the numbers that
are still awaited outside.  Whatever happens on a machine, this changes only by a few kinds of events:
a process has a child, goes to a group, ends, comes from outside, or its end is noticed outside.
-/

namespace Conformance

/-- The processes by their numbers and groups, and the numbers whose ends are still to be noticed. -/
@[ext]
structure Roster where
  has : Nat → Nat → Prop
  awaits : Nat → Prop

namespace Roster

def Holds (r : Roster) (id : Nat) : Prop := ∃ group, r.has id group

/-- No new process can get the number. -/
def Taken (r : Roster) (id : Nat) : Prop :=
  r.awaits id ∨ ∃ i group, r.has i group ∧ (i = id ∨ group = id)

/-- What can happen to processes. -/
inductive Event where
  /-- The new process gets a number, and the group of its parent. -/
  | forks (parent child group : Nat)
  | moves (id group : Nat)
  | ends (id : Nat)
  /-- A process that leads a group of its own is started from outside. -/
  | comes (id : Nat)
  /-- The end of a process that came from outside is noticed there. -/
  | notices (id : Nat)
  deriving DecidableEq, Repr

/-- What has to hold for an event to happen.  A process goes to a group of its own or to one that is
there. -/
def Allows (r : Roster) : Event → Prop
  | .forks parent child group => r.has parent group ∧ ¬r.Taken child
  | .moves id group => r.Holds id ∧ (group = id ∨ ∃ i, r.has i group)
  | .ends id => r.Holds id
  | .comes id => ¬r.Taken id
  | .notices id => ¬r.Holds id

/-- Who is there after an event. -/
def after (r : Roster) : Event → Roster
  | .forks _ child group => { r with has i g := r.has i g ∨ i = child ∧ g = group }
  | .moves id group => { r with has i g := i ≠ id ∧ r.has i g ∨ i = id ∧ g = group }
  | .ends id => { r with has i g := i ≠ id ∧ r.has i g }
  | .comes id =>
      { has i g := r.has i g ∨ i = id ∧ g = id, awaits i := r.awaits i ∨ i = id }
  | .notices id => { r with awaits i := i ≠ id ∧ r.awaits i }

/-- Events that lead from one roster to another, the first one first. -/
inductive Steps (first : Roster) : List Event → Roster → Prop where
  | done : Steps first [] first
  | next {events : List Event} {r : Roster} {e : Event} (hsteps : Steps first events r)
      (hallows : r.Allows e) : Steps first (events ++ [e]) (r.after e)

theorem Steps.single {r : Roster} {e : Event} (hallows : r.Allows e) : Steps r [e] (r.after e) :=
  .next .done hallows

theorem Steps.append {r s t : Roster} {events more : List Event} (hr : Steps r events s)
    (hs : Steps s more t) : Steps r (events ++ more) t := by
  induction hs with
  | done => simpa using hr
  | next _ hallows ih =>
    rw [← List.append_assoc]
    exact ih.next hallows

/-- Some events lead from one roster to another. -/
def Evolves (r s : Roster) : Prop := ∃ events, Steps r events s

namespace Evolves

variable {r s t : Roster}

theorem refl : r.Evolves r := ⟨[], .done⟩

theorem of_eq (h : s = r) : r.Evolves s := h ▸ refl

theorem trans (hr : r.Evolves s) (hs : s.Evolves t) : r.Evolves t := by
  obtain ⟨events, hr⟩ := hr
  obtain ⟨more, hs⟩ := hs
  exact ⟨events ++ more, hr.append hs⟩

end Evolves

end Roster

namespace Machine

open Roster (Steps)

variable {m : Machine} {id group i : Nat}

/-- Who is there on a machine. -/
def roster (m : Machine) : Roster where
  has id group := ∃ p ∈ m.processes, p.id = id ∧ p.group = group
  awaits id := id ∈ m.awaited

theorem roster_has : m.roster.has id group ↔ ∃ p ∈ m.processes, p.id = id ∧ p.group = group := Iff.rfl

theorem roster_awaits : m.roster.awaits id ↔ id ∈ m.awaited := Iff.rfl

theorem roster_eq_of_mem {n : Machine} (hprocesses : ∀ p, p ∈ n.processes ↔ p ∈ m.processes)
    (hawaited : n.awaited = m.awaited) : n.roster = m.roster := by
  ext <;> simp [roster_has, roster_awaits, hprocesses, hawaited]

theorem holds_iff : m.roster.Holds id ↔ m.isAlive id = true := by
  simp only [Roster.Holds, roster_has, isAlive, List.any_eq_true, decide_eq_true_eq]
  grind

theorem has_of_process? {p : Process} (h : m.process? id = some p) : m.roster.has id p.group := by
  have hid : p.id = id := by simpa using List.find?_some h
  exact ⟨p, List.mem_of_find?_eq_some h, hid, rfl⟩

theorem isAlive_of_group (h : (m.process? id).map Process.group = some group) :
    m.isAlive id = true := by
  obtain ⟨p, hp, -⟩ := Option.map_eq_some_iff.mp h
  exact holds_iff.mp ⟨p.group, has_of_process? hp⟩

theorem exists_process? (h : m.isAlive id = true) : ∃ p, m.process? id = some p := by
  obtain ⟨p, hp, hid⟩ := List.any_eq_true.mp h
  exact Option.isSome_iff_exists.mp (List.find?_isSome.mpr ⟨p, hp, hid⟩)

theorem process?_of_not_isAlive (h : m.isAlive id = false) : m.process? id = none :=
  List.find?_eq_none.mpr (List.any_eq_false.mp h)

/-! ## Numbers for new processes -/

theorem taken_iff : m.roster.Taken id ↔ m.isTaken id = true := by
  simp only [Roster.Taken, roster_awaits, roster_has, isTaken, Bool.or_eq_true, List.contains_iff_mem,
    List.any_eq_true, decide_eq_true_eq]
  grind

theorem not_isTaken_of_freeFrom? {first count : Nat} (h : m.freeFrom? first count = some id) :
    m.isTaken id = false := by
  induction count generalizing first with
  | zero => simp [freeFrom?] at h
  | succ count ih =>
    rw [freeFrom?] at h
    split at h
    · exact ih h
    · rename_i hfree
      cases h
      simpa using hfree

private theorem le_foldr_max {l : List Nat} {n : Nat} (h : n ∈ l) : n ≤ l.foldr max 0 := by
  induction l with
  | nil => cases h
  | cons k l ih => grind

theorem not_isTaken_beyondTaken : m.isTaken m.beyondTaken = false := by
  have hlt {n : Nat} (h : n ∈ m.awaited ++ m.processes.flatMap fun p => [p.id, p.group]) :
      n ≠ m.beyondTaken := by
    have := le_foldr_max h
    unfold beyondTaken
    omega
  simp only [isTaken, Bool.or_eq_false_iff, List.any_eq_false]
  refine ⟨?_, fun p hp => ?_⟩
  · simpa using fun h => hlt (List.mem_append_left _ h) rfl
  · have hmem {n : Nat} (hn : n ∈ [p.id, p.group]) :
        n ∈ m.awaited ++ m.processes.flatMap fun p => [p.id, p.group] :=
      List.mem_append_right _ (List.mem_flatMap.mpr ⟨p, hp, hn⟩)
    have hid : p.id ≠ m.beyondTaken := hlt (hmem (by simp))
    have hgroup : p.group ≠ m.beyondTaken := hlt (hmem (by simp))
    simp [hid, hgroup]

/-- A new process gets a number that no process and no group has, and that nobody waits for. -/
theorem not_taken_freshNumber : ¬m.roster.Taken m.freshNumber.1 := by
  rw [taken_iff, Bool.not_eq_true]
  simp only [freshNumber]
  cases hlater : m.freeFrom? (m.lastNumber + 1) (numberLimit - (m.lastNumber + 1)) with
  | some id => exact not_isTaken_of_freeFrom? hlater
  | none =>
    cases hagain : m.freeFrom? firstNumber (numberLimit - firstNumber) with
    | some id => exact not_isTaken_of_freeFrom? hagain
    | none => exact not_isTaken_beyondTaken

theorem processes_setLastNumber : (m.setLastNumber id).processes = m.processes := by
  unfold setLastNumber
  split <;> rfl

theorem roster_setLastNumber : (m.setLastNumber id).roster = m.roster := by
  unfold setLastNumber
  split <;> rfl

theorem roster_freshNumber : m.freshNumber.2.roster = m.roster := roster_setLastNumber

theorem processes_freshNumber : m.freshNumber.2.processes = m.processes := processes_setLastNumber

/-! ## What the parts of a machine's work do -/

theorem roster_update (p : Process) : (m.update p).roster = m.roster := by
  ext i g
  · simp only [roster_has, update, List.mem_map]
    constructor
    · rintro ⟨_, ⟨q, hq, rfl⟩, hid, hgroup⟩
      refine ⟨q, hq, ?_⟩
      split at hid <;> simp_all
    · rintro ⟨q, hq, hid, hgroup⟩
      refine ⟨_, ⟨q, hq, rfl⟩, ?_⟩
      split <;> simp_all
  · rfl

theorem mem_add {p : Process} : (∃ q ∈ m.processes ++ [p], q.id = id ∧ q.group = group) ↔
    m.roster.has id group ∨ id = p.id ∧ group = p.group := by
  simp only [roster_has, List.mem_append, List.mem_singleton, or_and_right, exists_or, exists_eq_left]
  rw [eq_comm (a := p.id), eq_comm (a := p.group)]

theorem roster_inWorld (world : Machine) : (m.inWorld world).roster = m.roster := rfl

theorem roster_rotate : (m.rotate id).roster = m.roster := by
  refine roster_eq_of_mem (fun p => ?_) rfl
  simp only [rotate, List.mem_append, List.mem_filter]
  grind

theorem roster_finish {p : Process} (s : ExitStatus) (h : m.process? id = some p) :
    (m.finish id s).roster = m.roster.after (.ends id) := by
  have hrest : ({ m with
      processes := m.processes.filter (·.id != id), ended := (id, s) :: m.ended } : Machine).roster =
      m.roster.after (.ends id) := by
    ext i g
    · simp only [roster_has, Roster.after, List.mem_filter, bne_iff_ne]
      grind
    · rfl
  simp only [finish, h]
  split
  · split
    · rw [roster_update, hrest]
    · exact hrest
  · exact hrest

theorem steps_finish (s : ExitStatus) (h : m.isAlive id = true) :
    Steps m.roster [.ends id] (m.finish id s).roster := by
  obtain ⟨p, hp⟩ := exists_process? h
  rw [roster_finish s hp]
  exact .single ⟨p.group, has_of_process? hp⟩

theorem finish_of_not_isAlive (s : ExitStatus) (h : m.isAlive id = false) : m.finish id s = m := by
  rw [finish, process?_of_not_isAlive h]

theorem roster_has_finish (s : ExitStatus) :
    (m.finish id s).roster.has i group ↔ m.roster.has i group ∧ i ≠ id := by
  cases h : m.isAlive id with
  | true =>
    obtain ⟨p, hp⟩ := exists_process? h
    rw [roster_finish s hp]
    exact and_comm
  | false =>
    have hid : ¬m.roster.Holds id := by simp [holds_iff, h]
    rw [finish_of_not_isAlive s h]
    exact ⟨fun hhas => ⟨hhas, fun heq => hid ⟨group, heq ▸ hhas⟩⟩, And.left⟩

theorem awaited_finish (s : ExitStatus) : (m.finish id s).awaited = m.awaited := by
  simp only [finish, update]
  repeat' split
  all_goals rfl

theorem evolves_finish (s : ExitStatus) : m.roster.Evolves (m.finish id s).roster := by
  cases h : m.isAlive id with
  | true => exact ⟨_, steps_finish s h⟩
  | false =>
    rw [finish_of_not_isAlive s h]
    exact .refl

theorem roster_regroup {p : Process} (h : m.process? id = some p) :
    (m.regroup id).roster = m.roster.after (.moves id id) := by
  ext i g
  · simp only [roster_has, Roster.after, regroup, List.mem_map]
    constructor
    · rintro ⟨_, ⟨q, hq, rfl⟩, hid, hgroup⟩
      by_cases hmoved : q.id = id
      · rw [if_pos hmoved] at hid hgroup
        exact .inr ⟨hid.symm.trans hmoved, hgroup.symm⟩
      · rw [if_neg hmoved] at hid hgroup
        exact .inl ⟨hid ▸ hmoved, q, hq, hid, hgroup⟩
    · rintro (⟨hne, q, hq, rfl, rfl⟩ | ⟨hi, hg⟩)
      · exact ⟨q, ⟨q, hq, if_neg hne⟩, rfl, rfl⟩
      · have hp := List.mem_of_find?_eq_some h
        have hid : p.id = id := by simpa using List.find?_some h
        exact ⟨_, ⟨p, hp, rfl⟩, by simp [hid, hi, hg]⟩
  · rfl

theorem steps_regroup (h : m.isAlive id = true) :
    Steps m.roster [.moves id id] (m.regroup id).roster := by
  obtain ⟨p, hp⟩ := exists_process? h
  rw [roster_regroup hp]
  exact .single ⟨⟨p.group, has_of_process? hp⟩, .inl rfl⟩

theorem regroup_of_not_isAlive (h : m.isAlive id = false) : m.regroup id = m := by
  have hother : ∀ q ∈ m.processes, q.id ≠ id := by simpa [isAlive] using h
  have hsame : m.processes.map (fun q => if q.id = id then { q with group := id } else q) =
      m.processes := by
    rw [List.map_congr_left (g := fun q => q) (fun q hq => if_neg (hother q hq)), List.map_id']
  rw [regroup, hsame]

theorem isAlive_regroup (group : Nat) : (m.regroup group).isAlive id = m.isAlive id := by
  simp only [isAlive, regroup, List.any_map]
  congr 1
  funext p
  simp only [Function.comp_apply]
  split <;> rfl

theorem evolves_regroup : m.roster.Evolves (m.regroup id).roster := by
  cases h : m.isAlive id with
  | true => exact ⟨_, steps_regroup h⟩
  | false =>
    rw [regroup_of_not_isAlive h]
    exact .refl

theorem process?_freshNumber : m.freshNumber.2.process? id = m.process? id := by
  rw [process?, processes_freshNumber, process?]

theorem roster_addChild {parent : Nat} {p : Process} (child : Nat → Process)
    (h : m.process? parent = some p) : (m.addChild parent child).2.roster =
      m.roster.after (.forks parent (m.addChild parent child).1 p.group) := by
  simp only [addChild, process?_freshNumber, h]
  rw [← roster_freshNumber (m := m)]
  ext i g
  · exact mem_add
  · rfl

theorem not_taken_addChild (parent : Nat) (child : Nat → Process) :
    ¬m.roster.Taken (m.addChild parent child).1 := by
  have hfst : (m.addChild parent child).1 = m.freshNumber.1 := by
    simp only [addChild]
    split <;> rfl
  exact hfst ▸ not_taken_freshNumber

theorem steps_addChild {parent : Nat} {child : Nat → Process}
    (hparent : (m.process? parent).map Process.group = some group)
    (hid : (m.addChild parent child).1 = id) :
    Steps m.roster [.forks parent id group] (m.addChild parent child).2.roster := by
  obtain ⟨p, hp, rfl⟩ := Option.map_eq_some_iff.mp hparent
  rw [roster_addChild child hp, hid]
  exact .single ⟨has_of_process? hp, hid ▸ not_taken_addChild parent child⟩

theorem isAlive_addChild {parent : Nat} {child : Nat → Process}
    (h : (m.process? parent).map Process.group = some group) :
    (m.addChild parent child).2.isAlive id = true ↔
      m.isAlive id = true ∨ id = (m.addChild parent child).1 := by
  obtain ⟨p, hp, -⟩ := Option.map_eq_some_iff.mp h
  simp [← holds_iff, roster_addChild child hp, Roster.Holds, Roster.after, exists_or]

theorem evolves_addChild (parent : Nat) (child : Nat → Process) :
    m.roster.Evolves (m.addChild parent child).2.roster := by
  cases h : m.process? parent with
  | none =>
    simp only [addChild, process?_freshNumber, h]
    exact .of_eq roster_freshNumber
  | some p => exact ⟨_, steps_addChild (congrArg (Option.map Process.group) h) rfl⟩

theorem steps_noticeEnd (h : m.isAlive id = false) :
    Steps m.roster [.notices id] (m.noticeEnd id).roster := by
  have hafter : (m.noticeEnd id).roster = m.roster.after (.notices id) := by
    rw [noticeEnd, if_neg (by simp [h])]
    ext i
    · rfl
    · simp [roster_awaits, Roster.after, and_comm]
  rw [hafter]
  refine .single fun hholds => ?_
  rw [holds_iff, h] at hholds
  cases hholds

theorem evolves_noticeEnd : m.roster.Evolves (m.noticeEnd id).roster := by
  cases h : m.isAlive id with
  | true =>
    rw [noticeEnd, if_pos h]
    exact .refl
  | false => exact ⟨_, steps_noticeEnd h⟩

theorem not_taken_addLeader (leader : Nat → Process) :
    ¬m.roster.Taken (m.addLeader leader).1 := not_taken_freshNumber

theorem roster_addLeader (leader : Nat → Process) :
    (m.addLeader leader).2.roster = m.roster.after (.comes (m.addLeader leader).1) := by
  simp only [addLeader]
  rw [← roster_freshNumber (m := m)]
  ext i g
  · exact mem_add
  · simp only [roster_awaits, Roster.after, List.mem_cons]
    exact or_comm

end Machine

end Conformance
