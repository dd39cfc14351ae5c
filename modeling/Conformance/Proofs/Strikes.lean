import Conformance.Proofs.Descent

/-!
# Whom the end of a command strikes

A command is taken away by the number of its process, which is that of its group as well.  As long as the
end of the process has not been noticed, or somebody is in the group, nobody else can get the number;
but afterwards it can be given again, and then others are struck.
-/

namespace Conformance

namespace Roster

variable {r s : Roster} {e : Event} {events : List Event} {first id group : Nat}

/-- At some point of a history an event happens of which something holds, along with all that was before. -/
def Once (happens : List Event → Event → Prop) (events : List Event) : Prop :=
  ∃ before e since, events = before ++ e :: since ∧ happens before e

namespace Once

variable {happens : List Event → Event → Prop}

theorem concat (h : Once happens events) : Once happens (events ++ [e]) := by
  obtain ⟨before, e', since, rfl, he⟩ := h
  exact ⟨before, e', since ++ [e], by simp, he⟩

theorem last (h : happens events e) : Once happens (events ++ [e]) := ⟨events, e, [], rfl, h⟩

theorem mem (h : Once happens events) : ∃ before, ∃ e ∈ events, happens before e := by
  obtain ⟨before, e, since, rfl, he⟩ := h
  exact ⟨before, e, by simp, he⟩

end Once

/-- A process that does not descend from the first one goes from another number to its group. -/
def StrangerJoins (first : Nat) : List Event → Prop :=
  Once fun before e => ∃ stranger, e = .moves stranger first ∧ stranger ≠ first ∧
    ¬Descends first before stranger

/-- An event that gives a number to a new process. -/
def Event.Gives (id : Nat) (e : Event) : Prop :=
  (∃ parent group, e = .forks parent id group) ∨ e = .comes id

/-- The first number is given to a new process.  The end of the first process has been noticed before, and
nobody has the number or is in the group. -/
def GivenAgain (r : Roster) (first : Nat) : List Event → Prop :=
  Once fun before e => e.Gives first ∧ .notices first ∈ before ∧
    ∃ s, Steps r before s ∧ ¬s.Taken first

namespace Steps

theorem givenAgain (hsteps : Steps r events s) (hawaits : r.awaits first) (hallows : s.Allows e)
    (hgives : e.Gives first) : GivenAgain r first (events ++ [e]) := by
  have hfree : ¬s.Taken first := by
    rcases hgives with ⟨parent, group, rfl⟩ | rfl
    · exact hallows.2
    · exact hallows
  have hnoticed := (hsteps.awaits_or_noticed hawaits).resolve_left fun h => hfree (.inl h)
  exact .last ⟨hgives, hnoticed, s, hsteps, hfree⟩

/-- Whoever has the first number or is in its group is a descendant, unless a stranger has joined the
group or the number has been given again. -/
theorem descends_or_strange (hsteps : Steps r events s) (hawaits : r.awaits first)
    (hfirst : ∀ id group, r.has id group → id = first ∨ group = first → id = first)
    (hhas : s.has id group) (hmeets : id = first ∨ group = first) :
    Descends first events id ∨ StrangerJoins first events ∨ GivenAgain r first events := by
  induction hsteps generalizing id group with
  | done => exact .inl (descends_nil.mpr (hfirst id group hhas hmeets))
  | @next events s e hsteps hallows ih =>
    have hkept {i j : Nat} (hdescends : Descends first events i → Descends first (events ++ [e]) j)
        (h : Descends first events i ∨ StrangerJoins first events ∨ GivenAgain r first events) :
        Descends first (events ++ [e]) j ∨ StrangerJoins first (events ++ [e]) ∨
          GivenAgain r first (events ++ [e]) := h.imp hdescends (.imp Once.concat Once.concat)
    rcases has_after hhas with ⟨hold, hstays⟩ | ⟨parent, rfl⟩ | rfl | ⟨rfl, rfl⟩
    · exact hkept (·.concat hstays) (ih hold hmeets)
    · by_cases hid : id = first
      · subst hid
        exact .inr (.inr (hsteps.givenAgain hawaits hallows (.inl ⟨parent, group, rfl⟩)))
      · exact hkept Descends.child (ih hallows.1 (.inr (hmeets.resolve_left hid)))
    · obtain ⟨⟨old, hold⟩, -⟩ := hallows
      by_cases hid : id = first
      · exact hkept (·.concat Event.noConfusion) (ih hold (.inl hid))
      · obtain rfl := hmeets.resolve_left hid
        by_cases hdescends : Descends group events id
        · exact .inl (hdescends.concat Event.noConfusion)
        · exact .inr (.inl (.last ⟨id, rfl, hid, hdescends⟩))
    · obtain rfl : group = first := hmeets.elim id id
      exact .inr (.inr (hsteps.givenAgain hawaits hallows (.inr rfl)))

end Steps

end Roster

open Roster (Event Steps Descends StrangerJoins GivenAgain)

namespace Machine

section Runs

variable {m begun after : Machine} {dir : Location} {environment : List (Octets × Octets)}
  {command : Command} {polls : Bool} {first : Watch} {id : Nat} {events : List Event} {last : Roster}

theorem Runs.struck_iff (h : begun.Runs first events last after) (hid : last.Holds id) :
    after.isAlive id = false ↔ last.has id first.id ∨ id = first.id ∧ last.awaits first.id := by
  rw [← Bool.not_eq_true, h.isAlive_iff]
  simp only [hid, true_and]
  grind

theorem Runs.descends_of_struck (h : begun.Runs first events last after)
    (hlaunches : m.Launches dir environment command polls begun first) (hid : last.Holds id)
    (hstruck : after.isAlive id = false) : Descends first.id events id ∨
      StrangerJoins first.id events ∨ GivenAgain begun.roster first.id events := by
  have hfirst (id group : Nat) (hhas : begun.roster.has id group)
      (hmeets : id = first.id ∨ group = first.id) : id = first.id :=
    (hlaunches.first_group hhas hmeets).1
  rcases (h.struck_iff hid).mp hstruck with hinside | ⟨rfl, -⟩
  · exact h.steps.descends_or_strange hlaunches.awaits_first hfirst hinside (.inr rfl)
  · obtain ⟨group, hhas⟩ := hid
    exact h.steps.descends_or_strange hlaunches.awaits_first hfirst hhas (.inl rfl)

end Runs

variable {m : Machine} {id other child group : Nat}

/-- A process ends after it has had a child that has gone to a group of its own, and its end is noticed.
Then another process has a child, which is given the number again and goes to a group of its own. -/
def giveAgain (other id : Nat) (m : Machine) : Machine :=
  let m := ((m.leaveChild true id).noticeEnd id).setLastNumber (id - 1)
  let (again, m) := m.addChild other Act.nobody
  m.regroup again

theorem evolves_giveAgain (other id : Nat) (m : Machine) :
    m.roster.Evolves (m.giveAgain other id).roster := by
  have hcounted : m.roster.Evolves
      (((m.leaveChild true id).noticeEnd id).setLastNumber (id - 1)).roster := by
    rw [roster_setLastNumber]
    exact (m.evolves_leaveChild true id).trans evolves_noticeEnd
  simp only [giveAgain]
  exact hcounted.trans ((evolves_addChild other Act.nobody).trans evolves_regroup)

theorem steps_giveAgain (hid : (m.process? id).map Process.group = some id)
    (hchild : (m.addChild id Act.nobody).1 = child)
    (hended : (m.leaveChild true id).isAlive id = false) :
    let counted := ((m.leaveChild true id).noticeEnd id).setLastNumber (id - 1)
    (counted.process? other).map Process.group = some group →
      (counted.addChild other Act.nobody).1 = id →
        Steps m.roster [.forks id child id, .moves child child, .ends id, .notices id,
          .forks other id group, .moves id id] (m.giveAgain other id).roster := by
  intro counted hother hagain
  have hcounts : Steps m.roster [.forks id child id, .moves child child, .ends id, .notices id]
      counted.roster := by
    rw [roster_setLastNumber]
    exact (steps_leaveChild hid hchild true).append (steps_noticeEnd hended)
  have hgives := steps_addChild hother hagain
  have hleads := steps_regroup ((isAlive_addChild hother).mpr (.inr hagain.symm))
  simp only [giveAgain]
  rw [hagain]
  exact hcounts.append (hgives.append hleads)

end Machine

end Conformance
