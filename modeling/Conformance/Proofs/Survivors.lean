import Conformance.Proofs.Descent

/-!
# Who outlives a command

A command is taken away by its group.  A descendant that has gone to another group, or that descends from
one that has, is not reached; all others are.
-/

namespace Conformance

namespace Roster

variable {r s : Roster} {e : Event} {events : List Event} {first id group : Nat}

/-- Some descendant of the first process has gone to another group than that of the first number, and
the number belongs to it or to a descendant that it has had since. -/
def Leaves (first : Nat) (events : List Event) (id : Nat) : Prop :=
  ∃ before leaver group since, events = before ++ .moves leaver group :: since ∧ group ≠ first ∧
    Descends first before leaver ∧ Descends leaver since id

namespace Leaves

theorem concat (h : Leaves first events id) (hstays : e ≠ .ends id) :
    Leaves first (events ++ [e]) id := by
  obtain ⟨before, leaver, group, since, rfl, hgroup, hleaver, hid⟩ := h
  exact ⟨before, leaver, group, since ++ [e], by simp, hgroup, hleaver, hid.concat hstays⟩

theorem child {parent : Nat} (h : Leaves first events parent) :
    Leaves first (events ++ [.forks parent id group]) id := by
  obtain ⟨before, leaver, target, since, rfl, htarget, hleaver, hparent⟩ := h
  exact ⟨before, leaver, target, since ++ [.forks parent id group], by simp, htarget, hleaver,
    hparent.child⟩

theorem of_moves (hid : Descends first events id) (hgroup : group ≠ first) :
    Leaves first (events ++ [.moves id group]) id :=
  ⟨events, id, group, [], rfl, hgroup, hid, descends_nil.mpr rfl⟩

end Leaves

theorem Steps.group_or_leaves (hsteps : Steps r events s) (hholds : r.Holds first)
    (hfirst : ∀ group, r.has first group → group = first) (hid : Descends first events id)
    (hhas : s.has id group) : group = first ∨ Leaves first events id := by
  induction hsteps generalizing id group with
  | done => exact .inl (hfirst group (descends_nil.mp hid ▸ hhas))
  | @next events s e hsteps hallows ih =>
    have htaken {i : Nat} (hi : Descends first events i) : s.Taken i :=
      (hsteps.holds_of_descends hholds hi).taken
    rcases has_after hhas with ⟨hold, hstays⟩ | ⟨parent, rfl⟩ | rfl | ⟨rfl, rfl⟩
    · have hbefore := descends_of_concat hallows ⟨group, hold⟩ hid
      exact (ih hbefore hold).imp_right (·.concat hstays)
    · rcases descends_concat.mp hid with hid | ⟨-, hparent⟩
      · exact absurd (htaken hid) hallows.2
      · exact (ih hparent hallows.1).imp_right Leaves.child
    · by_cases hgroup : group = first
      · exact .inl hgroup
      · exact .inr (.of_moves (descends_concat.mp hid) hgroup)
    · exact absurd (htaken (descends_concat.mp hid)) hallows

end Roster

open Roster (Event Steps Descends Leaves)

namespace Machine

section Runs

variable {m begun after : Machine} {dir : Location} {environment : List (Octets × Octets)}
  {command : Command} {polls : Bool} {first : Watch} {id : Nat} {events : List Event} {last : Roster}

theorem Runs.survives_iff (h : begun.Runs first events last after)
    (hlaunches : m.Launches dir environment command polls begun first)
    (hid : Descends first.id events id) :
    after.isAlive id = true ↔ ¬last.has id first.id ∧ ¬(id = first.id ∧ last.awaits first.id) := by
  rw [h.isAlive_iff]
  exact and_iff_right (h.steps.holds_of_descends hlaunches.holds_first hid)

theorem Runs.leaves_of_survives (h : begun.Runs first events last after)
    (hlaunches : m.Launches dir environment command polls begun first)
    (hid : Descends first.id events id) (halive : after.isAlive id = true) :
    Leaves first.id events id := by
  obtain ⟨⟨group, hhas⟩, houtside, -⟩ := h.isAlive_iff.mp halive
  have hgroup := h.steps.group_or_leaves hlaunches.holds_first
    (fun group hfirst => (hlaunches.first_group hfirst (.inl rfl)).2) hid hhas
  exact hgroup.resolve_left fun heq => houtside (heq ▸ hhas)

end Runs

end Machine

end Conformance
