import Conformance.Toolchain

/-!
# Sessions

A stage of a toolchain gives a result or a fault, and then the program goes on.  But the program can also
come to a stop in the midst of a stage: it is aborted, or it waits for ever.  A session is the program at
work on a host, and it knows whether this has happened.
-/

namespace Conformance

/-- How a program comes to a stop in the midst of a stage. -/
inductive Stop where
  /-- The end of a limit is more than the clock can count. -/
  | aborted
  /-- Something never happens that is waited for without a limit. -/
  | endless
  deriving DecidableEq, Repr

/-- What comes of a stage, with the state that is left. -/
inductive Reply (σ α : Type) where
  | returned (result : Except Fault α) (s : σ)
  | stopped (how : Stop) (s : σ)

namespace Reply

variable {σ α : Type}

def state : Reply σ α → σ
  | returned _ s | stopped _ s => s

def result? : Reply σ α → Option (Except Fault α)
  | returned result _ => some result
  | stopped .. => none

def stop? : Reply σ α → Option Stop
  | returned .. => none
  | stopped how _ => some how

end Reply

structure Session (σ : Type) where
  state : σ
  stop? : Option Stop

namespace Session

variable {σ α : Type} {act : σ → Reply σ α} {s : σ} {x y : Session σ} {how : Stop}

def going (s : σ) : Session σ := ⟨s, none⟩

/-- Changes the state, unless the session has come to a stop. -/
def alter (f : σ → σ) (x : Session σ) : Session σ :=
  match x.stop? with
  | none => going (f x.state)
  | some _ => x

/-- Stands for the answer of a stage that gives none.  Nobody gets to see it. -/
def unanswered : Fault := .overtime "" ⟨0⟩

/-- A stage as a part of a session.  After a stop no stage does anything any more. -/
def stage (act : σ → Reply σ α) (x : Session σ) : Except Fault α × Session σ :=
  match x.stop? with
  | some _ => (.error unanswered, x)
  | none =>
      match act x.state with
      | .returned result s => (result, going s)
      | .stopped how s => (.error unanswered, ⟨s, some how⟩)

theorem eq_going (hgoes : x.stop? = none) : x = going x.state := by
  rw [going, ← hgoes]

theorem alter_going (f : σ → σ) (s : σ) : (going s).alter f = going (f s) := rfl

theorem alter_of_stop (f : σ → σ) (hstop : x.stop? = some how) : x.alter f = x := by
  simp only [alter, hstop]

theorem stage_of_stop (hstop : x.stop? = some how) : stage act x = (.error unanswered, x) := by
  simp only [stage, hstop]

theorem stage_snd_going (act : σ → Reply σ α) (s : σ) :
    (stage act (going s)).2 = ⟨(act s).state, (act s).stop?⟩ := by
  simp only [stage, going]
  cases act s <;> rfl

theorem stage_of_returned {result : Except Fault α} {t : σ} (hact : act s = .returned result t) :
    stage act (going s) = (result, going t) := by
  simp only [stage, going, hact]

theorem stage_of_stopped {t : σ} (hact : act s = .stopped how t) :
    stage act (going s) = (.error unanswered, ⟨t, some how⟩) := by
  simp only [stage, going, hact]

theorem stage_fst_cases (act : σ → Reply σ α) (x : Session σ) :
    (stage act x).1 = .error unanswered ∨ ∃ s t, act s = .returned (stage act x).1 t := by
  cases hstop : x.stop? with
  | some how => exact .inl (by rw [stage_of_stop hstop])
  | none =>
      rw [eq_going hstop]
      cases hact : act x.state with
      | returned result t => exact .inr ⟨_, t, by rw [stage_of_returned hact, hact]⟩
      | stopped how t => exact .inl (by rw [stage_of_stopped hact])

/-- Only a stage that has returned has a result. -/
theorem stage_eq_ok {a : α} (hstage : stage act x = (.ok a, y)) :
    ∃ s t, x = going s ∧ y = going t ∧ act s = .returned (.ok a) t := by
  cases hstop : x.stop? with
  | some how =>
      rw [stage_of_stop hstop] at hstage
      cases hstage
  | none =>
      rw [eq_going hstop] at hstage ⊢
      cases hact : act x.state with
      | returned result t =>
          rw [stage_of_returned hact] at hstage
          cases hstage
          exact ⟨_, t, rfl, rfl, hact⟩
      | stopped how t =>
          simp only [stage, going, hact] at hstage
          cases hstage

theorem stage_going_eq_ok {a : α} (hstage : stage act (going s) = (.ok a, y)) :
    ∃ t, y = going t ∧ act s = .returned (.ok a) t := by
  obtain ⟨_, t, hs, hy, hact⟩ := stage_eq_ok hstage
  cases hs
  exact ⟨t, hy, hact⟩

/-- A stage that begins with a change does nothing after a stop. -/
theorem stage_alter_cases {f : σ → σ} {result : Except Fault α}
    (hstage : stage act (x.alter f) = (result, y)) : y = x ∨ y.state = (act (f x.state)).state := by
  cases hstop : x.stop? with
  | some how =>
      rw [alter_of_stop f hstop, stage_of_stop hstop] at hstage
      exact .inl (Prod.mk.inj hstage).2.symm
  | none =>
      rw [eq_going hstop, alter_going] at hstage
      have hnext := stage_snd_going act (f x.state)
      rw [hstage] at hnext
      exact .inr (congrArg Session.state hnext)

theorem stage_alter_eq_ok {f : σ → σ} {a : α} (hstage : stage act (x.alter f) = (.ok a, y)) :
    ∃ t, x = going x.state ∧ y = going t ∧ act (f x.state) = .returned (.ok a) t := by
  obtain ⟨s, t, hx, hy, hact⟩ := stage_eq_ok hstage
  cases hstop : x.stop? with
  | some how =>
      rw [alter_of_stop f hstop] at hx
      rw [hx] at hstop
      cases hstop
  | none =>
      rw [eq_going hstop, alter_going] at hx
      obtain rfl : f x.state = s := congrArg Session.state hx
      exact ⟨t, eq_going hstop, hy, hact⟩

end Session

end Conformance
