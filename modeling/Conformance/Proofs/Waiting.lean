import Conformance.Proofs.Stage
import Mathlib.Logic.Relation

/-!
# The wait for a command

`Course.ending` says at once what comes of a wait.  Here the wait goes a step at a time: a look at
the command, and another one after each poll interval, until there is an answer or the deadline is past;
then the output is asked for, and the messages after it, and both waits share the one deadline.

The steps come to what `ending` says, because no step changes what is still ahead (`onward`).  On
the way the deadline is never overrun by a whole poll interval, and it is only ever missed where not
all three events have come before it (`Kept`).

All of this is about a wait that is begun.  If the clock cannot count to the end of the limit there is no
wait at all, and the program is aborted.
-/

namespace Conformance

/-- When a wait was over. -/
def Ending.time? : Ending → Option Nat
  | .finished time _ _ => some time
  | .failed time _ => some time
  | .overtime time => some time
  | .never => none

/-- How far a wait has come: the exit is looked for, the output is asked for, or the messages are
after the output was received or missed. -/
inductive Stand where
  | looking (now : Nat)
  | reading (now : Nat) (status : ExitStatus)
  | closing (now : Nat) (status : ExitStatus) (output : Option Bytes)
  | ended (e : Ending)

/-- The exit has been looked for and there is an answer. -/
def Stand.ofAnswer (now : Nat) : Except IoError ExitStatus → Stand
  | .ok status => .reading now status
  | .error cause => .ended (.failed now cause)

namespace Course

variable {c : Course} {deadline : Option Nat} {now t : Nat} {answer : Except IoError ExitStatus}
  {status : ExitStatus} {output : Bytes} {stand next : Stand} {e : Ending}

/-- Something happens at a time that is not after this one. -/
def ByTime (now : Nat) (happens : Nat → Prop) : Prop := ∃ t ≤ now, happens t

/-- A look for the exit gets this answer. -/
def Answered (c : Course) (now : Nat) (answer : Except IoError ExitStatus) : Prop :=
  ByTime now fun t => c.exit = some (t, answer)

def HasExited (c : Course) (now : Nat) (status : ExitStatus) : Prop := c.Answered now (.ok status)

def HasOutput (c : Course) (now : Nat) (output : Bytes) : Prop :=
  ByTime now fun t => c.output = some (t, output)

def HasErrors (c : Course) (now : Nat) : Prop := ByTime now fun t => c.errors = some t

/-- All that a wait is for has come. -/
structure DoneBy (c : Course) (now : Nat) (status : ExitStatus) (output : Bytes) : Prop where
  hasExited : c.HasExited now status
  hasOutput : c.HasOutput now output
  hasErrors : c.HasErrors now

/-- What comes at a time is received by one who begins to wait for it now: the wait goes on up to
the deadline, and what is there already is received even after that. -/
def InTime (deadline : Option Nat) (now t : Nat) : Prop := ∀ d, deadline = some d → t ≤ max now d

/-- One step of a wait.  After a missed output the messages are asked for all the same. -/
inductive Step (c : Course) (deadline : Option Nat) : Stand → Stand → Prop
  | notice {d now : Nat} {answer : Except IoError ExitStatus} (hd : deadline = some d)
      (hexit : c.Answered now answer) : Step c deadline (.looking now) (.ofAnswer now answer)
  | giveUp {d now : Nat} (hd : deadline = some d) (hexit : ∀ answer, ¬ c.Answered now answer)
      (hlate : d ≤ now) : Step c deadline (.looking now) (.ended (.overtime now))
  | sleep {d now : Nat} (hd : deadline = some d) (hexit : ∀ answer, ¬ c.Answered now answer)
      (hearly : now < d) : Step c deadline (.looking now) (.looking (now + pollInterval))
  | wait {now t : Nat} {answer : Except IoError ExitStatus} (hd : deadline = none)
      (hexit : c.exit = some (t, answer)) :
      Step c deadline (.looking now) (.ofAnswer (max now t) answer)
  | receive {now t : Nat} {status : ExitStatus} {output : Bytes}
      (houtput : c.output = some (t, output)) (htime : InTime deadline now t) :
      Step c deadline (.reading now status) (.closing (max now t) status (some output))
  | miss {d now : Nat} {status : ExitStatus} (hd : deadline = some d)
      (houtput : ∀ output, ¬ c.HasOutput (max now d) output) :
      Step c deadline (.reading now status) (.closing (max now d) status none)
  | finish {now t : Nat} {status : ExitStatus} {output : Bytes} (herrors : c.errors = some t)
      (htime : InTime deadline now t) :
      Step c deadline (.closing now status (some output))
        (.ended (.finished (max now t) status output))
  | drop {now t : Nat} {status : ExitStatus} (herrors : c.errors = some t)
      (htime : InTime deadline now t) :
      Step c deadline (.closing now status none) (.ended (.overtime (max now t)))
  | late {d now : Nat} {status : ExitStatus} {output : Option Bytes} (hd : deadline = some d)
      (herrors : ¬ c.HasErrors (max now d)) :
      Step c deadline (.closing now status output) (.ended (.overtime (max now d)))

abbrev Reaches (c : Course) (deadline : Option Nat) : Stand → Stand → Prop :=
  Relation.ReflTransGen (c.Step deadline)

/-- No wait takes steps for ever. -/
def Stops (c : Course) (deadline : Option Nat) : Prop :=
  Acc (fun next stand => c.Step deadline stand next) (.looking 0)

/-- The wait comes to this end. -/
def Returns (c : Course) (deadline : Option Nat) (e : Ending) : Prop :=
  c.Reaches deadline (.looking 0) (.ended e)

/-! ## What a wait keeps -/

/-- The deadline is not overrun by a poll interval. -/
def WithinPoll (deadline : Option Nat) (now : Nat) : Prop :=
  ∀ d, deadline = some d → now < d + pollInterval

/-- The deadline is past, and not all has come before it. -/
def Overdue (c : Course) (deadline : Option Nat) (now : Nat) : Prop :=
  ∃ d, deadline = some d ∧ d ≤ now ∧ ∀ status output, ¬ c.DoneBy d status output

/-- What holds however far a wait has come.  Looks are made at multiples of the poll interval, and
the last one before the exit is less than an interval away from it. -/
def Kept (c : Course) (deadline : Option Nat) : Stand → Prop
  | .looking now => WithinPoll deadline now ∧ pollInterval ∣ now ∧ (deadline = none → now = 0) ∧
      ∀ t answer, c.exit = some (t, answer) → now < t + pollInterval
  | .reading now status => WithinPoll deadline now ∧ c.HasExited now status
  | .closing now status (some output) =>
      WithinPoll deadline now ∧ c.HasExited now status ∧ c.HasOutput now output
  | .closing now _ none => WithinPoll deadline now ∧ c.Overdue deadline now
  | .ended (.finished time status output) =>
      WithinPoll deadline time ∧ c.DoneBy time status output
  | .ended (.failed time cause) => WithinPoll deadline time ∧ c.Answered time (.error cause)
  | .ended (.overtime time) => WithinPoll deadline time ∧ c.Overdue deadline time
  | .ended .never => False

theorem ByTime.mono {happens : Nat → Prop} {later : Nat} (h : ByTime now happens)
    (hle : now ≤ later) : ByTime later happens := by
  obtain ⟨t, ht, hhappens⟩ := h
  exact ⟨t, Nat.le_trans ht hle, hhappens⟩

theorem withinPoll_max {d : Nat} (hd : deadline = some d) (h : WithinPoll deadline now) :
    WithinPoll deadline (max now d) := by
  intro d' hd'
  obtain rfl : d = d' := Option.some.inj (hd.symm.trans hd')
  have hlt := h d hd
  have hpos : 0 < pollInterval := by decide
  omega

theorem WithinPoll.received (h : WithinPoll deadline now) (htime : InTime deadline now t) :
    WithinPoll deadline (max now t) := by
  intro d hd
  have hmax := withinPoll_max hd h d hd
  have ht := htime d hd
  omega

theorem Overdue.mono {later : Nat} (h : c.Overdue deadline now) (hle : now ≤ later) :
    c.Overdue deadline later := by
  obtain ⟨d, hd, hpast, hmissing⟩ := h
  exact ⟨d, hd, Nat.le_trans hpast hle, hmissing⟩

theorem kept_ofAnswer (hwithin : WithinPoll deadline now) (hexit : c.Answered now answer) :
    c.Kept deadline (.ofAnswer now answer) := by
  cases answer with
  | ok status => exact ⟨hwithin, hexit⟩
  | error cause => exact ⟨hwithin, hexit⟩

theorem kept_step (hstep : c.Step deadline stand next) (hkept : c.Kept deadline stand) :
    c.Kept deadline next := by
  cases hstep with
  | notice hd hexit => exact kept_ofAnswer hkept.1 hexit
  | giveUp hd hexit hlate =>
      refine ⟨hkept.1, _, hd, hlate, fun status output hdone => ?_⟩
      exact hexit _ (hdone.hasExited.mono hlate)
  | @sleep d now hd hexit hearly =>
      obtain ⟨_, hgrid, _, _⟩ := hkept
      refine ⟨fun d' hd' => ?_, Nat.dvd_add hgrid (Nat.dvd_refl _), fun hnone => ?_,
        fun t answer ht => ?_⟩
      · obtain rfl : d = d' := Option.some.inj (hd.symm.trans hd')
        exact Nat.add_lt_add_right hearly _
      · cases hd.symm.trans hnone
      · -- there was no answer, so it is still to come
        have hlater : now < t := Nat.lt_of_not_le fun hle => hexit answer ⟨t, hle, ht⟩
        exact Nat.add_lt_add_right hlater _
  | wait hd hexit =>
      refine kept_ofAnswer (fun d hsome => ?_) ⟨_, Nat.le_max_right _ _, hexit⟩
      cases hd.symm.trans hsome
  | receive houtput htime =>
      exact ⟨hkept.1.received htime, hkept.2.mono (Nat.le_max_left _ _), _, Nat.le_max_right _ _,
        houtput⟩
  | miss hd houtput =>
      refine ⟨withinPoll_max hd hkept.1, _, hd, Nat.le_max_right _ _, fun status output hdone => ?_⟩
      exact houtput output (hdone.hasOutput.mono (Nat.le_max_right _ _))
  | finish herrors htime =>
      obtain ⟨hwithin, hexit, houtput⟩ := hkept
      have hle := Nat.le_max_left
      exact ⟨hwithin.received htime, hexit.mono (hle _ _), houtput.mono (hle _ _), _,
        Nat.le_max_right _ _, herrors⟩
  | drop herrors htime =>
      exact ⟨hkept.1.received htime, hkept.2.mono (Nat.le_max_left _ _)⟩
  | @late d now status output hd herrors =>
      have hwithin : WithinPoll deadline now := by
        cases output with
        | none => exact hkept.1
        | some output => exact hkept.1
      refine ⟨withinPoll_max hd hwithin, _, hd, Nat.le_max_right _ _, fun status output hdone => ?_⟩
      exact herrors (hdone.hasErrors.mono (Nat.le_max_right _ _))

theorem kept_start (c : Course) (deadline : Option Nat) : c.Kept deadline (.looking 0) := by
  have hpos : 0 < pollInterval := by decide
  exact ⟨fun d _ => by omega, Nat.dvd_zero _, fun _ => rfl, fun t _ _ => by omega⟩

theorem kept_of_reaches (hreaches : c.Reaches deadline (.looking 0) stand) :
    c.Kept deadline stand := by
  induction hreaches with
  | refl => exact c.kept_start deadline
  | tail _ hstep ih => exact kept_step hstep ih

/-! ## What is still ahead -/

def afterOutput (c : Course) (deadline : Option Nat) (now : Nat) (status : ExitStatus)
    (output : Bytes) : Ending :=
  match received deadline now c.errors with
  | some last => .finished last status output
  | none => givenUp deadline now

def afterExit (c : Course) (deadline : Option Nat) (now : Nat) (status : ExitStatus) : Ending :=
  match received deadline now (c.output.map Prod.fst), c.output with
  | some later, some (_, output) => c.afterOutput deadline later status output
  | _, _ => givenUp deadline now

/-- What a wait comes to from where it stands. -/
def onward (c : Course) (deadline : Option Nat) : Stand → Ending
  | .looking _ => c.ending deadline
  | .reading now status => c.afterExit deadline now status
  | .closing now status (some output) => c.afterOutput deadline now status output
  | .closing now _ none => .overtime now
  | .ended e => e

theorem received_of_inTime (htime : InTime deadline now t) :
    received deadline now (some t) = some (max now t) := by
  cases deadline with
  | none => rfl
  | some d => exact if_pos (htime d rfl)

theorem received_of_late {d : Nat} {comes : Option Nat}
    (hlate : ∀ t, comes = some t → max now d < t) : received (some d) now comes = none := by
  cases comes with
  | none => rfl
  | some t => exact if_neg (Nat.not_le_of_lt (hlate t rfl))

theorem ending_of_noticed {look : Nat} (hexit : c.exit = some (t, answer))
    (hnoticed : noticed deadline t = some look) :
    c.ending deadline = c.onward deadline (.ofAnswer look answer) := by
  simp only [ending, hexit, Option.bind_some, hnoticed, Option.map_some]
  cases answer <;> rfl

theorem ending_of_unnoticed (hnone : ∀ t answer, c.exit = some (t, answer) →
    noticed deadline t = none) :
    c.ending deadline = givenUp (deadline.map pollFrom) 0 := by
  cases hexit : c.exit with
  | none => simp [ending, hexit]
  | some exit =>
      obtain ⟨t, answer⟩ := exit
      simp [ending, hexit, hnone t answer hexit]

/-- A multiple of the poll interval is the first look from a time where it is less than an interval
after it. -/
theorem pollFrom_eq (hgrid : pollInterval ∣ now) (hle : t ≤ now) (hlt : now < t + pollInterval) :
    pollFrom t = now := by
  obtain ⟨k, rfl⟩ := hgrid
  simp only [pollFrom, pollInterval] at *
  omega

theorem onward_step (hstep : c.Step deadline stand next) (hkept : c.Kept deadline stand) :
    c.onward deadline stand = c.onward deadline next := by
  cases hstep with
  | @notice d now answer hd hexit =>
      subst hd
      obtain ⟨t, hle, ht⟩ := hexit
      obtain ⟨hwithin, hgrid, _, hlook⟩ := hkept
      have hnow : pollFrom t = now := pollFrom_eq hgrid hle (hlook t answer ht)
      -- the look at which the deadline is seen to be past is this one or a later one
      have hdeadline : now ≤ pollFrom d := by
        have hlt := hwithin d rfl
        have hd := le_pollFrom d
        obtain ⟨k, rfl⟩ := hgrid
        simp only [pollFrom, pollInterval] at *
        omega
      refine ending_of_noticed ht ?_
      rw [noticed, hnow, if_pos hdeadline]
  | @giveUp d now hd hexit hlate =>
      subst hd
      obtain ⟨hwithin, hgrid, _, _⟩ := hkept
      have hnow : pollFrom d = now := pollFrom_eq hgrid hlate (hwithin d rfl)
      have hnone (t : Nat) (answer : Except IoError ExitStatus) (ht : c.exit = some (t, answer)) :
          noticed (some d) t = none := by
        have hlater : now < t := Nat.lt_of_not_le fun hle => hexit answer ⟨t, hle, ht⟩
        have hle := le_pollFrom t
        exact if_neg (by omega)
      have hend := ending_of_unnoticed hnone
      simpa [onward, givenUp, hnow] using hend
  | sleep hd hexit hearly => rfl
  | wait hd hexit =>
      subst hd
      obtain rfl := hkept.2.2.1 rfl
      refine ending_of_noticed hexit ?_
      rw [noticed, Nat.zero_max]
  | receive houtput htime =>
      simp only [onward, afterExit, houtput, Option.map_some, received_of_inTime htime]
  | @miss d now status hd houtput =>
      subst hd
      have hnone : received (some d) now (c.output.map Prod.fst) = none := by
        refine received_of_late fun t ht => Nat.lt_of_not_le fun hle => ?_
        obtain ⟨⟨_, output⟩, hsome, rfl⟩ := Option.map_eq_some_iff.mp ht
        exact houtput output ⟨_, hle, hsome⟩
      simp only [onward, afterExit, hnone, givenUp]
  | finish herrors htime =>
      simp only [onward, afterOutput, herrors, received_of_inTime htime]
  | drop herrors htime =>
      -- the deadline is past, so only what is there already can be in time
      obtain ⟨_, d, hd, hpast, _⟩ := hkept
      have ht := htime d hd
      simp only [onward, Ending.overtime.injEq]
      omega
  | @late d now status output hd herrors =>
      subst hd
      cases output with
      | none =>
          obtain ⟨_, d', hd', hpast, _⟩ := hkept
          obtain rfl := Option.some.inj hd'
          simp only [onward, Nat.max_eq_left hpast]
      | some output =>
          have hnone : received (some d) now c.errors = none :=
            received_of_late fun t ht => Nat.lt_of_not_le fun hle => herrors ⟨t, hle, ht⟩
          simp only [onward, afterOutput, hnone, givenUp]

theorem onward_of_reaches (hreaches : c.Reaches deadline (.looking 0) stand) :
    c.onward deadline stand = c.ending deadline := by
  induction hreaches with
  | refl => rfl
  | tail hreaches hstep ih => exact (onward_step hstep (kept_of_reaches hreaches)).symm.trans ih

/-! ## A wait comes to its end -/

theorem exists_reaches_of_closing (d now : Nat) (status : ExitStatus) (output : Option Bytes) :
    ∃ e, c.Reaches (some d) (.closing now status output) (.ended e) := by
  by_cases herrors : c.HasErrors (max now d)
  · obtain ⟨t, hle, ht⟩ := herrors
    have htime : InTime (some d) now t := by
      rintro _ ⟨⟩
      exact hle
    cases output with
    | none => exact ⟨_, .single (.drop ht htime)⟩
    | some output => exact ⟨_, .single (.finish ht htime)⟩
  · exact ⟨_, .single (.late rfl herrors)⟩

theorem exists_reaches_of_reading (d now : Nat) (status : ExitStatus) :
    ∃ e, c.Reaches (some d) (.reading now status) (.ended e) := by
  by_cases houtput : ∃ output, c.HasOutput (max now d) output
  · obtain ⟨output, t, hle, ht⟩ := houtput
    have htime : InTime (some d) now t := by
      rintro _ ⟨⟩
      exact hle
    obtain ⟨e, hreaches⟩ := exists_reaches_of_closing d (max now t) status (some output)
    exact ⟨e, .head (.receive ht htime) hreaches⟩
  · obtain ⟨e, hreaches⟩ := exists_reaches_of_closing d (max now d) status none
    exact ⟨e, .head (.miss rfl (not_exists.mp houtput)) hreaches⟩

theorem exists_reaches_of_answer (c : Course) (d now : Nat) (answer : Except IoError ExitStatus) :
    ∃ e, c.Reaches (some d) (.ofAnswer now answer) (.ended e) := by
  cases answer with
  | ok status => exact exists_reaches_of_reading d now status
  | error cause => exact ⟨_, .refl⟩

/-- With a deadline there are only so many looks before it. -/
theorem exists_reaches_of_looking (c : Course) (d now : Nat) :
    ∃ e, c.Reaches (some d) (.looking now) (.ended e) := by
  by_cases hexit : ∃ answer, c.Answered now answer
  · obtain ⟨answer, hexit⟩ := hexit
    obtain ⟨e, hreaches⟩ := exists_reaches_of_answer c d now answer
    exact ⟨e, .head (.notice rfl hexit) hreaches⟩
  by_cases hlate : d ≤ now
  · exact ⟨_, .single (.giveUp rfl (not_exists.mp hexit) hlate)⟩
  · have hearly : now < d := Nat.lt_of_not_le hlate
    obtain ⟨e, hreaches⟩ := exists_reaches_of_looking c d (now + pollInterval)
    exact ⟨e, .head (.sleep rfl (not_exists.mp hexit) hearly) hreaches⟩
termination_by d - now
decreasing_by
  have hpos : 0 < pollInterval := by decide
  omega

theorem exists_returns (c : Course) (d : Nat) : ∃ e, c.Returns (some d) e :=
  exists_reaches_of_looking c d 0

theorem acc_ended (e : Ending) : Acc (fun next stand => c.Step deadline stand next) (.ended e) := by
  refine ⟨_, fun next hstep => ?_⟩
  cases hstep

theorem acc_closing (now : Nat) (status : ExitStatus) (output : Option Bytes) :
    Acc (fun next stand => c.Step deadline stand next) (.closing now status output) := by
  refine ⟨_, fun next hstep => ?_⟩
  cases hstep with
  | finish herrors htime => exact acc_ended _
  | drop herrors htime => exact acc_ended _
  | late hd herrors => exact acc_ended _

theorem acc_reading (now : Nat) (status : ExitStatus) :
    Acc (fun next stand => c.Step deadline stand next) (.reading now status) := by
  refine ⟨_, fun next hstep => ?_⟩
  cases hstep with
  | receive houtput htime => exact acc_closing _ _ _
  | miss hd houtput => exact acc_closing _ _ _

theorem acc_ofAnswer (now : Nat) (answer : Except IoError ExitStatus) :
    Acc (fun next stand => c.Step deadline stand next) (.ofAnswer now answer) := by
  cases answer with
  | ok status => exact acc_reading _ _
  | error cause => exact acc_ended _

theorem acc_looking (c : Course) (d now : Nat) :
    Acc (fun next stand => c.Step (some d) stand next) (.looking now) := by
  refine ⟨_, fun next hstep => ?_⟩
  cases hstep with
  | notice hd hexit => exact acc_ofAnswer _ _
  | giveUp hd hexit hlate => exact acc_ended _
  | sleep hd hexit hearly =>
      obtain rfl := Option.some.inj hd
      exact acc_looking c d (now + pollInterval)
  | wait hd hexit => cases hd
termination_by d - now
decreasing_by
  have hpos : 0 < pollInterval := by decide
  omega

/-- A wait for what all comes at some time ends, with a deadline or without one. -/
theorem exists_returns_of_doneBy (deadline : Option Nat) (hdone : c.DoneBy now status output) :
    ∃ e, c.Returns deadline e := by
  cases deadline with
  | some d => exact c.exists_returns d
  | none =>
      obtain ⟨⟨_, _, hexit⟩, ⟨_, _, houtput⟩, ⟨_, _, herrors⟩⟩ := hdone
      have htime (now t : Nat) : InTime none now t := by
        rintro _ ⟨⟩
      exact ⟨_, .head (.wait rfl hexit) (.head (.receive houtput (htime _ _))
        (.single (.finish herrors (htime _ _))))⟩

/-- The exit cannot be waited for. -/
def Fails (c : Course) : Prop := ∃ t cause, c.exit = some (t, .error cause)

/-- Without a deadline a wait only ends if all that it is for comes at some time, or if it fails. -/
theorem exists_doneBy_of_ending (hending : c.ending none ≠ .never) :
    (∃ now status output, c.DoneBy now status output) ∨ c.Fails := by
  obtain ⟨exit, output, errors⟩ := c
  rcases exit with _ | ⟨t, cause | status⟩
  · exact absurd rfl hending
  · exact .inr ⟨t, cause, rfl⟩
  rcases output with _ | ⟨u, output⟩
  · exact absurd rfl hending
  rcases errors with _ | v
  · exact absurd rfl hending
  have hle : t ≤ t + u + v ∧ u ≤ t + u + v ∧ v ≤ t + u + v := by omega
  exact .inl ⟨t + u + v, status, output, ⟨t, hle.1, rfl⟩, ⟨u, hle.2.1, rfl⟩, ⟨v, hle.2.2, rfl⟩⟩

/-- The steps of a wait come to what `ending` says, and to no end where that says so. -/
theorem returns_iff : c.Returns deadline e ↔ c.ending deadline = e ∧ e ≠ .never := by
  have hto {e : Ending} (hreturns : c.Returns deadline e) : c.ending deadline = e ∧ e ≠ .never := by
    refine ⟨(onward_of_reaches hreturns).symm, ?_⟩
    rintro rfl
    exact kept_of_reaches hreturns
  refine ⟨hto, fun ⟨hending, hne⟩ => ?_⟩
  have hexists : ∃ e, c.Returns deadline e := by
    cases deadline with
    | some d => exact c.exists_returns d
    | none =>
        rw [← hending] at hne
        obtain ⟨_, _, _, hdone⟩ | ⟨t, cause, hexit⟩ := exists_doneBy_of_ending hne
        · exact exists_returns_of_doneBy none hdone
        · exact ⟨_, .single (.wait rfl hexit)⟩
  obtain ⟨e', hreturns⟩ := hexists
  obtain rfl : e' = e := (hto hreturns).1.symm.trans hending
  exact hreturns

/-- However far a wait with a deadline has come, it goes on to the one end. -/
theorem reaches_of_returns {d : Nat} (hreturns : c.Returns (some d) e)
    (hreaches : c.Reaches (some d) (.looking 0) stand) : c.Reaches (some d) stand (.ended e) := by
  have hend : ∃ e', c.Reaches (some d) stand (.ended e') := by
    cases stand with
    | looking now => exact exists_reaches_of_looking c d now
    | reading now status => exact exists_reaches_of_reading d now status
    | closing now status output => exact exists_reaches_of_closing d now status output
    | ended e' => exact ⟨e', .refl⟩
  obtain ⟨e', hend⟩ := hend
  have hreturns' : c.Returns (some d) e' := hreaches.trans hend
  obtain rfl : e' = e := (returns_iff.mp hreturns').1.symm.trans (returns_iff.mp hreturns).1
  exact hend

theorem doneBy_of_returns (hreturns : c.Returns deadline (.finished now status output)) :
    c.DoneBy now status output :=
  (kept_of_reaches hreturns).2

theorem withinPoll_of_returns {time : Nat} (hreturns : c.Returns deadline e)
    (htime : e.time? = some time) : WithinPoll deadline time := by
  have hkept := kept_of_reaches hreturns
  cases e with
  | finished t status output =>
      obtain rfl := Option.some.inj htime
      exact hkept.1
  | failed t cause =>
      obtain rfl := Option.some.inj htime
      exact hkept.1
  | overtime t =>
      obtain rfl := Option.some.inj htime
      exact hkept.1
  | never => cases htime

theorem exists_time_of_returns (hreturns : c.Returns deadline e) : ∃ time, e.time? = some time := by
  cases e with
  | finished t status output => exact ⟨t, rfl⟩
  | failed t cause => exact ⟨t, rfl⟩
  | overtime t => exact ⟨t, rfl⟩
  | never => exact absurd rfl (returns_iff.mp hreturns).2

theorem DoneBy.unique {later : Nat} {status' : ExitStatus} {output' : Bytes}
    (h : c.DoneBy now status output) (h' : c.DoneBy later status' output') :
    status' = status ∧ output' = output := by
  obtain ⟨⟨_, _, hexit⟩, ⟨_, _, houtput⟩, _⟩ := h
  obtain ⟨⟨_, _, hexit'⟩, ⟨_, _, houtput'⟩, _⟩ := h'
  rw [hexit, Option.some.injEq, Prod.mk.injEq, Except.ok.injEq] at hexit'
  rw [houtput, Option.some.injEq, Prod.mk.injEq] at houtput'
  exact ⟨hexit'.2.symm, houtput'.2.symm⟩

theorem not_doneBy_of_never (hnever : c.exit = none ∨ c.output = none ∨ c.errors = none) :
    ¬ c.DoneBy now status output := by
  rintro ⟨⟨_, _, hexit⟩, ⟨_, _, houtput⟩, ⟨_, _, herrors⟩⟩
  rcases hnever with hnone | hnone | hnone
  · cases hnone.symm.trans hexit
  · cases hnone.symm.trans houtput
  · cases hnone.symm.trans herrors

theorem not_doneBy_of_fails (hfails : c.Fails) : ¬ c.DoneBy now status output := by
  rintro ⟨⟨_, _, hexit⟩, _, _⟩
  obtain ⟨_, _, herror⟩ := hfails
  cases hexit.symm.trans herror

/-- A wait for what all comes, and by the deadline if there is one, is finished. -/
theorem finished_of_doneBy (hdone : c.DoneBy now status output)
    (htime : ∀ d, deadline = some d → now ≤ d) (hreturns : c.Returns deadline e) :
    ∃ time, e = .finished time status output := by
  have hkept := kept_of_reaches hreturns
  cases e with
  | finished time status' output' =>
      obtain ⟨rfl, rfl⟩ := hdone.unique (doneBy_of_returns hreturns)
      exact ⟨time, rfl⟩
  | failed time cause =>
      obtain ⟨_, t, _, hexit⟩ := hkept
      exact absurd hdone (not_doneBy_of_fails ⟨t, cause, hexit⟩)
  | overtime time =>
      obtain ⟨_, d, hd, _, hmissing⟩ := hkept
      have hle := htime d hd
      exact absurd ⟨hdone.hasExited.mono hle, hdone.hasOutput.mono hle, hdone.hasErrors.mono hle⟩
        (hmissing status output)
  | never => exact hkept.elim

theorem pollFrom_mono {d : Nat} (hle : t ≤ d) : pollFrom t ≤ pollFrom d :=
  Nat.mul_le_mul_right _ (Nat.div_le_div_right (Nat.add_le_add_right hle _))

/-- A wait that fails, and by the deadline if there is one, ends with the cause. -/
theorem failed_of_exit {cause : IoError} (hexit : c.exit = some (t, .error cause))
    (htime : ∀ d, deadline = some d → t ≤ d) : ∃ time, c.ending deadline = .failed time cause := by
  cases deadline with
  | none => exact ⟨t, ending_of_noticed hexit rfl⟩
  | some d =>
      exact ⟨pollFrom t, ending_of_noticed hexit (if_pos (pollFrom_mono (htime d rfl)))⟩

end Course

/-! ## What is captured -/

namespace Host

variable {σ : Type} {host : Host σ} {limit : Option Span} {label : String} {command : Command}
  {s : σ} {started : Started σ} {time : Nat}

/-- A captured text is that of a wait that has finished. -/
theorem exists_returns_of_capture {capture : Capture}
    (hstart : host.start command ((limit.map Span.micros).map Course.pollFrom) s = .ok started)
    (hok : (host.capture limit label command s).result? = some (.ok capture)) :
    ∃ time status output,
      started.course.Returns (limit.map Span.micros) (.finished time status output) ∧
        capture = .ofOutput status output := by
  cases hreply : host.capture limit label command s with
  | stopped how t =>
      rw [hreply] at hok
      cases hok
  | returned result t =>
      rw [hreply] at hok
      obtain rfl := Option.some.inj hok
      cases captures_of_eq hreply with
      | finished hstart' hending =>
          obtain rfl := Except.ok.inj (hstart'.symm.trans hstart)
          exact ⟨_, _, _, Course.returns_iff.mpr ⟨hending, Ending.noConfusion⟩, rfl⟩

/-- A command whose wait has ended is taken away at that time. -/
theorem reply_of_time {e : Ending} (htime : e.time? = some time) :
    (started.reply limit label e).stop? = none ∧
      (started.reply limit label e).state = started.takenAway time := by
  cases e with
  | finished t status output =>
      obtain rfl := Option.some.inj htime
      exact ⟨rfl, rfl⟩
  | failed t cause =>
      obtain rfl := Option.some.inj htime
      exact ⟨rfl, rfl⟩
  | overtime t =>
      obtain rfl := Option.some.inj htime
      exact ⟨rfl, rfl⟩
  | never => cases htime

/-- What all comes, and by the deadline if there is one, is captured. -/
theorem reply_of_doneBy {status : ExitStatus} {output : Bytes}
    (hdone : started.course.DoneBy time status output)
    (htime : ∀ d, limit.map Span.micros = some d → time ≤ d) :
    (started.reply limit label (started.course.ending (limit.map Span.micros))).result? =
      some (.ok (.ofOutput status output)) := by
  obtain ⟨e, hreturns⟩ := Course.exists_returns_of_doneBy (limit.map Span.micros) hdone
  obtain ⟨t, rfl⟩ := Course.finished_of_doneBy hdone htime hreturns
  rw [(Course.returns_iff.mp hreturns).1]
  rfl

theorem reply_of_failed {t : Nat} {cause : IoError}
    (hexit : started.course.exit = some (t, .error cause))
    (htime : ∀ d, limit.map Span.micros = some d → t ≤ d) :
    (started.reply limit label (started.course.ending (limit.map Span.micros))).result? =
      some (.error (.invocation label cause)) := by
  obtain ⟨time, hending⟩ := Course.failed_of_exit hexit htime
  rw [hending]
  rfl

/-- With a limit there is the error that names it if something never comes. -/
theorem reply_of_missing {span : Span} (hgoes : ¬ started.course.Fails)
    (hmissing : ∀ time status output, ¬ started.course.DoneBy time status output) :
    (started.reply (some span) label (started.course.ending (some span.micros))).result? =
      some (.error (.overtime label span)) := by
  obtain ⟨e, hreturns⟩ := started.course.exists_returns span.micros
  rw [(Course.returns_iff.mp hreturns).1]
  cases e with
  | finished t status output =>
      exact absurd (Course.doneBy_of_returns hreturns) (hmissing t status output)
  | failed t cause =>
      obtain ⟨_, u, _, hexit⟩ := Course.kept_of_reaches hreturns
      exact absurd ⟨u, cause, hexit⟩ hgoes
  | overtime t => rfl
  | never => exact absurd rfl (Course.returns_iff.mp hreturns).2

/-- Without a limit something that never comes is waited for as long as the wait does not fail. -/
theorem reply_of_endless (hgoes : ¬ started.course.Fails)
    (hmissing : ∀ time status output, ¬ started.course.DoneBy time status output) :
    started.reply none label (started.course.ending none) = .stopped .endless started.begun := by
  have hnever : started.course.ending none = .never := by
    refine Decidable.byContradiction fun hending => ?_
    obtain ⟨time, status, output, hdone⟩ | hfails := Course.exists_doneBy_of_ending hending
    · exact hmissing time status output hdone
    · exact hgoes hfails
  rw [hnever]
  rfl

/-- However far the wait has come, it goes on to one end, less than a poll interval after the deadline. -/
theorem reply_within_poll (started : Started σ) (span : Span) (label : String) :
    let c := started.course
    let reply := started.reply (some span) label (c.ending (some span.micros))
    ∃ e time, (∀ stand, c.Reaches (some span.micros) (.looking 0) stand →
        c.Reaches (some span.micros) stand (.ended e)) ∧
      e.time? = some time ∧ time < span.micros + Course.pollInterval ∧
      reply.stop? = none ∧ reply.state = started.takenAway time := by
  intro c reply
  obtain ⟨e, hreturns⟩ := c.exists_returns span.micros
  obtain ⟨time, htime⟩ := Course.exists_time_of_returns hreturns
  have hwithin := Course.withinPoll_of_returns hreturns htime span.micros rfl
  have hending : c.ending (some span.micros) = e := (Course.returns_iff.mp hreturns).1
  have hreply : reply = started.reply (some span) label e :=
    congrArg (started.reply (some span) label) hending
  rw [hreply]
  exact ⟨e, time, fun stand hreaches => Course.reaches_of_returns hreturns hreaches, htime, hwithin,
    reply_of_time htime⟩

/-- The deadline covers all of a command that is started: its exit, its output and its messages.  If
the clock can count to the end of the limit, then every wait comes to its end, and that is less than a
poll interval after it.  What was captured is all there is if all has come by then, and if something never
comes there is the error that names the limit, unless the wait itself fails.  If the clock cannot count
to the end of the limit the program is aborted, whatever the command would have done.  Only what has come to
its end is captured.  Without a limit all is captured just if all comes at some time, and otherwise
the wait fails or goes on for ever. -/
theorem capture_covers_deadline (host : Host σ) (limit : Option Span) (label : String)
    (command : Command) (s : σ) {started : Started σ} (hpassable : command.isPassable = true)
    (hstart : host.start command ((limit.map Span.micros).map Course.pollFrom) s = .ok started) :
    let c := started.course
    let captured := host.capture limit label command s
    (∀ span, limit = some span →
      (2 ^ 63 ≤ (host.clock s + span.micros) / 1000000 → captured = .stopped .aborted s) ∧
      ((host.clock s + span.micros) / 1000000 < 2 ^ 63 →
        c.Stops (some span.micros) ∧
        (∃ e time, (∀ stand, c.Reaches (some span.micros) (.looking 0) stand →
            c.Reaches (some span.micros) stand (.ended e)) ∧
          e.time? = some time ∧ time < span.micros + Course.pollInterval ∧
          captured.stop? = none ∧ captured.state = started.takenAway time) ∧
        (∀ status output, c.DoneBy span.micros status output →
          captured.result? = some (.ok (.ofOutput status output))) ∧
        (c.exit = none ∨ c.output = none ∨ c.errors = none → ¬ c.Fails →
          captured.result? = some (.error (.overtime label span))) ∧
        (∀ t ≤ span.micros, ∀ cause, c.exit = some (t, .error cause) →
          captured.result? = some (.error (.invocation label cause))))) ∧
    (∀ capture, captured.result? = some (.ok capture) → ∃ time status output,
      c.Returns (limit.map Span.micros) (.finished time status output) ∧
        c.DoneBy time status output ∧ capture = .ofOutput status output) ∧
    (limit = none →
      (∀ capture, captured.result? = some (.ok capture) ↔
        ∃ time status output, c.DoneBy time status output ∧ capture = .ofOutput status output) ∧
      (∀ e time, c.Returns none e → e.time? = some time →
        captured.stop? = none ∧ captured.state = started.takenAway time) ∧
      (∀ t cause, c.exit = some (t, .error cause) →
        captured.result? = some (.error (.invocation label cause))) ∧
      ((∀ time status output, ¬ c.DoneBy time status output) → ¬ c.Fails →
        captured = .stopped .endless started.begun)) := by
  intro c captured
  have hof (hcount : host.canCount limit s = true) :
      captured = started.reply limit label (c.ending (limit.map Span.micros)) :=
    capture_of_started hcount hpassable hstart
  refine ⟨?_, fun capture hok => ?_, ?_⟩
  · rintro span rfl
    refine ⟨fun hlast => ?_, fun hlast => ?_⟩
    · refine capture_of_uncountable ?_
      rw [← Bool.not_eq_true, canCount_some_iff]
      exact Nat.not_lt_of_le hlast
    rw [hof (canCount_some_iff.mpr hlast)]
    have hby (now : Nat) (hle : now ≤ span.micros) (d : Nat)
        (hd : (some span).map Span.micros = some d) : now ≤ d := by
      rwa [← Option.some.inj hd]
    refine ⟨Course.acc_looking c span.micros 0, reply_within_poll started span label,
      fun status output hdone => reply_of_doneBy hdone (hby _ (Nat.le_refl _)), fun hnever hgoes => ?_,
      fun t hle cause hexit => reply_of_failed hexit (hby t hle)⟩
    exact reply_of_missing hgoes fun _ _ _ => Course.not_doneBy_of_never hnever
  · obtain ⟨time, status, output, hreturns, rfl⟩ := exists_returns_of_capture hstart hok
    exact ⟨time, status, output, hreturns, Course.doneBy_of_returns hreturns, rfl⟩
  · rintro rfl
    rw [hof rfl]
    have hby (now d : Nat) (hd : (none : Option Span).map Span.micros = some d) : now ≤ d := by
      cases hd
    refine ⟨fun capture => ⟨fun hok => ?_, ?_⟩, fun e time hreturns htime => ?_,
      fun t cause hexit => reply_of_failed hexit (hby t),
      fun hmissing hgoes => reply_of_endless hgoes hmissing⟩
    · rw [← hof rfl] at hok
      obtain ⟨time, status, output, hreturns, rfl⟩ := exists_returns_of_capture hstart hok
      exact ⟨time, status, output, Course.doneBy_of_returns hreturns, rfl⟩
    · rintro ⟨time, status, output, hdone, rfl⟩
      exact reply_of_doneBy hdone (hby time)
    · rw [Option.map_none, (Course.returns_iff.mp hreturns).1]
      exact reply_of_time htime

/-- A host on which every command has the same course, and the clock stands at zero.  It keeps when the last
command was taken away. -/
def ofCourse (course : Course) : Host (Option Nat) where
  remove _ s := .ok s
  isFile _ _ := false
  start _ _ _ := .ok ⟨none, course, some⟩
  clock _ := 0

/-- A command has exited, and a descendant holds its output for longer: for ever, or for 70
milliseconds. -/
theorem capture_covers_deadline_descendant :
    let held : Course := ⟨some (3000, .ok (.code 0)), none, some 4000⟩
    let slow : Course := ⟨some (12000, .ok (.code 3)), some (70000, [0x37, 0x0A]), some 65000⟩
    let command : Command := ⟨"sh", ["c.sh"]⟩
    ((ofCourse held).capture (some ⟨50⟩) "sh c.sh" command none).result? =
        some (.error (.overtime "sh c.sh" ⟨50⟩)) ∧
      (ofCourse held).capture none "sh c.sh" command none = .stopped .endless none ∧
      ((ofCourse slow).capture (some ⟨100⟩) "sh c.sh" command none).result? =
        some (.ok ⟨["7"], some 3⟩) ∧
      ((ofCourse slow).capture none "sh c.sh" command none).result? = some (.ok ⟨["7"], some 3⟩) := by
  intro held slow command
  have hdone : slow.DoneBy 100000 (.code 3) [0x37, 0x0A] :=
    ⟨⟨12000, by decide, rfl⟩, ⟨70000, by decide, rfl⟩, ⟨65000, by decide, rfl⟩⟩
  have hgoes : ¬ held.Fails := by
    rintro ⟨_, _, hexit⟩
    cases hexit
  have hpassable : Command.isPassable ⟨"sh", ["c.sh"]⟩ = true := by decide
  have hlines : Capture.ofOutput (.code 3) [0x37, 0x0A] = ⟨["7"], some 3⟩ := rfl
  have hheld := capture_covers_deadline (ofCourse held) (some ⟨50⟩) "sh c.sh" _ none hpassable rfl
  have hfree := capture_covers_deadline (ofCourse held) none "sh c.sh" _ none hpassable rfl
  have hslow := capture_covers_deadline (ofCourse slow) (some ⟨100⟩) "sh c.sh" _ none hpassable rfl
  have hlong := capture_covers_deadline (ofCourse slow) none "sh c.sh" _ none hpassable rfl
  refine ⟨((hheld.1 ⟨50⟩ rfl).2 (by decide)).2.2.2.1 (.inr (.inl rfl)) hgoes,
    (hfree.2.2 rfl).2.2.2 (fun _ _ _ => Course.not_doneBy_of_never (.inr (.inl rfl))) hgoes, ?_, ?_⟩
  · rw [← hlines]
    exact ((hslow.1 ⟨100⟩ rfl).2 (by decide)).2.2.1 _ _ hdone
  · exact ((hlong.2.2 rfl).1 _).mpr ⟨_, _, _, hdone, hlines.symm⟩

/-- All has come at once, and long before the limit of 2⁶³ seconds, but nothing is captured. -/
theorem capture_lost_of_prompt :
    let prompt : Course := ⟨some (0, .ok (.code 0)), some (0, [0x37, 0x0A]), some 0⟩
    let span : Span := ⟨1000 * 2 ^ 63⟩
    prompt.DoneBy span.micros (.code 0) [0x37, 0x0A] ∧
      (ofCourse prompt).capture (some span) "sh c.sh" ⟨"sh", ["c.sh"]⟩ none =
        .stopped .aborted none := by
  intro prompt span
  refine ⟨⟨⟨0, Nat.zero_le _, rfl⟩, ⟨0, Nat.zero_le _, rfl⟩, ⟨0, Nat.zero_le _, rfl⟩⟩, ?_⟩
  exact capture_of_uncountable (by decide)

end Host

end Conformance
