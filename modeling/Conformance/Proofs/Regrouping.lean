import Conformance.Proofs.Fallback
import Mathlib.Data.List.Perm.Basic

/-!
# Groups in another order

The groups of an accepted argument list are seen from the arguments alone.  They may stand in any
order and be spelled in any way, as each fills a slot of its own.  One group more that fills a slot
once again is a conflict, wherever it stands: all values before the fault are good, so no other fault
hides it.
-/

namespace Conformance

/-! ## The groups of an argument list -/

/-- Cuts an argument list into groups: an argument that takes a value stands with the next one. -/
def groupsOf : List String → List (List String)
  | [] => []
  | [arg] => [[arg]]
  | arg :: next :: rest =>
      if takesValue arg then [arg, next] :: groupsOf rest else [arg] :: groupsOf (next :: rest)

/-- The list is made of these groups. -/
structure IsCut (args : List String) (gs : List (List String)) : Prop where
  flatten_eq : gs.flatten = args
  exists_group : ∀ g ∈ gs, ∃ e, Group g e

/-- One group in another spelling. -/
inductive Respelled : List String → List String → Prop
  | same (g : List String) : Respelled g g
  | attach {word value : String} {slot : Slot} : Slot.ofOption? word.toList = some slot →
      IsPlain value → Respelled ["--" ++ word, value] ["--" ++ word ++ "=" ++ value]
  | detach {word value : String} {slot : Slot} : Slot.ofOption? word.toList = some slot →
      IsPlain value → Respelled ["--" ++ word ++ "=" ++ value] ["--" ++ word, value]
  | lengthen : Respelled ["-v"] ["--verbose"]
  | shorten : Respelled ["--verbose"] ["-v"]

/-- The groups in another order, each of them spelled in some way. -/
def Regrouped (gs hs : List (List String)) : Prop :=
  ∃ ms, gs.Perm ms ∧ List.Forall₂ Respelled ms hs

section

variable {arg word : String} {g args : List String} {e e' : Slot × String} {f f' : Filled}
  {gs hs : List (List String)}

theorem groupsOf_cons (hvalue : takesValue arg = false) (rest : List String) :
    groupsOf (arg :: rest) = [arg] :: groupsOf rest := by
  cases rest <;> simp [groupsOf, hvalue]

theorem groupsOf_pair (hvalue : takesValue arg = true) (next : String) (rest : List String) :
    groupsOf (arg :: next :: rest) = [arg, next] :: groupsOf rest := by
  simp [groupsOf, hvalue]

theorem Group.groupsOf_append (hg : Group g e) (args : List String) :
    groupsOf (g ++ args) = g :: groupsOf args := by
  cases hg with
  | letter | flag => exact groupsOf_cons (by decide) args
  | attached value _ => exact groupsOf_cons (takesValue_attached _ value) args
  | separate hword _ => exact groupsOf_pair (takesValue_bare hword) _ args
  | position htext => exact groupsOf_cons htext.takesValue args

theorem groupsOf_flatten (h : List.Forall₂ Group gs f) : groupsOf gs.flatten = gs := by
  induction h with
  | nil => rfl
  | cons hg _ ih => rw [List.flatten_cons, hg.groupsOf_append, ih]

theorem Reads.forall₂_groupsOf (h : Reads args f) (hdashes : "--" ∉ args) :
    List.Forall₂ Group (groupsOf args) f ∧ (groupsOf args).flatten = args := by
  induction h with
  | nil => exact ⟨.nil, rfl⟩
  | separator | last => simp at hdashes
  | @group g args e f hg hargs ih =>
      obtain ⟨hgroups, hflatten⟩ := ih fun hmem => hdashes (List.mem_append_right g hmem)
      rw [hg.groupsOf_append, List.flatten_cons, hflatten]
      exact ⟨.cons hg hgroups, rfl⟩

theorem reads_flatten (h : List.Forall₂ Group gs f) : Reads gs.flatten f := by
  induction h with
  | nil => exact .nil
  | cons hg _ ih => exact .group hg ih

theorem exists_forall₂_group (h : ∀ g ∈ gs, ∃ e, Group g e) : ∃ f, List.Forall₂ Group gs f := by
  induction gs with
  | nil => exact ⟨[], .nil⟩
  | cons g gs ih =>
      obtain ⟨⟨e, hg⟩, hrest⟩ := List.forall_mem_cons.mp h
      obtain ⟨f, hf⟩ := ih hrest
      exact ⟨e :: f, .cons hg hf⟩

theorem exists_mem_of_forall₂ {α β : Type} {R : α → β → Prop} {as : List α} {bs : List β}
    (h : List.Forall₂ R as bs) : ∀ a ∈ as, ∃ b ∈ bs, R a b := by
  induction h with
  | nil => simp
  | cons hab _ ih =>
      refine List.forall_mem_cons.mpr ⟨⟨_, List.mem_cons_self, hab⟩, fun a hmem => ?_⟩
      obtain ⟨b, hb, hab'⟩ := ih a hmem
      exact ⟨b, List.mem_cons_of_mem _ hb, hab'⟩

/-- The groups of an argument list can be seen from it. -/
theorem Reads.isCut_iff (h : Reads args f) (hdashes : "--" ∉ args) :
    IsCut args gs ↔ gs = groupsOf args := by
  obtain ⟨hgroups, hflatten⟩ := h.forall₂_groupsOf hdashes
  constructor
  · rintro ⟨rfl, hall⟩
    obtain ⟨f', hf'⟩ := exists_forall₂_group hall
    exact (groupsOf_flatten hf').symm
  · rintro rfl
    refine ⟨hflatten, fun g hg => ?_⟩
    obtain ⟨e, -, hg'⟩ := exists_mem_of_forall₂ hgroups g hg
    exact ⟨e, hg'⟩

/-- An accepted group fills its slot with one text only. -/
theorem Group.eq_of_check (hg : Group g e) (hg' : Group g e') (hcheck : e.1.check e.2 = .ok ()) :
    e = e' := by
  have hfill : Filled.fill [] e.1 e.2 = .ok [e] := Filled.fill_eq_ok_iff.mpr ⟨rfl, hcheck, rfl⟩
  have hread : ∃ s, g.foldlM (Scan.read .run) Scan.start = .ok s ∧ s.outcome = .ok [e] :=
    (Scan.exists_group_iff Scan.ready_start hg rfl).mpr ⟨[], rfl, hfill⟩
  obtain ⟨f, hf, hfill'⟩ := (Scan.exists_group_iff Scan.ready_start hg' rfl).mp hread
  obtain rfl : [] = f := Except.ok.inj hf
  obtain ⟨-, -, heq⟩ := Filled.fill_eq_ok_iff.mp hfill'
  simpa using heq

theorem Respelled.exists_group {g' : List String} (h : Respelled g g') :
    g = g' ∨ ∃ e, Group g e ∧ Group g' e := by
  cases h with
  | same => exact .inl rfl
  | attach hword hvalue => exact .inr ⟨_, .separate hword hvalue, .attached _ hword⟩
  | detach hword hvalue => exact .inr ⟨_, .attached _ hword, .separate hword hvalue⟩
  | lengthen => exact .inr ⟨_, .letter, .flag⟩
  | shorten => exact .inr ⟨_, .flag, .letter⟩

theorem Respelled.group {g' : List String} (h : Respelled g g') (hg : Group g e)
    (hcheck : e.1.check e.2 = .ok ()) : Group g' e := by
  rcases h.exists_group with rfl | ⟨e', hold, hnew⟩
  · exact hg
  · rwa [hg.eq_of_check hold hcheck]

theorem forall₂_group_of_respelled (h : List.Forall₂ Respelled gs hs)
    (hgs : List.Forall₂ Group gs f) (hchecks : ∀ e ∈ f, e.1.check e.2 = .ok ()) :
    List.Forall₂ Group hs f := by
  induction h generalizing f with
  | nil =>
      cases hgs
      exact .nil
  | cons hspelled _ ih =>
      cases hgs with
      | cons hg hrest =>
          obtain ⟨hfirst, hmore⟩ := List.forall_mem_cons.mp hchecks
          exact .cons (hspelled.group hg hfirst) (ih hrest hmore)

theorem Group.slot_eq_testsDir (hg : Group g e) (he : e.1 = .testsDir) : g = [e.2] := by
  cases hg with
  | letter | flag => cases he
  | attached _ hword | separate hword _ => exact absurd he (Slot.ne_of_ofOption? hword).1
  | position => rfl

theorem Group.eq_of_head? (hg : Group g e) (hword : IsPlain word) (hhead : g.head? = some word) :
    e = (.testsDir, word) := by
  cases hg with
  | letter | flag =>
      obtain rfl := Option.some.inj hhead
      exact absurd hword (by decide)
  | @attached name _ value _ =>
      obtain rfl := Option.some.inj hhead
      exact absurd (by simp) (hword.ne_dashes (name.toList ++ '=' :: value.toList))
  | @separate name _ _ _ _ =>
      obtain rfl := Option.some.inj hhead
      exact absurd (by simp) (hword.ne_dashes name.toList)
  | position _ =>
      obtain rfl := Option.some.inj hhead
      rfl

theorem Group.ne_nil (hg : Group g e) : g ≠ [] := by
  cases hg <;> exact List.cons_ne_nil _ _

theorem head?_flatten_ne (h : List.Forall₂ Group gs f) (hword : IsPlain word)
    (hposition : (Slot.testsDir, word) ∉ f) : gs.flatten.head? ≠ some word := by
  cases h with
  | nil => simp
  | cons hg _ =>
      rw [List.flatten_cons, List.head?_append_of_ne_nil _ hg.ne_nil]
      intro hhead
      exact hposition (hg.eq_of_head? hword hhead ▸ List.mem_cons_self)

end

/-! ## Faults of filling -/

namespace Filled

variable {f g : Filled} {e : Slot × String} {err : ArgumentError} {slot : Slot} {text : String}

theorem fill_eq_conflict (h : f.has slot = true) : f.fill slot text = .error .conflict := by
  simp only [fill, h, if_true]
  rfl

theorem eq_conflict_of_fill (hcheck : slot.check text = .ok ())
    (hfill : f.fill slot text = .error err) : err = .conflict := by
  cases hhas : f.has slot with
  | true =>
      rw [fill_eq_conflict hhas] at hfill
      exact (Except.error.inj hfill).symm
  | false =>
      rw [fill_of_free (has_eq_false_iff.mp hhas), hcheck] at hfill
      cases hfill

theorem fillAll_cons (f : Filled) (e : Slot × String) (g : Filled) :
    f.fillAll (e :: g) = (f.fill e.1 e.2).bind fun f => f.fillAll g := rfl

theorem eq_conflict_of_fillAll (hchecks : ∀ e ∈ g, e.1.check e.2 = .ok ())
    (hfill : f.fillAll g = .error err) : err = .conflict := by
  induction g generalizing f with
  | nil => cases hfill
  | cons e g ih =>
      obtain ⟨hfirst, hrest⟩ := List.forall_mem_cons.mp hchecks
      rw [fillAll_cons] at hfill
      cases hf : f.fill e.1 e.2 with
      | error err' =>
          rw [hf] at hfill
          cases hfill
          exact eq_conflict_of_fill hfirst hf
      | ok f' =>
          rw [hf] at hfill
          exact ih hrest hfill

/-- Texts that their slots take are refused only where a slot is filled twice. -/
theorem fillAll_eq_conflict (hchecks : ∀ e ∈ g, e.1.check e.2 = .ok ())
    (htwice : ¬ (g.map Prod.fst).Nodup) : f.fillAll g = .error .conflict := by
  cases hfill : f.fillAll g with
  | error err => rw [eq_conflict_of_fillAll hchecks hfill]
  | ok f' => exact absurd (fillAll_eq_ok_iff.mp hfill).2.2.1 htwice

end Filled

namespace Scan

variable {s : Scan} {slot : Slot} {text : String} {e : Slot × String} {g : List String}
  {gs : List (List String)} {f : Filled}

/-- If the outcome so far has at most a conflict as its fault, one position more does what it does
to any slot: a second one is a conflict at once. -/
theorem position_bind_outcome (hs : ∀ slot, s.pending ≠ some (slot, none))
    (hfault : ∀ err, s.outcome = .error err → err = .conflict) (text : String) :
    (s.position .run text).bind outcome = s.outcome.bind fun f => f.fill .testsDir text := by
  rw [position]
  split
  case isTrue hposition =>
    cases houtcome : s.outcome with
    | error err => rw [hfault err houtcome]; rfl
    | ok f =>
        rw [hasPosition_of_outcome hs houtcome] at hposition
        exact (Filled.fill_eq_conflict hposition).symm
  case isFalse => exact settle_bind_outcome s .testsDir text

theorem group_bind_outcome (hs : s.Ready) (hg : Group g e)
    (hfault : ∀ err, s.outcome = .error err → err = .conflict) :
    (g.foldlM (read .run) s).bind outcome = s.outcome.bind fun f => f.fill e.1 e.2 := by
  cases hg with
  | letter =>
      rw [foldlM_singleton, (read_verbose hs.options).1]
      exact fill_bind_outcome s .verbose ""
  | flag =>
      rw [foldlM_singleton, (read_verbose hs.options).2]
      exact fill_bind_outcome s .verbose ""
  | attached value hword =>
      rw [foldlM_singleton, read_attached hs.options hword rfl]
      exact fill_bind_outcome s _ value
  | separate hword hvalue =>
      rw [foldlM_separate hs.options hword rfl hvalue]
      exact settle_bind_outcome s _ _
  | position htext =>
      rw [foldlM_singleton, read_plain hs.options htext, plain_of_ready hs.complete]
      exact position_bind_outcome hs.complete hfault _

/-- Groups whose texts are taken have the same outcome as filling their slots, faults included. -/
theorem groups_bind_outcome (hgs : List.Forall₂ Group gs f) (hs : s.Ready)
    (hchecks : ∀ e ∈ f, e.1.check e.2 = .ok ())
    (hfault : ∀ err, s.outcome = .error err → err = .conflict) :
    (gs.flatten.foldlM (read .run) s).bind outcome = s.outcome.bind fun f₀ => f₀.fillAll f := by
  induction hgs generalizing s with
  | nil =>
      change s.outcome = s.outcome.bind Except.ok
      cases s.outcome <;> rfl
  | @cons g e gs f hg hgs ih =>
      obtain ⟨hfirst, hrest⟩ := List.forall_mem_cons.mp hchecks
      have hgroup := group_bind_outcome hs hg hfault
      have hsplit : (s.outcome.bind fun f₀ => f₀.fillAll (e :: f)) =
          (s.outcome.bind fun f₀ => f₀.fill e.1 e.2).bind fun f₁ => f₁.fillAll f := by
        cases s.outcome <;> rfl
      rw [List.flatten_cons, List.foldlM_append, hsplit, ← hgroup]
      cases hread : g.foldlM (read .run) s with
      | error err => rfl
      | ok s₁ =>
          refine ih (ready_of_group hs hg rfl hread) hrest fun err herr => ?_
          rw [hread] at hgroup
          have hfilled : (s.outcome.bind fun f => f.fill e.1 e.2) = .error err :=
            hgroup.symm.trans herr
          cases houtcome : s.outcome with
          | error err' =>
              rw [houtcome] at hfilled
              cases hfilled
              exact hfault err houtcome
          | ok f₀ =>
              rw [houtcome] at hfilled
              exact Filled.eq_conflict_of_fill hfirst hfilled

theorem all_flatten (hgs : List.Forall₂ Group gs f) (hchecks : ∀ e ∈ f, e.1.check e.2 = .ok ()) :
    all .run gs.flatten = Filled.fillAll [] f := by
  rw [all_eq]
  refine groups_bind_outcome hgs ready_start hchecks fun err herr => ?_
  cases herr

end Scan

/-! ## Regrouped requests -/

namespace Filled

variable {f g : Filled} {env : Environment} {slot : Slot} {text : String}

theorem text?_eq_some_iff (hnodup : (f.map Prod.fst).Nodup) :
    f.text? slot = some text ↔ (slot, text) ∈ f := by
  induction f with
  | nil => simp [text?]
  | cons e f ih =>
      obtain ⟨other, text'⟩ := e
      obtain ⟨hnew, hrest⟩ := List.nodup_cons.mp hnodup
      by_cases hslot : slot = other
      · subst hslot
        have hnot : (slot, text) ∉ f := by
          intro hmem
          exact hnew (List.mem_map.mpr ⟨(slot, text), hmem, rfl⟩)
        simp [text?, hnot, eq_comm]
      · have hbeq : (slot == other) = false := by simpa using hslot
        have hlater : Filled.text? ((other, text') :: f) slot = Filled.text? f slot := by
          rw [text?, List.lookup_cons, hbeq]
          rfl
        simp [hlater, ih hrest, hslot]

/-- The order in which slots were filled does not matter. -/
theorem text?_eq_of_perm (hnodup : (f.map Prod.fst).Nodup) (hperm : f.Perm g) :
    f.text? = g.text? := by
  have hnodup' : (g.map Prod.fst).Nodup := (hperm.map Prod.fst).nodup_iff.mp hnodup
  funext slot
  ext text
  rw [text?_eq_some_iff hnodup, text?_eq_some_iff hnodup', hperm.mem_iff]

theorem finish_congr {r : Request} (h : f.text? = g.text?) (hf : f.finish env = .ok r) :
    g.finish env = .ok r := by
  obtain ⟨haccepts, -⟩ := finish_eq_ok hf
  have haccepts' : Accepts env g Slot.ofRun := fun slot hslot hfree =>
    haccepts slot hslot ((congrFun h slot).trans hfree)
  rw [← hf]
  exact (finish_congr_text? haccepts haccepts' fun slot => by rw [h]).symm

end Filled

/-- The groups fill these slots, perhaps in another order. -/
def Fills (gs : List (List String)) (f : Filled) : Prop :=
  ∃ f', List.Forall₂ Group gs f' ∧ f'.Perm f

namespace Fills

variable {env : Environment} {args g : List String} {e : Slot × String}
  {gs hs : List (List String)} {f : Filled}

theorem perm (h : Fills gs f) (hperm : hs.Perm gs) : Fills hs f := by
  obtain ⟨f', hgroups, hf'⟩ := h
  obtain ⟨f'', hgroups', hperm'⟩ := List.perm_comp_forall₂ hperm hgroups
  exact ⟨f'', hgroups', hperm'.trans hf'⟩

theorem cons (hg : Group g e) (h : Fills gs f) : Fills (g :: gs) (e :: f) := by
  obtain ⟨f', hgroups, hperm⟩ := h
  exact ⟨e :: f', .cons hg hgroups, hperm.cons e⟩

theorem regrouped (h : Fills gs f) (hchecks : ∀ e ∈ f, e.1.check e.2 = .ok ())
    (hregrouped : Regrouped gs hs) : Fills hs f := by
  obtain ⟨ms, hperm, hspelled⟩ := hregrouped
  obtain ⟨f', hgroups, hf'⟩ := h.perm hperm.symm
  have hchecks' : ∀ e ∈ f', e.1.check e.2 = .ok () := fun e he => hchecks e (hf'.mem_iff.mp he)
  exact ⟨f', forall₂_group_of_respelled hspelled hgroups hchecks', hf'⟩

/-- Neither of the two words for what to do stands in front. -/
theorem parse_eq (h : Fills gs f) (hlist : (.testsDir, "list") ∉ f)
    (hhelp : (.testsDir, "help") ∉ f) (env : Environment) :
    Request.parse env gs.flatten = Request.parseRun env gs.flatten := by
  obtain ⟨f', hgroups, hperm⟩ := h
  have hhead : ∀ {word : String}, IsPlain word → (.testsDir, word) ∉ f →
      gs.flatten.head? ≠ some word := fun hword hnot =>
    head?_flatten_ne hgroups hword fun hmem => hnot (hperm.mem_iff.mp hmem)
  exact Request.parse_eq_parseRun (hhead (by decide) hlist) (hhead (by decide) hhelp) env

/-- Groups that fill the slots of an accepted list are accepted, and ask for the same. -/
theorem accepted {request : Request} (h : Fills gs f) (hall : Scan.all .run args = .ok f)
    (hfinish : f.finish env = .ok request) (hlist : (.testsDir, "list") ∉ f)
    (hhelp : (.testsDir, "help") ∉ f) : Request.parse env gs.flatten = .ok request := by
  obtain ⟨-, hnodup, hchecks⟩ := Scan.all_eq_ok_iff.mp hall
  rw [h.parse_eq hlist hhelp, Request.parseRun_eq]
  obtain ⟨f', hgroups, hperm⟩ := h
  have hnodup' := (hperm.map Prod.fst).nodup_iff.mpr hnodup
  have hall' : Scan.all .run gs.flatten = .ok f' := by
    refine Scan.all_eq_ok_iff.mpr ⟨reads_flatten hgroups, hnodup', fun e he => ?_⟩
    exact hchecks e (hperm.mem_iff.mp he)
  rw [hall']
  exact Filled.finish_congr (Filled.text?_eq_of_perm hnodup hperm.symm) hfinish

/-- Groups with good texts that fill a slot twice are a conflict. -/
theorem conflict (h : Fills gs f) (hchecks : ∀ e ∈ f, e.1.check e.2 = .ok ())
    (htwice : ¬ (f.map Prod.fst).Nodup) (hlist : (.testsDir, "list") ∉ f)
    (hhelp : (.testsDir, "help") ∉ f) (env : Environment) :
    Request.parse env gs.flatten = .error .conflict := by
  rw [h.parse_eq hlist hhelp, Request.parseRun_eq]
  obtain ⟨f', hgroups, hperm⟩ := h
  have hchecks' : ∀ e ∈ f', e.1.check e.2 = .ok () := fun e he => hchecks e (hperm.mem_iff.mp he)
  have htwice' : ¬ (f'.map Prod.fst).Nodup := fun hnodup =>
    htwice ((hperm.map Prod.fst).nodup_iff.mp hnodup)
  rw [Scan.all_flatten hgroups hchecks', Filled.fillAll_eq_conflict hchecks' htwice']
  rfl

end Fills

theorem position_notMem {gs : List (List String)} {f : Filled} {word : String}
    (h : List.Forall₂ Group gs f) (hnot : [word] ∉ gs) : (Slot.testsDir, word) ∉ f := by
  intro hmem
  obtain ⟨g, hg, hgroup⟩ := exists_mem_of_forall₂ h.flip _ hmem
  exact hnot (hgroup.slot_eq_testsDir rfl ▸ hg)

namespace Request

variable {env : Environment} {args : List String} {verbose : Bool} {r : RunRequest}

/-- An argument list that is accepted as a run, without two dashes alone, is cut into groups in one
way.  If its position is no word for what to do, the groups may stand in any order and be spelled in
any way.  One of them once again is a conflict wherever it is put, and so is a second position. -/
theorem parse_regrouped (h : parse env args = .ok (.run verbose r)) (hdashes : "--" ∉ args) :
    let gs := groupsOf args
    (∀ hs, IsCut args hs ↔ hs = gs) ∧
    (["list"] ∉ gs → ["help"] ∉ gs →
      (∀ hs, Regrouped gs hs → parse env hs.flatten = .ok (.run verbose r)) ∧
      ∀ before after, before ++ after = gs →
        (∀ g ∈ gs, parse env (before ++ g :: after).flatten = .error .conflict) ∧
        (fillsPosition args = true → ∀ text, IsPlain text → text ≠ "" → text ≠ "list" →
          text ≠ "help" → parse env (before ++ [text] :: after).flatten = .error .conflict)) := by
  intro gs
  obtain ⟨hlist, hhelp⟩ := head?_ne_of_parse h
  rw [parse_eq_parseRun hlist hhelp, parseRun_eq] at h
  obtain ⟨f, hall, hfinish⟩ := bind_eq_ok_iff.mp h
  obtain ⟨hreads, hnodup, hchecks⟩ := Scan.all_eq_ok_iff.mp hall
  have hgroups := (hreads.forall₂_groupsOf hdashes).1
  refine ⟨fun hs => hreads.isCut_iff hdashes, fun hnoList hnoHelp => ?_⟩
  have hfills : Fills gs f := ⟨f, hgroups, .refl f⟩
  have hlist' := position_notMem hgroups hnoList
  have hhelp' := position_notMem hgroups hnoHelp
  have htaken : ∀ e ∈ f, e.1.check e.2 = .ok () := fun e he => (hchecks e he).2
  refine ⟨fun hs hregrouped => ?_, fun before after hsplit => ?_⟩
  · exact (hfills.regrouped htaken hregrouped).accepted hall hfinish hlist' hhelp'
  · have hmore : ∀ {g e}, Group g e → e.1 ∈ f.map Prod.fst → e.1.check e.2 = .ok () →
        (.testsDir, "list") ≠ e → (.testsDir, "help") ≠ e →
          parse env (before ++ g :: after).flatten = .error .conflict := by
      intro g e hg hslot hcheck hneList hneHelp
      have hone : Fills (before ++ g :: after) (e :: f) :=
        (hfills.cons hg).perm (hsplit ▸ List.perm_middle)
      refine hone.conflict (List.forall_mem_cons.mpr ⟨hcheck, htaken⟩) ?_ ?_ ?_ env
      · exact fun htwice => (List.nodup_cons.mp htwice).1 hslot
      · simpa [hneList] using hlist'
      · simpa [hneHelp] using hhelp'
    refine ⟨fun g hg => ?_, fun hposition text hplain hne hneList hneHelp => ?_⟩
    · obtain ⟨e, he, hge⟩ := exists_mem_of_forall₂ hgroups g hg
      refine hmore hge (List.mem_map_of_mem he) (htaken e he) ?_ ?_
      · rintro rfl
        exact hlist' he
      · rintro rfl
        exact hhelp' he
    · have hhas : f.has .testsDir = true := hreads.has_testsDir.trans hposition
      obtain ⟨e, he, hslot⟩ := List.any_eq_true.mp hhas
      refine hmore (.position hplain) ?_ ?_ ?_ ?_
      · exact List.mem_map.mpr ⟨e, he, by simpa using hslot⟩
      · simp [Slot.check, hne]
      · simpa using hneList.symm
      · simpa using hneHelp.symm

/-- The position goes to the end, a value moves to its option and the flag gets its long name; the
option once more in front or another position behind is a conflict. -/
theorem parse_regrouped_moved :
    let args := ["-v", "d", "--extension", "-", "--timeout=7"]
    let r : RunRequest := ⟨⟨⟨"d"⟩, "-"⟩, ⟨"cargo", ["run"]⟩, ⟨"./build.sh", []⟩, ⟨"./a.out"⟩, 7,
      .auto, .text⟩
    parse [] args = .ok (.run true r) ∧
      parse [] ["--timeout=7", "--extension=-", "--verbose", "d"] = .ok (.run true r) ∧
      parse [] ["--extension", "-", "-v", "d", "--extension", "-", "--timeout=7"] =
        .error .conflict ∧
      parse [] ["-v", "d", "--extension", "-", "--timeout=7", "e"] = .error .conflict := by
  intro args r
  have haccepted : parse [] args = .ok (.run true r) := rfl
  have hgroups : groupsOf args = [["-v"], ["d"], ["--extension", "-"], ["--timeout=7"]] := by decide
  obtain ⟨-, hmoved⟩ := parse_regrouped haccepted (by decide)
  rw [hgroups] at hmoved
  obtain ⟨hall, hmore⟩ := hmoved (by decide) (by decide)
  refine ⟨haccepted, hall [["--timeout=7"], ["--extension=-"], ["--verbose"], ["d"]] ?_, ?_, ?_⟩
  · have hword : Slot.ofOption? "extension".toList = some .extension := rfl
    refine ⟨[["--timeout=7"], ["--extension", "-"], ["-v"], ["d"]], by decide, ?_⟩
    have hattach := Respelled.attach hword (by decide : IsPlain "-")
    exact .cons (.same _) (.cons hattach (.cons .lengthen (.cons (.same _) .nil)))
  · exact (hmore [] _ rfl).1 ["--extension", "-"] (by decide)
  · exact (hmore _ [] (List.append_nil _)).2 (by decide) "e" (by decide) (by decide) (by decide)
      (by decide)

end Request

end Conformance
