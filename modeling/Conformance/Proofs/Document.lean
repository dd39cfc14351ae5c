import Conformance.Text.Decimal

/-!
# Reading JSON documents

A text is read by two machines, one behind the other.  The scanner goes through the characters and
puts together the tokens; the builder goes through the tokens and puts together the value.  What the
builder takes are the tokens of a value, which it gives back, and nothing else.
-/

namespace Conformance

/-- A value of the JSON language.  A number is a coefficient times a power of ten. -/
inductive Document where
  | null
  | boolean (b : Bool)
  | number (coefficient exponent : Int)
  | string (s : String)
  | array (elements : List Document)
  | object (members : List (String × Document))

namespace Document

inductive Token where
  | null
  | boolean (b : Bool)
  | number (coefficient exponent : Int)
  | string (s : String)
  | leftBracket
  | rightBracket
  | leftBrace
  | rightBrace
  | comma
  | colon
  deriving DecidableEq, Repr

mutual

/-- The tokens that a value is written with. -/
def tokens : Document → List Token
  | null => [.null]
  | boolean b => [.boolean b]
  | number coefficient exponent => [.number coefficient exponent]
  | string s => [.string s]
  | array [] => [.leftBracket, .rightBracket]
  | array (v :: rest) => .leftBracket :: tokens v ++ elementTokens rest ++ [.rightBracket]
  | object [] => [.leftBrace, .rightBrace]
  | object ((key, v) :: rest) =>
      .leftBrace :: .string key :: .colon :: tokens v ++ memberTokens rest ++ [.rightBrace]

/-- The tokens of further elements. -/
def elementTokens : List Document → List Token
  | [] => []
  | v :: rest => .comma :: tokens v ++ elementTokens rest

/-- The tokens of further members. -/
def memberTokens : List (String × Document) → List Token
  | [] => []
  | (key, v) :: rest => .comma :: .string key :: .colon :: tokens v ++ memberTokens rest

end

/-! ## The builder -/

/-- A list that is open while a value in it is built. -/
inductive Frame where
  | element (before : List Document)
  | member (before : List (String × Document)) (key : String)

/-- What the builder waits for inside the open lists. -/
inductive Due where
  | value
  | firstElement
  | moreElements (first : Document) (rest : List Document)
  | firstMember
  | key (first : String × Document) (rest : List (String × Document))
  | colon (before : List (String × Document)) (key : String)
  | moreMembers (first : String × Document) (rest : List (String × Document))
  | nothing (v : Document)

/-- The open lists, the innermost first, and what is to come next. -/
structure Builder where
  frames : List Frame
  due : Due

namespace Builder

def start : Builder := ⟨[], .value⟩

/-- The state after a whole value. -/
def complete (frames : List Frame) (v : Document) : Builder :=
  match frames with
  | [] => ⟨[], .nothing v⟩
  | .element [] :: outer => ⟨outer, .moreElements v []⟩
  | .element (first :: rest) :: outer => ⟨outer, .moreElements first (rest ++ [v])⟩
  | .member [] key :: outer => ⟨outer, .moreMembers (key, v) []⟩
  | .member (first :: rest) key :: outer => ⟨outer, .moreMembers first (rest ++ [(key, v)])⟩

/-- Takes the first token of a value. -/
def openValue (frames : List Frame) : Token → Option Builder
  | .null => some (complete frames .null)
  | .boolean b => some (complete frames (.boolean b))
  | .number coefficient exponent => some (complete frames (.number coefficient exponent))
  | .string s => some (complete frames (.string s))
  | .leftBracket => some ⟨frames, .firstElement⟩
  | .leftBrace => some ⟨frames, .firstMember⟩
  | .rightBracket | .rightBrace | .comma | .colon => none

def step (b : Builder) (token : Token) : Option Builder :=
  match b.due, token with
  | .value, _ => openValue b.frames token
  | .firstElement, .rightBracket => some (complete b.frames (.array []))
  | .firstElement, _ => openValue (.element [] :: b.frames) token
  | .moreElements first rest, .comma => some ⟨.element (first :: rest) :: b.frames, .value⟩
  | .moreElements first rest, .rightBracket => some (complete b.frames (.array (first :: rest)))
  | .firstMember, .rightBrace => some (complete b.frames (.object []))
  | .firstMember, .string key => some ⟨b.frames, .colon [] key⟩
  | .key first rest, .string key => some ⟨b.frames, .colon (first :: rest) key⟩
  | .colon before key, .colon => some ⟨.member before key :: b.frames, .value⟩
  | .moreMembers first rest, .comma => some ⟨b.frames, .key first rest⟩
  | .moreMembers first rest, .rightBrace => some (complete b.frames (.object (first :: rest)))
  | _, _ => none

def run (b : Builder) (ts : List Token) : Option Builder := ts.foldlM step b

/-- The value, if nothing is missing. -/
def result? (b : Builder) : Option Document :=
  match b with
  | ⟨[], .nothing v⟩ => some v
  | _ => none

end Builder

def build? (ts : List Token) : Option Document := (Builder.start.run ts).bind Builder.result?

namespace Builder

variable {b b' : Builder} {frames : List Frame} {token : Token} {ts us : List Token}

@[simp] theorem run_nil (b : Builder) : b.run [] = some b := rfl

theorem run_cons (b : Builder) (token : Token) (ts : List Token) :
    b.run (token :: ts) = (b.step token).bind fun b' => b'.run ts := rfl

theorem run_of_step (hstep : b.step token = some b') (ts : List Token) :
    b.run (token :: ts) = b'.run ts := by
  rw [run_cons, hstep, Option.bind_some]

theorem run_append (b : Builder) (ts us : List Token) :
    b.run (ts ++ us) = (b.run ts).bind fun b' => b'.run us := by
  rw [run, List.foldlM_append]
  rfl

theorem run_append_of_run (hrun : b.run ts = some b') (us : List Token) :
    b.run (ts ++ us) = b'.run us := by
  rw [run_append, hrun, Option.bind_some]

/-- In front of the first element a value may come as well as anywhere. -/
theorem run_firstElement (frames : List Frame) (v : Document) :
    run ⟨frames, .firstElement⟩ v.tokens = run ⟨.element [] :: frames, .value⟩ v.tokens := by
  have hstep : ∀ token, token ≠ .rightBracket →
      step ⟨frames, .firstElement⟩ token = step ⟨.element [] :: frames, .value⟩ token := by
    intro token htoken
    cases token <;> first | rfl | exact absurd rfl htoken
  have hhead : ∃ token rest, v.tokens = token :: rest ∧ token ≠ .rightBracket := by
    fun_cases tokens v <;> exact ⟨_, _, rfl, by simp⟩
  obtain ⟨token, rest, htokens, htoken⟩ := hhead
  rw [htokens, run_cons, run_cons, hstep token htoken]

mutual

/-- The tokens of a value make this value. -/
theorem run_tokens (frames : List Frame) (v : Document) :
    run ⟨frames, .value⟩ v.tokens = some (complete frames v) := by
  cases v with
  | null | boolean | number | string => rfl
  | array elements =>
      cases elements with
      | nil => rfl
      | cons v rest =>
          have hfirst : run ⟨frames, .firstElement⟩ v.tokens =
              some ⟨frames, .moreElements v []⟩ :=
            (run_firstElement frames v).trans (run_tokens (.element [] :: frames) v)
          have hrest := run_elementTokens frames v [] rest
          rw [tokens, List.append_assoc, List.cons_append, run_of_step rfl,
            run_append_of_run hfirst, run_append_of_run hrest]
          rfl
  | object members =>
      cases members with
      | nil => rfl
      | cons member rest =>
          obtain ⟨key, v⟩ := member
          have hfirst : run ⟨.member [] key :: frames, .value⟩ v.tokens =
              some ⟨frames, .moreMembers (key, v) []⟩ := run_tokens (.member [] key :: frames) v
          have hrest := run_memberTokens frames (key, v) [] rest
          rw [tokens, List.append_assoc, List.cons_append, List.cons_append, List.cons_append,
            run_of_step rfl, run_of_step rfl, run_of_step rfl, run_append_of_run hfirst,
            run_append_of_run hrest]
          rfl

theorem run_elementTokens (frames : List Frame) (first : Document) (before rest : List Document) :
    run ⟨frames, .moreElements first before⟩ (elementTokens rest) =
      some ⟨frames, .moreElements first (before ++ rest)⟩ := by
  cases rest with
  | nil => simp [elementTokens]
  | cons v rest =>
      have hvalue : run ⟨.element (first :: before) :: frames, .value⟩ v.tokens =
          some ⟨frames, .moreElements first (before ++ [v])⟩ :=
        run_tokens (.element (first :: before) :: frames) v
      have hrest := run_elementTokens frames first (before ++ [v]) rest
      rw [elementTokens, List.cons_append, run_of_step rfl, run_append_of_run hvalue, hrest]
      simp

theorem run_memberTokens (frames : List Frame) (first : String × Document)
    (before rest : List (String × Document)) :
    run ⟨frames, .moreMembers first before⟩ (memberTokens rest) =
      some ⟨frames, .moreMembers first (before ++ rest)⟩ := by
  cases rest with
  | nil => simp [memberTokens]
  | cons member rest =>
      obtain ⟨key, v⟩ := member
      have hvalue : run ⟨.member (first :: before) key :: frames, .value⟩ v.tokens =
          some ⟨frames, .moreMembers first (before ++ [(key, v)])⟩ :=
        run_tokens (.member (first :: before) key :: frames) v
      have hrest := run_memberTokens frames first (before ++ [(key, v)]) rest
      rw [memberTokens, List.cons_append, List.cons_append, List.cons_append, run_of_step rfl,
        run_of_step rfl, run_of_step rfl, run_append_of_run hvalue, hrest]
      simp

end

/-- The tokens of an array up to its next element or its end. -/
def openElements : List Document → List Token
  | [] => [.leftBracket]
  | v :: rest => .leftBracket :: v.tokens ++ elementTokens rest

def openMembers : List (String × Document) → List Token
  | [] => [.leftBrace]
  | (key, v) :: rest =>
      .leftBrace :: .string key :: .colon :: v.tokens ++ memberTokens rest

/-- A comma, unless the list has only begun. -/
def separator {α : Type} : List α → List Token
  | [] => []
  | _ :: _ => [.comma]

theorem elementTokens_append (elements : List Document) (v : Document) :
    elementTokens (elements ++ [v]) = elementTokens elements ++ .comma :: v.tokens := by
  induction elements with
  | nil => simp [elementTokens]
  | cons first rest ih => simp [elementTokens, ih]

theorem memberTokens_append (members : List (String × Document)) (key : String) (v : Document) :
    memberTokens (members ++ [(key, v)]) =
      memberTokens members ++ .comma :: .string key :: .colon :: v.tokens := by
  induction members with
  | nil => simp [memberTokens]
  | cons first rest ih => simp [memberTokens, ih]

/-- What has been read of an open list. -/
def openTokens : Frame → List Token
  | .element before => openElements before ++ separator before
  | .member before key => openMembers before ++ separator before ++ [.string key, .colon]

def frameTokens (frames : List Frame) : List Token :=
  frames.reverse.flatMap openTokens

/-- What has been read since the innermost list was opened. -/
def dueTokens : Due → List Token
  | .value => []
  | .firstElement => openElements []
  | .moreElements first rest => openElements (first :: rest)
  | .firstMember => openMembers []
  | .key first rest => openMembers (first :: rest) ++ [.comma]
  | .colon before key => openMembers before ++ separator before ++ [.string key]
  | .moreMembers first rest => openMembers (first :: rest)
  | .nothing v => v.tokens

/-- All that has been read. -/
def read (b : Builder) : List Token := frameTokens b.frames ++ dueTokens b.due

theorem read_mk (frames : List Frame) (due : Due) :
    (⟨frames, due⟩ : Builder).read = frameTokens frames ++ dueTokens due := rfl

theorem read_complete (frames : List Frame) (v : Document) :
    (complete frames v).read = frameTokens frames ++ v.tokens := by
  fun_cases complete frames v <;>
    simp [read, frameTokens, dueTokens, openTokens, openElements, openMembers, separator,
      elementTokens, memberTokens, elementTokens_append, memberTokens_append]

theorem read_openValue (hopen : openValue frames token = some b) :
    b.read = frameTokens frames ++ [token] := by
  fun_cases openValue frames token
  case case7 | case8 | case9 | case10 => simp [openValue] at hopen
  case case5 | case6 =>
    obtain rfl : _ = b := by simpa [openValue] using hopen
    rfl
  all_goals
    obtain rfl : _ = b := by simpa [openValue] using hopen
    simp [read_complete, Document.tokens]

/-- A step adds its token to what has been read. -/
theorem read_step (hstep : b.step token = some b') : b'.read = b.read ++ [token] := by
  obtain ⟨frames, due⟩ := b
  cases due with
  | value => simpa [read_mk, dueTokens] using read_openValue hstep
  | firstElement =>
      by_cases hclose : token = .rightBracket
      · subst hclose
        obtain rfl : complete frames (.array []) = b' := Option.some.inj hstep
        rw [read_complete, read_mk]
        simp [dueTokens, tokens, openElements]
      · have hopen : openValue (.element [] :: frames) token = some b' := by
          simpa [step, hclose] using hstep
        simpa [read_mk, dueTokens, frameTokens, openTokens, separator] using read_openValue hopen
  | moreElements first rest =>
      cases token with
      | comma =>
          obtain rfl := Option.some.inj hstep
          simp [read_mk, frameTokens, openTokens, separator, dueTokens]
      | rightBracket =>
          obtain rfl : complete frames (.array (first :: rest)) = b' := Option.some.inj hstep
          rw [read_complete, read_mk]
          simp [dueTokens, tokens, openElements]
      | _ => exact absurd hstep (by simp [step])
  | firstMember =>
      cases token with
      | string key =>
          obtain rfl := Option.some.inj hstep
          simp [read_mk, dueTokens, separator]
      | rightBrace =>
          obtain rfl : complete frames (.object []) = b' := Option.some.inj hstep
          rw [read_complete, read_mk]
          simp [dueTokens, tokens, openMembers]
      | _ => exact absurd hstep (by simp [step])
  | key first rest =>
      cases token with
      | string key =>
          obtain rfl := Option.some.inj hstep
          simp [read_mk, dueTokens, separator]
      | _ => exact absurd hstep (by simp [step])
  | colon before key =>
      cases token with
      | colon =>
          obtain rfl := Option.some.inj hstep
          simp [read_mk, frameTokens, openTokens, dueTokens]
      | _ => exact absurd hstep (by simp [step])
  | moreMembers first rest =>
      cases token with
      | comma =>
          obtain rfl := Option.some.inj hstep
          simp [read_mk, dueTokens]
      | rightBrace =>
          obtain rfl : complete frames (.object (first :: rest)) = b' := Option.some.inj hstep
          rw [read_complete, read_mk]
          simp [dueTokens, tokens, openMembers]
      | _ => exact absurd hstep (by simp [step])
  | nothing v => exact absurd hstep (by simp [step])

theorem read_run (hrun : b.run ts = some b') : b'.read = b.read ++ ts := by
  induction ts generalizing b with
  | nil =>
      obtain rfl : b = b' := Option.some.inj hrun
      simp
  | cons token ts ih =>
      obtain ⟨next, hstep, hnext⟩ := Option.bind_eq_some_iff.mp hrun
      rw [ih hnext, read_step hstep, List.append_assoc, List.singleton_append]

end Builder

/-- The builder takes the tokens of a value and nothing else, and gives this value. -/
theorem build?_eq_some_iff {ts : List Token} {v : Document} : build? ts = some v ↔ ts = v.tokens := by
  constructor
  · intro hbuild
    obtain ⟨b, hrun, hresult⟩ := Option.bind_eq_some_iff.mp hbuild
    have hread := Builder.read_run hrun
    obtain rfl : b = ⟨[], .nothing v⟩ := by
      unfold Builder.result? at hresult
      split at hresult
      · rw [Option.some.inj hresult]
      · cases hresult
    exact hread.symm
  · rintro rfl
    rw [build?, Builder.start, Builder.run_tokens]
    rfl

end Document

end Conformance
