import Conformance.Proofs.Scanner
import Conformance.Proofs.Tally
import Conformance.Report.Rendering

/-!
# The report as a JSON document

The layout of a value is read back as this value, on whatever level it stands.  So the JSON report is
one document, of which nothing is lost: it tells the counts and the messages of the report.
-/

namespace Conformance

namespace Text

namespace Json

mutual

/-- The value in the JSON language. -/
def document : Json → Document
  | number n => .number n 0
  | string s => .string s
  | array elements => .array (documents elements)
  | object members => .object (memberDocuments members)

def documents : List Json → List Document
  | [] => []
  | v :: rest => document v :: documents rest

def memberDocuments : List (String × Json) → List (String × Document)
  | [] => []
  | (key, v) :: rest => (key, document v) :: memberDocuments rest

end

end Json

end Text

namespace Document

namespace Scanner

open Text.Json

variable {s : Scanner} {ts : List Token} {text : List Char}

/-- The scanner gets through a text, behind which these are the tokens. -/
def Takes (s : Scanner) (text : List Char) (ts : List Token) : Prop :=
  ∃ s', s.run text = some s' ∧ s'.Ends ts

theorem Takes.of_run (hrun : s.run text = some ⟨ts, .between⟩) : s.Takes text ts :=
  ⟨_, hrun, ends_between ts⟩

theorem Takes.append {more : List Char} {us : List Token} (hs : s.Takes text ts)
    (hmore : ∀ s' : Scanner, s'.Ends ts → s'.Takes more us) : s.Takes (text ++ more) us := by
  obtain ⟨s', hrun, hends⟩ := hs
  obtain ⟨s'', hrun', hends'⟩ := hmore s' hends
  exact ⟨s'', (run_append_of_run hrun more).trans hrun', hends'⟩

/-- The name of a member and its colon come before its value. -/
theorem Takes.keyed {key : String} {us : List Token}
    (hvalue : Takes ⟨ts ++ [.string key, .colon], .between⟩ text us) :
    Takes ⟨ts, .between⟩ (quote key ++ [':', ' '] ++ text) us := by
  obtain ⟨s, hrun, hends⟩ := hvalue
  refine ⟨s, ?_, hends⟩
  rw [List.append_assoc, run_append_of_run (run_quote ts key), List.cons_append, List.cons_append,
    List.nil_append, run_of_step rfl, run_of_step rfl, put, put, List.append_assoc]
  exact hrun

/-- A comma and a new line come before all elements but the first. -/
theorem Takes.separated {us : List Token} (hs : s.Ends ts)
    (hmore : Takes ⟨ts ++ [.comma], .between⟩ text us) (level : Nat) :
    s.Takes (',' :: newline level ++ text) us := by
  obtain ⟨s', hrun, hends⟩ := hmore
  refine ⟨s', ?_, hends⟩
  rw [List.cons_append, hs.run_cons (.inl rfl), run_of_step rfl, put,
    run_append_of_run (run_newline _ level)]
  exact hrun

/-- Brackets stand on lines of their own. -/
theorem Takes.enclosed {left right : Token} {us : List Token} (opening closing : Char)
    (hopen : step ⟨ts, .between⟩ opening = some (put ts left))
    (hclose : step ⟨us, .between⟩ closing = some (put us right))
    (hinner : Takes ⟨ts ++ [left], .between⟩ text us) (level : Nat) :
    Takes ⟨ts, .between⟩ (opening :: newline (level + 1) ++ text ++ newline level ++ [closing])
      (us ++ [right]) := by
  obtain ⟨s, hrun, hends⟩ := hinner
  refine .of_run ?_
  rw [List.append_assoc, List.append_assoc, List.cons_append, run_of_step hopen, put,
    run_append_of_run (run_newline _ _), run_append_of_run hrun,
    run_append_of_run (hends.run_newline level), run_of_step hclose, run_nil, put]

theorem takes_empty {opening closing : Char} {left right : Token}
    (hopen : step ⟨ts, .between⟩ opening = some (put ts left))
    (hclose : step ⟨ts ++ [left], .between⟩ closing = some (put (ts ++ [left]) right)) :
    Takes ⟨ts, .between⟩ [opening, closing] (ts ++ [left, right]) := by
  refine .of_run ?_
  rw [run_of_step hopen, put, run_of_step hclose, run_nil, put, List.append_assoc]
  rfl

mutual

/-- The layout of a value is read as its tokens. -/
theorem takes_layout (ts : List Token) (level : Nat) (v : Text.Json) :
    Takes ⟨ts, .between⟩ (layout level v) (ts ++ v.document.tokens) := by
  cases v with
  | number n =>
      refine ⟨_, ?_, ends_natural ts n⟩
      rw [layout, Nat.toString_eq_ofList_toDigits, String.toList_ofList]
      exact run_toDigits ts n
  | string text => exact .of_run (run_quote ts text)
  | array elements =>
      cases elements with
      | nil => exact takes_empty rfl rfl
      | cons v rest =>
          have hfirst := takes_layout (ts ++ [.leftBracket]) (level + 1) v
          have hinner := hfirst.append fun s hs => takes_layoutElements (level + 1) rest hs
          have hall := hinner.enclosed '[' ']' rfl rfl level
          simpa [layout, document, documents, Document.tokens] using hall
  | object members =>
      cases members with
      | nil => exact takes_empty rfl rfl
      | cons member rest =>
          obtain ⟨key, v⟩ := member
          have hfirst := takes_layout (ts ++ [.leftBrace] ++ [.string key, .colon]) (level + 1) v
          have hinner := hfirst.keyed.append fun s hs => takes_layoutMembers (level + 1) rest hs
          have hall := hinner.enclosed '{' '}' rfl rfl level
          simpa [layout, document, memberDocuments, Document.tokens] using hall

theorem takes_layoutElements (level : Nat) (elements : List Text.Json) {s : Scanner}
    {ts : List Token} (hs : s.Ends ts) :
    s.Takes (layoutElements level elements) (ts ++ elementTokens (documents elements)) := by
  cases elements with
  | nil => exact ⟨s, rfl, by simpa [documents, elementTokens] using hs⟩
  | cons v rest =>
      have hfirst := takes_layout (ts ++ [.comma]) level v
      have hinner := hfirst.append fun s hs => takes_layoutElements level rest hs
      simpa [layoutElements, documents, elementTokens] using hinner.separated hs level

theorem takes_layoutMembers (level : Nat) (members : List (String × Text.Json)) {s : Scanner}
    {ts : List Token} (hs : s.Ends ts) :
    s.Takes (layoutMembers level members) (ts ++ memberTokens (memberDocuments members)) := by
  cases members with
  | nil => exact ⟨s, rfl, by simpa [memberDocuments, memberTokens] using hs⟩
  | cons member rest =>
      obtain ⟨key, v⟩ := member
      have hfirst := takes_layout (ts ++ [.comma] ++ [.string key, .colon]) level v
      have hinner := hfirst.keyed.append fun s hs => takes_layoutMembers level rest hs
      simpa [layoutMembers, memberDocuments, memberTokens] using hinner.separated hs level

end

end Scanner

/-- The value is read back from its layout, be there one more line feed or not. -/
theorem parse?_pretty (v : Text.Json) :
    parse? v.pretty = some v.document ∧ parse? (v.pretty ++ "\n") = some v.document := by
  obtain ⟨s, hrun, hends⟩ := Scanner.takes_layout [] 0 v
  have hlast : s.step '\n' = some ⟨v.document.tokens, .between⟩ := by
    rw [hends.step _ (.inr rfl), List.nil_append]
    rfl
  rw [parse?_eq_some_iff, parse?_eq_some_iff]
  constructor
  · rw [tokens?, Text.Json.pretty, String.toList_ofList, Scanner.start, hrun, Option.bind_some]
    exact hends.finish
  · have hline : (v.pretty ++ "\n").toList = Text.Json.layout 0 v ++ ['\n'] := by
      simp [Text.Json.pretty]
    rw [tokens?, hline, Scanner.start, Scanner.run_append_of_run hrun, Scanner.run_of_step hlast]
    rfl

end Document

namespace Report

/-- What a report says in the JSON language. -/
def document (r : Report) : Document :=
  .object [("failed", .number r.failed 0), ("failures", .array (r.failures.map .string)),
    ("passed", .number r.passed 0), ("total", .number (r.passed + r.failed) 0)]

theorem document_toJson (r : Report) : r.toJson.document = r.document := by
  have hmessages : ∀ messages : List String,
      Text.Json.documents (messages.map .string) = messages.map .string := by
    intro messages
    induction messages with
    | nil => rfl
    | cons message messages ih => simp [Text.Json.documents, Text.Json.document, ih]
  simp [toJson, document, Text.Json.document, Text.Json.memberDocuments, hmessages, total]

theorem document_inj {r q : Report} : r.document = q.document ↔ r = q := by
  constructor
  · intro hdocument
    obtain ⟨passed, failed, failures⟩ := r
    obtain ⟨passed', failed', failures'⟩ := q
    have hstring : ∀ s s' : String, Document.string s = .string s' → s = s' :=
      fun _ _ => Document.string.inj
    simp only [document, Document.object.injEq, Document.number.injEq, Document.array.injEq,
      List.cons.injEq, Prod.mk.injEq, List.map_inj_right hstring] at hdocument
    obtain ⟨⟨-, hfailed, -⟩, ⟨-, hfailures⟩, ⟨-, hpassed, -⟩, -⟩ := hdocument
    rw [Int.natCast_inj.mp hfailed, hfailures, Int.natCast_inj.mp hpassed]
  · rintro rfl
    rfl

/-- The JSON report is one document and a line feed.  The document is an object of four members, from
which the report can be told. -/
theorem render_json (r : Report) (isColored : Bool) :
    (∃ text, r.render .json isColored = text ++ "\n" ∧ text.toList.head? = some '{' ∧
      text.toList.getLast? = some '}' ∧ Document.parse? text = some r.document) ∧
    Document.parse? (r.render .json isColored) = some r.document ∧
    ∀ q isColored', r.render .json isColored = q.render .json isColored' ↔ r = q := by
  have hparse (r : Report) (isColored : Bool) :
      Document.parse? (r.render .json isColored) = some r.document := by
    rw [← document_toJson]
    exact (Document.parse?_pretty r.toJson).2
  refine ⟨⟨r.toJson.pretty, rfl, ?_, ?_, ?_⟩, hparse r isColored, fun q isColored' => ?_⟩
  · simp [Text.Json.pretty, toJson, Text.Json.layout]
  · rw [Text.Json.pretty, String.toList_ofList, toJson, Text.Json.layout]
    exact List.getLast?_concat
  · rw [← document_toJson]
    exact (Document.parse?_pretty r.toJson).1
  · constructor
    · intro hrender
      have hdocument := hparse r isColored
      rw [hrender, hparse q isColored'] at hdocument
      exact (document_inj.mp (Option.some.inj hdocument)).symm
    · rintro rfl
      rfl

end Report

end Conformance
