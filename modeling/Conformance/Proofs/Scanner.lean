import Conformance.Proofs.Document
import Conformance.Proofs.Line
import Conformance.Text.Json
import Mathlib.Tactic.IntervalCases

/-!
# Scanning JSON documents

The scanner reads one character after the other.  A number or a word ends where a character comes that
cannot go on with it, and that character begins what follows.
-/

namespace Conformance

namespace Document

/-! ## Numbers -/

/-- What was read of a number last. -/
inductive Phase where
  | sign
  | zero
  | whole
  | point
  | fraction
  | e
  | exponentSign
  | exponent
  deriving DecidableEq, Repr

/-- A number of which a part has been read. -/
structure Numeral where
  phase : Phase
  isNegative : Bool
  /-- The digits without the point, as a number. -/
  digits : Nat
  /-- How many of them stand behind the point. -/
  places : Nat
  isDown : Bool
  exponent : Nat
  deriving DecidableEq, Repr

namespace Numeral

/-- A number behind its sign, if it has one. -/
def signed (isNegative : Bool) : Numeral := ⟨.sign, isNegative, 0, 0, false, 0⟩

/-- The number with one more digit. -/
def digit? (n : Numeral) (d : Nat) : Option Numeral :=
  match n.phase with
  | .sign => some { n with phase := if d = 0 then .zero else .whole, digits := d }
  | .zero => none
  | .whole => some { n with digits := 10 * n.digits + d }
  | .point | .fraction =>
      some { n with phase := .fraction, digits := 10 * n.digits + d, places := n.places + 1 }
  | .e | .exponentSign | .exponent =>
      some { n with phase := .exponent, exponent := 10 * n.exponent + d }

/-- The number with one more mark between its digits. -/
def mark? (n : Numeral) (c : Char) : Option Numeral :=
  match n.phase with
  | .zero | .whole =>
      if c = '.' then some { n with phase := .point }
      else if c = 'e' ∨ c = 'E' then some { n with phase := .e }
      else none
  | .fraction => if c = 'e' ∨ c = 'E' then some { n with phase := .e } else none
  | .e =>
      if c = '+' then some { n with phase := .exponentSign }
      else if c = '-' then some { n with phase := .exponentSign, isDown := true }
      else none
  | .sign | .point | .exponentSign | .exponent => none

def next? (n : Numeral) (c : Char) : Option Numeral :=
  match Text.Decimal.digit? c with
  | some d => n.digit? d
  | none => n.mark? c

/-- The number, if it may end here. -/
def token? (n : Numeral) : Option Token :=
  match n.phase with
  | .zero | .whole | .fraction | .exponent =>
      let coefficient : Int := if n.isNegative then -n.digits else n.digits
      let exponent : Int := if n.isDown then -n.exponent else n.exponent
      some (.number coefficient (exponent - n.places))
  | .sign | .point | .e | .exponentSign => none

end Numeral

/-! ## Strings and words -/

def hexValue? (c : Char) : Option Nat :=
  if '0' ≤ c ∧ c ≤ '9' then some (c.toNat - '0'.toNat)
  else if 'a' ≤ c ∧ c ≤ 'f' then some (c.toNat - 'a'.toNat + 10)
  else if 'A' ≤ c ∧ c ≤ 'F' then some (c.toNat - 'A'.toNat + 10)
  else none

/-- The character that a letter behind a backslash stands for. -/
def escaped? : Char → Option Char
  | '"' => some '"'
  | '\\' => some '\\'
  | '/' => some '/'
  | 'b' => some '\x08'
  | 'f' => some '\x0c'
  | 'n' => some '\n'
  | 'r' => some '\r'
  | 't' => some '\t'
  | _ => none

def word? (letters : List Char) : Option Token :=
  if letters = "null".toList then some .null
  else if letters = "true".toList then some (.boolean true)
  else if letters = "false".toList then some (.boolean false)
  else none

/-- What the scanner is in the middle of.  A string keeps the first half of a pair until the second
half has come. -/
inductive Mode where
  | between
  | word (letters : List Char)
  | number (n : Numeral)
  | string (s : List Char) (half? : Option Nat)
  | escape (s : List Char) (half? : Option Nat)
  | unicode (s : List Char) (half? : Option Nat) (missing value : Nat)

/-- Puts a unit of sixteen bits into a string: a character, or half of one. -/
def putUnit (s : List Char) (half? : Option Nat) (unit : Nat) : Option Mode :=
  let isLow := 0xDC00 ≤ unit ∧ unit < 0xE000
  match half? with
  | none =>
      if 0xD800 ≤ unit ∧ unit < 0xDC00 then some (.string s (some unit))
      else if isLow then none
      else some (.string (s ++ [Char.ofNat unit]) none)
  | some half =>
      if isLow then
        some (.string (s ++ [Char.ofNat (0x10000 + (half - 0xD800) * 0x400 + (unit - 0xDC00))]) none)
      else none

/-! ## The scanner -/

/-- The tokens so far. -/
structure Scanner where
  tokens : List Token
  mode : Mode

namespace Scanner

def start : Scanner := ⟨[], .between⟩

/-- Goes on behind a token. -/
def put (ts : List Token) (token : Token) : Scanner := ⟨ts ++ [token], .between⟩

/-- The first character of a token, or a blank. -/
def enter (ts : List Token) (c : Char) : Option Scanner :=
  if c = ' ' ∨ c = '\t' ∨ c = '\n' ∨ c = '\r' then some ⟨ts, .between⟩
  else match c with
    | '[' => some (put ts .leftBracket)
    | ']' => some (put ts .rightBracket)
    | '{' => some (put ts .leftBrace)
    | '}' => some (put ts .rightBrace)
    | ',' => some (put ts .comma)
    | ':' => some (put ts .colon)
    | '"' => some ⟨ts, .string [] none⟩
    | '-' => some ⟨ts, .number (.signed true)⟩
    | _ =>
        if c.isLower then some ⟨ts, .word [c]⟩
        else ((Numeral.signed false).next? c).map fun n => ⟨ts, .number n⟩

def step (s : Scanner) (c : Char) : Option Scanner :=
  match s.mode with
  | .between => enter s.tokens c
  | .word letters =>
      if c.isLower then some ⟨s.tokens, .word (letters ++ [c])⟩
      else (word? letters).bind fun token => enter (s.tokens ++ [token]) c
  | .number n =>
      match n.next? c with
      | some n => some ⟨s.tokens, .number n⟩
      | none => n.token?.bind fun token => enter (s.tokens ++ [token]) c
  | .string chars half? =>
      if c = '\\' then some ⟨s.tokens, .escape chars half?⟩
      else if half?.isSome then none
      else if c = '"' then some (put s.tokens (.string (String.ofList chars)))
      else if c.toNat < 0x20 then none
      else some ⟨s.tokens, .string (chars ++ [c]) none⟩
  | .escape chars half? =>
      if c = 'u' then some ⟨s.tokens, .unicode chars half? 3 0⟩
      else if half?.isSome then none
      else (escaped? c).map fun c => ⟨s.tokens, .string (chars ++ [c]) none⟩
  | .unicode chars half? missing value =>
      (hexValue? c).bind fun digit =>
        match missing with
        | 0 => (putUnit chars half? (16 * value + digit)).map fun mode => ⟨s.tokens, mode⟩
        | missing + 1 => some ⟨s.tokens, .unicode chars half? missing (16 * value + digit)⟩

def run (s : Scanner) (text : List Char) : Option Scanner := text.foldlM step s

/-- The tokens of a text that ends here. -/
def finish? (s : Scanner) : Option (List Token) :=
  match s.mode with
  | .between => some s.tokens
  | .word letters => (word? letters).map fun token => s.tokens ++ [token]
  | .number n => n.token?.map fun token => s.tokens ++ [token]
  | .string .. | .escape .. | .unicode .. => none

end Scanner

def tokens? (text : String) : Option (List Token) :=
  (Scanner.start.run text.toList).bind Scanner.finish?

/-- The value that a text is a document for. -/
def parse? (text : String) : Option Document := (tokens? text).bind build?

theorem parse?_eq_some_iff {text : String} {v : Document} :
    parse? text = some v ↔ tokens? text = some v.tokens := by
  rw [parse?, Option.bind_eq_some_iff]
  simp only [build?_eq_some_iff, exists_eq_right]

example : parse? "[-1.50e2, \"\\ud83d\\ude00\", null]" =
    some (.array [.number (-150) 0, .string "😀", .null]) := rfl

example : parse? "[1,]" = none := rfl

/-! ## What the scanner makes of the parts of a document -/

namespace Scanner

variable {s s' : Scanner} {ts : List Token} {c : Char} {text : List Char}

@[simp] theorem run_nil (s : Scanner) : s.run [] = some s := rfl

theorem run_cons (s : Scanner) (c : Char) (text : List Char) :
    s.run (c :: text) = (s.step c).bind fun s' => s'.run text := rfl

theorem run_of_step (hstep : s.step c = some s') (text : List Char) :
    s.run (c :: text) = s'.run text := by
  rw [run_cons, hstep, Option.bind_some]

theorem run_append (s : Scanner) (text more : List Char) :
    s.run (text ++ more) = (s.run text).bind fun s' => s'.run more := by
  rw [run, List.foldlM_append]
  rfl

theorem run_append_of_run (hrun : s.run text = some s') (more : List Char) :
    s.run (text ++ more) = s'.run more := by
  rw [run_append, hrun, Option.bind_some]

/-! ### Strings -/

theorem hexValue?_hexDigit : ∀ n < 16, hexValue? (Text.Json.hexDigit n) = some n := by decide

theorem putUnit_control (chars : List Char) (hc : c.toNat < 0x20) :
    putUnit chars none c.toNat = some (.string (chars ++ [c]) none) := by
  have hhigh : ¬ (0xD800 ≤ c.toNat ∧ c.toNat < 0xDC00) := by omega
  have hlow : ¬ (0xDC00 ≤ c.toNat ∧ c.toNat < 0xE000) := by omega
  rw [putUnit, if_neg hhigh, if_neg hlow, Char.ofNat_toNat]

/-- A character that is escaped comes back. -/
theorem run_escapeChar (ts : List Token) (chars : List Char) (c : Char) :
    run ⟨ts, .string chars none⟩ (Text.Json.escapeChar c) =
      some ⟨ts, .string (chars ++ [c]) none⟩ := by
  fun_cases Text.Json.escapeChar c
  case case8 _ _ _ _ _ _ _ hcontrol =>
    have hhigh := hexValue?_hexDigit (c.toNat / 16) (by omega)
    have hlow := hexValue?_hexDigit (c.toNat % 16) (by omega)
    have hvalue : 16 * (c.toNat / 16) + c.toNat % 16 = c.toNat := Nat.div_add_mod _ _
    have hzero : hexValue? '0' = some 0 := by decide
    have hunit := putUnit_control chars hcontrol
    rw [run_of_step rfl, run_of_step rfl]
    simp only [run_cons, step, hzero, hhigh, hlow, Option.bind_some, Nat.mul_zero, Nat.zero_add,
      hvalue, hunit, Option.map_some, run_nil]
  case case9 hquote hbackslash _ _ _ _ _ hcontrol =>
    have hstep : step ⟨ts, .string chars none⟩ c = some ⟨ts, .string (chars ++ [c]) none⟩ := by
      simp only [step, if_neg hbackslash, if_neg hquote, if_neg hcontrol]
      rfl
    rw [run_of_step hstep, run_nil]
  all_goals rfl

theorem run_flatMap_escapeChar (ts : List Token) (chars more : List Char) :
    run ⟨ts, .string chars none⟩ (more.flatMap Text.Json.escapeChar) =
      some ⟨ts, .string (chars ++ more) none⟩ := by
  induction more generalizing chars with
  | nil => simp
  | cons c more ih =>
      rw [List.flatMap_cons, run_append_of_run (run_escapeChar ts chars c), ih, List.append_assoc,
        List.singleton_append]

theorem run_quote (ts : List Token) (text : String) :
    run ⟨ts, .between⟩ (Text.Json.quote text) = some (put ts (.string text)) := by
  have hchars := run_flatMap_escapeChar ts [] text.toList
  rw [Text.Json.quote, List.cons_append, run_of_step rfl, run_append_of_run hchars]
  change some (put ts (.string (String.ofList ([] ++ text.toList)))) = _
  rw [List.nil_append, String.ofList_toList]

/-! ### Blanks and numbers -/

theorem run_newline (ts : List Token) (level : Nat) :
    run ⟨ts, .between⟩ (Text.Json.newline level) = some ⟨ts, .between⟩ := by
  have hblanks (n : Nat) : run ⟨ts, .between⟩ (List.replicate n ' ') = some ⟨ts, .between⟩ := by
    induction n with
    | zero => rfl
    | succ n ih => rw [List.replicate_succ, run_of_step rfl, ih]
  rw [Text.Json.newline, run_of_step rfl, hblanks]

/-- A natural number of which all digits have been read. -/
def natural (n : Nat) : Numeral := ⟨if n = 0 then .zero else .whole, false, n, 0, false, 0⟩

theorem run_toDigits (ts : List Token) (n : Nat) :
    run ⟨ts, .between⟩ (Nat.toDigits 10 n) = some ⟨ts, .number (natural n)⟩ := by
  induction n using Nat.strongRecOn with
  | ind n ih =>
      rw [Nat.toDigits_eq_if (by decide)]
      split
      · rename_i hsmall
        interval_cases n <;> rfl
      · have hhigh : n / 10 ≠ 0 := by omega
        have hn : n ≠ 0 := by omega
        have hlast := Text.Decimal.digit?_digitChar (n % 10) (Nat.mod_lt n (by decide))
        have hvalue : 10 * (n / 10) + n % 10 = n := Nat.div_add_mod _ _
        have hstep : step ⟨ts, .number (natural (n / 10))⟩ (n % 10).digitChar =
            some ⟨ts, .number (natural n)⟩ := by
          simp [step, Numeral.next?, hlast, Numeral.digit?, natural, hhigh, hvalue, hn]
        rw [run_append_of_run (ih (n / 10) (by omega)), run_of_step hstep, run_nil]

/-- The last token is at its end, and these are the tokens if a separator comes next or nothing. -/
structure Ends (s : Scanner) (ts : List Token) : Prop where
  step : ∀ c, c = ',' ∨ c = '\n' → s.step c = enter ts c
  finish : s.finish? = some ts

theorem ends_between (ts : List Token) : Ends ⟨ts, .between⟩ ts where
  step _ _ := rfl
  finish := rfl

theorem ends_natural (ts : List Token) (n : Nat) :
    Ends ⟨ts, .number (natural n)⟩ (ts ++ [.number n 0]) := by
  have htoken : (natural n).token? = some (.number n 0) := by
    by_cases hn : n = 0 <;> simp [Numeral.token?, natural, hn]
  refine ⟨fun c hc => ?_, ?_⟩
  · have hnext : (natural n).next? c = none := by
      rcases hc with rfl | rfl <;> by_cases hn : n = 0 <;> simp [natural, hn] <;> rfl
    simp only [Scanner.step, hnext, htoken, Option.bind_some]
  · simp only [finish?, htoken, Option.map_some]

/-- Behind the end of a token the separator is read as between tokens. -/
theorem Ends.run_cons (hs : s.Ends ts) (hc : c = ',' ∨ c = '\n') (text : List Char) :
    s.run (c :: text) = run ⟨ts, .between⟩ (c :: text) := by
  rw [Scanner.run_cons, hs.step c hc, Scanner.run_cons]
  rfl

theorem Ends.run_newline (hs : s.Ends ts) (level : Nat) :
    s.run (Text.Json.newline level) = some ⟨ts, .between⟩ := by
  rw [Text.Json.newline, hs.run_cons (.inr rfl)]
  exact Scanner.run_newline ts level

end Scanner

end Document

end Conformance
