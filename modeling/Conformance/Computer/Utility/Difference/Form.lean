import Conformance.Computer.Utility.Difference.Layout
import Conformance.Computer.Utility.Format

/-!
# Forms of groups and lines

Both files as one text.  Their lines fall into groups, those that are the same and those that
differ; forms say how a group is written, and how each line of it is.  A form is a text with
directives in it, each behind a percent sign; one that has no meaning stands for itself.
-/

namespace Conformance

namespace Utility

namespace Difference

/-- What a group of lines is: lines of both files, lines of the first one or of the second one, or
lines of the first one that others of the second one stand for. -/
inductive GroupKind where
  | same
  | old
  | new
  | changed
  deriving DecidableEq, Repr

structure Forms where
  line : GroupKind → Octets
  group : GroupKind → Octets

def Forms.ofGiven (line? group? : GroupKind → Option Octets) : Forms :=
  let group (k : GroupKind) (usual : Octets) : Octets :=
    ((group? k).orElse fun _ => group? .changed).getD usual
  { line := fun k => (line? k).getD "%l\n".toList
    group := fun
      | .same => (group? .same).getD "%=".toList
      | .old => group .old "%<".toList
      | .new => group .new "%>".toList
      | .changed => group .changed (group .old "%<".toList ++ group .new "%>".toList) }

def conditionForm (name : Octets) : GroupKind → Octets
  | .same => "%=".toList
  | .old => "#ifndef ".toList ++ name ++ "\n%<#endif /* ! ".toList ++ name ++ " */\n".toList
  | .new => "#ifdef ".toList ++ name ++ "\n%>#endif /* ".toList ++ name ++ " */\n".toList
  | .changed => "#ifndef ".toList ++ name ++ "\n%<#else /* ".toList ++ name ++
      " */\n%>#endif /* ".toList ++ name ++ " */\n".toList

/-! ## Directives -/

structure Run where
  first : Nat
  lines : List Line

def Run.number? (r : Run) : Char → Option Nat
  | 'e' => some r.first
  | 'f' => some (r.first + 1)
  | 'l' => some (r.first + r.lines.length)
  | 'm' => some (r.first + r.lines.length + 1)
  | 'n' => some r.lines.length
  | _ => none

def groupNumber? (old new : Run) (letter : Char) : Option Nat :=
  if letter.isUpper then new.number? letter.toLower else old.number? letter

/-- A character between quotes, where a backslash stands before its number in base eight, and what
follows. -/
def quotedCharacter? : Octets → Option (Char × Octets)
  | '\\' :: rest =>
      let digits := rest.takeWhile Format.isOctal
      match rest.drop digits.length with
      | '\'' :: rest =>
          if digits.isEmpty || digits.length > 3 then none
          else some (Char.ofNat (Format.valueIn 8 digits % 256), rest)
      | _ => none
  | '\'' :: _ => none
  | ch :: '\'' :: rest => some (ch, rest)
  | _ => none

def directive? (number? : Char → Option Nat) (s : Octets) : Option (Octets × Octets) :=
  let flags := s.takeWhile fun ch => ch == '-' || ch == '\'' || ch == '0'
  let rest := s.drop flags.length
  let width := rest.takeWhile Char.isDigit
  let (precision, rest) := match rest.drop width.length with
    | '.' :: rest =>
        let digits := rest.takeWhile Char.isDigit
        (some ((readNat? digits).getD 0), rest.drop digits.length)
    | rest => (none, rest)
  match rest with
  | 'c' :: '\'' :: rest => (quotedCharacter? rest).map fun (ch, rest) => ([ch], rest)
  | conversion :: letter :: rest =>
      if "doxX".toList.contains conversion then
        (number? letter).map fun n =>
          (Format.Field.unsigned ⟨flags, (readNat? width).getD 0, precision⟩ conversion n, rest)
      else none
  | _ => none

/-- A line in a form; fuel bounds the length of the form. -/
def lineText (fuel : Nat) (n : Nat) (l : Line) (form : Octets) : Octets :=
  match fuel, form with
  | 0, _ | _, [] => []
  | fuel + 1, '%' :: '%' :: rest => '%' :: lineText fuel n l rest
  | fuel + 1, '%' :: 'l' :: rest => l.text ++ lineText fuel n l rest
  | fuel + 1, '%' :: 'L' :: rest =>
      l.text ++ (if l.ended then ['\n'] else []) ++ lineText fuel n l rest
  | fuel + 1, '%' :: rest =>
      match directive? (fun letter => if letter == 'n' then some (n + 1) else none) rest with
      | some (text, rest) => text ++ lineText fuel n l rest
      | none => '%' :: lineText fuel n l rest
  | fuel + 1, ch :: rest => ch :: lineText fuel n l rest

def Run.text (r : Run) (form : Octets) : Octets :=
  (r.lines.zipIdx r.first).flatMap fun (l, n) => lineText (form.length + 1) n l form

def choice? (number? : Char → Option Nat) (s : Octets) : Option (Bool × Octets) :=
  let operand? (s : Octets) : Option (Nat × Octets) :=
    let digits := s.takeWhile Char.isDigit
    match s with
    | [] => none
    | letter :: rest =>
        if digits.isEmpty then (number? letter).map fun n => (n, rest)
        else
          let n := (readNat? digits).getD 0
          if n < 2 ^ 64 then some (n, s.drop digits.length) else none
  match operand? s with
  | some (x, '=' :: s) =>
      match operand? s with
      | some (y, '?' :: s) => some (x == y, s)
      | _ => none
  | _ => none

/-- A group in a form, up to the end of the form or to a sign that stops it, and what is left of
the form; fuel bounds its length. -/
def groupText (forms : Forms) (old new : Run) (fuel : Nat) (stop : Option Char) (form : Octets) :
    Octets × Octets :=
  match fuel, form with
  | 0, _ | _, [] => ([], [])
  | fuel + 1, ch :: rest =>
    let after (text : Octets) (form : Octets) : Octets × Octets :=
      let (more, left) := groupText forms old new fuel stop form
      (text ++ more, left)
    if stop == some ch then ([], ch :: rest)
    else if ch != '%' then after [ch] rest
    else match rest with
      | '%' :: form => after ['%'] form
      | '<' :: form => after (old.text (forms.line .old)) form
      | '=' :: form => after (old.text (forms.line .same)) form
      | '>' :: form => after (new.text (forms.line .new)) form
      | '(' :: form =>
          match choice? (groupNumber? old new) form with
          | some (isEqual, form) =>
              let (yes, left) := groupText forms old new fuel (some ':') form
              let (no, left) := groupText forms old new fuel (some ')') (left.drop 1)
              after (if isEqual then yes else no) (left.drop 1)
          | none => after ['%'] rest
      | form =>
          match directive? (groupNumber? old new) form with
          | some (text, form) => after text form
          | none => after ['%'] rest

def formedText (forms : Forms) (a b : Array Line) (all : List Change) : Octets :=
  let group (kind : GroupKind) (x : Change) : Octets :=
    let form := forms.group kind
    (groupText forms ⟨x.oldFirst, part a x.oldFirst x.oldCount⟩
      ⟨x.newFirst, part b x.newFirst x.newCount⟩ (form.length + 1) none form).1
  let same (old new oldNext newNext : Nat) : Octets :=
    if old < oldNext || new < newNext then
      group .same ⟨old, oldNext - old, new, newNext - new⟩
    else []
  let (text, old, new) := all.foldl (fun ((text, old, new) : Octets × Nat × Nat) x =>
    let kind : GroupKind := if x.oldCount = 0 then .new else if x.newCount = 0 then .old
      else .changed
    (text ++ same old new x.oldFirst x.newFirst ++ group kind x, x.oldFirst + x.oldCount,
      x.newFirst + x.newCount)) ([], 0, 0)
  text ++ same old new a.size b.size

end Difference

end Utility

end Conformance
