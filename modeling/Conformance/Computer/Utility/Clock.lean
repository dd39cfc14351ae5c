import Conformance.Computer.Text.Fraction
import Conformance.Computer.Utility.Calendar.Reader
import Conformance.Computer.Utility.Excerpt

/-!
# Times

The programs `sleep` and `date`, and how times are written.
-/

namespace Conformance

namespace Utility

namespace Clock

/-- A length of time in microseconds: a number, perhaps with a unit behind it; parts of a
microsecond count as a whole one. -/
def readPause? (s : Octets) : Option Nat :=
  match Text.Fraction.read? Text.Fraction.double true s with
  | none => none
  | some (x, rest) =>
      let unit? : Option Nat := match rest with
        | [] | ['s'] => some 1
        | ['m'] => some 60
        | ['h'] => some 3600
        | ['d'] => some 86400
        | _ => none
      match x, unit? with
      | .finite negative m e, some unit =>
          if negative && m > 0 then none
          else
            let (a, b) := Text.Fraction.quotient m e
            some ((a * unit * 1000000 + b - 1) / b)
      | .infinite false, some _ => some Excerpt.forever
      | _, _ => none

def sleep (c : Context) : Answer :=
  withOptions c "sleep" 1 "" [] fun o =>
    if o.operands.isEmpty then missingOperand c "sleep"
    else
      let bad := o.operands.filter fun a => (readPause? a).isNone
      if bad.isEmpty then
        .pause [] (min Excerpt.forever ((o.operands.filterMap readPause?).foldl (· + ·) 0))
      else .failure c 1 (joinWith ['\n'] (bad.map fun a =>
        "sleep: invalid time interval ".toList ++ quoted c a) ++ tryHelp "sleep")

/-! ## Printing the date -/

def dateOptions : List (String × Char × Arity) :=
  [("date", 'd', .required), ("file", 'f', .required), ("iso-8601", 'I', .optional),
    ("rfc-email", 'R', .flag), ("rfc-2822", 'R', .flag), ("rfc-3339", '\x03', .required),
    ("reference", 'r', .required), ("set", 's', .required), ("utc", 'u', .flag),
    ("universal", 'u', .flag)]

def isoFormat? (precision : Octets) (gap point : String) : Option String :=
  let forms : List (String × String) :=
    [("date", "%Y-%m-%d"), ("hours", "%Y-%m-%d" ++ gap ++ "%H%:z"),
      ("minutes", "%Y-%m-%d" ++ gap ++ "%H:%M%:z"),
      ("seconds", "%Y-%m-%d" ++ gap ++ "%H:%M:%S%:z"),
      ("ns", "%Y-%m-%d" ++ gap ++ "%H:%M:%S" ++ point ++ "%N%:z")]
  (forms.find? fun f => precision.isPrefixOf f.1.toList).map Prod.snd

def date (c : Context) : Answer :=
  withOptions c "date" 1 "d:f:I::r:Rs:u" dateOptions fun o =>
    match o.operands with
    | _ :: extra :: _ => extraOperand c "date" extra
    | operands =>
      let format? : Option Octets := match operands with
        | ['+' :: format] => some format
        | _ => none
      let standard : Option String :=
        if o.has 'R' then some "%a, %d %b %Y %H:%M:%S %z"
        else match o.value? 'I', o.value? '\x03' with
          | some [], _ => some "%Y-%m-%d"
          | some p, _ => isoFormat? p "T" ","
          | none, some p => isoFormat? p " " "."
          | none, none => some "%a %b %e %H:%M:%S %Z %Y"
      let formats := (o.given.filter fun (letter, _) => "RI\x03".toList.contains letter).length +
        (if format?.isSome then 1 else 0)
      if formats > 1 then .failure c 1 "date: multiple output formats specified".toList
      else match format?, operands, standard with
      | none, word :: _, _ =>
          .failure c 1 ("date: invalid date ".toList ++ quoted c word)
      | _, _, none => .failure c 1 ("date: invalid argument".toList ++ tryHelp "date")
      | _, _, some standard =>
        let format := format?.getD standard.toList
        let shown (t : Int × Nat) : Octets :=
          Format.dateText t.1 t.2 (8 * format.length + 64) format
        let sources := ['r', 'd', 'f'].filter o.has
        if sources.length > 1 then
          .failure c 1 ("date: the options to specify dates for printing are mutually " ++
            "exclusive").toList
        else match o.value? 'f', o.value? 'r', o.value? 'd' with
        | some file, _, _ => withContents c [file] fun contents =>
            match contents with
            | (_, .ok s) :: _ =>
                let prints := (Excerpt.linesOf '\n' s).map fun line =>
                  match Calendar.readDate? c.now line with
                  | some t => Print.out (shown t ++ ['\n'])
                  | none => .err ("date: invalid date ".toList ++ quoted c line ++ ['\n'])
                .ends ⟨prints, if prints.all Print.isOut then 0 else 1, c.tree⟩
            | (file, .error e) :: _ =>
                .failure c 1 ("date: ".toList ++ file ++ ": ".toList ++ errorText e)
            | [] => .status c 0
        | none, some file, _ =>
            match c.tree.lookup c.directory (pathOf file) true with
            | .ok (loc, _) =>
                let time := ((c.tree.stamp? loc).map Stamp.time).getD 0
                .ok c (shown ((time / 1000000 : Nat), time % 1000000 * 1000) ++ ['\n'])
            | .error e => .failure c 1 ("date: ".toList ++ file ++ ": ".toList ++ errorText e)
        | none, none, some words =>
            match Calendar.readDate? c.now words with
            | some t => .ok c (shown t ++ ['\n'])
            | none => .failure c 1 ("date: invalid date ".toList ++ quoted c words)
        | none, none, none =>
            if o.has 's' then .failure c 1 "date: cannot set date: Operation not permitted".toList
            else .ok c (shown ((c.now / 1000000 : Nat), c.now % 1000000 * 1000) ++ ['\n'])

end Clock

end Utility

end Conformance
