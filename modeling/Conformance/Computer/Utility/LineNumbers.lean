import Conformance.Computer.Text.Regex
import Conformance.Computer.Utility.Excerpt

/-!
# Numbered lines

The program `nl`, which writes numbers in front of lines.
-/

namespace Conformance

namespace Utility

namespace LineNumbers

inductive Numbering where
  | all
  | filled
  | nothing
  | matching (r : Regex)

def Numbering.read? (s : Octets) : Option Numbering :=
  match s with
  | ['a'] => some .all
  | ['t'] => some .filled
  | ['n'] => some .nothing
  | 'p' :: pattern => (Regex.parse .basic pattern).map .matching
  | _ => none

/-- How the lines of a text with headers, bodies and footers are numbered. -/
structure Numbers where
  header : Numbering
  body : Numbering
  footer : Numbering
  start : Int
  step : Int
  joined : Nat
  renews : Bool
  mark : Octets

/-- Where the numbering stands: the style, the next number, and the empty lines before. -/
structure Counting where
  style : Numbering
  number : Int
  blank : Nat

def Numbers.part? (n : Numbers) (line : Octets) : Option Numbering :=
  if n.mark.isEmpty then none
  else if line = n.mark ++ n.mark ++ n.mark then some n.header
  else if line = n.mark ++ n.mark then some n.body
  else if line = n.mark then some n.footer
  else none

def Numbers.takes (n : Numbers) (k : Counting) (line : Octets) : Bool × Nat :=
  match k.style with
  | .all =>
      if n.joined ≤ 1 || !line.isEmpty || k.blank + 1 = n.joined then (true, 0)
      else (false, k.blank + 1)
  | .filled => (!line.isEmpty, 0)
  | .nothing => (false, 0)
  | .matching r => ((Regex.find? ⟨line.toArray, .standard⟩ r 0).isSome, 0)

def nl (c : Context) : Answer :=
  let long : List (String × Char × Arity) :=
    [("body-numbering", 'b', .required), ("line-increment", 'i', .required),
      ("number-format", 'n', .required), ("number-separator", 's', .required),
      ("starting-line-number", 'v', .required), ("number-width", 'w', .required),
      ("join-blank-lines", 'l', .required), ("no-renumber", 'p', .flag),
      ("header-numbering", 'h', .required), ("footer-numbering", 'f', .required),
      ("section-delimiter", 'd', .required)]
  withOptions c "nl" 1 "b:d:f:h:i:l:n:ps:v:w:" long fun o =>
    let style (letter : Char) (standard : Octets) : Option Numbering :=
      Numbering.read? ((o.value? letter).getD standard)
    let bad (what : String) (letter : Char) : Answer :=
      .failure c 1 (("nl: invalid " ++ what ++ ": ").toList ++ quoted c ((o.value? letter).getD []))
    let number (letter : Char) (standard : Int) : Option Int :=
      match o.value? letter with
      | some v => readInt? v
      | none => some standard
    match style 'h' ['n'], style 'b' ['t'], style 'f' ['n'] with
    | none, _, _ => bad "header numbering style" 'h'
    | _, none, _ => bad "body numbering style" 'b'
    | _, _, none => bad "footer numbering style" 'f'
    | some header, some body, some footer =>
      match number 'v' 1, number 'i' 1, (number 'w' 6).filter (· > 0),
          (number 'l' 1).filter (· ≥ 0) with
      | none, _, _, _ => bad "starting line number" 'v'
      | _, none, _, _ => bad "line number increment" 'i'
      | _, _, none, _ => bad "line number field width" 'w'
      | _, _, _, none => bad "line number of blank lines" 'l'
      | some start, some step, some width, some joined =>
        if !((o.value? 'n').all fun f => f = ['l', 'n'] || f = ['r', 'n'] || f = ['r', 'z']) then
          bad "line numbering format" 'n'
        else
        let width := width.toNat
        let mark := match o.value? 'd' with
          | none => ['\\', ':']
          | some [] => []
          | some [x] => [x, ':']
          | some m => m
        let plan : Numbers :=
          ⟨header, body, footer, start, step, joined.toNat, !o.has 'p', mark⟩
        let gap := (o.value? 's').getD ['\t']
        let shown (n : Int) : Octets :=
          let digits := (toString n).toList
          match o.value? 'n' with
          | some ['l', 'n'] => padRight width digits
          | some ['r', 'z'] =>
              if n < 0 then '-' :: List.replicate (width - digits.length) '0' ++ digits.drop 1
              else List.replicate (width - digits.length) '0' ++ digits
          | _ => padLeft width digits
        withContents c o.operands fun contents =>
          let whole := contents.flatMap fun (_, content) => content.toOption.getD []
          let (_, out) := (Excerpt.linesOf '\n' whole).foldl
            (fun ((k, out) : Counting × List Octets) line =>
              match plan.part? line with
              | some style =>
                  ({ k with style, number := if plan.renews then start else k.number },
                    ['\n'] :: out)
              | none =>
                  let (takes, blank) := plan.takes k line
                  if takes then
                    ({ k with number := k.number + step, blank },
                      (shown k.number ++ gap ++ line ++ ['\n']) :: out)
                  else ({ k with blank }, (spaces (width + gap.length) ++ line ++ ['\n']) :: out))
            (⟨body, start, 0⟩, [])
          let errors := contents.filterMap fun (file, content) =>
            match content with
            | .ok _ => none
            | .error e => some (unreadable "nl" file e)
          .ends ⟨errors ++ [.out out.reverse.flatten], if errors.isEmpty then 0 else 1, c.tree⟩

end LineNumbers

end Utility

end Conformance
