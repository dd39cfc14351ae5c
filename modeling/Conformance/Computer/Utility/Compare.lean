import Conformance.Computer.Utility.Excerpt

/-!
# Comparison of bytes

The program `cmp`, which tells where two files differ first, or all bytes in which they do.
-/

namespace Conformance

namespace Utility

namespace Compare

/-- How many parts two lists have in common at their front. -/
def commonLength : Octets → Octets → Nat
  | a :: s, b :: t => if a == b then commonLength s t + 1 else 0
  | _, _ => 0

def visibleByte (ch : Char) : Octets :=
  Excerpt.visible ⟨false, false, false, false, true, true⟩ ch

def octalText (width : Nat) (ch : Char) : Octets := padLeft width (Nat.toDigits 8 ch.toNat)

/-- What is said where a file ends before the other one; a whole line does not count as begun. -/
def endMessage (file s : Octets) (long : Bool) : Octets :=
  let lines := (s.filter (· == '\n')).length
  if s.isEmpty then "cmp: EOF on ".toList ++ file ++ " which is empty\n".toList
  else "cmp: EOF on ".toList ++ file ++ " after byte ".toList ++ Octets.ofNat s.length ++
    (if long then []
    else if s.getLast? == some '\n' then ", line ".toList ++ Octets.ofNat lines
    else ", in line ".toList ++ Octets.ofNat (lines + 1)) ++ ['\n']

def cmp (c : Context) : Answer :=
  let long : List (String × Char × Arity) :=
    [("print-bytes", 'b', .flag), ("ignore-initial", 'i', .required), ("verbose", 'l', .flag),
      ("bytes", 'n', .required), ("quiet", 's', .flag), ("silent", 's', .flag)] ++ commonOptions
  match Options.read "bci:ln:sv" long c.args with
  | .error message =>
      .failure c 2 ("cmp: ".toList ++ message ++
        "\ncmp: Try 'cmp --help' for more information.".toList)
  | .ok o =>
    if o.has versionLetter || o.has 'v' then .ok c (versionText "cmp").toList
    else match o.operands with
    | [] =>
        .failure c 2 ("cmp: missing operand after 'cmp'\n" ++
          "cmp: Try 'cmp --help' for more information.").toList
    | f :: others =>
      let g := others.headD ['-']
      let skips := ((o.value? 'i').map fun v => (splitAt ':' v).map fun n =>
        (Excerpt.readCount? n).getD 0).getD []
      let skipA := ((others[1]?).bind Excerpt.readCount?).getD (skips.headD 0)
      let skipB := ((others[2]?).bind Excerpt.readCount?).getD (skips.getD 1 skipA)
      let skipB := if others.length = 2 && skips.isEmpty then 0 else skipB
      withContents c [f, g] fun contents =>
        match contents with
        | [(_, .ok a), (_, .ok b)] =>
            let cut (s : Octets) : Octets :=
              match (o.value? 'n').bind Excerpt.readCount? with
              | some n => s.take n
              | none => s
            let a := cut (a.drop skipA)
            let b := cut (b.drop skipB)
            if a = b then .status c 0
            else if o.has 's' then .status c 1
            else
              let ending : List Print :=
                if a.length < b.length then [.err (endMessage f a (o.has 'l'))]
                else if b.length < a.length then [.err (endMessage g b (o.has 'l'))] else []
              if o.has 'l' then
                let width := (Octets.ofNat (min a.length b.length)).length
                let pairs := (a.zip b).zipIdx.filter fun ((x, y), _) => x != y
                .ends ⟨ending ++ [.out (pairs.flatMap fun ((x, y), n) =>
                  padLeft width (Octets.ofNat (n + 1)) ++ ' ' :: octalText 3 x ++
                    (if o.hasAny "bc" then ' ' :: padRight 4 (visibleByte x) else []) ++
                    ' ' :: octalText 3 y ++
                    (if o.hasAny "bc" then ' ' :: visibleByte y else []) ++ ['\n'])], 1, c.tree⟩
              else
                let same := commonLength a b
                match a[same]?, b[same]? with
                | some x, some y =>
                    let line := ((a.take same).filter (· == '\n')).length + 1
                    .ends ⟨[.out (f ++ ' ' :: g ++ " differ: ".toList ++
                      (if o.hasAny "bc" then "byte " else "char ").toList ++
                      Octets.ofNat (same + 1) ++ ", line ".toList ++ Octets.ofNat line ++
                      (if o.hasAny "bc" then " is ".toList ++ octalText 3 x ++ ' ' ::
                        visibleByte x ++ ' ' :: octalText 3 y ++ ' ' :: visibleByte y else []) ++
                      ['\n'])], 1, c.tree⟩
                | _, _ => .ends ⟨ending, 1, c.tree⟩
        | _ =>
            match contents.findSome? fun (file, content) => match content with
                | .ok _ => none
                | .error e => some (file, e) with
            | some (file, e) =>
                if o.has 's' && e != .os .isDirectory then .status c 2
                else .failure c 2 ("cmp: ".toList ++ file ++ ": ".toList ++ errorText e)
            | none => .status c 2

end Compare

end Utility

end Conformance
