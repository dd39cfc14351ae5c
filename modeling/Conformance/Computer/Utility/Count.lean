import Conformance.Computer.Text.Width
import Conformance.Computer.Utility.Basic

/-!
# Counts

The program `wc`, which counts the lines, words, characters and bytes of files.
-/

namespace Conformance

namespace Utility

namespace Count

def longestLine (s : List Char) : Nat :=
  let (longest, last) := s.foldl (fun ((longest, column) : Nat × Nat) ch =>
    match ch with
    | '\n' | '\r' | '\x0c' => (max longest column, 0)
    | '\t' => (longest, column + 8 - column % 8)
    | ch => (longest, column + Text.widthOf ch)) (0, 0)
  max longest last

/-- The numbers that are asked for: lines, words, characters, bytes, and the width. -/
def counts (c : Context) (chosen : Char → Bool) (s : Octets) : List Nat :=
  (if chosen 'l' then [(s.filter (· == '\n')).length] else []) ++
  (if chosen 'w' then [(wordsOf s).length] else []) ++
  (if chosen 'm' then
    [((c.characters s).filter fun ch => ch.toNat < Octets.strayBase).length] else []) ++
  (if chosen 'c' then [s.length] else []) ++
  (if chosen 'L' then [longestLine (c.characters s)] else [])

def columnWidth (c : Context) (files : List Octets) : Nat :=
  let sizes : List (Option (Option Nat)) := files.map fun file =>
    let place? : Option Location := if isInput file then (c.descriptors.lookup 0).bind id
      else (c.tree.lookup c.directory (pathOf file) true).toOption.map Prod.fst
    if isInput file && place?.isNone then some none
    else match place?.bind c.tree.find with
      | some (.file (.bytes data)) => some (some data.length)
      | some _ => some none
      | none => none
  let total := (sizes.filterMap fun x => x.bind id).foldl (· + ·) 0
  let least := if sizes.any (· == some none) then 7 else 1
  max least (Octets.ofNat total).length

def namesIn (s : Octets) : List Octets :=
  let parts := splitAt '\x00' s
  if parts.getLast? == some [] then parts.dropLast else parts

/-- The lines for files, those with what went wrong among them, and the totals for several. -/
def report (c : Context) (chosen : Char → Bool) (named fixed : Bool)
    (contents : List (Octets × Except IoError Octets)) : List Print × Nat :=
  let many := (counts c chosen []).length
  let width := if fixed || (contents.length = 1 && many = 1) then 1
    else columnWidth c (contents.map Prod.fst)
  let row (numbers : List Nat) (name : Octets) : Octets :=
    joinWith [' '] (numbers.map (fun n => padLeft width (Octets.ofNat n)) ++
      (if name.isEmpty then [] else [name])) ++ ['\n']
  let title (file : Octets) : Octets := if named then file else []
  let rows := contents.flatMap fun (file, content) =>
    match content with
    | .ok s => [Print.out (row (counts c chosen s) (title file))]
    | .error e =>
        unreadable "wc" file e ::
          (if e = .os .isDirectory then [.out (row (List.replicate many 0) (title file))] else [])
  let totals := contents.foldl (fun (sums : List Nat) (_, content) =>
    match content with
    | .ok s => (sums.zip (counts c chosen s)).zipIdx.map fun ((x, y), n) =>
        -- The widest line of all is no sum.
        if chosen 'L' && n + 1 = many then max x y else x + y
    | .error _ => sums) (List.replicate many 0)
  let last := if contents.length > 1 then [Print.out (row totals "total".toList)] else []
  (rows ++ last, if contents.any (fun (_, content) => !content.isOk) then 1 else 0)

def countListed (c : Context) (chosen : Char → Bool) (list : Octets) : Answer :=
  withContents c [list] fun listed =>
    match listed with
    | [(_, .ok s)] =>
        let names := namesIn s
        let fromInput := isInput list
        let bad (n : Nat) (name : Octets) : Option Octets :=
          if name.isEmpty then
            some ("wc: ".toList ++ list ++ ':' :: Octets.ofNat (n + 1) ++
              ": invalid zero-length file name\n".toList)
          else if fromInput && name = ['-'] then
            some ("wc: when reading file names from stdin, no file name of ".toList ++
              quoted c ['-'] ++ " allowed\n".toList)
          else none
        let faults := names.zipIdx.filterMap fun (name, n) => bad n name
        let good := (names.zipIdx.filter fun (name, n) => (bad n name).isNone).map Prod.fst
        if good.isEmpty then .ends ⟨faults.map .err, if faults.isEmpty then 0 else 1, c.tree⟩
        else withContents c good fun contents =>
          let (prints, status) := report c chosen true fromInput contents
          .ends ⟨faults.map .err ++ prints, if faults.isEmpty then status else 1, c.tree⟩
    | [(file, .error e)] =>
        .failure c 1 (("wc: cannot open ".toList ++ quotedName file ++ " for reading: ".toList ++ errorText e))
    | _ => .more

def wc (c : Context) : Answer :=
  let long : List (String × Char × Arity) :=
    [("bytes", 'c', .flag), ("chars", 'm', .flag), ("lines", 'l', .flag), ("words", 'w', .flag),
      ("max-line-length", 'L', .flag), ("files0-from", '\x03', .required)]
  withOptions c "wc" 1 "clLmw" long fun o =>
    let chosen (letter : Char) : Bool :=
      o.has letter || (!o.hasAny "clLmw" && "lwc".toList.contains letter)
    match o.value? '\x03', o.operands with
    | some _, extra :: _ =>
        .failure c 1 ("wc: extra operand ".toList ++ quoted c extra ++
          "\nfile operands cannot be combined with --files0-from".toList ++ tryHelp "wc")
    | some list, [] => countListed c chosen list
    | none, operands =>
        withContents c operands fun contents =>
          let (prints, status) := report c chosen (!operands.isEmpty) false contents
          .ends ⟨prints, status, c.tree⟩

end Count

end Utility

end Conformance
