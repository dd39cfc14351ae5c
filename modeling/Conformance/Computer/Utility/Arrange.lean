import Conformance.Computer.Utility.Excerpt

/-!
# Orders

The programs `tsort`, which finds an order that fits given pairs, and `shuf`, which makes one by
chance.
-/

namespace Conformance

namespace Utility

namespace Arrange

/-! ## Orders that fit pairs -/

/-- Something to be put in order: how many things still come before it, and what comes behind it, the
pair read last first. -/
structure Item where
  name : Octets
  before : Nat
  behind : List Octets

abbrev Items := List Item

def Items.update (l : Items) (name : Octets) (f : Item → Item) : Items :=
  if l.any fun i => i.name = name then
    l.map fun i => if i.name = name then f i else i
  else
    let (low, high) := l.partition fun i => decide (i.name < name)
    low ++ f ⟨name, 0, []⟩ :: high

def itemsOf : List Octets → Items
  | a :: b :: rest =>
      -- The pairs are taken from the first to the last.
      (pairs (a :: b :: rest)).foldl (fun l (x, y) =>
        let l := (Items.update l x id).update y id
        if x = y then l
        else (l.update x fun i => { i with behind := y :: i.behind }).update y fun i =>
          { i with before := i.before + 1 }) []
  | _ => []
where
  pairs : List Octets → List (Octets × Octets)
    | a :: b :: rest => (a, b) :: pairs rest
    | _ => []

/-- Takes the items one after the other that nothing comes before; fuel bounds their number. -/
def takeFree (fuel : Nat) (l : Items) (queue : List Octets) : List Octets × Items :=
  match fuel, queue with
  | 0, _ | _, [] => ([], l)
  | fuel + 1, name :: queue =>
      let behind := ((l.find? fun i => i.name = name).map Item.behind).getD []
      let l := l.filter fun i => i.name != name
      let (l, freed) := behind.foldl (fun ((l, freed) : Items × List Octets) x =>
        let l := l.map fun i => if i.name = x then { i with before := i.before - 1 } else i
        let isFree := l.any fun i => i.name = x && i.before = 0
        (l, if isFree then freed ++ [x] else freed)) (l, [])
      let (rest, l) := takeFree fuel l (queue ++ freed)
      (name :: rest, l)

/-- Follows what comes before an item until one comes again; fuel bounds the steps. -/
def findLoop (l : Items) (fuel : Nat) (path : List Octets) (name : Octets) : List Octets :=
  match fuel with
  | 0 => path
  | fuel + 1 =>
      if path.contains name then
        name :: (path.takeWhile (· != name))
      else match l.find? fun i => i.behind.contains name with
        | some i => findLoop l fuel (name :: path) i.name
        | none => path

def inOrder (fuel : Nat) (l : Items) : List Octets × List (List Octets) :=
  match fuel with
  | 0 => ([], [])
  | fuel + 1 =>
      let (names, left) := takeFree (l.length + 1) l ((l.filter (·.before = 0)).map Item.name)
      match left with
      | [] => (names, [])
      | first :: _ =>
          let loop := findLoop left (left.length + 1) [] first.name
          let last := loop.getLastD first.name
          let head := loop.headD first.name
          let broken := left.map fun i =>
            if i.name = last then { i with behind := i.behind.erase head }
            else if i.name = head then { i with before := i.before - 1 }
            else i
          let (more, loops) := inOrder fuel broken
          (names ++ more, loop :: loops)

def tsort (c : Context) : Answer :=
  withOptions c "tsort" 1 "" [] fun o =>
    match o.operands with
    | _ :: extra :: _ => extraOperand c "tsort" extra
    | files =>
      let file := files.headD ['-']
      withContents c [file] fun contents =>
        match contents with
        | [(_, .ok s)] =>
            let words := wordsOf s
            if words.length % 2 = 1 then
              .failure c 1 ("tsort: ".toList ++ file ++
                ": input contains an odd number of tokens".toList)
            else
              let items := itemsOf words
              let (names, loops) := inOrder (words.length + 1) items
              let complaints := loops.flatMap fun loop =>
                ("tsort: ".toList ++ file ++ ": input contains a loop:\n".toList) ::
                  loop.map fun n => "tsort: ".toList ++ n ++ ['\n']
              .ends ⟨complaints.map .err ++ [.out (Octets.unlines names)],
                if loops.isEmpty then 0 else 1, c.tree⟩
        | (file, .error e) :: _ => .ends ⟨[unreadable "tsort" file e], 1, c.tree⟩
        | [] | (_, .ok _) :: _ => .status c 0

/-! ## Orders by chance -/

/-- Where chance comes from: bytes, after which zeros come or nothing, and what is left over of
the bytes before.  The left-over number is one of as many as `most` says, and zero. -/
structure Chance where
  bytes : Octets
  zerosFollow : Bool
  left : Nat
  most : Nat

namespace Chance

def ofSeed (fuel seed : Nat) : Octets :=
  match fuel with
  | 0 => []
  | fuel + 1 =>
      let next := (seed * 6364136223846793005 + 1442695040888963407) % 2 ^ 64
      Char.ofNat (next / 2 ^ 40 % 256) :: ofSeed fuel next

def filled (fuel high : Nat) (s : Chance) : Option Chance :=
  match fuel with
  | 0 => none
  | fuel + 1 =>
      if s.most ≥ high then some s
      else match s.bytes with
        | b :: bytes => filled fuel high ⟨bytes, s.zerosFollow, s.left * 256 + b.toNat,
            s.most * 256 + 255⟩
        | [] =>
            if s.zerosFollow then filled fuel high ⟨[], true, s.left * 256, s.most * 256 + 255⟩
            else none

/-- Chooses a number up to a highest one.  A number among those that would favour some is given up,
and what it still tells by chance is kept.  Fuel bounds how often that happens. -/
def choose (fuel high : Nat) (s : Chance) : Option (Nat × Chance) :=
  match fuel with
  | 0 => none
  | fuel + 1 =>
      match s.filled 10 high with
      | none => none
      | some s =>
          if s.most = high then some (s.left, { s with left := 0, most := 0 })
          else
            let choices := high + 1
            let excess := s.most - high
            let unusable := excess % choices
            let last := s.most - unusable
            if s.left ≤ last then
              some (s.left % choices,
                { s with left := s.left / choices, most := excess / choices })
            else choose fuel high { s with left := s.left - last - 1, most := unusable - 1 }

def tries : Nat := 1000

end Chance

def shuffled {α : Type} (count : Nat) (s : Chance) (l : List α) : Option (List α) :=
  match count, l with
  | 0, _ | _, [] => some []
  | count + 1, x :: rest => do
      let (k, s) ← s.choose Chance.tries rest.length
      match k with
      | 0 => return x :: (← shuffled count s rest)
      | k + 1 => return (← rest[k]?) :: (← shuffled count s (rest.set k x))

def picked {α : Type} (count : Nat) (s : Chance) (l : List α) : Option (List α) :=
  match count with
  | 0 => some []
  | count + 1 => do
      let (k, s) ← s.choose Chance.tries (l.length - 1)
      return (← l[k]?) :: (← picked count s l)

/-- Keeps as many lines of an input as there is room for; each line behind them takes the place of
one or is passed by.  The lines that are kept come with the chance that is left. -/
def sampled {α : Type} (room : Nat) (s : Chance) (l : List α) : Option (List α × Chance) :=
  let rec go (seen : Nat) (s : Chance) (kept : List α) : List α → Option (List α × Chance)
    | [] =>
        -- Whether a line comes at all is found out after the choice of its place.
        (s.choose Chance.tries seen).map fun (_, s) => (kept, s)
    | x :: rest => do
        let (k, s) ← s.choose Chance.tries seen
        go (seen + 1) s (if k < room then kept.set k x else kept) rest
  if l.length < room then some (l, s) else go room s (l.take room) (l.drop room)

def range? (s : Octets) : Option (List Octets) :=
  match splitAt '-' s with
  | [a, b] =>
      match readNat? a, readNat? b with
      | some a, some b =>
          if a > b + 1 then none
          else some ((List.range (b + 1 - a)).map fun n => Octets.ofNat (a + n))
      | _, _ => none
  | _ => none

def shuf (c : Context) : Answer :=
  let long : List (String × Char × Arity) :=
    [("echo", 'e', .flag), ("input-range", 'i', .required), ("head-count", 'n', .required),
      ("output", 'o', .required), ("random-source", '\x03', .required), ("repeat", 'r', .flag),
      ("zero-terminated", 'z', .flag)]
  withOptions c "shuf" 1 "ei:n:o:rz" long fun o =>
    let fail (message : Octets) : Answer := .failure c 1 ("shuf: ".toList ++ message)
    let ending := if o.has 'z' then '\x00' else '\n'
    match (o.values 'i').find? fun v => (range? v).isNone,
        (o.values 'n').find? fun v => (readNat? v).isNone with
    | some v, _ => fail ("invalid input range: ".toList ++ quoted c
        (if v.contains '-' then v else v))
    | none, some v => fail ("invalid line count: ".toList ++ quoted c v)
    | none, none =>
      let count? := ((o.values 'n').filterMap readNat?).min?
      let source? := o.value? '\x03'
      let chance : Except Octets Chance := match source? with
        | none => .ok ⟨Chance.ofSeed 200000 (c.now + 1000003 * c.id), true, 0, 0⟩
        | some file =>
            if isZeros c file then .ok ⟨[], true, 0, 0⟩
            else match contentOf c file with
              | .ok s => .ok ⟨s, false, 0, 0⟩
              | .error e => .error (file ++ ": ".toList ++ errorText e)
      let show' (samples : Bool) (items : List Octets) : Answer :=
        match chance with
        | .error message => fail message
        | .ok chance =>
        let chosen? : Option (List Octets) :=
          if o.has 'r' then picked (count?.getD 100000) chance items
          else match samples, count? with
            | true, some n => do
                let (kept, chance) ← sampled n chance items
                shuffled kept.length chance kept
            | _, count? => shuffled (min items.length (count?.getD items.length)) chance items
        if o.has 'r' && items.isEmpty && count? != some 0 then fail "no lines to repeat".toList
        else match chosen? with
        | none => fail (quotedName (source?.getD []) ++ ": end of file".toList)
        | some chosen =>
          let text := chosen.flatMap fun s => s ++ [ending]
          match o.value? 'o' with
          | none => if o.has 'r' && count?.isNone then .goesOn text else .ok c text
          | some file =>
              match writeFile c c.workingTree file false text with
              | .ok (t, prints) => .ends ⟨prints, 0, t⟩
              | .error e => fail (file ++ ": ".toList ++ errorText e)
      if o.has 'e' && o.has 'i' then
        fail ("cannot combine -e and -i options".toList ++ tryHelp "shuf")
      else if o.has 'e' then show' false o.operands
      else match (o.value? 'i').bind range?, o.operands with
        | some _, extra :: _ | none, _ :: extra :: _ => extraOperand c "shuf" extra
        | some items, [] => show' false items
        | none, files =>
            withContents c files fun contents =>
              match contents with
              | (file, .ok s) :: _ =>
                  let isRegular := if isInput file then
                      ((c.descriptors.lookup 0).bind id).any fun loc =>
                        (c.tree.find loc).any Entry.isRegular
                    else c.tree.isRegularFile c.directory (pathOf file)
                  show' (!isRegular && !o.has 'r') (Excerpt.linesOf ending s)
              | (file, .error e) :: _ => .ends ⟨[unreadable "shuf" file e], 1, c.tree⟩
              | [] => .status c 0

end Arrange

end Utility

end Conformance
