import Conformance.Computer.Utility.Basic

/-!
# Options of scripts

The program `getopt`, which puts the arguments of a script in order: first the options with their
arguments, then two dashes and the operands.
-/

namespace Conformance

namespace Utility

namespace Switches

structure Request where
  short : List Char
  long : List (String × Char × Arity)
  single : Bool
  name : Octets
  quietErrors : Bool
  quiet : Bool
  quotes : Bool
  params : List Octets

def longOf (s : Octets) : String × Char × Arity :=
  let name := s.takeWhile (· != ':')
  let arity : Arity := match s.drop name.length with
    | [':'] => .required
    | [':', ':'] => .optional
    | _ => .flag
  (String.ofList name, ' ', arity)

def longList (s : Octets) : List (String × Char × Arity) :=
  ((splitAt ',' (s.map fun c => if c == ' ' || c == '\t' || c == '\n' then ',' else c)).filter
    fun w => !w.isEmpty).map longOf

/-- What has been found: the options as words, the operands, and the complaints. -/
structure Found where
  words : List Octets
  operands : List Octets
  complaints : List Octets

def quote (quotes : Bool) (s : Octets) : Octets :=
  if quotes then
    '\'' :: s.flatMap (fun c => if c == '\'' then "'\\''".toList else [c]) ++ ['\'']
  else s

/-- Where operands go: behind all options, or each in its place; or they end the options. -/
inductive Order where
  | last
  | inPlace
  | ends
  deriving DecidableEq, Repr

def readLetters (r : Request) (rest : List Octets) (f : Found) : Octets → Found × List Octets
  | [] => (f, rest)
  | c :: letters =>
      let word (s : Octets) : Found := { f with words := f.words ++ [s] }
      let fail (s : String) : Found :=
        { f with complaints := f.complaints ++ [s.toList ++ " -- '".toList ++ [c, '\'']] }
      match (if c == ':' then none else Options.arityOf? c r.short) with
      | none => readLetters r rest (fail "invalid option") letters
      | some .flag => readLetters r rest (word ['-', c]) letters
      | some .optional =>
          (word (['-', c, ' '] ++ quote r.quotes letters), rest)
      | some .required =>
          if !letters.isEmpty then (word (['-', c, ' '] ++ quote r.quotes letters), rest)
          else match rest with
            | value :: rest => (word (['-', c, ' '] ++ quote r.quotes value), rest)
            | [] => (fail "option requires an argument", [])

def readLong (r : Request) (dashes body : Octets) (rest : List Octets) (f : Found) :
    Found × List Octets :=
  let name := body.takeWhile (· != '=')
  let value? : Option Octets := (body.drop name.length).tail?
  let fail (s : Octets) : Found := { f with complaints := f.complaints ++ [s] }
  let marked (s : Octets) : Octets := '\'' :: dashes ++ s ++ ['\'']
  let word (full : String) (value? : Option Octets) : Found :=
    let s := "--".toList ++ full.toList ++ (match value? with
      | some v => ' ' :: quote r.quotes v
      | none => [])
    { f with words := f.words ++ [s] }
  match Options.longMatches r.long name with
  | [] => (fail ("unrecognized option ".toList ++ marked body), rest)
  | (full, _, arity) :: others =>
      if others.any fun l => l.1 != full then
        (fail ("option ".toList ++ marked body ++ " is ambiguous; possibilities:".toList ++
          ((full, ' ', arity) :: others).flatMap fun l => " '--".toList ++ l.1.toList ++ ['\'']),
          rest)
      else match arity, value? with
        | .flag, some _ =>
            (fail ("option ".toList ++ marked full.toList ++ " doesn't allow an argument".toList),
              rest)
        | .flag, none => (word full none, rest)
        | .optional, value? => (word full (some (value?.getD [])), rest)
        | .required, some v => (word full (some v), rest)
        | .required, none =>
            match rest with
            | v :: rest => (word full (some v), rest)
            | [] => (fail ("option ".toList ++ marked full.toList ++
                " requires an argument".toList), [])

/-- Reads all arguments; fuel bounds their number. -/
def readAll (r : Request) (order : Order) (fuel : Nat) (f : Found) (args : List Octets) : Found :=
  match fuel, args with
  | 0, _ | _, [] => f
  | fuel + 1, a :: rest =>
      match a with
      | ['-', '-'] => { f with operands := f.operands ++ rest }
      | '-' :: '-' :: body =>
          let (f, rest) := readLong r ['-', '-'] body rest f
          readAll r order fuel f rest
      | '-' :: c :: letters =>
          let isLong := r.single && !(Options.longMatches r.long
            ((c :: letters).takeWhile (· != '='))).isEmpty
          let (f, rest) := if isLong then readLong r ['-'] (c :: letters) rest f
            else readLetters r rest f (c :: letters)
          readAll r order fuel f rest
      | operand =>
          match order with
          | .ends => { f with operands := f.operands ++ operand :: rest }
          | .inPlace => readAll r order fuel { f with words := f.words ++ [quote r.quotes operand] } rest
          | .last => readAll r order fuel { f with operands := f.operands ++ [operand] } rest

def perform (c : Context) (r : Request) : Answer :=
  let (order, short) : Order × List Char := match r.short with
    | '+' :: short => (.ends, short)
    | '-' :: short => (.inPlace, short)
    | short => (.last, short)
  let f := readAll { r with short } order (r.params.length + 1) ⟨[], [], []⟩ r.params
  let complaints : List Print := if r.quietErrors then []
    else f.complaints.map fun s => .err (r.name ++ ": ".toList ++ s ++ ['\n'])
  let text := (f.words ++ ["--".toList] ++ f.operands.map (quote r.quotes)).flatMap fun w => ' ' :: w
  .ends ⟨complaints ++ (if r.quiet then [] else [.out (text ++ ['\n'])]),
    if f.complaints.isEmpty then 0 else 1, c.tree⟩

def getopt (c : Context) : Answer :=
  let own := "getopt".toList
  let refuse (n : Nat) (message : String) : Answer :=
    .failure c n (own ++ ": ".toList ++ message.toList ++ tryHelp "getopt")
  match c.args with
  | [] => refuse 2 "missing optstring argument"
  | a :: params =>
    if a.head? != some '-' || (c.environment.lookup "GETOPT_COMPATIBLE".toList).isSome then
      -- Without options of its own the program quotes nothing.
      perform c ⟨a, [], false, own, false, false, false, params⟩
    else
      let long : List (String × Char × Arity) :=
        [("options", 'o', .required), ("longoptions", 'l', .required), ("alternative", 'a', .flag),
          ("name", 'n', .required), ("quiet", 'q', .flag), ("quiet-output", 'Q', .flag),
          ("shell", 's', .required), ("test", 'T', .flag), ("unquoted", 'u', .flag),
          ("version", 'V', .flag), ("help", 'h', .flag)]
      match Options.readLeading "+ao:l:n:qQs:TuhV" long c.args with
      | .error message => refuse 2 (String.ofList message)
      | .ok o =>
          if o.has 'T' then .status c 4
          else if o.has 'V' then .ok c "getopt from util-linux 2.39.3\n".toList
          else if o.has 'h' then .ok c "\nUsage:\n getopt <optstring> <parameters>\n".toList
          else if (o.values 's').any fun s =>
              !(["sh", "bash", "csh", "tcsh"].any fun n => n.toList = s) then
            refuse 2 "unknown shell after -s or --shell argument"
          else
            let request (short : Octets) (params : List Octets) : Request :=
              ⟨short, (o.values 'l').flatMap longList, o.has 'a', (o.value? 'n').getD own, o.has 'q',
                o.has 'Q', !o.has 'u', params⟩
            match o.value? 'o', o.operands with
            | some short, params => perform c (request short params)
            | none, short :: params => perform c (request short params)
            | none, [] => refuse 2 "missing optstring argument"

end Switches

end Utility

end Conformance
