import Conformance.Computer.Utility.Digest.Wide
import Conformance.Computer.Utility.Encoding
import Conformance.Computer.Utility.Excerpt

/-!
# Checksums

The programs `cksum` and `sum`, and those that print digests or check them against a list:
`md5sum`, `sha1sum`, `sha224sum`, `sha256sum`, `sha384sum`, `sha512sum` and `b2sum`.
-/

namespace Conformance

namespace Utility

namespace Checksum

open Digest

def crcStep (crc : UInt32) (byte : Nat) : UInt32 :=
  (List.range 8).foldl (fun (x : UInt32) _ =>
    if x &&& 0x80000000 != 0 then (x <<< 1) ^^^ 0x04c11db7 else x <<< 1)
    (crc ^^^ (UInt32.ofNat byte <<< 24))

/-- The bytes of a length, the least significant first, without those that say nothing. -/
def lengthBytes (fuel n : Nat) : List Nat :=
  match fuel, n with
  | 0, _ | _, 0 => []
  | fuel + 1, n => n % 256 :: lengthBytes fuel (n / 256)

def crc (s : List Nat) : Nat :=
  (~~~ ((s ++ lengthBytes 16 s.length).foldl crcStep 0)).toNat

/-- A sum of two bytes that is turned by one bit before each byte. -/
def turningSum (s : List Nat) : Nat :=
  s.foldl (fun n x => (n / 2 + n % 2 * 32768 + x) % 65536) 0

/-- The sum of all bytes, folded into two of them. -/
def plainSum (s : List Nat) : Nat :=
  let total := s.foldl (· + ·) 0 % 2 ^ 32
  let folded := total % 65536 + total / 65536
  (folded % 65536 + folded / 65536) % 65536

/-! ## Digests by name -/

/-- A way to make digests: its name in lists, and how many bytes it makes. -/
structure Algorithm where
  name : Octets
  size : Nat
  digest : List Nat → List Nat

/-- A digest of some bits, which its name tells if they are fewer than usual. -/
def blake (bits : Nat) : Algorithm :=
  ⟨"BLAKE2b".toList ++ (if bits = 512 then [] else '-' :: Octets.ofNat bits), bits / 8,
    blake2b (bits / 8)⟩

def algorithms : List (String × Algorithm) :=
  [("md5", ⟨"MD5".toList, 16, md5⟩), ("sha1", ⟨"SHA1".toList, 20, sha1⟩),
    ("sha224", ⟨"SHA224".toList, 28, sha224⟩), ("sha256", ⟨"SHA256".toList, 32, sha256⟩),
    ("sha384", ⟨"SHA384".toList, 48, sha384⟩), ("sha512", ⟨"SHA512".toList, 64, sha512⟩),
    ("blake2b", blake 512)]

def Algorithm.text (a : Algorithm) (s : Octets) : Octets :=
  (a.digest (numbersOf s)).flatMap hexByte

/-! ## Printing -/

/-- The failure of a program for some of its files, behind what it prints for the others. -/
def perFile (program : String) (c : Context) (files : List Octets)
    (shown : Octets → Octets → Octets) : Answer :=
  withContents c files fun contents =>
    .ends ⟨contents.map fun (file, content) =>
        match content with
        | .ok s => .out (shown file s)
        | .error e => unreadable program file e,
      if contents.any (fun (_, content) => !content.isOk) then 1 else 0, c.tree⟩

/-- A name in which line ends are spelled out, marked in front if there are any. -/
def markedName (plain : Bool) (name : Octets) : Octets × Octets :=
  if plain || !name.any fun ch => ch == '\\' || ch == '\n' || ch == '\r' then ([], name)
  else (['\\'], name.flatMap fun ch =>
    match ch with
    | '\\' => ['\\', '\\']
    | '\n' => ['\\', 'n']
    | '\r' => ['\\', 'r']
    | ch => [ch])

def digestLine (a : Algorithm) (tagged binary zero : Bool) (file s : Octets) : Octets :=
  let (mark, name) := markedName zero file
  let digest := a.text s
  mark ++ (if tagged then a.name ++ " (".toList ++ name ++ ") = ".toList ++ digest
    else digest ++ ' ' :: (if binary then '*' else ' ') :: name) ++ [if zero then '\x00' else '\n']

/-! ## Checking -/

def isHexadecimal (ch : Char) : Bool :=
  ch.isDigit || ('a' ≤ ch && ch ≤ 'f') || ('A' ≤ ch && ch ≤ 'F')

/-- The digest and the file on a line that is written in one of two ways. -/
def listed? (a : Algorithm) (line : Octets) : Option (Octets × Octets) :=
  let (isMarked, line) := match line with
    | '\\' :: rest => (true, rest)
    | rest => (false, rest)
  let plain (name : Octets) : Octets := if isMarked then unmark name else name
  let tag := a.name ++ " (".toList
  if tag.isPrefixOf line then
    let rest := (line.drop tag.length).reverse
    let digest := (rest.takeWhile isHexadecimal).reverse
    match rest.drop digest.length with
    | ' ' :: '=' :: ' ' :: ')' :: name =>
        if digest.length = 2 * a.size then some (digest, plain name.reverse) else none
    | _ => none
  else
    let digest := line.takeWhile isHexadecimal
    match line.drop digest.length with
    | ' ' :: mark :: name =>
        if (mark == ' ' || mark == '*') && digest.length = 2 * a.size && !name.isEmpty then
          some (digest, plain name)
        else none
    | _ => none
where
  unmark : Octets → Octets
    | '\\' :: 'n' :: rest => '\n' :: unmark rest
    | '\\' :: 'r' :: rest => '\r' :: unmark rest
    | '\\' :: ch :: rest => ch :: unmark rest
    | ch :: rest => ch :: unmark rest
    | [] => []

def counted (n : Nat) (one many : String) : Octets :=
  Octets.ofNat n ++ ' ' :: (if n = 1 then one else many).toList

def checkList (c : Context) (program : String) (a : Algorithm) (o : Options) (list : Octets)
    (content : Except IoError Octets) (contentOf : Octets → Except IoError Octets) :
    List Print × Bool :=
  let shown := if list = ['-'] then "'standard input'".toList else list
  let say (s : Octets) : Print := .err (program.toList ++ ": ".toList ++ s ++ ['\n'])
  let _ := c
  match content with
  | .error (.os ⟨21⟩) => ([say (list ++ ": read error".toList)], false)
  | .error e => ([unreadable program list e], false)
  | .ok s =>
      let lines := (Excerpt.linesOf '\n' s).filter fun l => l.head? != some '#'
      let items := lines.filterMap (listed? a)
      let improper := (lines.filter fun l => !l.isEmpty).length - items.length
      let quiet := o.hasAny "sq"
      let results := items.map fun (wanted, name) =>
        match contentOf name with
        | .ok s => (name, some (a.text s = wanted.map Char.toLower), ([] : List Print))
        | .error e => (name, none, [unreadable program name e])
      let skips (r : Octets × Option Bool × List Print) : Bool := o.has 'i' && r.2.1.isNone
      let results := results.filter fun r => !skips r
      let lines := results.flatMap fun (name, r, complaint) =>
        let (mark, name) := markedName false name
        let line (s : String) : Print := .out (mark ++ name ++ s.toList)
        complaint ++ (match r with
          | some true => if quiet then [] else [line ": OK\n"]
          | some false => if o.has 's' then [] else [line ": FAILED\n"]
          | none => if o.has 's' then [] else [line ": FAILED open or read\n"])
      let count (r : Option Bool) : Nat := (results.filter fun x => x.2.1 = r).length
      let warn (n : Nat) (one many : String) : List Print :=
        if n = 0 || o.has 's' then [] else [say ("WARNING: ".toList ++ counted n one many)]
      if items.isEmpty then
        ([say (shown ++ ": no properly formatted checksum lines found".toList)], false)
      else
        let warnings := warn improper "line is improperly formatted" "lines are improperly formatted" ++
          warn (count none) "listed file could not be read" "listed files could not be read" ++
          warn (count (some false)) "computed checksum did NOT match"
            "computed checksums did NOT match"
        let none' := results.isEmpty
        let complaint := if none' && o.has 'i' && !o.has 's' then
            [say (shown ++ ": no file was verified".toList)]
          else []
        (lines ++ warnings ++ complaint,
          !none' && count none = 0 && count (some false) = 0 && !(o.has 'S' && improper > 0))

def check (c : Context) (program : String) (a : Algorithm) (o : Options) : Answer :=
  withContents c o.operands fun lists =>
    let names := lists.flatMap fun (_, content) =>
      ((Excerpt.linesOf '\n' (content.toOption.getD [])).filterMap (listed? a)).map Prod.snd
    withContents c names fun contents =>
      let look (name : Octets) : Except IoError Octets :=
        (contents.lookup name).getD (.error (.os .noEntry))
      let results := lists.map fun (list, content) => checkList c program a o list content look
      .ends ⟨results.flatMap Prod.fst, if results.all Prod.snd then 0 else 1, c.tree⟩

/-! ## Programs -/

def checkOptions : List (String × Char × Arity) :=
  [("check", 'c', .flag), ("binary", 'b', .flag), ("text", 't', .flag), ("zero", 'z', .flag),
    ("status", 's', .flag), ("quiet", 'q', .flag), ("tag", '\x03', .flag), ("warn", 'w', .flag),
    ("strict", 'S', .flag), ("ignore-missing", 'i', .flag), ("length", 'l', .required),
    ("untagged", '\x04', .flag), ("algorithm", 'a', .required), ("base64", '\x05', .flag),
    ("raw", '\x06', .flag), ("debug", '\x07', .flag)]

def misuse? (o : Options) : Option String :=
  let checks := o.has 'c'
  if o.has '\x03' && o.has 't' then some "--tag does not support --text mode"
  else if o.has 'z' && checks then
    some "the --zero option is not supported when verifying checksums"
  else if o.has '\x03' && checks then
    some "the --tag option is meaningless when verifying checksums"
  else if o.hasAny "bt" && checks then
    some "the --binary and --text options are meaningless when verifying checksums"
  else if checks then none
  else
    let options := [('i', "ignore-missing"), ('s', "status"), ('w', "warn"), ('q', "quiet"),
      ('S', "strict")]
    (options.find? fun (letter, _) => o.has letter).map fun (_, name) =>
      "the --" ++ name ++ " option is meaningful only when verifying checksums"

def work (c : Context) (program : String) (a : Algorithm) (tagged : Bool) (o : Options) : Answer :=
  match misuse? o with
  | some message => .failure c 1 ((program ++ ": " ++ message).toList ++ tryHelp program)
  | none =>
      if o.has 'c' then check c program a o
      else perFile program c o.operands fun file s =>
        let name := if o.operands.isEmpty then ['-'] else file
        if o.has '\x06' then Octets.ofBytes ((a.digest (numbersOf s)).map UInt8.ofNat)
        else if o.has '\x05' then
          a.name ++ " (".toList ++ name ++ ") = ".toList ++
            Encoding.encode64 (a.digest (numbersOf s)) ++ ['\n']
        else digestLine a tagged (o.lastOf "bt" == some 'b') (o.has 'z') name s

def summing (program : String) (a : Algorithm) (c : Context) : Answer :=
  withOptions c program 1 "bctwz" checkOptions fun o => work c program a (o.has '\x03') o

def withLength (c : Context) (program : String) (o : Options) (k : Nat → Answer) : Answer :=
  match o.value? 'l' with
  | none => k 512
  | some s =>
      match readNat? s with
      | none => .failure c 1 (program.toList ++ ": invalid length: ".toList ++ quoted c s)
      | some 0 => k 512
      | some n =>
          if n > 512 then
            .failure c 1 (program.toList ++ ": invalid length: ".toList ++ quoted c s ++ ['\n'] ++
              program.toList ++ ": maximum digest length for ".toList ++ quoted c "BLAKE2b".toList ++
              " is 512 bits".toList)
          else if n % 8 != 0 then
            .failure c 1 (program.toList ++ ": invalid length: ".toList ++ quoted c s ++ ['\n'] ++
              program.toList ++ ": length is not a multiple of 8".toList)
          else k n

def b2sum (c : Context) : Answer :=
  withOptions c "b2sum" 1 "bctwzl:" checkOptions fun o =>
    withLength c "b2sum" o fun bits => work c "b2sum" (blake bits) (o.has '\x03') o

def blocksIn (size n : Nat) : Octets := Octets.ofNat ((n + size - 1) / size)

def sumLine (plain : Bool) (name s : Octets) : Octets :=
  let bytes := numbersOf s
  let shown : Octets := if name.isEmpty then [] else ' ' :: name
  if plain then Octets.ofNat (plainSum bytes) ++ ' ' :: blocksIn 512 s.length ++ shown ++ ['\n']
  else
    let digits := Octets.ofNat (turningSum bytes)
    List.replicate (5 - digits.length) '0' ++ digits ++ ' ' ::
      padLeft 5 (blocksIn 1024 s.length) ++ shown ++ ['\n']

def sum (c : Context) : Answer :=
  withOptions c "sum" 1 "rs" [("sysv", 's', .flag)] fun o =>
    perFile "sum" c o.operands fun file s =>
      sumLine (o.lastOf "rs" == some 's') (if o.operands.isEmpty then [] else file) s

def cksum (c : Context) : Answer :=
  withOptions c "cksum" 1 "a:bctwzl:" checkOptions fun o =>
    let perName (f : Octets → Octets → Octets) : Answer :=
      perFile "cksum" c o.operands fun file s => f (if o.operands.isEmpty then [] else file) s
    match o.value? 'a' with
    | none | some ['c', 'r', 'c'] =>
        if o.has 'c' then
          .failure c 1 ("cksum: --check is not supported with --algorithm=\x7bbsd,sysv,crc\x7d".toList ++
            tryHelp "cksum")
        else perName fun name s =>
          Octets.ofNat (crc (numbersOf s)) ++ ' ' :: Octets.ofNat s.length ++
            (if name.isEmpty then [] else ' ' :: name) ++ ['\n']
    | some ['b', 's', 'd'] => perName (sumLine false)
    | some ['s', 'y', 's', 'v'] => perName (sumLine true)
    | some name =>
        match algorithms.lookup (String.ofList name) with
        | some a =>
            let tagged := o.lastOf "\x03\x04" != some '\x04'
            let o' := { o with given := o.given.filter fun g => g.1 != '\x03' }
            if name = "blake2b".toList then
              withLength c "cksum" o fun bits => work c "cksum" (blake bits) tagged o'
            else work c "cksum" a tagged o'
        | none =>
            .failure c 1 ("cksum: invalid argument ".toList ++ quoted c name ++ " for ".toList ++
              quoted c "--algorithm".toList ++ tryHelp "cksum")

end Checksum

end Utility

end Conformance
