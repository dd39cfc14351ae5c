import Conformance.Computer.Utility.Basic

/-!
# Who and where

Programs that tell about the user and the system, which are the same for every process.
-/

namespace Conformance

namespace Utility

namespace Person

def userName : Octets := "root".toList

def whoami (c : Context) : Answer :=
  withOptions c "whoami" 1 "" [] fun o =>
    match o.operands with
    | [] => .ok c (userName ++ ['\n'])
    | a :: _ => extraOperand c "whoami" a

def groups (c : Context) : Answer :=
  withOptions c "groups" 1 "" [] fun o =>
    match o.operands with
    | [] => .ok c (userName ++ ['\n'])
    | names => .ok c (names.flatMap fun n => n ++ " : ".toList ++ n ++ ['\n'])

def identity (c : Context) : Answer :=
  let long : List (String × Char × Arity) :=
    [("user", 'u', .flag), ("group", 'g', .flag), ("groups", 'G', .flag), ("name", 'n', .flag),
      ("real", 'r', .flag), ("zero", 'z', .flag)]
  withOptions c "id" 1 "agGnruzZ" long fun o =>
    match o.operands.find? (· != userName) with
    | some a => .failure c 1 ("id: ".toList ++ quoted c a ++ ": no such user".toList)
    | none =>
        let kinds := ['u', 'g', 'G'].filter o.has
        if kinds.length > 1 then
          .failure c 1 "id: cannot print \"only\" of more than one choice".toList
        else if kinds.isEmpty then
          if o.hasAny "nr" then
            .failure c 1 "id: cannot print only names or real IDs in default format".toList
          else .ok c "uid=0(root) gid=0(root) groups=0(root)\n".toList
        else .ok c ((if o.has 'n' then userName else ['0']) ++
          (if o.has 'z' then ['\x00'] else ['\n']))

def logname (c : Context) : Answer :=
  withOptions c "logname" 1 "" [] fun o =>
    match o.operands with
    | [] => .failure c 1 "logname: no login name".toList
    | a :: _ => extraOperand c "logname" a

/-- What is known about the system, in the order in which it is printed. -/
def systemParts : List (Char × String) :=
  [('s', "Linux"), ('n', "localhost"), ('r', "6.1.0"), ('v', "#1 SMP"), ('m', "x86_64"),
    ('o', "GNU/Linux")]

def uname (c : Context) : Answer :=
  let long : List (String × Char × Arity) :=
    [("all", 'a', .flag), ("kernel-name", 's', .flag), ("nodename", 'n', .flag),
      ("kernel-release", 'r', .flag), ("kernel-version", 'v', .flag), ("machine", 'm', .flag),
      ("operating-system", 'o', .flag)]
  withOptions c "uname" 1 "asnrvmpio" long fun o =>
    match o.operands with
    | a :: _ => extraOperand c "uname" a
    | [] =>
        let chosen := systemParts.filter fun (letter, _) =>
          o.has 'a' || o.has letter || (o.given.isEmpty && letter == 's')
        .ok c (joinWith [' '] (chosen.map fun p => p.2.toList) ++ ['\n'])

/-- Prints a text that never changes. -/
def telling (text : String) (c : Context) : Answer := .ok c (text.toList ++ ['\n'])

def tty (c : Context) : Answer :=
  withOptions c "tty" 2 "s" [("silent", 's', .flag), ("quiet", 's', .flag)] fun o =>
    .ends ⟨if o.has 's' then [] else [.out "not a tty\n".toList], 1, c.tree⟩

/-- Prints where programs are found. -/
def which (c : Context) : Answer :=
  let flags := c.args.takeWhile fun a => a.head? == some '-'
  let args := (c.args.drop flags.length)
  let search := splitAt ':' ((c.environment.lookup "PATH".toList).getD [])
  let isRunnable (path : Octets) : Bool :=
    match c.tree.lookup c.directory (pathOf path) true with
    | .ok (loc, .file _) => (c.tree.stamp? loc).any Stamp.isExecutable
    | _ => false
  let found := args.map fun name =>
    if name.contains '/' then [name].filter isRunnable
    else (search.map fun dir => (if dir.isEmpty then ['.'] else dir) ++ '/' :: name).filter isRunnable
  let all := flags.any (·.contains 'a')
  let silent := flags.any (·.contains 's')
  let unknown? := flags.find? fun a => a.drop 1 |>.any fun ch => ch != 'a' && ch != 's'
  match unknown? with
  | some a =>
      .failure c 2 ("Illegal option ".toList ++ a ++ "\nUsage: /usr/bin/which [-as] args".toList)
  | none =>
      let shown := if silent then [] else found.flatMap fun l => if all then l else l.take 1
      .ends ⟨shown.map fun path => .out (path ++ ['\n']),
        if found.all (fun l => !l.isEmpty) && !args.isEmpty then 0 else 1, c.tree⟩

end Person

end Utility

end Conformance
