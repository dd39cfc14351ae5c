import Conformance.Computer.Utility.Records.Evaluation
import Conformance.Computer.Utility.Records.Reader

/-!
# Rules over records

The program `awk`: rules are carried out for each record of the input, some before the first one and
some after the last one.
-/

namespace Conformance

namespace Utility

namespace Records

/-- How deep a program may nest, and how often its loops may go round. -/
def depthLimit : Nat := 2000000

/-- The rules over records that apply to the record in hand are carried out. -/
def runRules (p : Setting) (n : Nat) : List Rule → Run Unit
  | [] => return
  | rule :: rest => do
      let holds (e : Expr) : Run Bool := do return (← eval p depthLimit e).toBool
      let applies ← match rule.trigger with
        | .always => pure true
        | .when e => holds e
        | .between a b => do
            if (← get).active.contains n || (← holds a) then
              let ends ← holds b
              modify fun st =>
                let others := st.active.filter (· != n)
                { st with active := if ends then others else n :: others }
              pure true
            else pure false
      if applies then
        let _ ← exec p depthLimit (rule.body.getD (.print [] .output))
      runRules p (n + 1) rest

/-- Carries out the rules for one record after the other; fuel bounds their number. -/
def runRecords (p : Setting) (rules : List Rule) (fuel : Nat) : Run Unit := do
  match fuel with
  | 0 => throw .endless
  | fuel + 1 =>
    match ← nextRecord p (← fileLimit) with
    | none => return
    | some s => do
        setRecord s
        let st ← get
        match (runRules p 0 rules).run st with
        | (.ok _, st) => set st
        | (.error .next, st) => set { st with frames := #[] }
        | (.error .nextFile, st) => set { st with frames := #[], main := none }
        | (.error e, st) => do
            set st
            throw e
        runRecords p rules fuel

def runBlocks (p : Setting) : List Statement → Run Unit
  | [] => return
  | s :: rest => do
      let _ ← exec p depthLimit s
      runBlocks p rest

def unlessExit (first : Run Unit) : Run Bool := do
  let st ← get
  match first.run st with
  | (.ok _, st) => do
      set st
      return true
  | (.error .exits, st) => do
      set { st with frames := #[] }
      return false
  | (.error e, st) => do
      set st
      throw e

def course (p : Setting) (program : Program) : Run Unit := do
  let size := p.context.input.length
  let records : Run Unit := do
    runBlocks p program.beginnings
    if !program.rules.isEmpty || !program.endings.isEmpty then
      runRecords p program.rules (size + depthLimit)
  let _ ← unlessExit records
  let _ ← unlessExit (runBlocks p program.endings)
  closeOutlets p ((← get).outlets.length + 1)
  flushOutput

/-! ## Starting -/

structure Request where
  separator : Option Octets
  assigned : List (Octets × Octets)
  sources : List Octets
  operands : List Octets

inductive Refusal where
  | unknown (option : Octets)
  | lacking (letter : Char)
  | improper (s : Octets)
  | version

/-- Reads the options; fuel bounds the number of arguments. -/
def Request.read (fuel : Nat) (r : Request) (args : List Octets) : Except Refusal Request := do
  match fuel, args with
  | 0, _ | _, [] => return r
  | fuel + 1, arg :: rest =>
      match arg with
      | ['-', '-'] => return { r with operands := rest }
      | '-' :: c :: inner =>
          let take (k : Octets → Except Refusal Request) (rest : List Octets) :
              Except Refusal Request := do
            match inner, rest with
            | [], [] => throw (.lacking c)
            | [], value :: rest => Request.read fuel (← k value) rest
            | value, rest => Request.read fuel (← k value) rest
          match c with
          | 'F' => take (fun s => .ok { r with separator := some s }) rest
          | 'f' => take (fun s => .ok { r with sources := r.sources ++ [s] }) rest
          | 'v' => take (fun s => match settingOf? s with
              | some a => .ok { r with assigned := r.assigned ++ [a] }
              | none => .error (.improper s)) rest
          | 'W' => take (fun s =>
              if "version".toList.isPrefixOf s then .error .version else .ok r) rest
          | _ => if arg = "--version".toList then throw .version else throw (.unknown arg)
      | _ => return { r with operands := arg :: rest }

def firstGlobals (args : List Octets) (r : Request) : List (Octets × Binding) :=
  let fixed : List (String × Value) :=
    [("NR", .number 0.0), ("FNR", .number 0.0), ("FS", .text [' ']), ("OFS", .text [' ']),
      ("ORS", .text ['\n']), ("RS", .text ['\n']), ("SUBSEP", .text ['\x1c']),
      ("CONVFMT", .text "%.6g".toList), ("OFMT", .text "%.6g".toList), ("RSTART", .number 0.0),
      ("RLENGTH", .number (-1.0)), ("FILENAME", .text []), ("ARGC", .ofNat (args.length + 1))]
  let start : List (Octets × Binding) := fixed.map fun (n, v) => (n.toList, .value v)
  let start := start ++ [("ENVIRON".toList, .table 0), ("ARGV".toList, .table 1)]
  let start := match r.separator with
    | some s => put "FS".toList (.value (.text (unescaped s))) start
    | none => start
  r.assigned.foldl (fun l (name, value) => put name (.value (.ofInput value)) l) start

def firstState (c : Context) (program : String) (r : Request) (args : List Octets) : State where
  globals := firstGlobals args r
  frames := #[]
  tables := #[
    c.environment.foldl (fun t (n, v) => t.insert (.text n) (.ofInput v)) .empty,
    ((program.toList :: args).zipIdx).foldl (fun t (s, n) =>
      t.insert (.number (n : Nat)) (.ofInput s)) .empty]
  record := []
  fields := #[]
  isStale := false
  main := none
  argument := 1
  hasOpened := false
  inputOpened := false
  inlets := []
  outlets := []
  pending := []
  pendingSize := 0
  prints := #[]
  tree := if c.ran.isEmpty then c.tree else c.before
  calls := 0
  status := 0
  active := []
  compiled := []
  seed := 0.0
  chance := 42

/-- How long a program runs that does not come to an end. -/
def forever : Nat := 10 ^ 15

def usage : String :=
  "Usage: mawk [Options] [Program] [file ...]\n\nProgram:\n    The -f option value is the name " ++
  "of a file containing program text.\n    If no -f option is given, a \"--\" ends option " ++
  "processing; the following\n    parameters are the program text.\n\nOptions:\n    -f " ++
  "program-file  Program  text is read from file instead of from the\n                     " ++
  "command-line.  Multiple -f options are accepted.\n    -F value         sets the field " ++
  "separator, FS, to value.\n    -v var=value     assigns value to program variable var.\n    " ++
  "--               unambiguous end of options.\n\n    Implementation-specific options are " ++
  "prefixed with \"-W\".  They can be\n    abbreviated:\n\n    -W version       show version " ++
  "information and exit.\n    -W compat        pre-POSIX 2001.\n    -W dump          show " ++
  "assembler-like listing of program and exit.\n    -W help          show this message and " ++
  "exit.\n    -W interactive   set unbuffered output, line-buffered input.\n    -W exec file     " ++
  "use file as program as well as last option.\n    -W posix         stricter POSIX " ++
  "checking.\n    -W random=number set initial random seed.\n    -W sprintf=number adjust size " ++
  "of sprintf buffer.\n    -W usage         show this message and exit.\n"

def perform (c : Context) (name : String) (r : Request) (args : List Octets) (program : Program) :
    Answer :=
  let p : Setting := ⟨name, c, program.functions⟩
  let (result, st) := (course p program).run (firstState c name r args)
  let shown (st : State) : Octets :=
    (st.prints.toList.filter fun x => x.descriptor = 1).flatMap Print.text
  let ends (st : State) (more : List Print) (status : Nat) : Answer :=
    .ends ⟨st.prints.toList ++ more, status, st.tree⟩
  match result with
  | .ok _ | .error .exits => ends st [] st.status
  | .error .needsInput => if st.prints.isEmpty then .more else .shows (shown st)
  | .error (.gathers file) => .gathers file
  | .error (.calls call) => .calls st.prints.toList st.tree call
  | .error .endless => .pause (shown st) forever
  | .error (.fatal message) =>
      let complaint := Print.err (name.toList ++ ": ".toList ++ message ++ ['\n'])
      ends st [complaint, .out st.pending.reverse.flatten] 2
  | .error .next | .error .nextFile => ends st [] st.status

def awk (name : String) (c : Context) : Answer :=
  let refuse (status : Nat) (message : Octets) : Answer :=
    .failure c status (name.toList ++ ": ".toList ++ message)
  match Request.read (c.args.length + 1) ⟨none, [], [], []⟩ c.args with
  | .error .version => .ok c "mawk 1.3.4 20200120\n".toList
  | .error (.unknown option) => refuse 2 ("not an option: ".toList ++ option)
  | .error (.lacking letter) =>
      refuse 2 ("option -".toList ++ [letter] ++ " lacks argument".toList)
  | .error (.improper s) => refuse 2 ("improper assignment: -v ".toList ++ s)
  | .ok r =>
      let source : Except Answer (Octets × List Octets) :=
        match r.sources, r.operands with
        | [], [] => .error (.ends ⟨[.err usage.toList], 0, c.tree⟩)
        | [], text :: args => .ok (text, args)
        | sources, args =>
            match need? c sources with
            | some answer => .error answer
            | none =>
                match sources.findSome? fun f => match contentOf c f with
                    | .ok _ => none
                    | .error e => some (f, e) with
                | some (f, e) => .error (refuse 2 ("cannot open \"".toList ++ f ++ "\" (".toList ++
                    errorText e ++ [')']))
                | none => .ok (joinWith ['\n'] (sources.map fun f =>
                    Octets.chomp ((contentOf c f).toOption.getD [])), args)
      match source with
      | .error answer => answer
      | .ok (text, args) =>
          match Program.read text with
          | .error fault =>
              refuse 2 ("line ".toList ++ Octets.ofNat fault.line ++ ": ".toList ++ fault.message)
          | .ok program => perform c name r args program

end Records

end Utility

end Conformance
