import Conformance.Computer.Machine.Builtin.Flow
import Conformance.Computer.Machine.Builtin.Input

/-!
# Arrays of lines

Lines are read into an array.  A command may be called as they come.
-/

namespace Conformance

namespace Shell

namespace Builtin

open Act

/-- The whole lines of a text with their ends, and what follows the last one. -/
def wholeLines (ending : Char) (s : Octets) : List Octets × Octets :=
  let parts := Utility.splitAt ending s
  (parts.dropLast.map fun p => p ++ [ending], parts.getLast?.getD [])

/-- Takes lines until there are enough of them, or one comes for which the command is to be called.
Gives that line and those that follow. -/
def takeLines (r : LinesRequest) : List Octets → LinesRequest × Option Octets × List Octets
  | [] => (r, none, [])
  | line :: rest =>
      if r.skip > 0 then takeLines { r with skip := r.skip - 1 } rest
      else if r.most = some 0 then (r, none, line :: rest)
      else
        let text := line.takeWhile (· != '\x00')
        let text := if r.chomps && text.getLast? == some r.ending then text.dropLast else text
        let after := { r with
          most := r.most.map (· - 1)
          index := r.index + 1
          count := r.count + 1 }
        if r.callback.any fun (_, turn) => after.count % turn = 0 then (after, some text, rest)
        else takeLines { after with pending := text :: r.pending } rest

def storeLines (r : LinesRequest) : Act Unit := do
  let first := r.index - r.pending.length
  modifyVariables fun v =>
    let old : List (Nat × Octets) := match v.lookup? r.name with
      | some (.indexed items) => items
      | some (.text s) => [(0, s)]
      | _ => []
    v.setValue r.name (.indexed (old.filter (·.1 < first) ++
      r.pending.reverse.zipIdx.map (fun (s, n) => (first + n, s)) ++
      old.filter (·.1 ≥ r.index)))

def readLines (r : LinesRequest) (taken : Octets) : Act Unit := do
  match (← channels).get? r.descriptor with
  | none => setStatus 0
  | some channel => do
      let go (text : Octets) (ended : Bool) : Act Unit := do
        let (lines, last) := wholeLines r.ending text
        let (lines, last) :=
          if ended && !last.isEmpty then (lines ++ [last], []) else (lines, last)
        let (after, called?, rest) := takeLines r lines
        let give : Act Unit := modifyWorld fun m => m.unread channel (rest.flatten ++ last)
        match called?, after.callback with
        | some line, some (command, _) => do
            give
            storeLines { after with index := after.index - 1 }
            push (.readLines { after with pending := [line] } [])
            push .endOfEval
            beginScript (command ++ ' ' :: Octets.ofNat (after.index - 1) ++ ' ' :: quote line)
              (← vars).line
        | _, _ =>
            if ended || after.most = some 0 then do
              give
              storeLines after
              setStatus 0
            else push (.readLines after last)
      if r.most = some 0 then go taken false
      else do
        let (got, m) := (← machine).read channel
        setWorld m
        match got with
        | .later => push (.readLines r taken)
        | .data s => go (taken ++ s) false
        | .ended | .refused _ => go taken true

def lineNumber (options : List (Char × Octets)) (letter : Char) (least : Nat) (what : String) :
    Except Octets (Option Nat) :=
  match options.lookup letter with
  | none => .ok none
  | some s =>
      match Utility.readNat? s with
      | some n => if n < least then .error (s ++ ": invalid ".toList ++ what.toList) else .ok (some n)
      | none => .error (s ++ ": invalid ".toList ++ what.toList)

def mapfileUsage : String :=
  " [-d delim] [-n count] [-O origin] [-s count] [-t] [-u fd] [-C callback] [-c quantum] [array]\n"

def mapfileCommand (c : Call) : Act Unit := do
  let size := (c.args.map List.length).foldl (· + ·) 1
  match readOptions "dnOsuCc".toList "t".toList size c.args with
  | .error d => do
      complain (c.name ++ ": -".toList ++ [d] ++ (if "dnOsuCc".toList.contains d then
        ": option requires an argument" else ": invalid option").toList)
      write 2 (c.name ++ ": usage: ".toList ++ c.name ++ mapfileUsage.toList)
      setStatus 2
  | .ok (options, names) => do
      let options := options.reverse
      let numbers : Except Octets (List (Option Nat)) := do
        return [← lineNumber options 'u' 0 "file descriptor specification",
          ← lineNumber options 'n' 0 "line count", ← lineNumber options 's' 0 "line count",
          ← lineNumber options 'O' 0 "array origin", ← lineNumber options 'c' 1 "callback quantum"]
      let v ← vars
      let name := names.headD "MAPFILE".toList
      match numbers with
      | .error message => failWith c message 1
      | .ok numbers =>
          let number (k : Nat) : Option Nat := (numbers[k]?).join
          let descriptor := (number 0).getD 0
          if ((← channels).get? descriptor).isNone then
            failWith c (Octets.ofNat descriptor ++
              ": invalid file descriptor: Bad file descriptor".toList) 1
          else if name.isEmpty then failWith c "empty array variable name".toList 2
          else if !isName name then
            failWith c (quotedInMessage name ++ ": not a valid identifier".toList) 1
          else if v.isReadOnly name then do
            complain (name ++ ": readonly variable".toList)
            setStatus 1
          else if (v.lookup? name).any fun x => match x with
            | .keyed _ => true
            | _ => false then
            failWith c (name ++ ": not an indexed array".toList) 1
          else do
            if (number 3).isNone then modifyVariables fun v => v.setValue name (.indexed [])
            let r : LinesRequest :=
              { descriptor
                name
                chomps := (options.lookup 't').isSome
                ending := match options.lookup 'd' with
                  | some [] => '\x00'
                  | some (d :: _) => d
                  | none => '\n'
                skip := (number 2).getD 0
                most := (number 1).filter (· > 0)
                index := (number 3).getD 0
                count := 0
                pending := []
                callback := (options.lookup 'C').map fun s => (s, (number 4).getD 5000) }
            push (.readLines r [])

end Builtin

end Shell

end Conformance
