import Conformance.Computer.Shell.Fields

/-!
# Assignments

What the assignments of a command do to variables: they set or extend a text, an item of an array,
or a whole array.
-/

namespace Conformance

namespace Shell

/-- An item of an array with its words expanded: its key, whether it extends what is there, and the
text. -/
structure ListedItem where
  key : Option Octets
  appends : Bool
  text : Octets
  deriving Repr

/-- A whole array that an argument of a declaration gives. -/
structure Listed where
  name : Octets
  appends : Bool
  items : List ListedItem
  deriving Repr

namespace Expand

def modifyVars (f : Variables → Variables) : Expand Unit := modify fun e => { e with vars := f e.vars }

def isInteger (x : Octets) : Expand Bool := do
  let v ← vars
  return (v.find? (v.resolve x)).any Variable.integer

def checkWritable (x : Octets) : Expand Unit := do
  let v ← vars
  if v.isReadOnly x then
    fail (x ++ (if v.isExtended then ": readonly variable" else ": is read only").toList)

def newText (x : Octets) (old : Option Octets) (appends : Bool) (s : Octets) : Expand Octets := do
  if ← isInteger x then do
    let n ← arithmetic s
    let before ← match appends, old with
      | true, some t => arithmetic t
      | _, _ => pure 0
    return (toString (Arithmetic.wrap (before + n))).toList
  else return (if appends then old.getD [] else []) ++ s

def assignItem (x key : Octets) (appends : Bool) (s : Octets) : Expand Unit := do
  checkWritable x
  let v ← vars
  match v.lookup? x with
  | some (.keyed items) => do
      let s ← newText x (items.lookup key) appends s
      modifyVars fun v => (v.setItem x (.inl key) s).getD v
  | value? => do
      let items := match value? with
        | some (.indexed items) => items
        | some (.text t) => [(0, t)]
        | _ => []
      let n ← arithmetic key
      let old := (Value.place? items n).bind fun n => items.lookup n
      let s ← newText x old appends s
      match (← vars).setItem x (.inr n) s with
      | some v => modifyVars fun _ => v
      | none => fail (x ++ '[' :: key ++ "]: bad array subscript".toList)

/-- Puts items into an array, which begins empty unless it is extended. -/
def assignItems (x : Octets) (appends : Bool) (items : List ListedItem) : Expand Unit := do
  checkWritable x
  let v ← vars
  let isKeyed := match v.lookup? x with
    | some (.keyed _) => true
    | _ => false
  let start : Value := match appends, v.lookup? x with
    | true, some (.text s) => .indexed [(0, s)]
    | true, some value => value
    | _, _ => if isKeyed then .keyed [] else .indexed []
  modifyVars fun v => v.setValue x start
  if isKeyed then keyed items
  else numbered (match start with
    | .indexed items => Value.nextIndex items
    | _ => 0) items
where
  keyed : List ListedItem → Expand Unit
    | [] => return
    | ⟨some key, itemAppends, text⟩ :: rest => do
        assignItem x key itemAppends text
        keyed rest
    | [⟨none, _, text⟩] => assignItem x text false []
    | ⟨none, _, text⟩ :: value :: rest => do
        -- Without keys, texts come in pairs.
        assignItem x text false value.text
        keyed rest
  numbered (next : Nat) : List ListedItem → Expand Unit
    | [] => return
    | ⟨some key, itemAppends, text⟩ :: rest => do
        let n ← arithmetic key
        let count := match (← vars).lookup? x with
          | some (.indexed items) => Value.nextIndex items
          | _ => 0
        let place := if n < 0 then (n + count).toNat else n.toNat
        assignItem x key itemAppends text
        numbered (place + 1) rest
    | ⟨none, _, text⟩ :: rest => do
        assignItem x (Octets.ofNat next) false text
        numbered (next + 1) rest

def assignText (x : Octets) (appends : Bool) (s : Octets) : Expand Unit := do
  checkWritable x
  let s ← newText x ((← vars).value? x) appends s
  modifyVars fun v => v.set x s

end Expand

def expandItems (s : Surroundings) : List Item → Expand (List ListedItem)
  | [] => return []
  | .mk index appends value :: rest => do
      let found ← match index with
        | some word => do
            let key := Atom.text (← expandRaw word)
            pure [⟨some key, appends, ← expandValue value⟩]
        | none => do
            let fields ← expandFields s value
            pure (fields.map fun t => ⟨none, false, t⟩)
      return found ++ (← expandItems s rest)

def expandAssignment (s : Surroundings) (a : Assignment) : Expand Octets := do
  match a with
  | .mk name index appends value =>
      match index, value with
      | none, [.items l] => do
          Expand.assignItems name appends (← expandItems s l)
          return name
      | none, word => do
          Expand.assignText name appends (← expandValue word)
          return name
      | some place, word => do
          let key := Atom.text (← expandRaw place)
          Expand.assignItem name key appends (← expandValue word)
          return name

end Shell

end Conformance
