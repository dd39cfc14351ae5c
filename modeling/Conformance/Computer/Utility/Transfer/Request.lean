import Conformance.Computer.Utility.Files

/-!
# Sources and targets

How the operands of programs that bring entries to other places are meant: the last one is the
target unless an option names a directory, and sources go into a target that is a directory.
-/

namespace Conformance

namespace Utility

namespace Transfer

open Files

/-- The sources and the target that operands name. -/
structure Request where
  sources : List Octets
  target : Octets
  into : Bool

def requestOf (c : Context) (program : String) (o : Options) : Except Answer Request :=
  let isDirectory (file : Octets) : Bool := c.tree.isDirectory c.directory (pathOf file)
  let fail (message : Octets) : Except Answer Request := .error (.failure c 1 message)
  if (o.values 't').length > 1 then
    fail (program ++ ": multiple target directories specified").toList
  else if o.has 't' && o.has 'T' then
    fail (program ++ ": cannot combine --target-directory (-t) and " ++
      "--no-target-directory (-T)").toList
  else match o.value? 't', o.operands.reverse with
  | _, [] => fail ((program ++ ": missing file operand").toList ++ tryHelp program)
  | some dir, _ =>
      if isDirectory dir then .ok ⟨o.operands, dir, true⟩
      else fail ((program ++ ": target directory ").toList ++ quotedName dir ++ ": ".toList ++
        (match c.tree.lookup c.directory (pathOf dir) true with
          | .ok _ => "Not a directory".toList
          | .error e => errorText e))
  | none, [file] =>
      fail ((program ++ ": missing destination file operand after ").toList ++ quotedName file ++
        tryHelp program)
  | none, target :: sources =>
      if o.has 'T' then
        match sources with
        | [source] => .ok ⟨[source], target, false⟩
        | _ => fail ((program ++ ": extra operand ").toList ++
            quotedName ((sources.reverse ++ [target]).getD 2 target) ++ tryHelp program)
      else if isDirectory target then .ok ⟨sources.reverse, target, true⟩
      else if sources.length > 1 then
        fail ((program ++ ": target ").toList ++ quotedName target ++ ": ".toList ++
          (match c.tree.lookup c.directory (pathOf target) true with
            | .ok _ => "Not a directory".toList
            | .error e => errorText e))
      else .ok ⟨sources, target, false⟩

def Request.pathFor (r : Request) (source : Octets) : Octets :=
  if r.into then below r.target (lastName source) else r.target

end Transfer

end Utility

end Conformance
