import Conformance.Computer.Utility.Files

/-!
# Copies of the input

The program `tee`.
-/

namespace Conformance

namespace Utility

namespace Copy

open Files

def tee (c : Context) : Answer :=
  let long : List (String × Char × Arity) :=
    [("append", 'a', .flag), ("ignore-interrupts", 'i', .flag), ("output-error", 'p', .optional)]
  withOptions c "tee" 1 "aip" long fun o =>
    let put (w : Work) (file : Octets) : Work :=
      match writeFile c w.tree file (o.has 'a') c.input with
      | .ok (tree, prints) => { w with tree, prints := prints ++ w.prints }
      | .error e =>
          { w with prints := unreadable "tee" file e :: w.prints, failed := true }
    if !c.inputEnded then .shows c.input
    else
      let w := o.operands.foldl put (.start c)
      .ends ⟨.out c.input :: w.prints.reverse, if w.failed then 1 else 0, w.tree⟩

end Copy

end Utility

end Conformance
