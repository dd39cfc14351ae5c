/-!
# Blank characters, trimming and words

A character is blank when it has the Unicode property White_Space.  Texts are lists of characters;
`trim` drops the blanks at both ends and `words` lists the maximal runs without a blank.
-/

namespace Conformance

namespace Text

/-- The code points with the property White_Space. -/
def isBlank (c : Char) : Bool :=
  let n := c.toNat
  (0x09 ≤ n && n ≤ 0x0D) || n == 0x20 || n == 0x85 || n == 0xA0 || n == 0x1680 ||
    (0x2000 ≤ n && n ≤ 0x200A) || n == 0x2028 || n == 0x2029 || n == 0x202F || n == 0x205F ||
    n == 0x3000

def trimStart (s : List Char) : List Char :=
  s.dropWhile isBlank

def trimEnd (s : List Char) : List Char :=
  (s.reverse.dropWhile isBlank).reverse

def trim (s : List Char) : List Char :=
  trimEnd (trimStart s)

/-- The parts of `s` between the characters that satisfy `p`, empty ones included; there is always
one part more than there are such characters. -/
def splitWhen (p : Char → Bool) (s : List Char) : List (List Char) :=
  s.foldr (fun c parts =>
    if p c then [] :: parts
    else match parts with
      | [] => [[c]]
      | part :: rest => (c :: part) :: rest) [[]]

/-- The maximal runs of characters that are not blank. -/
def words (s : List Char) : List (List Char) :=
  (splitWhen isBlank s).filter (fun w => !w.isEmpty)

@[simp] theorem splitWhen_nil (p : Char → Bool) : splitWhen p [] = [[]] := rfl

theorem splitWhen_cons (p : Char → Bool) (c : Char) (s : List Char) :
    splitWhen p (c :: s) =
      if p c then [] :: splitWhen p s
      else match splitWhen p s with
        | [] => [[c]]
        | part :: rest => (c :: part) :: rest := rfl

theorem splitWhen_ne_nil (p : Char → Bool) (s : List Char) : splitWhen p s ≠ [] := by
  cases s with
  | nil => simp
  | cons c s =>
      rw [splitWhen_cons]
      split
      · simp
      · split <;> simp

end Text

end Conformance
