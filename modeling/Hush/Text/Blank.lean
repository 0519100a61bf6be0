/-!
# Blank characters and letter case

Which characters count as blank around a name, and when two names differ in letter case only.
Blanks are the characters with the Unicode property `White_Space`; case is folded for the
letters `A` to `Z` alone, so no look-alike letter is ever taken for one of them.
-/
namespace Hush.Text

/-- The Unicode property `White_Space`. -/
def isBlank (c : Char) : Bool :=
  let n := c.toNat
  (0x9 ≤ n && n ≤ 0xD) || n == 0x20 || n == 0x85 || n == 0xA0 || n == 0x1680 ||
    (0x2000 ≤ n && n ≤ 0x200A) || n == 0x2028 || n == 0x2029 || n == 0x202F || n == 0x205F ||
    n == 0x3000

def trim (cs : List Char) : List Char :=
  ((cs.dropWhile isBlank).reverse.dropWhile isBlank).reverse

def trimmed (s : String) : String := String.ofList (trim s.toList)

def isAllBlank (s : String) : Bool := s.toList.all isBlank

/-- The text with `A` to `Z` made small and all else kept. -/
def foldCase (cs : List Char) : List Char := cs.map Char.toLower

/-- Equal up to the case of the letters `A` to `Z`. -/
def equalUpToCase (s t : String) : Bool := foldCase s.toList == foldCase t.toList

@[simp] theorem equalUpToCase_iff (s t : String) :
    equalUpToCase s t = true ↔ foldCase s.toList = foldCase t.toList := by
  simp [equalUpToCase]

end Hush.Text
