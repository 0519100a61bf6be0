import Hush.Binary64
import Hush.Entries

/-!
# TOML values

What a document says once its layout is forgotten: scalars, arrays, and tables whose keys are
distinct. A number that cannot be read, because nothing can hold it or its digits are not of its
base, is kept as such; it only matters when someone comes to it.
-/
namespace Hush.Toml

inductive NumberKind where
  | integer | float
  deriving DecidableEq, Repr

/-- A value. The root of a document is a table. -/
inductive Value where
  | text (s : String)
  | integer (n : Int)
  | float (x : Binary64)
  | boolean (b : Bool)
  | dateTime (s : String)
  | unreadable (kind : NumberKind)
  | array (items : List Value)
  | table (entries : List (String × Value))

/-- A step into a value: to what a key stands for, to an item, or to a key itself. -/
inductive Step where
  | key (name : String)
  | item (place : Nat)
  | name (name : String)
  deriving DecidableEq, Repr

namespace Value

mutual
/-- Every scalar inside a value passes a test. -/
def everyScalar (p : Value → Bool) : Value → Bool
  | array items => everyItem p items
  | table entries => everyEntry p entries
  | scalar => p scalar

/-- Every scalar inside the items passes. -/
def everyItem (p : Value → Bool) : List Value → Bool
  | [] => true
  | v :: rest => everyScalar p v && everyItem p rest

/-- Every scalar inside the entries passes. -/
def everyEntry (p : Value → Bool) : List (String × Value) → Bool
  | [] => true
  | (_, v) :: rest => everyScalar p v && everyEntry p rest
end

/-- Half the number of words of 64 bits: signed words end before it. -/
def signedEnd : Int := Nat.pow 2 63

/-- All words of 64 bits are below it. -/
def wordEnd : Int := Nat.pow 2 64

/-- Signed words of 128 bits end before it. -/
def doubleEnd : Int := Nat.pow 2 127

/-- Whole numbers in signed words of 64 bits. -/
def fitsWord (n : Int) : Bool := -signedEnd ≤ n && n < signedEnd

/-- A scalar that can be read and is no whole number, or one that a signed word holds. -/
def isPlain : Value → Bool
  | unreadable _ => false
  | integer n => fitsWord n
  | _ => true

/-- Everything in the value can be read, and all whole numbers fit signed words. -/
def plain (v : Value) : Bool := v.everyScalar isPlain

def kind : Value → String
  | text _ => "string"
  | integer _ | unreadable .integer => "integer"
  | float _ | unreadable .float => "float"
  | boolean _ => "boolean"
  | dateTime _ => "datetime"
  | array _ => "array"
  | table _ => "table"

/-! ### Telling values apart -/

mutual
def same : Value → Value → Bool
  | text s, text t => s == t
  | integer m, integer n => m == n
  | float x, float y => x == y
  | boolean a, boolean b => a == b
  | dateTime s, dateTime t => s == t
  | unreadable j, unreadable k => j == k
  | array xs, array ys => sameItems xs ys
  | table t, table u => sameEntries t u
  | _, _ => false

def sameItems : List Value → List Value → Bool
  | [], [] => true
  | v :: xs, w :: ys => same v w && sameItems xs ys
  | _, _ => false

def sameEntries : List (String × Value) → List (String × Value) → Bool
  | [], [] => true
  | (j, v) :: t, (k, w) :: u => j == k && same v w && sameEntries t u
  | _, _ => false
end

mutual
theorem same_iff (v w : Value) : same v w = true ↔ v = w := by
  cases v with
  | array xs => cases w <;> simp [same, sameItems_iff xs]
  | table t => cases w <;> simp [same, sameEntries_iff t]
  | _ => cases w <;> simp [same]

theorem sameItems_iff (xs ys : List Value) : sameItems xs ys = true ↔ xs = ys := by
  cases xs with
  | nil => cases ys <;> simp [sameItems]
  | cons v xs => cases ys <;> simp [sameItems, same_iff v, sameItems_iff xs]

theorem sameEntries_iff (t u : List (String × Value)) : sameEntries t u = true ↔ t = u := by
  cases t with
  | nil => cases u <;> simp [sameEntries]
  | cons e t =>
    cases e with
    | mk j v => cases u <;> simp [sameEntries, same_iff v, sameEntries_iff t, Prod.ext_iff]
end

instance : DecidableEq Value := fun v w => decidable_of_iff _ (same_iff v w)

end Value
end Hush.Toml
