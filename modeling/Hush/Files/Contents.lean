/-!
# Contents of files

A file keeps the pieces it was written in, so that appending to it does not walk over what is
already there.
-/
namespace Hush

/-- The pieces of a file, the newest first. -/
structure Contents where
  pieces : List (List UInt8)
  deriving DecidableEq, Repr

namespace Contents

def empty : Contents := ⟨[]⟩

/-- A file written at once. -/
def ofBytes (bytes : List UInt8) : Contents := ⟨[bytes]⟩

def append (c : Contents) (piece : List UInt8) : Contents := ⟨piece :: c.pieces⟩

/-- What the file reads as. -/
def bytes (c : Contents) : List UInt8 := c.pieces.reverse.flatten

@[simp] theorem bytes_ofBytes (bytes : List UInt8) : (ofBytes bytes).bytes = bytes := by
  simp [ofBytes, Contents.bytes]

@[simp] theorem bytes_append (c : Contents) (piece : List UInt8) :
    (c.append piece).bytes = c.bytes ++ piece := by
  simp [append, bytes]

end Contents
end Hush
