/-!
# Bytes of a text

Faults are placed by counting bytes of the UTF-8 form, so a place may lie inside
a character.  Lines end at a line feed and are counted from one; a column is the
number of bytes since the last line feed.
-/

namespace Lifeline.Text

def byteLength : List Char → Nat
  | [] => 0
  | c :: rest => c.utf8Size + byteLength rest

theorem byteLength_append (earlier later : List Char) :
    byteLength (earlier ++ later) = byteLength earlier + byteLength later := by
  induction earlier with
  | nil => simp [byteLength]
  | cons c rest ih => simp [byteLength, ih, Nat.add_assoc]

structure Location where
  line : Nat
  column : Nat
  deriving DecidableEq, Repr

def Location.start : Location := ⟨1, 0⟩

/-- The location `offset` bytes further on, or the end of the text if it is shorter. -/
def Location.advance (place : Location) : List Char → Nat → Location
  | [], _ => place
  | c :: rest, offset =>
      if offset = 0 then place
      else if c = '\n' then Location.advance ⟨place.line + 1, 0⟩ rest (offset - 1)
      else Location.advance ⟨place.line, place.column + min offset c.utf8Size⟩ rest
        (offset - c.utf8Size)

end Lifeline.Text
