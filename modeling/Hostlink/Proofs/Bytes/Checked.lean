import Hostlink.Bytes

/-!
# Access that can fail

To take and to drop always comes to something. A machine goes by offsets: it adds them up in words,
which must not run over, and a range that it takes must be one of the string. A text is cut in the
octets of its characters, and only between two of them. Here all of this is asked for, and where it
is not so there is no answer; so an algorithm by offsets that answers has kept within its bounds.
-/

namespace Hostlink

/-- The sum of two offsets, if a word of that many bits can hold it. -/
def sum? (bits a b : Nat) : Option Nat := if a + b < Nat.pow 2 bits then some (a + b) else none

theorem sum?_of_lt {bits a b : Nat} (room : a + b < Nat.pow 2 bits) : sum? bits a b = some (a + b) :=
  if_pos room

/-- The octets from one offset to another, if they are in order and the string reaches that far. -/
def Bytes.between? (b : Bytes) (start stop : Nat) : Option Bytes :=
  if start ≤ stop then b.slice? start (stop - start) else none

theorem Bytes.between?_add (b : Bytes) (start length : Nat) :
    b.between? start (start + length) = b.slice? start length := by
  rw [between?, if_pos (Nat.le_add_right start length), Nat.add_sub_cancel_left]

theorem Bytes.slice?_of_le {b : Bytes} {offset length : Nat} (inside : offset + length ≤ b.length) :
    b.slice? offset length = some ((b.drop offset).take length) := if_pos inside

theorem Bytes.slice?_eq_some_iff {b part : Bytes} {offset length : Nat} :
    b.slice? offset length = some part ↔
      offset + length ≤ b.length ∧ (b.drop offset).take length = part := by
  rw [slice?, Option.ite_none_right_eq_some, Option.some_inj]

/-- A range whose ends are known can be taken as far as the string reaches. -/
theorem Bytes.between?_of_le {b : Bytes} {start stop : Nat} (order : start ≤ stop)
    (inside : stop ≤ b.length) : b.between? start stop = some ((b.drop start).take (stop - start)) := by
  rw [between?, if_pos order, slice?_of_le (by omega)]

/-- Whether a character begins at an offset of a text in UTF-8, or the text ends there: the octet is
none that goes on with a character. -/
def Utf8.isBoundary (text : Bytes) (offset : Nat) : Bool :=
  offset == text.length || text[offset]?.any fun b => b < 0x80 || 0xC0 ≤ b

/-- The part of a text from one offset to another, if both are between characters. -/
def Utf8.between? (text : Bytes) (start stop : Nat) : Option Bytes :=
  if isBoundary text start && isBoundary text stop then text.between? start stop else none

/-- In ASCII there is a boundary at every offset. -/
theorem Utf8.isBoundary_of_ascii {text : Bytes} (ascii : ∀ b ∈ text, b < 0x80) {offset : Nat}
    (inside : offset ≤ text.length) : isBoundary text offset = true := by
  rcases Nat.lt_or_eq_of_le inside with within | rfl
  · have small := ascii text[offset] (List.getElem_mem within)
    simp only [isBoundary, List.getElem?_eq_getElem within, Option.any_some, small, decide_true,
      Bool.true_or, Bool.or_true]
  · simp only [isBoundary, beq_self_eq_true, Bool.true_or]

theorem Utf8.between?_of_ascii {text : Bytes} (ascii : ∀ b ∈ text, b < 0x80) {start stop : Nat}
    (order : start ≤ stop) (inside : stop ≤ text.length) :
    between? text start stop = some ((text.drop start).take (stop - start)) := by
  rw [between?, isBoundary_of_ascii ascii (Nat.le_trans order inside), isBoundary_of_ascii ascii inside,
    Bool.and_self, if_pos rfl, Bytes.between?_of_le order inside]

end Hostlink
