/-!
Text in a buffer of fixed size, which counts bytes.
-/
namespace BringUp.Text

structure Buffer (capacity : Nat) where
  text : String
  fits : text.utf8ByteSize ≤ capacity

namespace Buffer

variable {capacity : Nat}

def empty : Buffer capacity :=
  ⟨"", Nat.zero_le _⟩

/-- Writes a text at the end of the buffer, if there is room for all of it. -/
def write? (buffer : Buffer capacity) (text : String) : Option (Buffer capacity) :=
  if fits : (buffer.text ++ text).utf8ByteSize ≤ capacity then some ⟨buffer.text ++ text, fits⟩
  else none

/-- A text that is small enough can be written into the empty buffer. -/
theorem write?_empty {text : String} (fits : text.utf8ByteSize ≤ capacity) :
    (empty : Buffer capacity).write? text = some ⟨text, fits⟩ := by
  have same : (empty : Buffer capacity).text ++ text = text := String.empty_append
  simp [write?, same, fits]

end Buffer
end BringUp.Text
