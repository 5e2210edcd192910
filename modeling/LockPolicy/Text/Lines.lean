/-!
# Lines of bytes

Input comes as bytes. A line feed ends a line and belongs to none; bytes
after the last line feed make a line too. Only then is a line read as
text, so that bytes which are no text spoil their own line alone.
-/

namespace LockPolicy.Text

/-- The byte that ends a line. -/
def lineFeed : UInt8 := 10

/-- The lines of the input, without their ends. -/
def lines : List UInt8 → List (List UInt8)
  | [] => []
  | b :: bs =>
    if b = lineFeed then [] :: lines bs
    else match lines bs with
      | [] => [[b]]
      | l :: ls => (b :: l) :: ls

/-- The text that the bytes hold in UTF-8, if they hold any. -/
def ofBytes? (bytes : List UInt8) : Option String :=
  String.fromUTF8? ⟨bytes.toArray⟩

end LockPolicy.Text
