namespace Showcase.Text

/-! # Byte offsets in a text

Places in a text are counted in bytes of its UTF-8 form, while the text itself is
a list of characters.  Cutting at a byte offset keeps every character whose
first byte lies before the offset, so the two halves always make up the whole.
-/

/-- The number of bytes that a list of characters takes in UTF-8. -/
def byteLength : List Char → Nat
  | [] => 0
  | c :: cs => c.utf8Size + byteLength cs

/-- The characters that start before byte offset `n`. -/
def takeBytes : Nat → List Char → List Char
  | _, [] => []
  | n, c :: cs => if n = 0 then [] else c :: takeBytes (n - c.utf8Size) cs

/-- The characters that start at byte offset `n` or later. -/
def dropBytes : Nat → List Char → List Char
  | _, [] => []
  | n, c :: cs => if n = 0 then c :: cs else dropBytes (n - c.utf8Size) cs

theorem takeBytes_append_dropBytes (n : Nat) (cs : List Char) :
    takeBytes n cs ++ dropBytes n cs = cs := by
  induction cs generalizing n with
  | nil => rfl
  | cons c cs ih =>
      by_cases h : n = 0
      · simp [takeBytes, dropBytes, h]
      · simp [takeBytes, dropBytes, h, ih]

@[simp] theorem byteLength_append (xs ys : List Char) :
    byteLength (xs ++ ys) = byteLength xs + byteLength ys := by
  induction xs with
  | nil => simp [byteLength]
  | cons c cs ih => simp [byteLength, ih, Nat.add_assoc]

/-- The text between two byte offsets. -/
def slice (source : String) (start stop : Nat) : String :=
  String.ofList (takeBytes (stop - start) (dropBytes start source.toList))

/-- Whether `n` is the offset at which some character starts, or the end. -/
def IsBoundary (n : Nat) (cs : List Char) : Prop :=
  ∃ before after, cs = before ++ after ∧ byteLength before = n

/-- Characters that separate words in running text. -/
def isBlank (c : Char) : Bool :=
  c.val ∈ ([0x20, 0x85, 0xA0, 0x1680, 0x2028, 0x2029, 0x202F, 0x205F, 0x3000] : List UInt32) ||
    (0x09 ≤ c.val && c.val ≤ 0x0D) || (0x2000 ≤ c.val && c.val ≤ 0x200A)

/-- A list of characters without the blanks at its front. -/
def trimFront (cs : List Char) : List Char := cs.dropWhile isBlank

/-- A list of characters without the blanks at its back. -/
def trimBack (cs : List Char) : List Char := (cs.reverse.dropWhile isBlank).reverse

/-- A text without the blanks at its two ends. -/
def trimmed (s : String) : String := String.ofList (trimBack (trimFront s.toList))

/-- A text without the blanks at its back. -/
def trimmedBack (s : String) : String := String.ofList (trimBack s.toList)

/-- The lines of a text.  A line ends at a line feed or at a carriage return and a
line feed; what follows the last line end is a line only if it is not empty. -/
def linesOf (cs : List Char) : List (List Char) :=
  let dropReturn (line : List Char) := if line.getLast? = some '\r' then line.dropLast else line
  let pieces := cs.splitOn '\n'
  let closed := pieces.dropLast.map dropReturn
  match pieces.getLast? with
  | none | some [] => closed
  | some rest => closed ++ [rest]

end Showcase.Text
