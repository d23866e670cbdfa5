namespace PortableC.Text

/-! Blank characters and trimming.

A character is blank when it has the Unicode property White_Space.  Trimming is
defined on character lists, which is the form every reader of this library
works on; `trimmed` is the same operation on strings.
-/

/-- The 25 characters with the Unicode property White_Space. -/
def isBlank (char : Char) : Bool :=
  let code := char.toNat
  (0x09 ≤ code && code ≤ 0x0D) || code == 0x20 || code == 0x85 || code == 0xA0 ||
    code == 0x1680 || (0x2000 ≤ code && code ≤ 0x200A) || code == 0x2028 || code == 0x2029 ||
    code == 0x202F || code == 0x205F || code == 0x3000

def trimStart (text : List Char) : List Char :=
  text.dropWhile isBlank

def trimEnd (text : List Char) : List Char :=
  (text.reverse.dropWhile isBlank).reverse

def trim (text : List Char) : List Char :=
  trimEnd (trimStart text)

def trimmed (text : String) : String :=
  String.ofList (trim text.toList)

def trimmedEnd (text : String) : String :=
  String.ofList (trimEnd text.toList)

theorem isBlank_of_isWhitespace {char : Char} (whitespace : char.isWhitespace = true) :
    isBlank char = true := by
  simp only [Char.isWhitespace, Bool.or_eq_true, decide_eq_true_eq] at whitespace
  rcases whitespace with ((space | tab) | carriageReturn) | newline <;> subst char <;> decide

@[simp] theorem toList_trimmed (text : String) : (trimmed text).toList = trim text.toList := by
  simp [trimmed]

@[simp] theorem toList_trimmedEnd (text : String) :
    (trimmedEnd text).toList = trimEnd text.toList := by
  simp [trimmedEnd]

end PortableC.Text
