namespace PortableC.Text

/-! Macro case: upper-case words joined by underscores, as in `RUNTIME_PRELUDE_H`.

Letters and digits are the ASCII ones.  Every other character separates words,
and so does a capital that follows a small letter or a digit.
-/

namespace MacroCase

/-- What one pass over the text carries along: the name so far, latest character
first, and whether the character just read was a small letter or a digit. -/
structure Progress where
  written : List Char := []
  afterSmall : Bool := false

/-- The name so far with a separator, unless it ends in one or is empty. -/
def separate : List Char → List Char
  | [] => []
  | '_' :: written => '_' :: written
  | written => '_' :: written

def step (progress : Progress) (char : Char) : Progress :=
  if char.isAlphanum then
    let before :=
      if char.isUpper && progress.afterSmall then separate progress.written
      else progress.written
    { written := char.toUpper :: before, afterSmall := char.isLower || char.isDigit }
  else
    { written := separate progress.written, afterSmall := false }

/-- A name cannot start with a digit. -/
def shield : List Char → List Char
  | [] => []
  | first :: rest => if first.isDigit then '_' :: first :: rest else first :: rest

end MacroCase

def macroCase (text : String) : String :=
  let written := (text.toList.foldl MacroCase.step {}).written
  String.ofList (MacroCase.shield (written.dropWhile (· == '_')).reverse)

end PortableC.Text
