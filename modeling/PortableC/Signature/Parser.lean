import PortableC.CType.Parser

namespace PortableC

/-! Reading a written signature, `ret(param, param, ...)`.

The shape of the text is checked from the outside in: the parentheses, the return
type, then the parameters from the left.  The first check that fails is reported.
-/

namespace Signature

def ellipsis : List Char :=
  ['.', '.', '.']

def parseParam (text : String) (piece : List Char) : Except Error CType :=
  if piece = ellipsis then .error (.notASignature text .misplacedEllipsis)
  else do
    let type ← CType.parseChars piece
    if type.isVoid then .error (.notASignature text .voidParameter) else .ok type

/-- Parameter types from left to right, and whether the last piece is `...`. -/
def parsePieces (text : String) : List (List Char) → Except Error (List CType × Bool)
  | [] => .ok ([], false)
  | [piece] =>
      if piece = ellipsis then .ok ([], true)
      else do
        let type ← parseParam text piece
        .ok ([type], false)
  | piece :: rest => do
      let type ← parseParam text piece
      let (types, variadic) ← parsePieces text rest
      .ok (type :: types, variadic)

/-- The parameter list between the parentheses.  Nothing, and `void` alone, stand
for no parameters. -/
def parseParams (text : String) (inner : List Char) : Except Error (List CType × Bool) :=
  let list := Text.trim inner
  if list = [] ∨ list = ['v', 'o', 'i', 'd'] then .ok ([], false)
  else parsePieces text ((list.splitOn ',').map Text.trim)

def parse (text : String) : Except Error Signature := do
  let refuse (fault : SignatureFault) : Error := .notASignature text fault
  let chars := Text.trim text.toList
  let before := chars.takeWhile (· != '(')
  match chars.dropWhile (· != '(') with
  | [] => .error (refuse .missingOpen)
  | _ :: after =>
      if after.getLast? ≠ some ')' then .error (refuse .missingClose)
      else
        let inner := after.dropLast
        if inner.any fun char => char == '(' || char == ')' then
          .error (refuse .nestedParentheses)
        else if Text.trim before = [] then .error (refuse .missingReturnType)
        else do
          let ret ← CType.parseChars before
          let (params, variadic) ← parseParams text inner
          .ok { ret, params, variadic }

end Signature

end PortableC
