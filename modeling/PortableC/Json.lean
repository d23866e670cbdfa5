namespace PortableC

/-! JSON text for reports: members in the order given, two spaces for each level. -/

inductive Json where
  | bool (value : Bool)
  | number (value : Nat)
  | string (text : String)
  | array (items : List Json)
  | object (members : List (String × Json))

namespace Json

/-- Control characters are escaped, the common ones by a letter. -/
def escapeChar (char : Char) : List Char :=
  match char with
  | '"' => ['\\', '"']
  | '\\' => ['\\', '\\']
  | '\n' => ['\\', 'n']
  | '\r' => ['\\', 'r']
  | '\t' => ['\\', 't']
  | '\x08' => ['\\', 'b']
  | '\x0c' => ['\\', 'f']
  | _ =>
      if char.toNat < 0x20 then
        let digits := Nat.toDigits 16 char.toNat
        ['\\', 'u'] ++ List.replicate (4 - digits.length) '0' ++ digits
      else [char]

def quoted (text : String) : String :=
  String.ofList ('"' :: text.toList.flatMap escapeChar ++ ['"'])

def indent (level : Nat) : String :=
  String.ofList (List.replicate (2 * level) ' ')

def bracketed (opening closing : String) (level : Nat) (items : List String) : String :=
  if items.isEmpty then opening ++ closing
  else
    opening ++ "\n" ++
      ",\n".intercalate (items.map fun item => indent (level + 1) ++ item) ++
      "\n" ++ indent level ++ closing

mutual

def render (level : Nat) : Json → String
  | bool value => if value then "true" else "false"
  | number value => toString value
  | string text => quoted text
  | array items => bracketed "[" "]" level (renderItems (level + 1) items)
  | object members => bracketed "\x7b" "\x7d" level (renderMembers (level + 1) members)

def renderItems (level : Nat) : List Json → List String
  | [] => []
  | item :: rest => render level item :: renderItems level rest

def renderMembers (level : Nat) : List (String × Json) → List String
  | [] => []
  | (key, value) :: rest =>
      (quoted key ++ ": " ++ render level value) :: renderMembers level rest

end

def pretty (value : Json) : String :=
  value.render 0

end Json

end PortableC
