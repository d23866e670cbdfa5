namespace PortableC.Text

/-! Table cells: text filled up with spaces to a width, never cut. -/

def spaces (count : Nat) : String :=
  String.ofList (List.replicate count ' ')

def padRight (width : Nat) (text : String) : String :=
  text ++ spaces (width - text.length)

def padLeft (width : Nat) (text : String) : String :=
  spaces (width - text.length) ++ text

end PortableC.Text
