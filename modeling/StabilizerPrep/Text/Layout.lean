/-!
# Lines and columns

A text is brought to the width of a column by blanks on one side, and lines
are put together to a text.
-/

namespace StabilizerPrep.Text

set_option autoImplicit false

def fill (width : Nat) (text : String) : String :=
  .ofList (List.replicate (width - text.length) ' ')

/-- The text at the right end of its column. A longer text stays as it is. -/
def alignRight (width : Nat) (text : String) : String :=
  fill width text ++ text

def alignLeft (width : Nat) (text : String) : String :=
  text ++ fill width text

def unlines (lines : List String) : String :=
  String.join (lines.map (· ++ "\n"))

end StabilizerPrep.Text
