/-!
# Lines and columns

- `line`, `lines` — text with a line break at the end of each line;
- `leftPad` — blanks in front of a text up to a width; a longer text is left as it is.
-/

namespace Minidump

namespace Text

/-- A line with its line break. -/
def line (content : String) : String :=
  content ++ "\n"

/-- Lines with their line breaks. -/
def lines (contents : List String) : String :=
  String.join (contents.map line)

/-- A text with blanks in front of it up to a width. -/
def leftPad (width : Nat) (text : String) : String :=
  String.ofList (text.toList.leftpad width ' ')

end Text

end Minidump
