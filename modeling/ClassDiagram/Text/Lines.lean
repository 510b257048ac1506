/-! # Lines

A text made of lines, each closed by a line break. -/

namespace ClassDiagram.Text

/-- The text of the lines, each followed by a line break. -/
def unlines : List String → String
  | [] => ""
  | line :: rest => line ++ "\n" ++ unlines rest

end ClassDiagram.Text
