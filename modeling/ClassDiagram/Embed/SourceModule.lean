import ClassDiagram.Diagram.Document
import ClassDiagram.Embed.RawLiteral

/-! # Embedding diagrams in a program

The source text of a module with one string constant for each diagram variant. -/

namespace ClassDiagram

/-- The name of the constant that holds a variant. -/
def Filter.constantName : Filter → String
  | .publicOrInternal => "PUBLIC_OR_INTERNAL_DIAGRAM"
  | .publicOnly => "PUBLIC_ONLY_DIAGRAM"

namespace SourceModule

/-- The first line of a module. -/
def banner : String := "// @generated by typeuml. Do not edit.\n"

/-- The definition of one constant, after an empty line. -/
def constant (filter : Filter) (content : String) : String :=
  "\n/// PlantUML class diagram (" ++ filter.title ++ " declarations)\n"
    ++ "pub const " ++ filter.constantName ++ ": &str = " ++ RawLiteral.write content ++ ";\n"

/-- The definitions of several constants. -/
def constants : List (Filter × String) → String
  | [] => ""
  | (filter, content) :: rest => constant filter content ++ constants rest

/-- The module that holds the given texts. -/
def write (variants : Variants) : String := banner ++ constants variants.toList

end SourceModule

end ClassDiagram
