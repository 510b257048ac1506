import ClassDiagram.Diagram.Document
import ClassDiagram.Log.Node
import ClassDiagram.Symbol.Load

/-! # What loading and drawing report

The reports of the operations of this library.  They are derived from the same data as the results
and never influence them. -/

namespace ClassDiagram.Log

namespace Target

/-- The part that holds the graph. -/
def graph : String := "typeuml::symbols::graph"

/-- The part that selects. -/
def selection : String := "typeuml::diagram::working_set"

/-- The part that finds edges. -/
def edges : String := "typeuml::diagram::relationship"

/-- The part that writes diagrams. -/
def document : String := "typeuml::diagram::assembler"

/-- The command line. -/
def command : String := "typeuml::cli"

end Target

/-! ### Loading -/

/-- What adding a declaration reports, where `seen` are the names before it. -/
def addEvents (seen : List String) (t : TypeDecl) : List Node :=
  let warning (message : String) : Node :=
    .event { level := .warn, target := Target.graph, message, fields := [("name", .quoted t.name)] }
  (if seen.contains t.name then [warning "Duplicate type declaration"] else [])
    ++ (if t.implements t.name then [warning "Type lists itself among its interfaces"] else [])

/-- What adding declarations reports, up to the first without a name; `count` is the number of those
added before. -/
def addAllEvents (seen : List String) (count : Nat) : List TypeDecl → List Node
  | [] =>
    [.event { level := .info, target := Target.graph, message := "Symbol graph loaded",
              fields := [("type_count", .count count)] }]
  | t :: rest =>
    if t.name.isEmpty then []
    else addEvents seen t ++ addAllEvents (t.name :: seen) (count + 1) rest

/-- What loading a text reports. -/
def loadNode (text : String) : Node :=
  let inside :=
    match readString readDocument text with
    | .ok types => addAllEvents [] 0 types
    | .error _ => []
  .span { level := .info, target := Target.graph, name := "load_symbol_graph",
          fields := [("input_len", .count (Text.bytes text).length)] } inside

/-! ### Drawing -/

/-- What selection reports of a declaration; `seen` are the names before it. -/
def verdictEvents (filter : Filter) (seen : List String) (t : TypeDecl) : List Node :=
  let note (message : String) (fields : Fields) : Node :=
    .event { level := .trace, target := Target.selection, message,
             fields := ("name", .plain t.name) :: fields }
  if seen.contains t.name then [note "Duplicate identity" []]
  else if t.shape?.isNone then [note "Skipping unsupported kind" [("kind", .plain t.kind.name)]]
  else if !filter.allows t.visibility then
    [note "Filtered out" [("visibility", .plain t.visibility.name)]]
  else []

/-- What selection reports of all declarations. -/
def allVerdictEvents (filter : Filter) (seen : List String) : List TypeDecl → List Node
  | [] => []
  | t :: rest => verdictEvents filter seen t ++ allVerdictEvents filter (t.name :: seen) rest

variable {κ : Type} [Catalog κ]

/-- The filter and the number of declarations that a pass starts from. -/
def passFields (catalog : κ) (filter : Filter) : Fields :=
  [("filter", .plain filter.title), ("type_count", .count (Catalog.types catalog).length)]

/-- What selection reports. -/
def selectionNode (catalog : κ) (filter : Filter) : Node :=
  let types := Catalog.types catalog
  let selected := (Selection.of catalog filter).size
  let skipped := (firsts TypeDecl.name types).length - selected
  .span { level := .debug, target := Target.selection, name := "select_working_set",
          fields := passFields catalog filter }
    (allVerdictEvents filter [] types ++
      [.event { level := .debug, target := Target.selection, message := "Working set selected",
                fields := [("selected", .count selected), ("skipped", .count skipped)] }])

/-- What the interfaces of a type give rise to; `seen` are the drawn ones before. -/
def interfaceEvents (catalog : κ) (selection : Selection) (t : TypeDecl) (seen : List String) :
    List TypeRef → List Node
  | [] => []
  | i :: rest =>
    if i = t.name then
      .event { level := .warn, target := Target.edges, message := "Ignoring self-implementation",
               fields := [("name", .plain t.name)] }
        :: interfaceEvents catalog selection t seen rest
    else if !selection.contains i ∨ seen.contains i then
      interfaceEvents catalog selection t seen rest
    else if t.implies catalog i then
      .event { level := .trace, target := Target.edges,
               message := "Implied by a more specific interface",
               fields := [("interface", .plain i)] }
        :: interfaceEvents catalog selection t (i :: seen) rest
    else interfaceEvents catalog selection t (i :: seen) rest

/-- What the base of a type gives rise to. -/
def baseEvents (selection : Selection) (t : TypeDecl) : List Node :=
  match t.base with
  | some base =>
    if (t.drawnBase? selection).isSome then []
    else
      [.event { level := .trace, target := Target.edges, message := "Base not rendered, no edge",
                fields := [("base", .plain base)] }]
  | none => []

/-- What finding the edges of a drawn type reports. -/
def edgesNode (catalog : κ) (selection : Selection) (e : Entry) : Node :=
  let inside :=
    match e.shape with
    | .enumBlock => []
    | .classBlock | .interfaceBlock =>
      baseEvents selection e.decl ++ interfaceEvents catalog selection e.decl [] e.decl.interfaces
  .span { level := .trace, target := Target.edges, name := "resolve_relationships",
          fields := [("name", .plain e.name)] } inside

/-- What the survey of a catalog reports: the selection, and the edges of each entry. -/
def surveyNodes (catalog : κ) (filter : Filter) : List Node :=
  let selection := Selection.of catalog filter
  selectionNode catalog filter :: selection.entries.map (edgesNode catalog selection)

/-- What rendering a diagram reports. -/
def renderNode (theme : String) (catalog : κ) (filter : Filter) : Node :=
  let d := draw theme catalog filter
  let event (level : Level) (message : String) (fields : Fields) : Node :=
    .event { level, target := Target.document, message, fields }
  .span { level := .info, target := Target.document, name := "render_diagram",
          fields := passFields catalog filter }
    (surveyNodes catalog filter ++
      [event .debug "Diagram assembled"
          [("line_count", .count d.lines.length),
            ("edge_count", .count (d.blocks.flatMap Block.edges).length)],
        event .info "Diagram rendered"
          [("blocks", .count d.blocks.length), ("bytes", .count (Text.bytes d.text).length)]])

end ClassDiagram.Log
