import ClassDiagram.Log.Directive

/-! # Which reports are shown

Directives that name neither a span nor a value to be tested are *general*: for each report the most
specific one of them decides.  Directives that name a span or a value are *bound* to the spans that
they concern: these spans are always shown, as far as any directive reaches, and while one of them
is active, whatever its directives show is shown as well. -/

namespace ClassDiagram.Log

namespace Directive

/-- Whether the directive covers a target. -/
def covers (d : Directive) (target : String) : Bool := d.target.toList.isPrefixOf target.toList

/-- Whether the directive tests a value. -/
def hasTest (d : Directive) : Bool := d.field.any (·.test.isSome)

/-- Whether the directive speaks of reports without regard to the spans around them. -/
def isGeneral (d : Directive) : Bool := d.span.isNone && !d.hasTest

/-- Whether the directive speaks of spans. -/
def isBound (d : Directive) : Bool := d.span.isSome || d.field.isSome

/-- Whether the directive is at least as specific as another that covers the same target: the longer
target comes first, then a name of a value, then the greater name. -/
def precedes (d other : Directive) : Bool :=
  if d.target.length = other.target.length then
    match d.field, other.field with
    | _, none => true
    | none, some _ => false
    | some f, some g => !decide (f.name < g.name)
  else decide (other.target.length < d.target.length)

/-- Of two directives the more specific one, or else the later one. -/
def moreSpecific (best : Option Directive) (d : Directive) : Option Directive :=
  match best with
  | some b => if d.precedes b then some d else some b
  | none => some d

/-- Whether a bound directive concerns a span. -/
def concerns (d : Directive) (s : Span) : Bool :=
  d.covers s.target && d.span.all (· == s.name)
    && d.field.all fun f => s.fields.any (·.1 == f.name)

/-- Whether the values of a span pass the test of a directive. -/
def passes (d : Directive) (s : Span) : Bool :=
  d.field.all fun f => f.test.all fun test => (s.fields.lookup f.name).any test.passes

/-- Whether two directives differ at most in their thresholds. -/
def sameSubject (d other : Directive) : Bool :=
  d.target == other.target && d.span == other.span && d.field == other.field

/-- The directives that no later one replaces. -/
def standing : List Directive → List Directive
  | [] => []
  | d :: rest => if rest.any d.sameSubject then standing rest else d :: standing rest

end Directive

/-- What decides which reports are shown. -/
structure Gate where
  general : List Directive
  bound : List Directive
  /-- What is shown of the spans that directives are bound to. -/
  ceiling : Threshold

namespace Gate

/-- The gate that directives make.  As long as values are not known, every span may matter. -/
def ofDirectives (ds : List Directive) : Gate where
  general := ds.filter Directive.isGeneral
  bound := Directive.standing (ds.filter Directive.isBound)
  ceiling :=
    if ds.any Directive.hasTest then some .trace else .joinAll (ds.map Directive.threshold)

/-- What is generally shown of a target.  `reports` says which names of values are reported. -/
def generally (gate : Gate) (target : String) (reports : String → Bool) : Threshold :=
  let about := gate.general.filter fun d => d.covers target && d.field.all fun f => reports f.name
  match about.foldl Directive.moreSpecific none with
  | some d => d.threshold
  | none => none

/-- Whether an event is shown while spans are active that let `scope` through. -/
def admitsEvent (gate : Gate) (scope : Threshold) (e : Event) : Bool :=
  let reports (name : String) : Bool := name == "message" || e.fields.any (·.1 == name)
  ((gate.generally e.target reports).join scope).shows e.level

/-- What becomes of a span: whether it is shown, and what is let through while it is active. -/
def admitSpan (gate : Gate) (scope : Threshold) (s : Span) : Bool × Threshold :=
  let about := gate.bound.filter (·.concerns s)
  if about.isEmpty then
    (((gate.generally s.target fun _ => true).join scope).shows s.level, scope)
  else if gate.ceiling.shows s.level then
    (true, scope.join (.joinAll ((about.filter (·.passes s)).map Directive.threshold)))
  else (false, scope)

end Gate

mutual

/-- The part of a report that is shown.  What is inside of a hidden span moves up to its place. -/
def Node.shown (gate : Gate) (scope : Threshold) : Node → List Node
  | .event e => if gate.admitsEvent scope e then [.event e] else []
  | .span s inside =>
    match gate.admitSpan scope s with
    | (true, scope) => [.span s (shownAll gate scope inside)]
    | (false, scope) => shownAll gate scope inside
termination_by structural node => node

/-- The parts of several reports that are shown. -/
def shownAll (gate : Gate) (scope : Threshold) : List Node → List Node
  | [] => []
  | node :: rest => node.shown gate scope ++ shownAll gate scope rest
termination_by structural nodes => nodes

end

end ClassDiagram.Log
