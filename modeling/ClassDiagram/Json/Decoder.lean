import ClassDiagram.Json.Shape

/-! # Taking values apart

Words and records out of values that have been read before.  Such values no longer know where they
stood, so a refusal has no place. -/

namespace ClassDiagram.Json

/-- Takes a value apart. -/
abbrev Decoder := ReaderT Json (Except Cause)

namespace Decoder

variable {α δ : Type}

/-- Refuses the value because something else is expected. -/
def mismatch (expected : String) : Decoder α := fun v =>
  .error (.wrongType v.found expected)

/-- The content of a string. -/
def text : Decoder String := fun v =>
  match v with
  | .string s => .ok s
  | v => mismatch "a string" v

/-- A value or `null`. -/
def optional (item : Decoder α) : Decoder (Option α) := fun v =>
  match v with
  | .null => .ok none
  | v => some <$> item v

/-- The items of a list, one after the other. -/
def eachItem (item : Decoder α) : List Json → Except Cause (List α)
  | [] => .ok []
  | v :: rest => do
    let a ← item v
    let as ← eachItem item rest
    return a :: as

/-- The items of a list. -/
def list (item : Decoder α) : Decoder (List α) := fun v =>
  match v with
  | .array vs => eachItem item vs
  | v => mismatch "a sequence" v

/-- The value `null`; within a record an empty object passes for it. -/
def unit (withinRecord : Bool) : Decoder Unit := fun v =>
  match v, withinRecord with
  | .null, _ => .ok ()
  | .object [], true => .ok ()
  | v, _ => mismatch "unit" v

/-- A word of a vocabulary: a string, or an object with the word as its only key. -/
def word [Vocabulary α] (withinRecord : Bool) : Decoder α := fun v =>
  match v with
  | .string name => Vocabulary.ofName name
  | .object [(name, v)] => do
    let a ← Vocabulary.ofName name
    unit withinRecord v
    return a
  | .object _ => .error .notSingleKey
  | v => mismatch "string or map" v

/-- Takes the fields of a record from the entries of an object. -/
def recordEntries (r : Record Decoder δ α) : List (String × Json) → δ → Except Cause δ
  | [], draft => .ok draft
  | (name, v) :: rest, draft =>
    match r.slot? name with
    | some slot =>
      if slot.filled draft then .error (.duplicateField name)
      else do
        let draft ← slot.fill draft v
        recordEntries r rest draft
    | none => recordEntries r rest draft

/-- Takes the fields of a record from a list; `index` is the number of the next field.  Returns the
items that are left. -/
def recordItems (r : Record Decoder δ α) : List (Slot Decoder δ) → (index : Nat) → List Json → δ →
    Except Cause (δ × List Json)
  | [], _, vs, draft => .ok (draft, vs)
  | slot :: rest, index, v :: vs, draft => do
    let draft ← slot.fill draft v
    recordItems r rest (index + 1) vs draft
  | slot :: rest, index, [], draft =>
    if slot.required then .error (r.tooShort index)
    else recordItems r rest (index + 1) [] draft

/-- A record, from an object or from the list of its fields. -/
def record (r : Record Decoder δ α) : Decoder α := fun v =>
  match v with
  | .array vs => do
    let (draft, extra) ← recordItems r r.slots 0 vs r.blank
    let a ← r.finish draft
    if extra.isEmpty then return a
    else throw (.wrongLength vs.length (elements r.slots.length ++ " in sequence"))
  | .object entries => do
    let draft ← recordEntries r entries r.blank
    r.finish draft
  | v => mismatch r.expected v

end Decoder

end ClassDiagram.Json
