import ClassDiagram.Json.Reader.Skip
import ClassDiagram.Json.Shape

/-! # Reading records and words

Words and records straight from the input.  Fields that a record does not have are passed over, and
the refusals of a record's shape are placed where its closing bracket was looked for. -/

namespace ClassDiagram.Json.Reader

variable {α δ : Type}

/-- An outcome that the input has no part in. -/
def ofExcept : Except Cause α → Reader α
  | .ok a => return a
  | .error cause => refuseShape cause

/-- A word of a vocabulary, written as a string. -/
def identifier [Vocabulary α] : Reader α :=
  placing do
    let name ← text "variant identifier"
    ofExcept (Vocabulary.ofName name)

/-- A word of a vocabulary as the key of an object. -/
def wordKey [Vocabulary α] : Reader α := do
  match ← peekToken with
  | some '"' => identifier
  | some '}' => refuseNext .valueExpected
  | some _ => refuseNext .keyNotString
  | none => refuseNext .objectEnds

/-- A word of a vocabulary: a string, or an object with the word as its only key and `null`. -/
def word [Vocabulary α] (depth : Nat) : Reader α := do
  match ← token with
  | '"' => identifier
  | '{' =>
    entering depth fun _ => do
      let a ← wordKey
      colon
      unit
      match ← peekToken with
      | some '}' => advance; return a
      | some _ => refuse .valueExpected
      | none => refuse .objectEnds
  | _ => refuseNext .valueExpected

/-- Reads the entry of a record whose key is `name` into the draft. -/
def recordEntry (r : Record Reader δ α) (draft : δ) (name : String) : Reader δ :=
  match r.slot? name with
  | some slot =>
    if slot.filled draft then refuseShape (.duplicateField name)
    else do
      colon
      slot.fill draft
  | none => do
    colon
    skipValue
    return draft

/-- Reads the fields of a record from a list; `index` is the number of the next field. -/
def recordItems (r : Record Reader δ α) : List (Slot Reader δ) → (index : Nat) → (first : Bool) →
    δ → Reader δ
  | [], _, _, draft => return draft
  | slot :: rest, index, first, draft => do
    if ← nextItem first then
      let draft ← slot.fill draft
      recordItems r rest (index + 1) false draft
    else if slot.required then refuseShape (r.tooShort index)
    else recordItems r rest (index + 1) first draft

/-- A record; `r` is told how many brackets its fields may open. -/
def record (depth : Nat) (r : Nat → Record Reader δ α) : Reader α :=
  placing do
    match ← token with
    | '[' =>
      entering depth fun depth =>
        closing (do
          let draft ← recordItems (r depth) (r depth).slots 0 true (r depth).blank
          ofExcept ((r depth).finish draft)) endList
    | '{' =>
      entering depth fun depth =>
        closing (do
          let draft ← foldEntries (recordEntry (r depth)) (r depth).blank
          ofExcept ((r depth).finish draft)) endObject
    | _ => mismatch (r depth).expected

end ClassDiagram.Json.Reader
