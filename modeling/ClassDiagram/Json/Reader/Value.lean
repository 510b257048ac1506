import ClassDiagram.Json.Reader.Number
import ClassDiagram.Json.Reader.String

/-! # Reading values

The readers of single values: scalars, lists and objects whose items are read by other readers, and
values of any kind (`value`).  A reader that meets a value of another kind than its own names it in
its refusal (`mismatch`): a scalar is read first, a bracket is not entered.

Brackets may be nested `maxDepth` deep.  A reader is told how many more it may open. -/

namespace ClassDiagram.Json.Reader

variable {α σ : Type}

/-- How deeply brackets may be nested. -/
def maxDepth : Nat := 127

/-- The first byte of a value. -/
def token : Reader Char := do
  match ← peekToken with
  | some c => return c
  | none => refuseNext .valueEnds

/-- The letters of a literal after its first one. -/
def letters : List Char → Reader Unit
  | [] => return ()
  | c :: rest => do
    match ← next with
    | none => refuse .valueEnds
    | some b => if Char.ofUInt8 b = c then letters rest else refuse .identExpected

/-- A value that is neither a list nor an object. -/
def scalar : Reader Json := do
  match ← token with
  | 'n' => advance; letters ['u', 'l', 'l']; return .null
  | 't' => advance; letters ['r', 'u', 'e']; return .bool true
  | 'f' => advance; letters ['a', 'l', 's', 'e']; return .bool false
  | '"' => advance; return .string (← stringRest)
  | '-' => advance; return .number (← unsignedNumber true)
  | c => if c.isDigit then return .number (← unsignedNumber false) else refuseNext .valueExpected

/-- Refuses the value that comes next because something else is expected. -/
def mismatch (expected : String) : Reader α := do
  match ← token with
  | '[' => refuse (.wrongType .sequence expected)
  | '{' => refuse (.wrongType .map expected)
  | _ => do
    let v ← scalar
    refuse (.wrongType v.found expected)

/-! ### Lists and objects -/

/-- Opens the bracket that was looked at, if one more may be opened. -/
def entering (depth : Nat) (body : Nat → Reader α) : Reader α :=
  match depth with
  | 0 => refuseNext .tooDeep
  | depth + 1 => do
    advance
    body depth

/-- Goes to the next item of a list, past the comma unless it is the first; whether there is one. -/
def nextItem (first : Bool) : Reader Bool := do
  match ← peekToken with
  | none => refuseNext .listEnds
  | some ']' => return false
  | some c =>
    if first then return true
    else if c = ',' then
      advance
      match ← peekToken with
      | none => refuseNext .valueEnds
      | some ']' => refuseNext .trailingComma
      | some _ => return true
    else refuseNext .listCommaExpected

/-- Reads one more item of a list, if there is one. -/
def itemStep (item : σ → Reader σ) : Bool × σ → Reader (Step (Bool × σ) σ)
  | (first, state) => do
    if ← nextItem first then return .again (false, ← item state)
    else return .done state

/-- Reads the items of a list one after the other; `first` tells whether none has been read. -/
def foldItems (first : Bool) (item : σ → Reader σ) (state : σ) : Reader σ :=
  repeating (itemStep item) (first, state)

/-- The items of a list; `first` tells whether none has been read. -/
def items (first : Bool) (item : Reader α) : Reader (List α) := do
  let reversed ← foldItems first (fun done => return (← item) :: done) []
  return reversed.reverse

/-- Refuses the comma that was taken at the end of a list.  A failure behind it counts as the end of
the input. -/
def refuseComma : Reader Unit := do
  match ← attempt peekToken with
  | some (some ']') => refuseNext .trailingComma
  | _ => refuseNext .trailingCharacters

/-- The end of a list. -/
def endList : Reader Unit := do
  match ← peekToken with
  | some ']' => advance
  | some ',' =>
    advance
    refuseComma
  | some _ => refuseNext .trailingCharacters
  | none => refuseNext .listEnds

/-- A key of an object. -/
def key : Reader String := do
  match ← peekToken with
  | some '"' => advance; stringRest
  | some '}' => refuseNext .trailingComma
  | some _ => refuseNext .keyNotString
  | none => refuseNext .valueEnds

/-- The next key of an object, past the comma unless it is the first, if there is one. -/
def nextKey? (first : Bool) : Reader (Option String) := do
  match ← peekToken with
  | none => refuseNext .objectEnds
  | some '}' => return none
  | some c =>
    if first then return some (← key)
    else if c = ',' then
      advance
      return some (← key)
    else refuseNext .objectCommaExpected

/-- The colon between a key and its value. -/
def colon : Reader Unit := do
  match ← peekToken with
  | some ':' => advance
  | some _ => refuseNext .colonExpected
  | none => refuseNext .objectEnds

/-- Reads one more entry of an object, if there is one; `entry` is given the key and reads on. -/
def entryStep (entry : σ → String → Reader σ) : Bool × σ → Reader (Step (Bool × σ) σ)
  | (first, state) => do
    match ← nextKey? first with
    | some name => return .again (false, ← entry state name)
    | none => return .done state

/-- Reads the entries of an object one after the other. -/
def foldEntries (entry : σ → String → Reader σ) (state : σ) : Reader σ :=
  repeating (entryStep entry) (true, state)

/-- The end of an object. -/
def endObject : Reader Unit := do
  match ← peekToken with
  | some '}' => advance
  | some ',' => refuseNext .trailingComma
  | some _ => refuseNext .trailingCharacters
  | none => refuseNext .objectEnds

/-- A value of any kind; its items are read by `nested`, unless no bracket may be opened. -/
def valueWith (nested : Option (Reader Json)) : Reader Json := do
  match ← token with
  | '[' =>
    match nested with
    | none => refuseNext .tooDeep
    | some item => do
      advance
      closing (return .array (← items true item)) endList
  | '{' =>
    match nested with
    | none => refuseNext .tooDeep
    | some item => do
      advance
      closing (do
        let reversed ← foldEntries (fun done name => do colon; return (name, ← item) :: done) []
        return .object reversed.reverse) endObject
  | _ => scalar

/-- A value of any kind, with at most `depth` brackets open at a time. -/
def value : (depth : Nat) → Reader Json
  | 0 => valueWith none
  | depth + 1 => valueWith (some (value depth))

/-! ### Typed values -/

/-- A string; another value is refused, where `expected` says for what. -/
def text (expected : String) : Reader String := do
  match ← token with
  | '"' => advance; stringRest
  | _ => mismatch expected

/-- A truth value. -/
def boolean : Reader Bool := do
  match ← token with
  | 't' => advance; letters ['r', 'u', 'e']; return true
  | 'f' => advance; letters ['a', 'l', 's', 'e']; return false
  | _ => mismatch "a boolean"

/-- A value or `null`. -/
def optional (item : Reader α) : Reader (Option α) := do
  match ← peekToken with
  | some 'n' => advance; letters ['u', 'l', 'l']; return none
  | _ => return some (← item)

/-- The value `null`. -/
def unit : Reader Unit := do
  match ← token with
  | 'n' => advance; letters ['u', 'l', 'l']
  | _ => mismatch "unit"

/-- A list. -/
def list (depth : Nat) (item : Nat → Reader α) : Reader (List α) :=
  placing do
    match ← token with
    | '[' => entering depth fun depth => closing (items true (item depth)) endList
    | _ => mismatch "a sequence"

/-- The end of the document. -/
def endDocument : Reader Unit := do
  match ← peekToken with
  | none => return ()
  | some _ => refuseNext .trailingCharacters

/-- A document that consists of one value. -/
def document (body : Nat → Reader α) : Reader α := do
  let a ← body maxDepth
  endDocument
  return a

end ClassDiagram.Json.Reader
