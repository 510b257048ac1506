/-! # What a terminal shows of a text

Control sequences start with the escape character and steer a terminal; together with other control
characters they are not shown.  `shown` removes them: what is left are the visible characters and
the blanks.  A blank within a sequence is shown although the sequence goes on after the shown
run. -/

namespace ClassDiagram.Text

/-- Which kind of sequence a terminal is in the middle of. -/
inductive Mode where
  /-- No sequence. -/
  | text
  /-- Right after the escape character. -/
  | escape
  /-- After an intermediate character that follows the escape character. -/
  | escapeTail
  /-- A control sequence `[ … letter`. -/
  | control
  /-- The parameters of a device string. -/
  | deviceHead
  /-- The content of a device string. -/
  | deviceBody
  /-- A string that means nothing to the terminal. -/
  | message
  /-- A command to the system, ended by a bell. -/
  | command
  deriving DecidableEq, Repr

namespace Mode

/-- Whether a control character is a blank: tabulators, line breaks and page breaks. -/
def isControlBlank (c : Char) : Bool := c == '\t' || c == '\n' || c == '\x0c' || c == '\r'

/-- Whether the encoding of a character beyond the basic Latin ones has the byte that ends
strings. -/
def endsString (c : Char) : Bool := (String.utf8EncodeChar c).contains 0x9C

/-- Where the character after the escape character leads. -/
def afterEscape (c : Char) : Option Mode :=
  match c with
  | '[' => some .control
  | ']' => some .command
  | 'P' => some .deviceHead
  | 'X' | '^' | '_' => some .message
  | c => if c.toNat < 0x30 then some .escapeTail else some .text

/-- What a character does: the mode it leads to, if it leads to one, and whether it is shown. -/
def step (m : Mode) (c : Char) : Option Mode × Bool :=
  let n := c.toNat
  if n = 0x18 ∨ n = 0x1A then (some .text, false)
  else if n = 0x1B then (some .escape, false)
  else
    match m with
    | .text =>
      if 0x80 ≤ n then (some .text, true)
      else (none, decide (0x20 ≤ n ∧ n < 0x7F) || isControlBlank c)
    | .escape | .escapeTail | .control =>
      if n < 0x20 then (none, isControlBlank c)
      else if 0x7F ≤ n then (none, false)
      else if m = .escape then (afterEscape c, false)
      else if m = .escapeTail then (if n < 0x30 then none else some .text, false)
      else (if n < 0x40 then none else some .text, false)
    | .deviceHead => (if 0x40 ≤ n ∧ n < 0x7F then some .deviceBody else none, false)
    | .deviceBody | .message => (if 0x80 ≤ n ∧ endsString c then some .text else none, false)
    | .command => (if n = 0x07 then some .text else none, false)

end Mode

/-- A terminal between two characters.  While it shows a run of characters it takes each new one as
text and keeps the mode for what comes after the run. -/
structure Terminal where
  mode : Mode := .text
  showing : Bool := false

namespace Terminal

/-- Takes a character in the terminal's mode. -/
def take (mode : Mode) (c : Char) : Terminal × Bool :=
  let (next, visible) := mode.step c
  (⟨next.getD mode, visible⟩, visible)

/-- Takes a character; whether it is shown. -/
def put (t : Terminal) (c : Char) : Terminal × Bool :=
  if t.showing then
    let (next, visible) := Mode.text.step c
    let mode := next.getD t.mode
    if visible then (⟨mode, true⟩, true) else take mode c
  else take t.mode c

/-- The characters that are shown. -/
def output (t : Terminal) : List Char → List Char
  | [] => []
  | c :: rest =>
    let (t, visible) := t.put c
    if visible then c :: t.output rest else t.output rest

end Terminal

/-- What a terminal shows of a text. -/
def shown (s : String) : String := String.ofList (Terminal.output {} s.toList)

end ClassDiagram.Text
