/-! # Raw string literals

A raw literal is `r`, a fence of hashes, a quote, the content, a quote and the same fence.  It ends
at the first quote that is followed by the fence, so the fence has one hash more than the longest
run of hashes behind a quote of the content. -/

namespace ClassDiagram.RawLiteral

/-- How many hashes have followed the last quote without anything else, after one more character. -/
def nextRun (run : Option Nat) (c : Char) : Option Nat :=
  if c = '"' then some 0
  else if c = '#' then run.map (· + 1)
  else none

/-- The longest run of hashes that directly follows a quote. -/
def longestRun (run : Option Nat) : List Char → Nat
  | [] => 0
  | c :: rest =>
    let run := nextRun run c
    max (run.getD 0) (longestRun run rest)

/-- The number of hashes around the content. -/
def fenceSize (content : String) : Nat := longestRun none content.toList + 1

/-- A fence of `n` hashes. -/
def hashes (n : Nat) : String := String.ofList (List.replicate n '#')

/-- The literal with a fence of `n` hashes. -/
def withFence (n : Nat) (content : String) : String :=
  "r" ++ hashes n ++ "\"" ++ content ++ "\"" ++ hashes n

/-- The literal whose value is `content`. -/
def write (content : String) : String := withFence (fenceSize content) content

end ClassDiagram.RawLiteral
