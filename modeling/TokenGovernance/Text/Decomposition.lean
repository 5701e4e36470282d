import TokenGovernance.Text.Decomposition.Table
import TokenGovernance.Text.Blank
import TokenGovernance.Text.Numeral
import Std.Data.HashMap

/-! # Compatibility decomposition

The Unicode normalization form KD: every character is replaced by its parts, and the marks behind a
letter are put in the order of their classes.
-/

namespace TokenGovernance.Text

/-- The number in hexadecimal digits, zero for anything else. -/
def hexNumber (cs : List Char) : Nat :=
  match Numeral.digits 16 0x110000 0 cs with
  | .ok n => n
  | .error _ => 0

/-- An entry of the table: a code point and its parts. -/
def decompositionEntry (cs : List Char) : Nat × List Char :=
  (hexNumber (cs.takeWhile (· ≠ '=')),
    (((cs.dropWhile (· ≠ '=')).drop 1).splitOn '+').map fun part => Char.ofNat (hexNumber part))

/-- The table, by code point. -/
def decompositions : Std.HashMap Nat (List Char) :=
  .ofList ((Text.words decompositionText).map fun entry => decompositionEntry entry.toList)

/-- The parts of a syllable of Hangul: a leading consonant, a vowel, and perhaps a trailing consonant. -/
def hangulParts (n : Nat) : List Char :=
  let index := n - 0xAC00
  let trail := index % 28
  [Char.ofNat (0x1100 + index / 588), Char.ofNat (0x1161 + index % 588 / 28)] ++
    if trail = 0 then [] else [Char.ofNat (0x11A7 + trail)]

def parts (c : Char) : List Char :=
  let n := c.toNat
  if n < 0xA0 then [c]
  else if 0xAC00 ≤ n ∧ n ≤ 0xD7A3 then hangulParts n
  else (decompositions[n]?).getD [c]

def combiningClass (c : Char) : Nat :=
  match combiningRanges.find? fun (first, last, _) => first ≤ c.toNat && c.toNat ≤ last with
  | some (_, _, k) => k
  | none => 0

/-- Puts a mark of a class into a run of marks, behind those of the same or a lower class. -/
def insertMark (m : Nat × Char) : List (Nat × Char) → List (Nat × Char)
  | [] => [m]
  | x :: rest => if m.1 < x.1 then m :: x :: rest else x :: insertMark m rest

/-- Orders the marks of each run; `run` holds those since the last character of class 0. -/
def orderMarks (run : List (Nat × Char)) : List Char → List Char
  | [] => run.map (·.2)
  | c :: rest =>
    let k := combiningClass c
    if k = 0 then run.map (·.2) ++ c :: orderMarks [] rest else orderMarks (insertMark (k, c) run) rest

/-- The text in normalization form KD. -/
def decompose (s : String) : String :=
  String.ofList (orderMarks [] (s.toList.flatMap parts))

end TokenGovernance.Text
