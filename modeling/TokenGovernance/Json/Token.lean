import TokenGovernance.Json.Number

/-! # JSON tokens

A text as brackets, commas, colons, and values without parts, each with the offsets of its first byte
and of the byte behind its last. The list stops at the first place that is no token.

A text is read with two degrees of care. Whoever takes a value reads it; whoever has no use for it
skips it, and then a number may be out of range and a surrogate may stand alone. What is wrong for a
reader only is kept inside the token; what is wrong for both ends the tokens.
-/

namespace TokenGovernance.Json

/-- A value without parts; the fault is what only a reader minds. -/
inductive Scalar
  | null
  | bool (value : Bool)
  | number (value : Except Fault Number)
  | string (value : Except Fault String)

/-- What a token is. A broken one carries what its reader reports and what one who skips it reports; both
report the same of a broken `null`. -/
inductive Lexeme
  | openArray
  | closeArray
  | openObject
  | closeObject
  | comma
  | colon
  | scalar (value : Scalar)
  | brokenString (reading skipping : Fault)
  | brokenNull (fault : Fault)
  | broken (reading skipping : Fault)
  | stray

/-- A lexeme and where it stands. -/
structure Token where
  lexeme : Lexeme
  start : Nat
  stop : Nat

/-! ## Strings -/

/-- The number that four hexadecimal digits spell. -/
def hexValue (a b c d : Char) : Option Nat := do
  let a ← Numeral.digit? 16 a
  let b ← Numeral.digit? 16 b
  let c ← Numeral.digit? 16 c
  let d ← Numeral.digit? 16 d
  return ((16 * a + b) * 16 + c) * 16 + d

/-- The character behind a backslash, stood for by a letter or by itself. -/
def simpleEscape (c : Char) : Option Char :=
  if c = '"' ∨ c = '\\' ∨ c = '/' then some c
  else if c = 'b' then some '\x08'
  else if c = 'f' then some '\x0c'
  else if c = 'n' then some '\n'
  else if c = 'r' then some '\r'
  else if c = 't' then some '\t'
  else none

/-- What becomes of a string: its text and the characters and offset up to its closing quote, or the
faults that keep it from ending. -/
inductive StringScan
  | closed (text : Except Fault String) (count stop : Nat)
  | broken (reading skipping : Fault)

/-- The characters so far, last one first, or the first thing its reader minds. -/
abbrev Gathered := Except Fault (List Char)

def Gathered.push (g : Gathered) (c : Char) : Gathered :=
  g.map (c :: ·)

/-- The characters so far with a fault, unless there is an earlier one. -/
def Gathered.mind (g : Gathered) (f : Fault) : Gathered :=
  g.bind fun _ => .error f

/-- A string that does not end. -/
def Gathered.abandon (g : Gathered) (reading skipping : Fault) : StringScan :=
  match g with
  | .ok _ => .broken reading skipping
  | .error f => .broken f skipping

def byteCount : List Char → Nat
  | [] => 0
  | c :: rest => c.utf8Size + byteCount rest

/-- The fault of fewer than four characters behind `\u` at an offset: the text ends, unless they are
four bytes long. -/
def shortEscape (offset : Nat) (cs : List Char) : Fault :=
  let size := byteCount cs
  if 4 ≤ size then Malformed.badEscape.atOffset (offset + 4) else Malformed.stringEnds.atOffset (offset + size)

/-- Looks for the trailing half of a surrogate pair behind the leading one at an offset: nothing wrong, a
fault that only a reader minds, or one that ends the string. -/
def trailingHalf (offset : Nat) : List Char → Except Fault (Option Fault)
  | '\\' :: 'u' :: h1 :: h2 :: h3 :: h4 :: _ =>
    match hexValue h1 h2 h3 h4 with
    | none => .error (Malformed.badEscape.atOffset (offset + 6))
    | some n =>
      if 0xDC00 ≤ n ∧ n < 0xE000 then .ok none else .ok (some (Malformed.loneSurrogate.atOffset (offset + 6)))
  | '\\' :: 'u' :: short => .error (shortEscape (offset + 2) short)
  | '\\' :: _ :: _ => .ok (some (Malformed.brokenSurrogatePair.atOffset (offset + 2)))
  | ['\\'] => .error (Malformed.stringEnds.atOffset (offset + 1))
  | [] => .error (Malformed.stringEnds.atOffset offset)
  | _ => .ok (some (Malformed.brokenSurrogatePair.atOffset (offset + 1)))

/-- The character of a surrogate pair. -/
def joinHalves (high low : Nat) : Char :=
  Char.ofNat (0x10000 + (high - 0xD800) * 0x400 + (low - 0xDC00))

/-- Scans a string behind its opening quote; `high` is the leading half of a pair that waits for the
trailing one. -/
def scanString (offset count : Nat) (high : Option Nat) (g : Gathered) : List Char → StringScan
  | [] => g.abandon (Malformed.stringEnds.atOffset offset) (Malformed.stringEnds.atOffset offset)
  | c :: rest =>
    if c = '"' then .closed (g.map fun cs => String.ofList cs.reverse) (count + 1) (offset + 1)
    else if c = '\\' then
      match rest with
      | [] =>
        let f := Malformed.stringEnds.atOffset (offset + 1)
        g.abandon f f
      | e :: rest =>
        if e = 'u' then
          match rest with
          | h1 :: h2 :: h3 :: h4 :: rest =>
            let behind := offset + 6
            match hexValue h1 h2 h3 h4 with
            | none =>
              let f := Malformed.badEscape.atOffset behind
              g.abandon f f
            | some n =>
              if n < 0xD800 ∨ 0xE000 ≤ n then
                scanString behind (count + 6) none (g.push (Char.ofNat n)) rest
              else if 0xDC00 ≤ n then
                match high with
                | some h => scanString behind (count + 6) none (g.push (joinHalves h n)) rest
                | none => scanString behind (count + 6) none (g.mind (Malformed.loneSurrogate.atOffset behind)) rest
              else
                match trailingHalf behind rest with
                | .ok none => scanString behind (count + 6) (some n) g rest
                | .ok (some f) => scanString behind (count + 6) none (g.mind f) rest
                | .error f => g.abandon f f
          | short =>
            let f := shortEscape (offset + 2) short
            g.abandon f f
        else
          match simpleEscape e with
          | some c => scanString (offset + 2) (count + 2) none (g.push c) rest
          | none =>
            let f := Malformed.badEscape.atOffset (offset + 2)
            g.abandon f f
    else if c.toNat < 0x20 then
      g.abandon (Malformed.controlCharacter.atOffset (offset + 1)) (Malformed.controlCharacter.atOffset offset)
    else scanString (offset + c.utf8Size) (count + 1) none (g.push c) rest

/-! ## Numbers and words -/

/-- A lexeme and how many characters it takes. -/
abbrev Scan := Lexeme × Nat

/-- A place that both kinds of reader refuse alike. -/
def Scan.refuse (f : Fault) : Scan :=
  (.broken f f, 0)

/-- Scans the exponent of a number, from the letter on; `n` holds the parts in front of it. -/
def scanExponent (n : Numeral) (offset count : Nat) (cs : List Char) : Scan :=
  let signed := cs.head? = some '+' ∨ cs.head? = some '-'
  let rest := if signed then cs.drop 1 else cs
  let start := if signed then offset + 1 else offset
  let digits := rest.takeWhile isDigit
  match digits, rest with
  | [], [] => (.broken (Malformed.valueEnds.atOffset start) (Malformed.badNumber.atOffset start), 0)
  | [], _ :: _ => Scan.refuse (Malformed.badNumber.atOffset (start + 1))
  | _ :: _, _ =>
    let stop := start + digits.length
    let n := { n with exponent := some ⟨cs.head? = some '-', digits, start⟩, stop }
    (.scalar (.number n.value), count + (stop - offset))

/-- Scans the fraction of a number behind the point. -/
def scanFraction (n : Numeral) (offset count : Nat) (cs : List Char) : Scan :=
  let digits := cs.takeWhile isDigit
  let stop := offset + digits.length
  let n := { n with fraction := digits, pointed := true, stop }
  match digits, cs.drop digits.length with
  | [], [] => (.broken (Malformed.valueEnds.atOffset offset) (Malformed.badNumber.atOffset offset), 0)
  | [], _ :: _ => Scan.refuse (Malformed.badNumber.atOffset (offset + 1))
  | _ :: _, c :: rest =>
    if c = 'e' ∨ c = 'E' then scanExponent n (stop + 1) (count + digits.length + 1) rest
    else (.scalar (.number n.value), count + digits.length)
  | _ :: _, [] => (.scalar (.number n.value), count + digits.length)

def scanNumber (negative : Bool) (offset count : Nat) (cs : List Char) : Scan :=
  let digits := cs.takeWhile isDigit
  match cs, digits with
  | [], _ => (.broken (Malformed.valueEnds.atOffset offset) (Malformed.badNumber.atOffset offset), 0)
  | _ :: _, [] => Scan.refuse (Malformed.badNumber.atOffset (offset + 1))
  | _ :: _, '0' :: _ :: _ => Scan.refuse (Malformed.badNumber.atOffset (offset + 2))
  | _ :: _, _ :: _ =>
    let stop := offset + digits.length
    let n : Numeral := ⟨negative, digits, [], false, none, stop⟩
    match cs.drop digits.length with
    | '.' :: rest => scanFraction n (stop + 1) (count + digits.length + 1) rest
    | 'e' :: rest | 'E' :: rest => scanExponent n (stop + 1) (count + digits.length + 1) rest
    | _ => (.scalar (.number n.value), count + digits.length)

/-- Scans what is left of a word; `count` characters of it are behind. -/
def scanWord (value : Scalar) (offset count : Nat) : List Char → List Char → Scan
  | [], _ => (.scalar value, count)
  | _ :: _, [] => Scan.refuse (Malformed.valueEnds.atOffset offset)
  | w :: word, c :: rest =>
    if w = c then scanWord value (offset + 1) (count + 1) word rest
    else Scan.refuse (Malformed.badWord.atOffset (offset + 1))

def scanNull (offset : Nat) (cs : List Char) : Scan :=
  match scanWord .null offset 0 ['u', 'l', 'l'] cs with
  | (.broken f _, count) => (.brokenNull f, count)
  | scan => scan

/-! ## Tokens -/

/-- Whether a character may stand between tokens. -/
def isSpace (c : Char) : Bool :=
  c = ' ' || c = '\n' || c = '\t' || c = '\r'

/-- Scans the token that starts with `c`, counting the characters behind `c`. -/
def scanToken (offset : Nat) (c : Char) (rest : List Char) : Scan :=
  if c = '[' then (.openArray, 0)
  else if c = ']' then (.closeArray, 0)
  else if c = '\x7b' then (.openObject, 0)
  else if c = '\x7d' then (.closeObject, 0)
  else if c = ',' then (.comma, 0)
  else if c = ':' then (.colon, 0)
  else if c = '"' then
    match scanString (offset + 1) 0 none (.ok []) rest with
    | .closed text count _ => (.scalar (.string text), count)
    | .broken reading skipping => (.brokenString reading skipping, 0)
  else if c = 'n' then scanNull (offset + 1) rest
  else if c = 't' then scanWord (.bool true) (offset + 1) 0 ['r', 'u', 'e'] rest
  else if c = 'f' then scanWord (.bool false) (offset + 1) 0 ['a', 'l', 's', 'e'] rest
  else if c = '-' then scanNumber true (offset + 1) 0 rest
  else if isDigit c then
    let (lexeme, count) := scanNumber false offset 0 (c :: rest)
    (lexeme, count - 1)
  else (.stray, 0)

/-- Whether the tokens end with a lexeme. -/
def Lexeme.isLast : Lexeme → Bool
  | .brokenString .. | .brokenNull _ | .broken .. | .stray => true
  | _ => false

/-- The tokens of a text that starts at an offset. -/
def tokens (offset : Nat) : List Char → List Token
  | [] => []
  | c :: rest =>
    if isSpace c then tokens (offset + 1) rest
    else
      let (lexeme, count) := scanToken offset c rest
      let stop := offset + c.utf8Size + byteCount (rest.take count)
      ⟨lexeme, offset, stop⟩ :: if lexeme.isLast then [] else tokens stop (rest.drop count)
termination_by cs => cs.length
decreasing_by
  · simp
  · simp only [List.length_drop, List.length_cons]
    omega

end TokenGovernance.Json
