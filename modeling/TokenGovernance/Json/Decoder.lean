import TokenGovernance.Json.Node

/-! # Decoders

How values of a type are read from a document. The same decoder serves texts and values; where the
wording or the place of a fault depends on the source of the document, the decoder is told the source.
-/

namespace TokenGovernance.Json

/-- Where a document comes from: a value, a text, or a part of either that was read whole before
anything looked for its type. Such a part is what a record holds beside its tag, or a value that is
tried in several forms. -/
inductive Source
  | value
  | text
  | besideTag
  | trial
  deriving DecidableEq, Repr

/-- An offset, which only a text has. -/
def Source.offset (src : Source) (n : Nat) : Option Nat :=
  if src = .text then some n else none

abbrev Decoder (α : Type) := Source → Node → Except Fault α

/-- Gives the fault of a result the offset, unless it has one. -/
def placed {α : Type} (offset : Option Nat) (r : Except Fault α) : Except Fault α :=
  r.mapError (·.place offset)

/-- The fault of a value that is not what was expected. A broken or unreadable value has a fault of its
own, and an array or object is refused at its bracket. -/
def mismatch (src : Source) (expected : String) : Node → Fault
  | .scalar .null _ stop => ⟨.wrongType .null expected, src.offset stop⟩
  | .scalar (.bool b) _ stop => ⟨.wrongType (.bool b) expected, src.offset stop⟩
  | .scalar (.number (.ok n)) _ stop => ⟨.wrongType (.number n) expected, src.offset stop⟩
  | .scalar (.number (.error f)) _ _ => f
  | .scalar (.string (.ok s)) _ stop => ⟨.wrongType (.string s) expected, src.offset stop⟩
  | .scalar (.string (.error f)) _ _ => f
  | .array start _ _ => ⟨.wrongType .sequence expected, src.offset start⟩
  | .object start _ _ => ⟨.wrongType .map expected, src.offset start⟩
  | .broken _ reading _ _ => reading

namespace Decoder

variable {α β κ : Type}

/-- Any value. -/
def any : Decoder Json :=
  fun _ node => node.value

def string : Decoder String :=
  fun src node =>
    match node with
    | .scalar (.string (.ok s)) _ _ => .ok s
    | node => .error (mismatch src "a string" node)

def bool : Decoder Bool :=
  fun src node =>
    match node with
    | .scalar (.bool b) _ _ => .ok b
    | node => .error (mismatch src "a boolean" node)

/-- A whole number from `low` to `high`, of the integer type `name`. -/
def integer (name : String) (low high : Int) : Decoder Int :=
  fun src node =>
    match node with
    | .scalar (.number (.ok (.whole n))) _ stop =>
      if low ≤ n ∧ n ≤ high then .ok n
      else .error ⟨.wrongValue (.number (.whole n)) name, src.offset stop⟩
    | node => .error (mismatch src name node)

def map (f : α → β) (d : Decoder α) : Decoder β :=
  fun src node => (d src node).map f

def u8 : Decoder UInt8 :=
  (integer "u8" 0 255).map fun n => UInt8.ofNat n.toNat

def u32 : Decoder UInt32 :=
  (integer "u32" 0 4294967295).map fun n => UInt32.ofNat n.toNat

def u64 : Decoder UInt64 :=
  (integer "u64" 0 18446744073709551615).map fun n => UInt64.ofNat n.toNat

/-- A whole number of 8 bits with a sign. -/
def i8 : Decoder Int8 :=
  (integer "i8" (-128) 127).map Int8.ofInt

/-- A whole number of 64 bits with a sign. -/
def i64 : Decoder Int64 :=
  (integer "i64" (-9223372036854775808) 9223372036854775807).map Int64.ofInt

def optional (d : Decoder α) : Decoder (Option α) :=
  fun src node =>
    match node with
    | .scalar .null _ _ => .ok none
    | .broken true reading _ _ => .error reading
    | node => (d src node).map some

/-- A value that must pass a check. A refusal shows no place of its own. -/
def refine (d : Decoder α) (check : α → Except String β) : Decoder β :=
  fun src node => do
    let a ← d src node
    (check a).mapError fun reason => ⟨.refused reason, none⟩

def items (src : Source) (d : Decoder α) : Items → Except Fault (List α)
  | .done ending => do
    ending.read
    return []
  | .item value tail rest => do
    let a ← placed (src.offset tail.leave) (d src value)
    let more ← items src d rest
    return a :: more

def list (d : Decoder α) : Decoder (List α) :=
  fun src node =>
    match node with
    | .array _ _ parts => items src d parts
    | node => .error (mismatch src "a sequence" node)

/-- The members of an object, one by one, their keys put through a check. -/
def entries (src : Source) (key : String → Except String κ) (d : Decoder α) :
    Members → Except Fault (List (κ × α))
  | .done ending => do
    ending.read
    return []
  | .member k value tail rest => do
    let name ← k.text
    let name ← (key name).mapError fun reason => ⟨.refused reason, src.offset k.leave⟩
    let a ← placed (src.offset tail.leave) (d src value)
    let more ← entries src key d rest
    return (name, a) :: more

/-- An object with any keys that pass a check. Its members come as they are written. -/
def table (key : String → Except String κ) (d : Decoder α) : Decoder (List (κ × α)) :=
  fun src node =>
    match node with
    | .object _ _ members => entries src key d members
    | node => .error (mismatch src "a map" node)

def name (known : List String) (pick : String → Option α) : Decoder α :=
  fun src node =>
    match node with
    | .scalar (.string (.ok s)) _ stop =>
      match pick s with
      | some a => .ok a
      | none => .error ⟨.unknownVariant s known, src.offset stop⟩
    | node => .error (mismatch src "variant identifier" node)

/-- What stands for nothing beside the name of a variant: null, and beside a tag also an empty object. -/
def nothing : Decoder Unit :=
  fun src node =>
    match src, node with
    | _, .scalar .null _ _ => .ok ()
    | .besideTag, .object _ _ (.done (.closed _)) => .ok ()
    | _, node => .error (mismatch src "unit" node)

/-- The name of a variant given as the key of a member. -/
def keyName (src : Source) (known : List String) (pick : String → Option α) (k : Key) : Except Fault α := do
  let s ← k.text
  match pick s with
  | some a => .ok a
  | none => .error ⟨.unknownVariant s known, src.offset k.stop⟩

/-- A variant without parts: its name, or an object with its name as the only key and nothing beside it. -/
def variant (known : List String) (pick : String → Option α) : Decoder α :=
  fun src node =>
    match src, node with
    | _, .scalar (.string (.ok s)) _ stop =>
      match pick s with
      | some a => .ok a
      | none => .error ⟨.unknownVariant s known, src.offset stop⟩
    | _, .scalar (.string (.error f)) _ _ => .error f
    | .text, .object _ _ (.member key value tail _) => do
      let a ← keyName src known pick key
      nothing src value
      match tail.fault with
      | none => .ok a
      | some f => .error f
    | .text, .object _ _ (.done (.closed stop)) => .error (Malformed.noValue.atOffset stop)
    | .text, .object _ _ (.done (.broken reading _)) => .error reading
    | _, .object _ _ (.member key value _ (.done (.closed _))) => do
      let a ← keyName src known pick key
      nothing src value
      .ok a
    | _, .object .. => .error ⟨.wrongValue .map "map with a single key", none⟩
    | .text, .scalar _ start _ | .text, .array start _ _ => .error (Malformed.noValue.atOffset (start + 1))
    | .text, .broken _ _ _ naming => .error naming
    | _, node => .error (mismatch src "string or map" node)

end Decoder

def decode {α : Type} (d : Decoder α) (j : Json) : Except Fault α :=
  d .value j.toNode

/-- Decodes a text that holds one value and blanks around it. -/
def decodeText {α : Type} (d : Decoder α) (text : String) : Except Fault α := do
  let document := Document.read text
  let a ← d .text document.root
  match document.trailing with
  | none => .ok a
  | some f => .error f

end TokenGovernance.Json
