import TokenGovernance.Json.Token
import TokenGovernance.Keyed

/-! # JSON documents

A document is a tree that a reader walks from left to right, as far as it needs. It is built from a
text or from a value. Built from a text, it keeps the members of objects in the order and number they
were written in, and it may break off: the break holds what each kind of reader reports who comes to it.
-/

namespace TokenGovernance.Json

/-- How the parts of an array or object end: with its bracket, the offset behind it given, or with a
break. A reader and one who skips the value report different faults. -/
inductive Ending
  | closed (stop : Nat)
  | broken (reading skipping : Fault)

/-- What stands behind an item or a member: where a reader is left who gives the container up there,
and what is wrong if the container had to end there. -/
structure Tail where
  leave : Nat
  fault : Option Fault

/-- The key of a member, where it stops, and where a reader is left who gives the object up there. -/
structure Key where
  text : Except Fault String
  stop : Nat
  leave : Nat

mutual

/-- A value in a document. Arrays and objects know how many containers they stand in, themselves
included. A broken value has a fault for each kind of reader, and may start like `null`. -/
inductive Node
  | scalar (value : Scalar) (start stop : Nat)
  | array (start depth : Nat) (items : Items)
  | object (start depth : Nat) (members : Members)
  | broken (null : Bool) (reading skipping naming : Fault)

inductive Items
  | done (ending : Ending)
  | item (value : Node) (tail : Tail) (rest : Items)

inductive Members
  | done (ending : Ending)
  | member (key : Key) (value : Node) (tail : Tail) (rest : Members)

end

/-- A break that is reported alike by all who come to it. -/
def Ending.refusing (f : Fault) : Ending :=
  .broken f f

/-! ## From a text -/

/-- The offset of the next token, in a text of `size` bytes. -/
def nextStart (size : Nat) : List Token → Nat
  | [] => size
  | t :: _ => t.start

def itemTail (size : Nat) : List Token → Tail
  | [] => ⟨size, some (Malformed.listEnds.atOffset size)⟩
  | t :: rest =>
    match t.lexeme with
    | .closeArray => ⟨t.stop, none⟩
    | .comma =>
      ⟨nextStart size rest, some <|
        match rest with
        | [] => Malformed.trailingCharacters.atOffset size
        | ⟨.closeArray, start, _⟩ :: _ => Malformed.trailingComma.atOffset (start + 1)
        | ⟨_, start, _⟩ :: _ => Malformed.trailingCharacters.atOffset (start + 1)⟩
    | _ => ⟨t.start, some (Malformed.trailingCharacters.atOffset (t.start + 1))⟩

def memberTail (size : Nat) : List Token → Tail
  | [] => ⟨size, some (Malformed.objectEnds.atOffset size)⟩
  | t :: _ =>
    match t.lexeme with
    | .closeObject => ⟨t.stop, none⟩
    | _ => ⟨t.start, some (Malformed.noValue.atOffset t.start)⟩

def keyOf (size : Nat) (text : Except Fault String) (stop : Nat) (rest : List Token) : Key :=
  ⟨text, stop, (memberTail size rest).leave⟩

/-- What a reader reports who comes to a token where a key should stand. -/
def notAKey (t : Token) : Ending :=
  match t.lexeme with
  | .brokenString reading skipping => .broken reading skipping
  | _ => .refusing (Malformed.keyNotString.atOffset (t.start + 1))

mutual

/-- The value that starts with a token, and how many of the tokens behind belong to it. -/
def nodeAt (size depth : Nat) (t : Token) (rest : List Token) : Node × Nat :=
  match t.lexeme with
  | .scalar value => (.scalar value t.start t.stop, 0)
  | .openArray =>
    let (items, count) := itemsFrom size (depth + 1) rest
    (.array t.start (depth + 1) items, count)
  | .openObject =>
    let (members, count) := membersFrom size (depth + 1) rest
    (.object t.start (depth + 1) members, count)
  | .brokenString reading skipping => (.broken false reading skipping reading, 0)
  | .brokenNull f => (.broken true f f (Malformed.noValue.atOffset (t.start + 1)), 0)
  | .broken reading skipping => (.broken false reading skipping (Malformed.noValue.atOffset (t.start + 1)), 0)
  | _ =>
    let f := Malformed.noValue.atOffset (t.start + 1)
    (.broken false f f f, 0)
termination_by 3 * rest.length + 1

def itemsFrom (size depth : Nat) : List Token → Items × Nat
  | [] => (.done (.refusing (Malformed.listEnds.atOffset size)), 0)
  | t :: rest =>
    match t.lexeme with
    | .closeArray => (.done (.closed t.stop), 1)
    | _ =>
      let (items, count) := itemAt size depth t rest
      (items, count + 1)
termination_by ts => 3 * ts.length

/-- The item that starts with a token, and those behind it. -/
def itemAt (size depth : Nat) (t : Token) (rest : List Token) : Items × Nat :=
  let (value, count) := nodeAt size depth t rest
  let tail := itemTail size (rest.drop count)
  match _h : rest.drop count with
  | [] => (.item value tail (.done (.refusing (Malformed.listEnds.atOffset size))), count)
  | c :: behind =>
    match c.lexeme with
    | .closeArray => (.item value tail (.done (.closed c.stop)), count + 1)
    | .comma =>
      match behind with
      | [] => (.item value tail (.done (.refusing (Malformed.valueEnds.atOffset size))), count + 1)
      | next :: behind =>
        match next.lexeme with
        | .closeArray =>
          let offset := next.start + 1
          (.item value tail (.done (.broken (Malformed.trailingComma.atOffset offset)
            (Malformed.noValue.atOffset offset))), count + 2)
        | _ =>
          let (items, more) := itemAt size depth next behind
          (.item value tail items, count + 2 + more)
    | _ => (.item value tail (.done (.refusing (Malformed.noListComma.atOffset (c.start + 1)))), count + 1)
termination_by 3 * rest.length + 2
decreasing_by
  · omega
  · have := congrArg List.length _h
    simp [List.length_drop] at this
    omega

def membersFrom (size depth : Nat) : List Token → Members × Nat
  | [] => (.done (.refusing (Malformed.objectEnds.atOffset size)), 0)
  | t :: rest =>
    match t.lexeme with
    | .closeObject => (.done (.closed t.stop), 1)
    | .scalar (.string text) =>
      let (members, count) := memberAt size depth text t.stop rest
      (members, count + 1)
    | _ => (.done (notAKey t), 1)
termination_by ts => 3 * ts.length

/-- The member whose key is a string in front of the tokens, and those behind it. -/
def memberAt (size depth : Nat) (text : Except Fault String) (stop : Nat) (rest : List Token) :
    Members × Nat :=
  let key := keyOf size text stop rest
  let broken (f : Fault) : Members :=
    .member key (.broken false f f f) ⟨size, none⟩ (.done (.refusing f))
  match rest with
  | [] => (broken (Malformed.objectEnds.atOffset size), 0)
  | colon :: rest =>
    match colon.lexeme with
    | .colon =>
      match rest with
      | [] => (broken (Malformed.valueEnds.atOffset size), 1)
      | t :: rest =>
        let (value, count) := nodeAt size depth t rest
        let tail := memberTail size (rest.drop count)
        match _h : rest.drop count with
        | [] => (.member key value tail (.done (.refusing (Malformed.objectEnds.atOffset size))), count + 2)
        | c :: behind =>
          match c.lexeme with
          | .closeObject => (.member key value tail (.done (.closed c.stop)), count + 3)
          | .comma =>
            match behind with
            | [] =>
              (.member key value tail (.done (.broken (Malformed.valueEnds.atOffset size)
                (Malformed.objectEnds.atOffset size))), count + 3)
            | next :: behind =>
              match next.lexeme with
              | .scalar (.string text) =>
                let (members, more) := memberAt size depth text next.stop behind
                (.member key value tail members, count + 4 + more)
              | .closeObject =>
                let offset := next.start + 1
                (.member key value tail (.done (.broken (Malformed.trailingComma.atOffset offset)
                  (Malformed.keyNotString.atOffset offset))), count + 4)
              | _ => (.member key value tail (.done (notAKey next)), count + 4)
          | _ =>
            (.member key value tail (.done (.refusing (Malformed.noObjectComma.atOffset (c.start + 1)))), count + 3)
    | _ => (broken (Malformed.noColon.atOffset (colon.start + 1)), 1)
termination_by 3 * rest.length
decreasing_by
  · simp; omega
  · have := congrArg List.length _h
    simp [List.length_drop] at this
    simp
    omega

end

/-- A text as a document: its value, and what is wrong if the text goes on behind it. -/
structure Document where
  root : Node
  trailing : Option Fault

def Document.read (text : String) : Document :=
  let size := Text.utf8Length text
  match tokens 0 text.toList with
  | [] =>
    let f := Malformed.valueEnds.atOffset size
    ⟨.broken false f f f, none⟩
  | t :: rest =>
    let (root, count) := nodeAt size 0 t rest
    ⟨root, (rest.drop count).head?.map fun c => Malformed.trailingCharacters.atOffset (c.start + 1)⟩

/-! ## From a value -/

mutual

/-- A value as a document; its offsets mean nothing. -/
def toNode : Json → Node
  | .null => .scalar .null 0 0
  | .bool b => .scalar (.bool b) 0 0
  | .number n => .scalar (.number (.ok n)) 0 0
  | .string s => .scalar (.string (.ok s)) 0 0
  | .array items => .array 0 0 (toItems items)
  | .object members => .object 0 0 (toMembers members)

def toItems : List Json → Items
  | [] => .done (.closed 0)
  | item :: rest => .item (toNode item) ⟨0, none⟩ (toItems rest)

def toMembers : List (String × Json) → Members
  | [] => .done (.closed 0)
  | (key, value) :: rest => .member ⟨.ok key, 0, 0⟩ (toNode value) ⟨0, none⟩ (toMembers rest)

end

/-! ## Walking a document -/

def Items.count : Items → Nat
  | .done _ => 0
  | .item _ _ rest => rest.count + 1

/-- What a reader reports who takes the ending, nothing if it is the bracket. -/
def Ending.read : Ending → Except Fault Unit
  | .closed _ => .ok ()
  | .broken reading _ => .error reading

/-- What one who skips reports at the ending. -/
def Ending.skip : Ending → Except Fault Unit
  | .closed _ => .ok ()
  | .broken _ skipping => .error skipping

mutual

def Node.skip : Node → Except Fault Unit
  | .scalar .. => .ok ()
  | .array _ _ items => items.skip
  | .object _ _ members => members.skip
  | .broken _ _ skipping _ => .error skipping

def Items.skip : Items → Except Fault Unit
  | .done ending => ending.skip
  | .item value _ rest => do
    value.skip
    rest.skip

/-- Skips members; keys are skipped too. -/
def Members.skip : Members → Except Fault Unit
  | .done ending => ending.skip
  | .member _ value _ rest => do
    value.skip
    rest.skip

end

/-- The depth at which containers are refused. -/
def depthLimit : Nat := 128

def checkDepth (start depth : Nat) : Except Fault Unit :=
  if depthLimit ≤ depth then .error (Malformed.tooDeep.atOffset (start + 1)) else .ok ()

mutual

def Node.value : Node → Except Fault Json
  | .scalar .null _ _ => .ok .null
  | .scalar (.bool b) _ _ => .ok (.bool b)
  | .scalar (.number n) _ _ => n.map .number
  | .scalar (.string s) _ _ => s.map .string
  | .array start depth items => do
    checkDepth start depth
    return .array (← items.values)
  | .object start depth members => do
    checkDepth start depth
    return .object (Keyed.ofList (← members.values))
  | .broken _ reading _ _ => .error reading

def Items.values : Items → Except Fault (List Json)
  | .done ending => do
    ending.read
    return []
  | .item value _ rest => do
    let value ← value.value
    let rest ← rest.values
    return value :: rest

def Members.values : Members → Except Fault (List (String × Json))
  | .done ending => do
    ending.read
    return []
  | .member key value _ rest => do
    let key ← key.text
    let value ← value.value
    let rest ← rest.values
    return (key, value) :: rest

end

end TokenGovernance.Json
