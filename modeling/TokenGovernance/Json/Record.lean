import TokenGovernance.Json.Decoder

/-! # Records

Objects with named fields, read field by field. A record is also read from an array that holds the
fields in their order. Members without a field are skipped.
-/

namespace TokenGovernance.Json

/-- A field: its name, the check of its value, and whether an array may end before it. -/
structure Field where
  name : String
  check : Decoder Unit
  fillable : Bool

/-- A record: its fields, and how it is put together from what stands in them. -/
structure Record (α : Type) where
  fields : List Field
  build : Source → (String → Option Node) → Except Fault α

namespace Record

variable {α β : Type}

instance : Functor Record where
  map f r := ⟨r.fields, fun src find => (r.build src find).map f⟩

instance : Seq Record where
  seq f x :=
    let x := x ()
    ⟨f.fields ++ x.fields, fun src find => do
      let f ← f.build src find
      let a ← x.build src find
      return f a⟩

/-- A field that holds `absent` when it is left out. -/
def fieldOr (name : String) (d : Decoder α) (fillable : Bool) (absent : Except Fault α) : Record α :=
  ⟨[⟨name, fun src node => (d src node).map fun _ => (), fillable⟩], fun src find =>
    match find name with
    | some node => d src node
    | none => absent⟩

def field (name : String) (d : Decoder α) : Record α :=
  fieldOr name d false (.error ⟨.missingField name, none⟩)

/-- A field that is null when it is left out, though not from an array. -/
def nullable (name : String) (d : Decoder α) : Record (Option α) :=
  fieldOr name d.optional false (.ok none)

/-- A field with a value of its own when it is left out. -/
def fieldDefault (name : String) (d : Decoder α) (value : α) : Record α :=
  fieldOr name d true (.ok value)

def find (nodes : List (String × Node)) (name : String) : Option Node :=
  nodes.lookup name

/-- Reads members in their order: those of a field are checked and kept, once each, and the others
are skipped. `seen` holds the names of the fields already met. Gives the nodes of the fields and the
offset behind the object. -/
def fromMembers (src : Source) (fields : List Field) (seen : List String) :
    Members → Except Fault (List (String × Node) × Nat)
  | .done (.closed stop) => .ok ([], stop)
  | .done (.broken reading _) => .error reading
  | .member key value tail rest => do
    let name ← key.text
    match fields.find? (·.name == name) with
    | some f =>
      if name ∈ seen then .error ⟨.duplicateField name, src.offset key.leave⟩
      else do
        placed (src.offset tail.leave) (f.check src value)
        let (nodes, stop) ← fromMembers src fields (name :: seen) rest
        return ((name, value) :: nodes, stop)
    | none => do
      value.skip
      fromMembers src fields seen rest

/-- Reads items as the fields in their order. An array that ends before a field that cannot be left
out is too short. Gives the nodes of the fields and what is wrong if the array had to end behind them. -/
def fromItems (src : Source) (expected : String) :
    Nat → List Field → Items → Option Fault → Except Fault (List (String × Node) × Option Fault)
  | _, [], _, fault => .ok ([], fault)
  | index, f :: fields, .item value tail rest, _ => do
    placed (src.offset tail.leave) (f.check src value)
    let (nodes, fault) ← fromItems src expected (index + 1) fields rest tail.fault
    return ((f.name, value) :: nodes, fault)
  | index, f :: fields, .done ending, fault => do
    ending.read
    if f.fillable then fromItems src expected (index + 1) fields (.done ending) fault
    else
      .error ⟨.wrongLength index expected,
        match ending with
        | .closed stop => src.offset stop
        | .broken .. => none⟩

def lengthText (kind : String) (n : Nat) : String :=
  kind ++ " with " ++ toString n ++ (if n = 1 then " element" else " elements")

/-- Refuses an array with more items than fields. In a text the fault behind the last field says so. -/
def checkSurplus (src : Source) (fields count : Nat) (fault : Option Fault) : Except Fault Unit :=
  match src, fault with
  | .text, some f => .error f
  | .text, none => .ok ()
  | .value, _ => if fields < count then .error ⟨.wrongLength count "fewer elements in array", none⟩ else .ok ()
  | .besideTag, _ | .trial, _ =>
    if fields < count then
      .error ⟨.wrongLength count
        (toString fields ++ (if fields = 1 then " element" else " elements") ++ " in sequence"), none⟩
    else .ok ()

/-- Reads the record that is called `kind` when something else is found. -/
def decoder (kind : String) (r : Record α) : Decoder α :=
  fun src node =>
    match node with
    | .object _ _ members => do
      let (nodes, stop) ← fromMembers src r.fields [] members
      placed (src.offset stop) (r.build src (find nodes))
    | .array _ _ items => do
      let (nodes, fault) ← fromItems src (lengthText kind r.fields.length) 0 r.fields items none
      let a ← r.build src (find nodes)
      checkSurplus src r.fields.length items.count fault
      return a
    | node => .error (mismatch src kind node)

end Record

/-! ## Tagged records -/

/-- One of several records, told apart by a tag. -/
structure Case (α : Type) where
  tag : String
  content : Decoder α

namespace Case

variable {α : Type}

def pick (cases : List (Case α)) (tag : String) : Option (Case α) :=
  cases.find? (·.tag == tag)

def tagDecoder (cases : List (Case α)) : Decoder (Case α) :=
  Decoder.name (cases.map Case.tag) (pick cases)

/-- Reads members whole, all but the tag, which is named and read as the cases say. -/
def fromMembers (src : Source) (tag : String) (cases : List (Case α)) (chosen : Option (Case α)) :
    Members → Except Fault (Case α × Members)
  | .done (.broken reading _) => .error reading
  | .done (.closed stop) =>
    match chosen with
    | some c => .ok (c, .done (.closed stop))
    | none => .error ⟨.missingField tag, src.offset stop⟩
  | .member key value tail rest => do
    let name ← key.text
    if name = tag then
      if chosen.isSome then .error ⟨.duplicateField tag, src.offset key.leave⟩
      else do
        let c ← placed (src.offset tail.leave) (tagDecoder cases src value)
        fromMembers src tag cases (some c) rest
    else do
      let _ ← value.value
      let (c, members) ← fromMembers src tag cases chosen rest
      return (c, .member key value tail members)

/-- Reads a record with a tag, the tag being a member, or the first item of an array. What it holds
beside the tag was read whole then. -/
def decoder (kind tag : String) (cases : List (Case α)) : Decoder α :=
  fun src node =>
    match node with
    | .object start depth members => do
      checkDepth start depth
      let (c, members) ← fromMembers src tag cases none members
      c.content .besideTag (.object 0 0 members)
    | .array start depth (.done ending) => do
      checkDepth start depth
      ending.read
      .error ⟨.missingField tag,
        match ending with
        | .closed stop => src.offset stop
        | .broken .. => none⟩
    | .array start depth (.item value tail rest) => do
      checkDepth start depth
      let c ← placed (src.offset tail.leave) (tagDecoder cases src value)
      let _ ← rest.values
      c.content .besideTag (.array 0 0 rest)
    | node => .error (mismatch src kind node)

end Case
end TokenGovernance.Json
