import TokenGovernance.Json.Wire
import TokenGovernance.Proofs.Outcome

/-! # Decoding of values

A value never breaks off as a text may, and it has no places in it. What a decoder refuses about a value is
therefore the value alone.
-/

namespace TokenGovernance.Json

open Outcome

/-! ## Views -/

/-- What a value is called that should have been another. -/
def found : Json → Found
  | .null => .null
  | .bool b => .bool b
  | .number n => .number n
  | .string s => .string s
  | .array _ => .sequence
  | .object _ => .map

def text? : Json → Option String
  | .string s => some s
  | _ => none

def whole? : Json → Option Int
  | .number (.whole n) => some n
  | _ => none

def items? : Json → Option (List Json)
  | .array items => some items
  | _ => none

mutual

/-- The value with the members of its objects in the order of their keys, and the last of each key. -/
def normal : Json → Json
  | .null => .null
  | .bool b => .bool b
  | .number n => .number n
  | .string s => .string s
  | .array items => .array (normalItems items)
  | .object members => .object (Keyed.ofList (normalMembers members))

def normalItems : List Json → List Json
  | [] => []
  | item :: rest => item.normal :: normalItems rest

def normalMembers : List (String × Json) → List (String × Json)
  | [] => []
  | (key, value) :: rest => (key, value.normal) :: normalMembers rest

end

/-! ## Documents that hold a value -/

mutual

/-- A document without a break, and the value that it holds. Its offsets are left open. -/
inductive Node.Denotes : Node → Json → Prop
  | null (start stop : Nat) : Node.Denotes (.scalar .null start stop) .null
  | bool (b : Bool) (start stop : Nat) : Node.Denotes (.scalar (.bool b) start stop) (.bool b)
  | number (n : Number) (start stop : Nat) : Node.Denotes (.scalar (.number (.ok n)) start stop) (.number n)
  | string (s : String) (start stop : Nat) : Node.Denotes (.scalar (.string (.ok s)) start stop) (.string s)
  | array (start : Nat) {depth : Nat} {parts : Items} {items : List Json} (hdepth : depth < depthLimit)
      (h : Items.Denotes parts items) : Node.Denotes (.array start depth parts) (.array items)
  | object (start : Nat) {depth : Nat} {parts : Members} {members : List (String × Json)}
      (hdepth : depth < depthLimit) (h : Members.Denotes parts members) :
      Node.Denotes (.object start depth parts) (.object members)

inductive Items.Denotes : Items → List Json → Prop
  | done (stop : Nat) : Items.Denotes (.done (.closed stop)) []
  | item (tail : Tail) {node : Node} {j : Json} {parts : Items} {items : List Json} (h : Node.Denotes node j)
      (hrest : Items.Denotes parts items) : Items.Denotes (.item node tail parts) (j :: items)

inductive Members.Denotes : Members → List (String × Json) → Prop
  | done (stop : Nat) : Members.Denotes (.done (.closed stop)) []
  | member (name : String) (stop leave : Nat) (tail : Tail) {node : Node} {j : Json} {parts : Members}
      {members : List (String × Json)} (h : Node.Denotes node j) (hrest : Members.Denotes parts members) :
      Members.Denotes (.member ⟨.ok name, stop, leave⟩ node tail parts) ((name, j) :: members)

end

mutual

theorem denotes_toNode : ∀ j : Json, j.toNode.Denotes j
  | .null => .null 0 0
  | .bool b => .bool b 0 0
  | .number n => .number n 0 0
  | .string s => .string s 0 0
  | .array items => .array 0 (by decide) (denotes_toItems items)
  | .object members => .object 0 (by decide) (denotes_toMembers members)

theorem denotes_toItems : ∀ items : List Json, (toItems items).Denotes items
  | [] => .done 0
  | item :: rest => .item _ (denotes_toNode item) (denotes_toItems rest)

theorem denotes_toMembers : ∀ members : List (String × Json), (toMembers members).Denotes members
  | [] => .done 0
  | (key, value) :: rest => .member key 0 0 _ (denotes_toNode value) (denotes_toMembers rest)

end

theorem checkDepth_eq_ok {start depth : Nat} (h : depth < depthLimit) : checkDepth start depth = .ok () :=
  if_neg (Nat.not_le_of_lt h)

mutual

theorem Node.Denotes.value_eq : ∀ {node : Node} {j : Json}, node.Denotes j → node.value = .ok j.normal
  | _, _, .null .. | _, _, .bool .. | _, _, .number .. | _, _, .string .. => by
    rw [Node.value]
    rfl
  | _, _, .array start hdepth h => by
    rw [Node.value, checkDepth_eq_ok hdepth, ok_bind, h.values_eq]
    rfl
  | _, _, .object start hdepth h => by
    rw [Node.value, checkDepth_eq_ok hdepth, ok_bind, h.values_eq]
    rfl

theorem Items.Denotes.values_eq : ∀ {parts : Items} {items : List Json}, parts.Denotes items →
    parts.values = .ok (normalItems items)
  | _, _, .done _ => rfl
  | _, _, .item _ h hrest => by
    rw [Items.values, h.value_eq, ok_bind, hrest.values_eq]
    rfl

theorem Members.Denotes.values_eq : ∀ {parts : Members} {members : List (String × Json)},
    parts.Denotes members → parts.values = .ok (normalMembers members)
  | _, _, .done _ => rfl
  | _, _, .member name _ _ _ h hrest => by
    rw [Members.values, ok_bind, h.value_eq, ok_bind, hrest.values_eq]
    rfl

end

mutual

theorem Node.Denotes.skip_eq : ∀ {node : Node} {j : Json}, node.Denotes j → node.skip = .ok ()
  | _, _, .null .. | _, _, .bool .. | _, _, .number .. | _, _, .string .. => by rw [Node.skip]
  | _, _, .array _ _ h => by rw [Node.skip, h.skip_eq]
  | _, _, .object _ _ h => by rw [Node.skip, h.skip_eq]

theorem Items.Denotes.skip_eq : ∀ {parts : Items} {items : List Json}, parts.Denotes items →
    parts.skip = .ok ()
  | _, _, .done _ => rfl
  | _, _, .item _ h hrest => by rw [Items.skip, h.skip_eq, ok_bind, hrest.skip_eq]

theorem Members.Denotes.skip_eq : ∀ {parts : Members} {members : List (String × Json)},
    parts.Denotes members → parts.skip = .ok ()
  | _, _, .done _ => rfl
  | _, _, .member _ _ _ _ h hrest => by rw [Members.skip, h.skip_eq, ok_bind, hrest.skip_eq]

end

theorem value_toNode (j : Json) : j.toNode.value = .ok j.normal :=
  (denotes_toNode j).value_eq

theorem skip_toNode (j : Json) : j.toNode.skip = .ok () :=
  (denotes_toNode j).skip_eq

theorem placed_none {α : Type} (r : Except Fault α) : placed none r = r := by
  cases r with
  | error f =>
    change Except.error (f.place none) = _
    unfold Fault.place
    rw [Option.or_none]
  | ok a => rfl

/-! ## Decoders -/

theorem decode_any (j : Json) : decode .any j = .ok j.normal :=
  value_toNode j

theorem string_eq_ok {src : Source} {j : Json} {s : String} :
    Decoder.string src j.toNode = .ok s ↔ j = .string s := by
  cases j with
  | string t => simp [Decoder.string, toNode]
  | _ => simp [Decoder.string, toNode]

theorem decode_string (j : Json) :
    decode .string j = match j.text? with
      | some s => .ok s
      | none => .error ⟨.wrongType j.found "a string", none⟩ := by
  cases j with
  | string s => rfl
  | _ => rfl

theorem decode_u64 (j : Json) :
    decode .u64 j = match j.whole? with
      | some n =>
        if 0 ≤ n ∧ n ≤ 18446744073709551615 then .ok (UInt64.ofNat n.toNat)
        else .error ⟨.wrongValue (.number (.whole n)) "u64", none⟩
      | none => .error ⟨.wrongType j.found "u64", none⟩ := by
  cases j with
  | number n =>
    cases n with
    | whole n =>
      change Except.map _ (if 0 ≤ n ∧ n ≤ 18446744073709551615 then _ else _) =
        if 0 ≤ n ∧ n ≤ 18446744073709551615 then _ else _
      by_cases hrange : 0 ≤ n ∧ n ≤ 18446744073709551615
      · rw [if_pos hrange, if_pos hrange]
        rfl
      · rw [if_neg hrange, if_neg hrange]
        rfl
    | double x => rfl
  | _ => rfl

theorem items_toItems {α : Type} (d : Decoder α) (items : List Json) :
    Decoder.items .value d (toItems items) = items.mapM (decode d) := by
  induction items with
  | nil => rfl
  | cons item rest ih =>
    rw [toItems, Decoder.items, ih, List.mapM_cons]
    exact congrArg (· >>= _) (placed_none _)

theorem decode_list {α : Type} (d : Decoder α) (j : Json) :
    decode d.list j = match j.items? with
      | some items => items.mapM (decode d)
      | none => .error ⟨.wrongType j.found "a sequence", none⟩ := by
  cases j with
  | array items => exact items_toItems d items
  | _ => rfl

theorem decode_optional {α : Type} {d : Decoder α} {j : Json} (h : j.isNull = false) :
    decode d.optional j = (decode d j).map some := by
  cases j with
  | null => cases h
  | _ => rfl

end TokenGovernance.Json
