import TokenGovernance.Proofs.Token.Hexadecimal
import TokenGovernance.Proofs.Token.Name
import Mathlib.Data.List.Induction

/-! # Collisions of namespaces

Two paths to one namespace give away two byte strings that are hashed alike, one from each path. The walk back
over both paths cannot run past the root of one of them, because no namespace has the identifier zero.
-/

namespace TokenGovernance.NamespaceId

/-! ## What is hashed -/

/-- The namespace of a hash, which has its highest bit set. -/
def ofHash (hash : UInt64) : NamespaceId :=
  ⟨hash ||| 0x8000000000000000⟩

/-- The namespace at the end of names. There is none for no names. -/
def ofNames? : List String → Option NamespaceId
  | [] => none
  | name :: rest => some (ofNames none name rest)

/-- A byte string is hashed on the way to the namespace of a path: it is one of the names behind the namespace of
those in front of it. -/
def Hashed (path : String) (bytes : List UInt8) : Prop :=
  ∃ front name back, TokenName.split path = front ++ name :: back ∧ bytes = preimage name (ofNames? front)

theorem ofNames?_concat (front : List String) (name : String) :
    ofNames? (front ++ [name]) = some (ofName name (ofNames? front)) := by
  cases front with
  | nil => rfl
  | cons first rest => exact congrArg some (ofNames_concat none first rest name)

theorem ofNames?_split (path : String) : ofNames? (TokenName.split path) = some (ofPath path) := by
  unfold ofPath
  cases hsplit : TokenName.split path with
  | nil => exact absurd hsplit (TokenName.split_ne_nil path)
  | cons first rest => rfl

theorem exists_hash_of_ofNames? {names : List String} {id : NamespaceId} (h : ofNames? names = some id) :
    ∃ hash, id = ofHash hash := by
  rcases List.eq_nil_or_concat names with rfl | ⟨front, name, rfl⟩
  · cases h
  · rw [List.concat_eq_append, ofNames?_concat, Option.some.injEq] at h
    exact ⟨digestWord (preimage name (ofNames? front)), h.symm⟩

theorem value_ofHash_ne_zero (hash : UInt64) : (ofHash hash).value.toNat ≠ 0 := by
  have hbit : 0x8000000000000000 ≤ (ofHash hash).value.toNat := by
    unfold ofHash
    rw [UInt64.toNat_or]
    exact Nat.right_le_or
  omega

/-! ## Preimages -/

theorem utf8_injective {s t : String} (h : Text.utf8 s = Text.utf8 t) : s = t :=
  String.toByteArray_inj.mp (ByteArray.ext (Array.toList_inj.mp h))

theorem preimage_inj {name name' : String} {parent parent' : Option NamespaceId}
    (h : preimage name parent = preimage name' parent') :
    (parent.map (·.value.toNat)).getD 0 = (parent'.map (·.value.toNat)).getD 0 ∧ name = name' := by
  have hword (p : Option NamespaceId) : (p.map (·.value.toNat)).getD 0 < 256 ^ 8 := by
    cases p with
    | none => decide
    | some id => exact id.value.toNat_lt
  unfold preimage at h
  obtain ⟨hparent, hname⟩ := List.append_inj h (by simp)
  exact ⟨toLittleEndian_inj (hword parent) (hword parent') hparent, utf8_injective hname⟩

theorem preimage_root_ne (name name' : String) (hash : UInt64) :
    preimage name none ≠ preimage name' (some (ofHash hash)) := by
  intro h
  exact value_ofHash_ne_zero hash (preimage_inj h).1.symm

theorem preimage_ofNames?_inj {name name' : String} {front front' : List String}
    (h : preimage name (ofNames? front) = preimage name' (ofNames? front')) :
    ofNames? front = ofNames? front' ∧ name = name' := by
  obtain ⟨hparent, hname⟩ := preimage_inj h
  refine ⟨?_, hname⟩
  cases hfront : ofNames? front with
  | none =>
    cases hfront' : ofNames? front' with
    | none => rfl
    | some id' =>
      obtain ⟨hash, rfl⟩ := exists_hash_of_ofNames? hfront'
      -- A root and a child differ in the parent that is hashed with the name.
      rw [hfront, hfront'] at h
      exact absurd h (preimage_root_ne name name' hash)
  | some id =>
    cases hfront' : ofNames? front' with
    | none =>
      obtain ⟨hash, rfl⟩ := exists_hash_of_ofNames? hfront
      rw [hfront, hfront'] at h
      exact absurd h.symm (preimage_root_ne name' name hash)
    | some id' =>
      rw [hfront, hfront'] at hparent
      have hvalue : id.value = id'.value := UInt64.toNat_inj.mp hparent
      exact congrArg (fun v => some (NamespaceId.mk v)) hvalue

/-! ## Collisions -/

/-- Different names with one namespace: going back from their ends, there is a first place where what is hashed
differs while its hash does not. -/
theorem exists_collision {names names' : List String} (hne : names ≠ names')
    (h : ofNames? names = ofNames? names') :
    ∃ front name back front' name' back', names = front ++ name :: back ∧ names' = front' ++ name' :: back' ∧
      preimage name (ofNames? front) ≠ preimage name' (ofNames? front') ∧
      ofName name (ofNames? front) = ofName name' (ofNames? front') := by
  induction names using List.reverseRecOn generalizing names' with
  | nil =>
    rcases List.eq_nil_or_concat names' with rfl | ⟨front', name', rfl⟩
    · exact absurd rfl hne
    · rw [List.concat_eq_append, ofNames?_concat] at h
      cases h
  | append_singleton front name ih =>
    rcases List.eq_nil_or_concat names' with rfl | ⟨front', name', rfl⟩
    · rw [ofNames?_concat] at h
      cases h
    · rw [List.concat_eq_append] at h hne ⊢
      rw [ofNames?_concat, ofNames?_concat, Option.some.injEq] at h
      by_cases hsame : preimage name (ofNames? front) = preimage name' (ofNames? front')
      · -- The last names agree, and so do the namespaces in front of them.
        obtain ⟨hfront, rfl⟩ := preimage_ofNames?_inj hsame
        have hne' : front ≠ front' := fun heq => hne (by rw [heq])
        obtain ⟨f, n, b, f', n', b', rfl, rfl, hcollision⟩ := ih hne' hfront
        exact ⟨f, n, b ++ [name], f', n', b' ++ [name], by simp, by simp, hcollision⟩
      · exact ⟨front, name, [], front', name', [], rfl, rfl, hsame, h⟩

/-- Different paths with one namespace have two different byte strings, one hashed on the way along each, with
one hash but for the highest bit. No root is hashed like a child. -/
theorem collision_of_ofPath_eq :
    (∀ p q : String, p ≠ q → ofPath p = ofPath q → ∃ x y, x ≠ y ∧ Hashed p x ∧ Hashed q y ∧
      digestWord x ||| 0x8000000000000000 = digestWord y ||| 0x8000000000000000) ∧
    ∀ (root child : String) (hash : UInt64),
      preimage root none ≠ preimage child (some ⟨hash ||| 0x8000000000000000⟩) := by
  refine ⟨?_, preimage_root_ne⟩
  intro p q hne h
  have hsplit : TokenName.split p ≠ TokenName.split q := by
    intro heq
    apply hne
    rw [← TokenName.join_split p, heq, TokenName.join_split]
  have hend : ofNames? (TokenName.split p) = ofNames? (TokenName.split q) := by
    rw [ofNames?_split, ofNames?_split, h]
  obtain ⟨front, name, back, front', name', back', hp, hq, hdiffer, hagree⟩ := exists_collision hsplit hend
  exact ⟨_, _, hdiffer, ⟨front, name, back, hp, rfl⟩, ⟨front', name', back', hq, rfl⟩,
    congrArg NamespaceId.value hagree⟩

/-! ## A sample -/

namespace Sample

/-- The namespace that a root and a child of "acme" have in common. -/
def shared : NamespaceId :=
  ⟨0x871E0A75D8EE3BA0⟩

theorem ofPath_root : ofPath "zwpbzzn237foj" = shared := by
  rw [ofPath_of_no_dot (by decide)]
  decide +kernel

theorem ofPath_child : ofPath "acme.5lyergs3u24io" = shared := by
  have hparent : ofName "acme" none = ⟨0xA151E90CE2483B36⟩ := by decide +kernel
  have hpath : "acme.5lyergs3u24io" = "acme" ++ "." ++ "5lyergs3u24io" := by decide
  rw [hpath, ofPath_append _ (by decide), ofPath_of_no_dot (by decide), hparent]
  decide +kernel

end Sample

open Sample in
/-- A root and a child may well have one namespace; then they are such a pair. -/
theorem collision_of_root_and_child :
    "zwpbzzn237foj" ≠ "acme.5lyergs3u24io" ∧ ofPath "zwpbzzn237foj" = ofPath "acme.5lyergs3u24io" ∧
    ∃ x y, x ≠ y ∧ Hashed "zwpbzzn237foj" x ∧ Hashed "acme.5lyergs3u24io" y ∧
      digestWord x ||| 0x8000000000000000 = digestWord y ||| 0x8000000000000000 := by
  have hne : "zwpbzzn237foj" ≠ "acme.5lyergs3u24io" := by decide
  have hsame : ofPath "zwpbzzn237foj" = ofPath "acme.5lyergs3u24io" := by rw [ofPath_root, ofPath_child]
  obtain ⟨hcollision, -⟩ := collision_of_ofPath_eq
  exact ⟨hne, hsame, hcollision _ _ hne hsame⟩

end TokenGovernance.NamespaceId
