import TokenGovernance.Identity.Account
import Mathlib.Logic.ExistsUnique

/-! # Addresses of keys

An address is laid out twice, once when it is made and once when it is checked. Both agree on where the network
stands and on what the checksum is taken of.
-/

namespace TokenGovernance

def Octets.append {m n : Nat} (front : Octets m) (back : Octets n) : Octets (m + n) :=
  ⟨front.1 ++ back.1, by rw [List.length_append, front.2, back.2]⟩

theorem Network.ofByte?_eq_some {b : UInt8} {n : Network} : ofByte? b = some n ↔ b = n.byte := by
  constructor
  · intro h
    have hbyte := List.find?_some h
    exact (beq_iff_eq.mp hbyte).symm
  · rintro rfl
    exact ofByte?_byte n

namespace Address

theorem octets_ofKey (key : PublicKey) (network : Network) :
    (ofKey key network).octets.1 = network.byte :: (Sha256.hash key.octets.1).1.take 20 ++
      checksum (body key network) := rfl

theorem network?_ofKey (key : PublicKey) (network : Network) : (ofKey key network).network? = some network := by
  unfold network?
  rw [octets_ofKey]
  exact Network.ofByte?_byte network

theorem getElem?_one_ofKey (key : PublicKey) (network : Network) :
    (ofKey key network).octets.1[1]? = (Sha256.hash key.octets.1).1.head? := by
  have hlength : ((Sha256.hash key.octets.1).1.take 20).length = 20 := by
    rw [List.length_take, (Sha256.hash key.octets.1).2]
    decide
  rw [octets_ofKey, List.cons_append, List.getElem?_cons_succ, List.getElem?_append_left (by omega),
    List.getElem?_take, if_pos (by omega), List.head?_eq_getElem?]

theorem isValid_append {front : Octets 21} {tail : Octets 3} :
    isValid (front.append tail) = true ↔ (∃ network : Network, front.1.head? = some network.byte) ∧
      tail.1 = checksum front.1 := by
  obtain ⟨b, rest, hfront⟩ : ∃ b rest, front.1 = b :: rest :=
    List.exists_cons_of_length_eq_add_one front.2
  have htake : (front.1 ++ tail.1).take 21 = front.1 := List.take_left' front.2
  have hdrop : (front.1 ++ tail.1).drop 21 = tail.1 := List.drop_left' front.2
  unfold isValid Octets.append
  dsimp only
  rw [htake, hdrop, Bool.and_eq_true, beq_iff_eq, Option.isSome_iff_exists, hfront]
  simp only [List.cons_append, List.head?_cons, Option.bind_some, Option.some.injEq, Network.ofByte?_eq_some]

theorem existsUnique_tail_iff {front : Octets 21} :
    (∃! tail : Octets 3, isValid (front.append tail) = true) ↔
      ∃ network : Network, front.1.head? = some network.byte := by
  constructor
  · rintro ⟨tail, hvalid, -⟩
    exact (isValid_append.mp hvalid).1
  · intro h
    refine ⟨⟨checksum front.1, length_checksum _⟩, isValid_append.mpr ⟨h, rfl⟩, ?_⟩
    intro tail hvalid
    exact Subtype.ext (isValid_append.mp hvalid).2

/-! ## Order -/

theorem octets_inj {a b : Address} : a.octets.1 = b.octets.1 ↔ a = b := by
  refine ⟨fun h => ?_, fun h => h ▸ rfl⟩
  obtain ⟨octets, _⟩ := a
  obtain ⟨octets', _⟩ := b
  obtain rfl : octets = octets' := Subtype.ext h
  rfl

instance : LE Address :=
  ⟨fun a b => a.octets.1 ≤ b.octets.1⟩

instance : Std.LawfulOrderLT Address where
  lt_iff a b := Std.LawfulOrderLT.lt_iff a.octets.1 b.octets.1

instance : Std.IsLinearOrder Address where
  le_refl a := Std.le_refl (a := a.octets.1)
  le_trans _ _ _ hab hbc := Std.le_trans (α := List UInt8) hab hbc
  le_antisymm _ _ hab hba := octets_inj.mp (Std.le_antisymm (α := List UInt8) hab hba)
  le_total a b := Std.le_total (a := a.octets.1) (b := b.octets.1)

end Address
end TokenGovernance
