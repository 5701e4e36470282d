import TokenGovernance.Proofs.Text.Hex
import TokenGovernance.Proofs.Text.Numeral
import Mathlib.Tactic.Ring

/-! # Words in digits

A word is spelled by its bytes in either order, and what is written of it is read back.
-/

namespace TokenGovernance

/-! ## Bytes -/

theorem littleEndian_toLittleEndian {n value : Nat} (h : value < 256 ^ n) :
    littleEndian (toLittleEndian n value) = value := by
  induction n generalizing value with
  | zero =>
    have hzero : value = 0 := by simpa using h
    rw [hzero]
    rfl
  | succ n ih =>
    have hrest : value / 256 < 256 ^ n := by
      apply Nat.div_lt_of_lt_mul
      rw [Nat.mul_comm, ← Nat.pow_succ]
      exact h
    have hlowest : (UInt8.ofNat (value % 256)).toNat = value % 256 := by
      rw [UInt8.toNat_ofNat', Nat.mod_eq_of_lt (by omega)]
    unfold toLittleEndian littleEndian
    rw [ih hrest, hlowest]
    omega

theorem toLittleEndian_inj {n a b : Nat} (ha : a < 256 ^ n) (hb : b < 256 ^ n)
    (h : toLittleEndian n a = toLittleEndian n b) : a = b := by
  rw [← littleEndian_toLittleEndian ha, h, littleEndian_toLittleEndian hb]

theorem littleEndian_concat (bytes : List UInt8) (b : UInt8) :
    littleEndian (bytes ++ [b]) = littleEndian bytes + 256 ^ bytes.length * b.toNat := by
  induction bytes with
  | nil => simp [littleEndian]
  | cons c rest ih =>
    rw [List.cons_append, littleEndian, ih, littleEndian, List.length_cons, Nat.pow_succ]
    ring

theorem bigEndian_cons (b : UInt8) (rest : List UInt8) :
    bigEndian (b :: rest) = 256 ^ rest.length * b.toNat + bigEndian rest := by
  unfold bigEndian
  rw [List.reverse_cons, littleEndian_concat, List.length_reverse, Nat.add_comm]

theorem bigEndian_toBigEndian {n value : Nat} (h : value < 256 ^ n) :
    bigEndian (toBigEndian n value).1 = value := by
  unfold bigEndian toBigEndian
  rw [List.reverse_reverse, littleEndian_toLittleEndian h]

/-! ## Digits -/

theorem Numeral.digit?_digit {n : Nat} (h : n < 16) : digit? 16 (Hex.digit n) = some n := by
  have hall : ∀ m < 16, digit? 16 (Hex.digit m) = some m := by decide
  exact hall n h

theorem Numeral.digits_chars {bound value : Nat} {bytes : List UInt8}
    (h : 256 ^ bytes.length * value + bigEndian bytes < bound) :
    digits 16 bound value (Hex.chars bytes) = .ok (256 ^ bytes.length * value + bigEndian bytes) := by
  induction bytes generalizing value with
  | nil =>
    have hnil : bigEndian [] = 0 := rfl
    rw [hnil, List.length_nil, Nat.pow_zero, Nat.one_mul, Nat.add_zero]
    rfl
  | cons b rest ih =>
    have hb := b.toNat_lt
    have hvalue : 256 ^ (b :: rest).length * value + bigEndian (b :: rest) =
        256 ^ rest.length * (16 * (16 * value + b.toNat / 16) + b.toNat % 16) + bigEndian rest := by
      have hsplit : 16 * (16 * value + b.toNat / 16) + b.toNat % 16 = 256 * value + b.toNat := by omega
      rw [hsplit, bigEndian_cons, List.length_cons, Nat.pow_succ]
      ring
    rw [hvalue] at h ⊢
    -- What follows only adds to the value, so neither digit takes it to the bound.
    have hpos : 0 < 256 ^ rest.length := Nat.pow_pos (by decide)
    have hlow : 16 * (16 * value + b.toNat / 16) + b.toNat % 16 < bound := by
      have hle := Nat.le_mul_of_pos_left (16 * (16 * value + b.toNat / 16) + b.toNat % 16) hpos
      omega
    rw [Hex.chars_cons, digits, digit?_digit (by omega)]
    dsimp only
    rw [if_pos (by omega), digits, digit?_digit (by omega)]
    dsimp only
    rw [if_pos hlow, ih h]

namespace Hexadecimal

theorem read_write (argument : String) (value : UInt64) : read argument (write value) = .ok value := by
  have hvalue : bigEndian (toBigEndian 8 value.toNat).1 = value.toNat := bigEndian_toBigEndian value.toNat_lt
  have hdigits : Numeral.digits 16 UInt64.size 0 (write value).toList = .ok value.toNat := by
    unfold write Hex.encode
    rw [String.toList_ofList, Numeral.digits_chars, hvalue, Nat.mul_zero, Nat.zero_add]
    rw [hvalue, Nat.mul_zero, Nat.zero_add]
    exact value.toNat_lt
  have hparse : Numeral.parse 16 UInt64.size (write value) = .ok value.toNat := by
    obtain ⟨hlength, hupper⟩ := toList_write value
    unfold Numeral.parse
    rw [← hdigits]
    -- A digit stands in front, so that no sign is taken off.
    match (write value).toList, hlength, hupper with
    | c :: rest, _, hupper =>
      apply Numeral.parseChars_cons
      rintro rfl
      exact absurd (hupper List.mem_cons_self) (by decide)
  have htrim : Text.trim (write value) = write value := Hex.trim_encode _
  unfold read
  rw [htrim, hparse]
  exact congrArg Except.ok (UInt64.ofNat_toNat)

end Hexadecimal
end TokenGovernance
