import TokenGovernance.Proofs.Text.Hex
import TokenGovernance.Proofs.Text.Numeral

/-! # Digits that spell bytes

Two digits spell a byte, as the number that they are. What is read of a text are the bytes that it spells, and texts
that are written of bytes have the order of the bytes.
-/

namespace TokenGovernance.Hex

variable {c : Char} {cs : List Char} {bytes bytes' : List UInt8} {text : String}

/-- As many digits as said, of either case. -/
def Digits (count : Nat) (text : String) : Prop :=
  text.toList.length = count ∧ ∀ c ∈ text.toList, c ∈ "0123456789ABCDEFabcdef".toList

/-- Characters that are the digits of bytes, two for each. -/
inductive Spells : List Char → List UInt8 → Prop
  | nil : Spells [] []
  | cons {high low : Char} {b : UInt8} {cs : List Char} {bytes : List UInt8}
      (hbyte : Numeral.Digits 16 [high, low] b.toNat) (hrest : Spells cs bytes) : Spells (high :: low :: cs) (b :: bytes)

/-! ## Digits -/

theorem mem_digits_iff : c ∈ "0123456789ABCDEFabcdef".toList ↔ c.toUpper ∈ upperDigits := by
  have hall : ∀ n < 128, Char.ofNat n ∈ "0123456789ABCDEFabcdef".toList ↔ (Char.ofNat n).toUpper ∈ upperDigits := by
    decide +kernel
  have hascii : ∀ d ∈ "0123456789ABCDEFabcdef".toList, d.toNat < 128 := by simp
  constructor
  · intro h
    exact (Text.forall_ascii (fun c => c ∈ "0123456789ABCDEFabcdef".toList ↔ c.toUpper ∈ upperDigits) hall
      (hascii c h)).mp h
  · intro h
    exact (Text.forall_ascii (fun c => c ∈ "0123456789ABCDEFabcdef".toList ↔ c.toUpper ∈ upperDigits) hall
      (ascii_of_toUpper_mem h)).mpr h

theorem ascii_of_digit? {n : Nat} (h : Numeral.digit? 16 c = some n) : c.toNat < 128 ∧ n < 16 := by
  unfold Numeral.digit? at h
  dsimp only at h
  obtain ⟨hvalue, hlt⟩ := Option.filter_eq_some_iff.mp h
  refine ⟨?_, of_decide_eq_true hlt⟩
  split at hvalue
  next hc => exact Text.ascii_of_le hc.2 (by decide)
  next =>
    split at hvalue
    next hc => exact Text.ascii_of_le hc.2 (by decide)
    next =>
      split at hvalue
      next hc => exact Text.ascii_of_le hc.2 (by decide)
      next => cases hvalue

theorem digit?_sixteen {n : Nat} : Numeral.digit? 16 c = some n ↔ n < 16 ∧ c.toUpper = digit n := by
  have hall : ∀ m < 128, ∀ n < 16, Numeral.digit? 16 (.ofNat m) = some n ↔ (Char.ofNat m).toUpper = digit n := by
    decide +kernel
  have hascii (hn : n < 16) (hc : c.toNat < 128) : Numeral.digit? 16 c = some n ↔ c.toUpper = digit n := by
    have hcode := hall c.toNat hc n hn
    rwa [Char.ofNat_toNat] at hcode
  constructor
  · intro h
    obtain ⟨hc, hn⟩ := ascii_of_digit? h
    exact ⟨hn, (hascii hn hc).mp h⟩
  · rintro ⟨hn, h⟩
    have hmem : c.toUpper ∈ upperDigits := h ▸ digit_mem_upperDigits hn
    exact (hascii hn (ascii_of_toUpper_mem hmem)).mpr h

theorem digits_byte {high low : Char} {b : UInt8} : Numeral.Digits 16 [high, low] b.toNat ↔
    high.toUpper = digit (b.toNat / 16) ∧ low.toUpper = digit (b.toNat % 16) := by
  have hb := b.toNat_lt
  constructor
  · rintro ⟨ds, hds, hn⟩
    obtain ⟨h, ds, rfl, hhigh, hds⟩ := List.map_eq_cons_iff.mp hds.symm
    obtain ⟨l, ds, rfl, hlow, hds⟩ := List.map_eq_cons_iff.mp hds
    obtain rfl := List.map_eq_nil_iff.mp hds
    obtain ⟨hh, hhigh⟩ := digit?_sixteen.mp hhigh.symm
    obtain ⟨hl, hlow⟩ := digit?_sixteen.mp hlow.symm
    have hvalue : 16 * (16 * 0 + h) + l = b.toNat := hn
    have hdiv : b.toNat / 16 = h := by omega
    have hmod : b.toNat % 16 = l := by omega
    rw [hdiv, hmod]
    exact ⟨hhigh, hlow⟩
  · rintro ⟨hhigh, hlow⟩
    have hdigits : Numeral.digit? 16 high = some (b.toNat / 16) ∧ Numeral.digit? 16 low = some (b.toNat % 16) :=
      ⟨digit?_sixteen.mpr ⟨by omega, hhigh⟩, digit?_sixteen.mpr ⟨by omega, hlow⟩⟩
    have hvalue : 16 * (16 * 0 + b.toNat / 16) + b.toNat % 16 = b.toNat := by omega
    exact ⟨[b.toNat / 16, b.toNat % 16], by simp [hdigits], hvalue⟩

/-! ## Texts -/

theorem spells_iff : Spells cs bytes ↔ cs.map Char.toUpper = chars bytes := by
  constructor
  · intro h
    induction h with
    | nil => rfl
    | cons hbyte _ ih =>
      obtain ⟨hhigh, hlow⟩ := digits_byte.mp hbyte
      rw [List.map_cons, List.map_cons, ih, hhigh, hlow, chars_cons]
  · intro h
    induction bytes generalizing cs with
    | nil =>
      obtain rfl := List.map_eq_nil_iff.mp h
      exact .nil
    | cons b bytes ih =>
      rw [chars_cons] at h
      obtain ⟨high, cs, rfl, hhigh, h⟩ := List.map_eq_cons_iff.mp h
      obtain ⟨low, cs, rfl, hlow, h⟩ := List.map_eq_cons_iff.mp h
      exact .cons (digits_byte.mpr ⟨hhigh, hlow⟩) (ih h)

theorem spells_iff_toUpper : Spells text.toList bytes ↔ text.toUpper = encode bytes := by
  rw [spells_iff, toUpper_eq_encode_iff]

theorem digits_iff {n : Nat} : Digits (2 * n) text ↔ ∃ octets : Octets n, Spells text.toList octets.1 := by
  simp only [Digits, mem_digits_iff, spells_iff]
  constructor
  · rintro ⟨hlength, hdigits⟩
    exact exists_octets hlength hdigits
  · rintro ⟨octets, h⟩
    have hcount := congrArg List.length h
    rw [length_chars, List.length_map, octets.2] at hcount
    refine ⟨hcount, fun c hc => ?_⟩
    apply chars_subset_upperDigits octets.1
    rw [← h]
    exact List.mem_map_of_mem hc

/-! ## Order -/

theorem digit_lt_digit {m n : Nat} (hm : m < 16) (hn : n < 16) : digit m < digit n ↔ m < n := by
  have hall : ∀ m < 16, ∀ n < 16, digit m < digit n ↔ m < n := by decide
  exact hall m hm n hn

theorem digit_inj {m n : Nat} (hm : m < 16) (hn : n < 16) : digit m = digit n ↔ m = n := by
  have hall : ∀ m < 16, ∀ n < 16, digit m = digit n ↔ m = n := by decide
  exact hall m hm n hn

theorem chars_lt_chars : chars bytes < chars bytes' ↔ bytes < bytes' := by
  induction bytes generalizing bytes' with
  | nil =>
    cases bytes' with
    | nil => exact iff_of_false (List.lt_irrefl _) (List.lt_irrefl _)
    | cons b' rest' => exact iff_of_true (List.nil_lt_cons _ _) (List.nil_lt_cons _ _)
  | cons b rest ih =>
    cases bytes' with
    | nil => exact iff_of_false (List.not_lt_nil _) (List.not_lt_nil _)
    | cons b' rest' =>
      have hb := b.toNat_lt
      have hb' := b'.toNat_lt
      rw [chars_cons, chars_cons, List.cons_lt_cons_iff, List.cons_lt_cons_iff, List.cons_lt_cons_iff, ih,
        digit_lt_digit (by omega) (by omega), digit_lt_digit (by omega) (by omega), digit_inj (by omega) (by omega),
        digit_inj (by omega) (by omega), UInt8.lt_iff_toNat_lt, ← UInt8.toNat_inj]
      -- A byte is its two halves, of which the high one comes first.
      constructor
      · rintro (hhigh | ⟨hhigh, hlow | ⟨hlow, hrest⟩⟩)
        · exact .inl (by omega)
        · exact .inl (by omega)
        · exact .inr ⟨by omega, hrest⟩
      · rintro (hlt | ⟨heq, hrest⟩)
        · omega
        · exact .inr ⟨by omega, .inr ⟨by omega, hrest⟩⟩

theorem encode_lt_encode : encode bytes < encode bytes' ↔ bytes < bytes' := by
  unfold encode
  rw [String.lt_iff, String.toList_ofList, String.toList_ofList, chars_lt_chars]

end TokenGovernance.Hex
