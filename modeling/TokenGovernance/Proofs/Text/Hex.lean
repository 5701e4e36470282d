import TokenGovernance.Proofs.Outcome
import TokenGovernance.Proofs.Text.Blank
import TokenGovernance.Token.Identifier

/-! # Hexadecimal digits

Bytes are written in upper-case digits, two for each, and read from exactly these digits in any mix of cases.
-/

namespace TokenGovernance

namespace Hex

open Outcome

/-! ## Writing -/

/-- The upper-case digits in their order. -/
def upperDigits : List Char :=
  "0123456789ABCDEF".toList

theorem digit_mem_upperDigits {n : Nat} (h : n < 16) : digit n ∈ upperDigits := by
  have all : ∀ m < 16, digit m ∈ upperDigits := by decide
  exact all n h

theorem exists_digit {c : Char} (h : c ∈ upperDigits) : ∃ n < 16, digit n = c := by
  have hlisted : upperDigits = (List.range 16).map digit := by decide
  rw [hlisted] at h
  obtain ⟨n, hn, rfl⟩ := List.mem_map.mp h
  exact ⟨n, List.mem_range.mp hn, rfl⟩

theorem length_chars (bytes : List UInt8) : (chars bytes).length = 2 * bytes.length := by
  induction bytes with
  | nil => rfl
  | cons b rest ih =>
    unfold chars at ih ⊢
    rw [List.flatMap_cons, List.length_append, ih, List.length_cons]
    simp only [List.length_cons, List.length_nil]
    omega

theorem chars_subset_upperDigits (bytes : List UInt8) : chars bytes ⊆ upperDigits := by
  intro c hc
  unfold chars at hc
  obtain ⟨b, -, hc⟩ := List.mem_flatMap.mp hc
  have hb := b.toNat_lt
  simp only [List.mem_cons, List.not_mem_nil, or_false] at hc
  rcases hc with rfl | rfl
  · exact digit_mem_upperDigits (by omega)
  · exact digit_mem_upperDigits (by omega)

/-! ## Reading -/

/-- The character of a byte in upper case. -/
def upper (b : UInt8) : Char :=
  (Char.ofNat b.toNat).toUpper

theorem value?_lt {b : UInt8} {n : Nat} (h : value? b = some n) : n < 16 := by
  unfold value? at h
  simp only [show '0'.toNat = 48 from rfl, show '9'.toNat = 57 from rfl, show 'A'.toNat = 65 from rfl,
    show 'F'.toNat = 70 from rfl, show 'a'.toNat = 97 from rfl, show 'f'.toNat = 102 from rfl] at h
  split at h
  · obtain rfl := Option.some.inj h
    omega
  · split at h
    · obtain rfl := Option.some.inj h
      omega
    · split at h
      · obtain rfl := Option.some.inj h
        omega
      · cases h

theorem value?_eq_some_iff {b : UInt8} {n : Nat} : value? b = some n ↔ n < 16 ∧ upper b = digit n := by
  have hall : ∀ m < 256, ∀ n < 16, value? (.ofNat m) = some n ↔ upper (.ofNat m) = digit n := by
    decide +kernel
  have hb := hall b.toNat b.toNat_lt
  rw [UInt8.ofNat_toNat] at hb
  constructor
  · intro h
    exact ⟨value?_lt h, (hb n (value?_lt h)).mp h⟩
  · rintro ⟨hn, h⟩
    exact (hb n hn).mpr h

theorem valueAt_eq_ok {position n : Nat} {b : UInt8} :
    valueAt position b = .ok n ↔ n < 16 ∧ upper b = digit n := by
  rw [← value?_eq_some_iff]
  unfold valueAt
  cases value? b with
  | none => simp
  | some m => simp

theorem chars_cons (b : UInt8) (rest : List UInt8) :
    chars (b :: rest) = digit (b.toNat / 16) :: digit (b.toNat % 16) :: chars rest :=
  List.flatMap_cons

theorem digits_of_byte {h l : Nat} (hh : h < 16) (hl : l < 16) :
    (UInt8.ofNat (16 * h + l)).toNat / 16 = h ∧ (UInt8.ofNat (16 * h + l)).toNat % 16 = l := by
  rw [UInt8.toNat_ofNat', Nat.mod_eq_of_lt (by omega)]
  omega

theorem byte_of_digits (b : UInt8) : UInt8.ofNat (16 * (b.toNat / 16) + b.toNat % 16) = b := by
  rw [Nat.div_add_mod, UInt8.ofNat_toNat]

theorem pairs_eq_ok_iff (position : Nat) {text bytes : List UInt8} :
    text.length % 2 = 0 ∧ pairs position text = .ok bytes ↔ text.map upper = chars bytes := by
  -- Two digits make a byte, so the text is taken apart by pairs.
  fun_induction pairs position text generalizing bytes with
  | case1 position high low rest ih =>
    have heven : (high :: low :: rest).length % 2 = 0 ↔ rest.length % 2 = 0 := by
      rw [List.length_cons, List.length_cons]
      omega
    simp only [heven, bind_eq_ok, valueAt_eq_ok, pure_eq, Except.ok.injEq, List.map_cons]
    constructor
    · rintro ⟨hrest, h, ⟨hh, hhigh⟩, l, ⟨hl, hlow⟩, bytes, hbytes, rfl⟩
      obtain ⟨hdiv, hmod⟩ := digits_of_byte hh hl
      rw [chars_cons, hdiv, hmod, hhigh, hlow, ih.mp ⟨hrest, hbytes⟩]
    · intro heq
      cases bytes with
      | nil => cases heq
      | cons b bytes =>
        rw [chars_cons, List.cons.injEq, List.cons.injEq] at heq
        obtain ⟨hhigh, hlow, hbytes⟩ := heq
        obtain ⟨hrest, hbytes⟩ := ih.mpr hbytes
        have hb := b.toNat_lt
        exact ⟨hrest, b.toNat / 16, ⟨by omega, hhigh⟩, b.toNat % 16, ⟨by omega, hlow⟩, bytes, hbytes,
          by rw [byte_of_digits]⟩
  | case2 text position hshort =>
    cases text with
    | nil =>
      cases bytes with
      | nil => exact iff_of_true ⟨rfl, rfl⟩ rfl
      | cons b bytes => exact iff_of_false nofun nofun
    | cons b rest =>
      cases rest with
      | nil =>
        refine iff_of_false nofun fun heq => ?_
        have hlength := congrArg List.length heq
        rw [length_chars, List.length_map] at hlength
        change 1 = _ at hlength
        omega
      | cons low rest => exact (hshort b low rest rfl).elim

/-! ## Texts -/

theorem ascii_of_toUpper_mem {c : Char} (h : c.toUpper ∈ upperDigits) : c.toNat < 128 := by
  have hdigits : ∀ n < 16, (digit n).toNat < 128 := by decide
  by_cases hlower : 'a'.val ≤ c.val ∧ c.val ≤ 'z'.val
  · have hz : c.toNat ≤ 'z'.toNat := UInt32.le_iff_toNat_le.mp hlower.2
    exact Nat.lt_of_le_of_lt hz (by decide)
  · have hsame : c.toUpper = c := dif_neg hlower
    rw [hsame] at h
    obtain ⟨n, hn, rfl⟩ := exists_digit h
    exact hdigits n hn

theorem upper_ofNat {c : Char} (h : c.toNat < 128) : upper (.ofNat c.toNat) = c.toUpper := by
  unfold upper
  rw [UInt8.toNat_ofNat', Nat.mod_eq_of_lt (by omega), Char.ofNat_toNat]

theorem ascii_of_upper_mem {b : UInt8} (h : upper b ∈ upperDigits) : b.toNat < 128 := by
  have hall : ∀ m < 256, upper (.ofNat m) ∈ upperDigits → m < 128 := by decide +kernel
  apply hall b.toNat b.toNat_lt
  rw [UInt8.ofNat_toNat]
  exact h

theorem map_upper_utf8 {s : String} (h : ∀ c ∈ s.toList, c.toNat < 128) :
    (Text.utf8 s).map upper = s.toList.map Char.toUpper := by
  rw [Text.utf8_of_ascii h, List.map_map]
  exact List.map_congr_left fun c hc => upper_ofNat (h c hc)

theorem toUpper_eq_encode_iff {s : String} {bytes : List UInt8} :
    s.toUpper = encode bytes ↔ s.toList.map Char.toUpper = chars bytes := by
  unfold encode
  rw [String.toUpper, ← String.toList_inj, String.toList_map, String.toList_ofList]

/-- A text is read as bytes exactly if it spells their digits, in any mix of cases. -/
theorem decode_eq_ok_iff {s : String} {bytes : List UInt8} :
    decode s = .ok bytes ↔ s.toUpper = encode bytes := by
  have hdecode : decode s = .ok bytes ↔ (Text.utf8 s).map upper = chars bytes := by
    rw [← pairs_eq_ok_iff 0]
    unfold decode Text.utf8Length
    rw [refuse_eq_ok, Nat.mod_two_not_eq_one]
  have hdigits := chars_subset_upperDigits bytes
  rw [hdecode, toUpper_eq_encode_iff]
  -- On either side there are digits only, which are ASCII, so that bytes and characters are the same.
  constructor
  · intro h
    have hbytes : ∀ b ∈ Text.utf8 s, b.toNat < 128 := by
      intro b hb
      apply ascii_of_upper_mem
      apply hdigits
      rw [← h]
      exact List.mem_map_of_mem hb
    rw [← map_upper_utf8 (Text.ascii_of_utf8 hbytes), h]
  · intro h
    have hchars : ∀ c ∈ s.toList, c.toNat < 128 := by
      intro c hc
      apply ascii_of_toUpper_mem
      apply hdigits
      rw [← h]
      exact List.mem_map_of_mem hc
    rw [map_upper_utf8 hchars, h]

theorem toUpper_encode (bytes : List UInt8) : (encode bytes).toUpper = encode bytes := by
  have hdigits : ∀ n < 16, (digit n).toUpper = digit n := by decide
  have hsame : ∀ c ∈ chars bytes, c.toUpper = c := by
    intro c hc
    obtain ⟨n, hn, rfl⟩ := exists_digit (chars_subset_upperDigits bytes hc)
    exact hdigits n hn
  rw [toUpper_eq_encode_iff]
  unfold encode
  rw [String.toList_ofList]
  calc (chars bytes).map Char.toUpper
    _ = (chars bytes).map id := List.map_congr_left hsame
    _ = chars bytes := List.map_id _

theorem encode_inj {bytes bytes' : List UInt8} (h : encode bytes = encode bytes') : bytes = bytes' := by
  have hdecode : decode (encode bytes) = .ok bytes := decode_eq_ok_iff.mpr (toUpper_encode bytes)
  have hdecode' : decode (encode bytes) = .ok bytes' := decode_eq_ok_iff.mpr ((toUpper_encode bytes).trans h)
  exact Except.ok.inj (hdecode.symm.trans hdecode')

theorem toUpper_lowerChars (bytes : List UInt8) :
    ((chars bytes).map Char.toLower).map Char.toUpper = chars bytes := by
  have hdigits : ∀ n < 16, (digit n).toLower.toUpper = digit n := by decide
  have hsame : ∀ c ∈ chars bytes, c.toLower.toUpper = c := by
    intro c hc
    obtain ⟨n, hn, rfl⟩ := exists_digit (chars_subset_upperDigits bytes hc)
    exact hdigits n hn
  calc ((chars bytes).map Char.toLower).map Char.toUpper
    _ = (chars bytes).map fun c => c.toLower.toUpper := List.map_map
    _ = (chars bytes).map id := List.map_congr_left hsame
    _ = chars bytes := List.map_id _

theorem encodeLower_inj {bytes bytes' : List UInt8} (h : encodeLower bytes = encodeLower bytes') :
    bytes = bytes' := by
  have hlower : (chars bytes).map Char.toLower = (chars bytes').map Char.toLower := String.ofList_inj.mp h
  have hchars : chars bytes = chars bytes' := by
    rw [← toUpper_lowerChars bytes, hlower, toUpper_lowerChars]
  exact encode_inj (congrArg String.ofList hchars)

theorem trim_of_toUpper {s : String} {bytes : List UInt8} (h : s.toUpper = encode bytes) : Text.trim s = s := by
  have hblank : ∀ n < 128, (Char.ofNat n).toUpper ∈ upperDigits → Text.isBlank (.ofNat n) = false := by
    decide +kernel
  apply Text.trim_eq_self
  intro c hc
  have hdigit : c.toUpper ∈ upperDigits := by
    apply chars_subset_upperDigits bytes
    rw [← toUpper_eq_encode_iff.mp h]
    exact List.mem_map_of_mem hc
  exact Text.forall_ascii (fun c => c.toUpper ∈ upperDigits → Text.isBlank c = false) hblank
    (ascii_of_toUpper_mem hdigit) hdigit

theorem trim_encode (bytes : List UInt8) : Text.trim (encode bytes) = encode bytes :=
  trim_of_toUpper (toUpper_encode bytes)

theorem exists_chars : ∀ {cs : List Char}, cs.length % 2 = 0 → cs ⊆ upperDigits → ∃ bytes, chars bytes = cs
  | [], _, _ => ⟨[], rfl⟩
  | [_], hodd, _ => absurd hodd Nat.one_ne_zero
  | high :: low :: rest, heven, hdigits => by
    obtain ⟨hhigh, hdigits⟩ := List.cons_subset.mp hdigits
    obtain ⟨hlow, hrestDigits⟩ := List.cons_subset.mp hdigits
    obtain ⟨h, hh, rfl⟩ := exists_digit hhigh
    obtain ⟨l, hl, rfl⟩ := exists_digit hlow
    have hrest : rest.length % 2 = 0 := by
      rw [List.length_cons, List.length_cons] at heven
      omega
    obtain ⟨bytes, rfl⟩ := exists_chars hrest hrestDigits
    obtain ⟨hdiv, hmod⟩ := digits_of_byte hh hl
    exact ⟨UInt8.ofNat (16 * h + l) :: bytes, by rw [chars_cons, hdiv, hmod]⟩

theorem exists_octets {n : Nat} {cs : List Char} (hlength : cs.length = 2 * n)
    (hdigits : ∀ c ∈ cs, c.toUpper ∈ upperDigits) : ∃ octets : Octets n, cs.map Char.toUpper = chars octets.1 := by
  have hupper : cs.map Char.toUpper ⊆ upperDigits := by
    intro d hd
    obtain ⟨c, hc, rfl⟩ := List.mem_map.mp hd
    exact hdigits c hc
  obtain ⟨bytes, hbytes⟩ := exists_chars (by rw [List.length_map]; omega) hupper
  have hcount := congrArg List.length hbytes
  rw [length_chars, List.length_map] at hcount
  exact ⟨⟨bytes, by omega⟩, hbytes.symm⟩

end Hex

theorem Octets.ofList?_eq_some_iff {n : Nat} {bytes : List UInt8} {o : Octets n} :
    ofList? n bytes = some o ↔ bytes = o.1 := by
  obtain ⟨wanted, hwanted⟩ := o
  unfold ofList?
  by_cases h : bytes.length = n
  · simp [h]
  · have hne : bytes ≠ wanted := fun heq => h (heq ▸ hwanted)
    simp [h, hne]

theorem readOctets_eq_ok {argument : String} {n : Nat} {s : String} {o : Octets n} :
    readOctets argument n s = .ok o ↔ (Text.trim s).toUpper = Hex.encode o.1 := by
  rw [← Hex.decode_eq_ok_iff]
  unfold readOctets
  cases Hex.decode (Text.trim s) with
  | error fault => simp
  | ok bytes =>
    rw [Except.ok.injEq, ← Octets.ofList?_eq_some_iff]
    dsimp only
    cases Octets.ofList? n bytes with
    | none => simp
    | some found => simp

theorem Hexadecimal.toList_write (value : UInt64) :
    (write value).toList.length = 16 ∧ (write value).toList ⊆ Hex.upperDigits := by
  unfold write Hex.encode
  rw [String.toList_ofList]
  refine ⟨?_, Hex.chars_subset_upperDigits _⟩
  rw [Hex.length_chars, (toBigEndian 8 value.toNat).2]

end TokenGovernance
