import TokenGovernance.Proofs.Text.Digits
import TokenGovernance.Proofs.Token.Hexadecimal
import TokenGovernance.Token.Namespace
import Mathlib.Data.Nat.Digits.Defs

/-! # Identifiers in digits

An identifier is written in sixteen digits. It is read from every numeral for it, with any zeros in front, in either
case and with a plus or without. Nothing else is read: what is no numeral is refused, and so is the numeral for a number
that no word holds.
-/

namespace TokenGovernance

/-! ## Numerals -/

namespace Hex

/-- The place of a digit, of either case, among the sixteen. -/
def place (c : Char) : Nat :=
  upperDigits.idxOf c.toUpper

/-- The number that digits stand for, most significant digit first. -/
def number (cs : List Char) : Nat :=
  Nat.ofDigits 16 (cs.reverse.map place)

/-- A text that is a numeral for a number: one digit or more of either case, and maybe a plus in front of them. -/
def IsNumeral (text : String) (n : Nat) : Prop :=
  ∃ cs, cs ≠ [] ∧ (∀ c ∈ cs, c ∈ "0123456789ABCDEFabcdef".toList) ∧ (text.toList = cs ∨ text.toList = '+' :: cs) ∧
    number cs = n

variable {c : Char} {cs : List Char} {text : String} {d n : Nat}

theorem place_of_toUpper (hd : d < 16) (h : c.toUpper = digit d) : place c = d := by
  have hall : ∀ d < 16, upperDigits.idxOf (digit d) = d := by decide
  unfold place
  rw [h, hall d hd]

theorem digit?_eq_some : Numeral.digit? 16 c = some d ↔ c ∈ "0123456789ABCDEFabcdef".toList ∧ place c = d := by
  rw [digit?_sixteen, mem_digits_iff]
  constructor
  · rintro ⟨hd, h⟩
    exact ⟨h ▸ digit_mem_upperDigits hd, place_of_toUpper hd h⟩
  · rintro ⟨hmem, rfl⟩
    obtain ⟨d, hd, h⟩ := exists_digit hmem
    rw [place_of_toUpper hd h.symm]
    exact ⟨hd, h.symm⟩

theorem spelled_place (cs : List Char) : Numeral.spelled 16 0 (cs.map place) = number cs := by
  unfold Numeral.spelled number
  rw [Nat.ofDigits_eq_foldr, ← List.foldr_reverse, List.map_reverse]
  simp only [Nat.cast_id, Nat.add_comm]

theorem spells_iff_isNumeral : Numeral.Spells 16 text n ↔ IsNumeral text n := by
  simp only [Numeral.Spells, IsNumeral, Numeral.digits_iff fun _ _ => digit?_eq_some, spelled_place]
  constructor
  · rintro ⟨cs, hne, htext, hdigits, hn⟩
    exact ⟨cs, hne, hdigits, htext, hn⟩
  · rintro ⟨cs, hne, hdigits, htext, hn⟩
    exact ⟨cs, hne, htext, hdigits, hn⟩

theorem IsNumeral.mem (h : IsNumeral text n) (hc : c ∈ text.toList) :
    c = '+' ∨ c ∈ "0123456789ABCDEFabcdef".toList := by
  obtain ⟨cs, -, hdigits, htext | htext, -⟩ := h
  · exact .inr (hdigits c (htext ▸ hc))
  · rw [htext] at hc
    exact (List.mem_cons.mp hc).imp_right (hdigits c)

theorem nonblank_of_mem (h : c ∈ "0123456789ABCDEFabcdef".toList) : Text.isBlank c = false := by
  have hall : ("0123456789ABCDEFabcdef".toList.all fun c => !Text.isBlank c) = true := by decide
  exact (Bool.not_eq_true' _).mp (List.all_eq_true.mp hall c h)

theorem number_zeros (k : Nat) (cs : List Char) : number (List.replicate k '0' ++ cs) = number cs := by
  have hzero : place '0' = 0 := by decide
  unfold number
  rw [List.reverse_append, List.map_append, List.reverse_replicate, List.map_replicate, hzero,
    Nat.ofDigits_append_replicate_zero]

end Hex

/-! ## Words -/

/-- A result that refuses an argument for what is wrong with it as a numeral. -/
def RefusesNumeral {α : Type} (argument : String) (result : Except Refusal α) : Prop :=
  ∃ fault, result = .error (.invalidArgument argument (.numeral fault))

theorem RefusesNumeral.map {α β : Type} {argument : String} {result : Except Refusal α}
    (h : RefusesNumeral argument result) (f : α → β) : RefusesNumeral argument (result.map f) := by
  obtain ⟨fault, rfl⟩ := h
  exact ⟨fault, rfl⟩

namespace Hexadecimal

open Hex

variable {argument text : String} {value : UInt64} {n : Nat} {c : Char}

theorem parse_eq_ok : Numeral.parse 16 UInt64.size text = .ok n ↔ IsNumeral text n ∧ n < UInt64.size := by
  rw [Numeral.parse_eq_ok (by decide) (by decide), spells_iff_isNumeral]

theorem read_eq_ok : read argument text = .ok value ↔ IsNumeral (Text.trim text) value.toNat := by
  have hparse : IsNumeral (Text.trim text) value.toNat ↔
      Numeral.parse 16 UInt64.size (Text.trim text) = .ok value.toNat := by
    rw [parse_eq_ok, and_iff_left value.toNat_lt]
  rw [hparse]
  unfold read
  cases hread : Numeral.parse 16 UInt64.size (Text.trim text) with
  | error fault => exact iff_of_false nofun nofun
  | ok n =>
    have hn : (UInt64.ofNat n).toNat = n := UInt64.toNat_ofNat_of_lt' (parse_eq_ok.mp hread).2
    rw [Except.ok.injEq, Except.ok.injEq, ← UInt64.toNat_inj, hn]

theorem exists_read_iff :
    (∃ value, read argument text = .ok value) ↔ ∃ n < UInt64.size, IsNumeral (Text.trim text) n := by
  simp only [read_eq_ok]
  constructor
  · rintro ⟨value, h⟩
    exact ⟨_, value.toNat_lt, h⟩
  · rintro ⟨n, hn, h⟩
    refine ⟨.ofNat n, ?_⟩
    rw [UInt64.toNat_ofNat_of_lt' hn]
    exact h

theorem refuses_of_not_numeral (h : ∀ value : UInt64, ¬ IsNumeral (Text.trim text) value.toNat) :
    RefusesNumeral argument (read argument text) := by
  cases hread : read argument text with
  | ok value => exact absurd (read_eq_ok.mp hread) (h value)
  | error e =>
    unfold read at hread
    split at hread
    next => cases hread
    next fault _ => exact ⟨fault, congrArg Except.error (Except.error.inj hread).symm⟩

theorem read_of_le (h : IsNumeral (Text.trim text) n) (hn : UInt64.size ≤ n) :
    read argument text = .error (.invalidArgument argument (.numeral .tooLarge)) := by
  unfold read
  rw [Numeral.parse_eq_tooLarge (by decide) (spells_iff_isNumeral.mpr h) hn]

theorem read_plus (h : Text.trim text = "+") :
    read argument text = .error (.invalidArgument argument (.numeral .notADigit)) := by
  unfold read
  rw [h]
  rfl

theorem refuses_of_mem_trim (hc : c ∈ (Text.trim text).toList) (hplus : c ≠ '+')
    (hdigit : c ∉ "0123456789ABCDEFabcdef".toList) : RefusesNumeral argument (read argument text) := by
  refine refuses_of_not_numeral fun value h => ?_
  rcases h.mem hc with hsame | hmem
  · exact hplus hsame
  · exact hdigit hmem

theorem refuses_of_stray (hc : c ∈ text.toList) (hblank : Text.isBlank c = false) (hplus : c ≠ '+')
    (hdigit : c ∉ "0123456789ABCDEFabcdef".toList) : RefusesNumeral argument (read argument text) :=
  refuses_of_mem_trim (Text.mem_trim_of_not hc hblank) hplus hdigit

theorem refuses_of_parted (hc : c ∈ (Text.trim text).toList) (hblank : Text.isBlank c = true) :
    RefusesNumeral argument (read argument text) := by
  refine refuses_of_mem_trim hc ?_ fun hdigit => ?_
  · rintro rfl
    cases hblank
  · rw [nonblank_of_mem hdigit] at hblank
    cases hblank

/-! ## What is written -/

theorem mem_digits_of_mem_write (hc : c ∈ (write value).toList) : c ∈ "0123456789ABCDEFabcdef".toList := by
  have hupper : (upperDigits.all fun c => "0123456789ABCDEFabcdef".toList.contains c) = true := by decide
  exact List.contains_iff_mem.mp (List.all_eq_true.mp hupper c ((toList_write value).2 hc))

theorem number_write (value : UInt64) : number (write value).toList = value.toNat := by
  have hread := read_eq_ok.mp (read_write "" value)
  have htrim : Text.trim (write value) = write value := Hex.trim_encode _
  rw [htrim] at hread
  obtain ⟨cs, -, -, htext | htext, hnumber⟩ := hread
  · rw [htext, hnumber]
  · have hplus : '+' ∈ (write value).toList := htext ▸ List.mem_cons_self
    exact absurd (mem_digits_of_mem_write hplus) (by decide)

theorem read_zeros (zeros : Nat) (value : UInt64) :
    read argument (.ofList (List.replicate zeros '0' ++ (write value).toList)) = .ok value := by
  have hdigits : ∀ c ∈ List.replicate zeros '0' ++ (write value).toList, c ∈ "0123456789ABCDEFabcdef".toList := by
    intro c hc
    rcases List.mem_append.mp hc with hc | hc
    · rw [List.eq_of_mem_replicate hc]
      decide
    · exact mem_digits_of_mem_write hc
  have hne : List.replicate zeros '0' ++ (write value).toList ≠ [] := by
    intro h
    have hlength := (toList_write value).1
    rw [(List.append_eq_nil_iff.mp h).2] at hlength
    cases hlength
  rw [read_eq_ok, Text.trim_eq_self]
  · exact ⟨_, hne, hdigits, .inl String.toList_ofList, (number_zeros zeros _).trans (number_write value)⟩
  · rw [String.toList_ofList]
    exact fun c hc => nonblank_of_mem (hdigits c hc)

end Hexadecimal

/-! ## Identifiers -/

section

variable {α : Type}

/-- Identifiers that stand for the words, each written in sixteen digits and read from the numerals for it. All other
texts are refused as an argument of the name given. -/
structure NumberedExactly (argument : String) (value : α → UInt64) (write : α → String)
    (read : String → Except Refusal α) : Prop where
  words (v : UInt64) : ∃ a, value a = v
  written (a : α) : (write a).toList.length = 16 ∧ (∀ d ∈ (write a).toList, d ∈ Hex.upperDigits) ∧
    Hex.number (write a).toList = (value a).toNat
  reread (a : α) : read (write a) = .ok a
  padded (zeros : Nat) (a : α) : read (.ofList (List.replicate zeros '0' ++ (write a).toList)) = .ok a
  read_iff (text : String) (a : α) : read text = .ok a ↔ Hex.IsNumeral (Text.trim text) (value a).toNat
  accepted (text : String) : (∃ a, read text = .ok a) ↔ ∃ n < UInt64.size, Hex.IsNumeral (Text.trim text) n
  refused (text : String) : (¬ ∃ n < UInt64.size, Hex.IsNumeral (Text.trim text) n) →
    RefusesNumeral argument (read text)
  tooLarge (text : String) (n : Nat) : Hex.IsNumeral (Text.trim text) n → UInt64.size ≤ n →
    read text = .error (.invalidArgument argument (.numeral .tooLarge))
  lonePlus (text : String) : Text.trim text = "+" →
    read text = .error (.invalidArgument argument (.numeral .notADigit))
  stray (text : String) (c : Char) : c ∈ text.toList → Text.isBlank c = false → c ≠ '+' →
    c ∉ "0123456789ABCDEFabcdef".toList → RefusesNumeral argument (read text)
  parted (text : String) (c : Char) : c ∈ (Text.trim text).toList → Text.isBlank c = true →
    RefusesNumeral argument (read text)

namespace Hexadecimal

theorem numbered (argument : String) {ofWord : UInt64 → α} {value : α → UInt64} (hvalue : ∀ v, value (ofWord v) = v)
    (hofWord : ∀ a, ofWord (value a) = a) :
    NumberedExactly argument value (fun a => write (value a)) fun text => (read argument text).map ofWord := by
  -- What is read and refused is told of words, and carries over to what stands for them.
  have hok {text : String} {a : α} : (read argument text).map ofWord = .ok a ↔ read argument text = .ok (value a) := by
    rw [Outcome.map_eq_ok]
    constructor
    · rintro ⟨v, hread, rfl⟩
      rw [hread, hvalue]
    · intro hread
      exact ⟨value a, hread, hofWord a⟩
  have herror {text : String} {e : Refusal} (h : read argument text = .error e) :
      (read argument text).map ofWord = .error e := by
    rw [h]
    rfl
  exact {
    words v := ⟨ofWord v, hvalue v⟩
    written a := ⟨(toList_write _).1, fun d hd => (toList_write _).2 hd, number_write _⟩
    reread a := hok.mpr (read_write argument _)
    padded zeros a := hok.mpr (read_zeros zeros _)
    read_iff text a := hok.trans read_eq_ok
    accepted text := by
      rw [← exists_read_iff]
      constructor
      · rintro ⟨a, ha⟩
        exact ⟨value a, hok.mp ha⟩
      · rintro ⟨v, hv⟩
        exact ⟨ofWord v, hok.mpr (hv.trans (congrArg Except.ok (hvalue v).symm))⟩
    refused text h := (refuses_of_not_numeral fun v hv => h ⟨_, v.toNat_lt, hv⟩).map ofWord
    tooLarge text n h hn := herror (read_of_le h hn)
    lonePlus text h := herror (read_plus h)
    stray text c hc hblank hplus hdigit := (refuses_of_stray hc hblank hplus hdigit).map ofWord
    parted text c hc hblank := (refuses_of_parted hc hblank).map ofWord }

end Hexadecimal

end

/-- The identifiers of tokens and those of namespaces are written and read alike, under names of their own. -/
theorem numbered_exactly :
    NumberedExactly "token_id" TokenId.value TokenId.toHex TokenId.ofHex ∧
    NumberedExactly "namespace_id" NamespaceId.value NamespaceId.toHex NamespaceId.ofHex :=
  ⟨Hexadecimal.numbered "token_id" (fun _ => rfl) (fun _ => rfl),
    Hexadecimal.numbered "namespace_id" (fun _ => rfl) (fun _ => rfl)⟩

example : TokenId.ofHex "\t+00000000000000000fF " = .ok ⟨255⟩ := by decide

example : TokenId.ofHex "10000000000000000" = .error (.invalidArgument "token_id" (.numeral .tooLarge)) := by decide

end TokenGovernance
