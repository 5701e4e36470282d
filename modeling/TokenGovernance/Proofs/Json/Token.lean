import TokenGovernance.Json.Printer
import TokenGovernance.Json.Token
import Mathlib.Data.List.Basic

/-! # Tokens of printed text

What is printed of strings and whole numbers is taken by the scanner as one token each, whatever follows a
string, and as long as no digit, point or exponent follows a number. Blanks between tokens leave no trace.
-/

namespace TokenGovernance.Json

/-! ## Strings -/

/-- The ways to write a character in a string: a backslash and a letter, its number, or itself. -/
inductive Escapes (c : Char) : List Char → Prop
  | letter (e : Char) (he : e ≠ 'u') (hc : simpleEscape e = some c) : Escapes c ['\\', e]
  | control (hc : c.toNat < 0x20) :
      Escapes c ['\\', 'u', '0', '0', escapeDigit (c.toNat / 16), escapeDigit (c.toNat % 16)]
  | bare (hquote : c ≠ '"') (hbackslash : c ≠ '\\') (hc : ¬ c.toNat < 0x20) : Escapes c [c]

theorem escapes_escapeChar (c : Char) : Escapes c (escapeChar c) := by
  have hletter (e : Char) {d : Char} (he : e ≠ 'u') (hd : simpleEscape e = some d) (h : c = d) :
      Escapes c ['\\', e] :=
    .letter e he (h ▸ hd)
  unfold escapeChar
  split
  · exact hletter '"' (by decide) rfl ‹_›
  split
  · exact hletter '\\' (by decide) rfl ‹_›
  split
  · exact hletter 'b' (by decide) rfl ‹_›
  split
  · exact hletter 't' (by decide) rfl ‹_›
  split
  · exact hletter 'n' (by decide) rfl ‹_›
  split
  · exact hletter 'f' (by decide) rfl ‹_›
  split
  · exact hletter 'r' (by decide) rfl ‹_›
  split
  · exact .control ‹_›
  · exact .bare ‹_› ‹_› ‹_›

theorem hexValue_control : ∀ n < 32, hexValue '0' '0' (escapeDigit (n / 16)) (escapeDigit (n % 16)) = some n := by
  decide

theorem Escapes.scanString_eq {c : Char} {escape : List Char} (h : Escapes c escape) (offset count : Nat)
    (gathered rest : List Char) :
    ∃ offset', scanString offset count none (.ok gathered) (escape ++ rest) =
      scanString offset' (count + escape.length) none (.ok (c :: gathered)) rest := by
  cases h with
  | letter e he hc =>
    refine ⟨offset + 2, ?_⟩
    rw [List.cons_append, scanString.eq_def]
    dsimp only [List.cons_append, List.nil_append]
    rw [if_neg (by decide), if_pos rfl, if_neg he, hc]
    rfl
  | control hc =>
    refine ⟨offset + 6, ?_⟩
    rw [List.cons_append, scanString.eq_def]
    dsimp only [List.cons_append, List.nil_append]
    rw [if_neg (by decide), if_pos rfl, if_pos rfl, hexValue_control _ hc]
    dsimp only
    rw [if_pos (.inl (by omega)), Char.ofNat_toNat]
    rfl
  | bare hquote hbackslash hc =>
    refine ⟨offset + c.utf8Size, ?_⟩
    rw [List.cons_append, scanString.eq_def]
    dsimp only [List.nil_append]
    rw [if_neg hquote, if_neg hbackslash, if_neg hc]
    rfl

theorem scanString_escaped (cs : List Char) (offset count : Nat) (gathered rest : List Char) :
    ∃ stop, scanString offset count none (.ok gathered) (cs.flatMap escapeChar ++ '"' :: rest) =
      .closed (.ok (String.ofList (gathered.reverse ++ cs))) (count + (cs.flatMap escapeChar).length + 1) stop := by
  induction cs generalizing offset count gathered with
  | nil =>
    refine ⟨offset + 1, ?_⟩
    rw [List.flatMap_nil, List.nil_append, scanString.eq_def]
    dsimp only
    rw [if_pos rfl, List.append_nil]
    rfl
  | cons c cs ih =>
    obtain ⟨offset', hstep⟩ := (escapes_escapeChar c).scanString_eq offset count gathered
      (cs.flatMap escapeChar ++ '"' :: rest)
    obtain ⟨stop, hscan⟩ := ih offset' (count + (escapeChar c).length) (c :: gathered)
    refine ⟨stop, ?_⟩
    rw [List.flatMap_cons, List.append_assoc, hstep, hscan, List.reverse_cons, List.append_assoc,
      List.length_append, Nat.add_assoc count]
    rfl

theorem scanToken_string (s : String) (offset : Nat) (rest : List Char) :
    scanToken offset '"' (s.toList.flatMap escapeChar ++ '"' :: rest) =
      (.scalar (.string (.ok s)), (s.toList.flatMap escapeChar).length + 1) := by
  obtain ⟨stop, hscan⟩ := scanString_escaped s.toList (offset + 1) 0 [] rest
  unfold scanToken
  simp only [hscan]
  rw [List.reverse_nil, List.nil_append, String.ofList_toList, Nat.zero_add]
  rfl

/-! ## Whole numbers -/

/-- A text that a number in front of it does not reach into. -/
def Ends (cs : List Char) : Prop :=
  ∀ c ∈ cs.head?, isDigit c = false ∧ c ≠ '.' ∧ c ≠ 'e' ∧ c ≠ 'E'

theorem digitValue_digitChar {n : Nat} (h : n < 10) : digitValue (Nat.digitChar n) = n := by
  unfold digitValue
  rw [Nat.toNat_digitChar_of_lt_ten h]
  exact Nat.add_sub_cancel_left ..

theorem isDigit_of_mem_toDigits {n : Nat} : ∀ c ∈ Nat.toDigits 10 n, isDigit c = true :=
  fun _ hc => Nat.isDigit_of_mem_toDigits (by decide) (by decide) hc

theorem toDigits_eq_append {n : Nat} (h : 10 ≤ n) :
    Nat.toDigits 10 n = Nat.toDigits 10 (n / 10) ++ [Nat.digitChar (n % 10)] :=
  Nat.toDigits_of_base_le (by decide) h

theorem head?_toDigits_ne {n : Nat} (h : 0 < n) : (Nat.toDigits 10 n).head? ≠ some '0' := by
  induction n using Nat.strongRecOn with
  | ind n ih =>
    by_cases hsmall : n < 10
    · have hdigit : ∀ m < 10, 0 < m → [Nat.digitChar m].head? ≠ some '0' := by decide
      rw [Nat.toDigits_of_lt_base hsmall]
      exact hdigit n hsmall h
    · rw [toDigits_eq_append (by omega), List.head?_append_of_ne_nil _ Nat.toDigits_ne_nil]
      exact ih (n / 10) (by omega) (by omega)

theorem takeDigits_concat {digits : List Char} {c : Char} {s v : Nat}
    (h : takeDigits s digits = (v, digits.length)) (hc : 10 * v + digitValue c < UInt64.size) :
    takeDigits s (digits ++ [c]) = (10 * v + digitValue c, (digits ++ [c]).length) := by
  induction digits generalizing s with
  | nil =>
    obtain ⟨rfl, -⟩ := Prod.mk.inj h
    rw [List.nil_append, takeDigits]
    dsimp only
    rw [if_pos hc]
    rfl
  | cons d rest ih =>
    rw [takeDigits] at h
    dsimp only at h
    split at h
    next hd =>
      obtain ⟨hv, hlength⟩ := Prod.mk.inj h
      rw [List.cons_append, takeDigits]
      dsimp only
      rw [if_pos hd, ih (Prod.ext hv (Nat.succ.inj hlength))]
      rfl
    next => cases h

theorem takeDigits_toDigits {n : Nat} (h : n < UInt64.size) :
    takeDigits 0 (Nat.toDigits 10 n) = (n, (Nat.toDigits 10 n).length) := by
  induction n using Nat.strongRecOn with
  | ind n ih =>
    by_cases hsmall : n < 10
    · have hvalue := digitValue_digitChar hsmall
      rw [Nat.toDigits_of_lt_base hsmall, takeDigits]
      dsimp only
      rw [hvalue, Nat.mul_zero, Nat.zero_add, if_pos h]
      rfl
    · have hlast := digitValue_digitChar (Nat.mod_lt n (by decide : 10 > 0))
      have hvalue : 10 * (n / 10) + digitValue (Nat.digitChar (n % 10)) = n := by
        rw [hlast]
        omega
      rw [toDigits_eq_append (by omega), takeDigits_concat (ih (n / 10) (by omega) (by omega)), hvalue]
      rw [hvalue]
      exact h

theorem value_toDigits {n : Nat} (negative : Bool) (stop : Nat) (h : n < UInt64.size)
    (hnegative : negative = true → 0 < n ∧ n ≤ 9223372036854775808) :
    Numeral.value ⟨negative, Nat.toDigits 10 n, [], false, none, stop⟩ =
      .ok (.whole (if negative then -n else n)) := by
  unfold Numeral.value
  simp only [takeDigits_toDigits h, Nat.sub_self, Bool.not_false, Option.isNone_none, Bool.and_self, decide_true,
    ↓reduceIte]
  cases negative with
  | false => rfl
  | true => simp [hnegative rfl]

theorem scanNumber_toDigits (negative : Bool) (offset count n : Nat) {rest : List Char} (hrest : Ends rest) :
    ∃ stop, scanNumber negative offset count (Nat.toDigits 10 n ++ rest) =
      (.scalar (.number (Numeral.value ⟨negative, Nat.toDigits 10 n, [], false, none, stop⟩)),
        count + (Nat.toDigits 10 n).length) := by
  have htake : (Nat.toDigits 10 n ++ rest).takeWhile isDigit = Nat.toDigits 10 n := by
    have hnone : rest.takeWhile isDigit = [] := by
      cases rest with
      | nil => rfl
      | cons c rest => exact List.takeWhile_cons_of_neg (by simp [(hrest c rfl).1])
    rw [List.takeWhile_append_of_pos isDigit_of_mem_toDigits, hnone, List.append_nil]
  have hzero : ∀ d ds, Nat.toDigits 10 n ≠ '0' :: d :: ds := by
    intro d ds heq
    rcases Nat.eq_zero_or_pos n with rfl | hpos
    · cases heq
    · exact head?_toDigits_ne hpos (by rw [heq]; rfl)
  have hne : Nat.toDigits 10 n ≠ [] := Nat.toDigits_ne_nil
  refine ⟨offset + (Nat.toDigits 10 n).length, ?_⟩
  unfold scanNumber
  dsimp only
  rw [htake, List.drop_left]
  -- There is a digit, and no zero in front of others; what follows does not go on with the number.
  split
  next heq => exact absurd (List.append_eq_nil_iff.mp heq).1 hne
  next heq => exact absurd heq hne
  next heq => exact absurd heq (hzero _ _)
  next =>
    split
    next => exact absurd rfl (hrest _ rfl).2.1
    next => exact absurd rfl (hrest _ rfl).2.2.1
    next => exact absurd rfl (hrest _ rfl).2.2.2
    next => rfl

end TokenGovernance.Json
