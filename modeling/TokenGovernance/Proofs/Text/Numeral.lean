import TokenGovernance.Text.Numeral
import Mathlib.Data.List.Basic

/-! # What numerals spell

A numeral is read as the number that its digits spell, with any zeros in front, if that number is below the bound.
Nothing else is read.
-/

namespace TokenGovernance.Numeral

variable {radix bound value n : Nat} {cs : List Char} {s : String}

/-! ## Digits -/

/-- The number that digits spell behind a value, most significant digit first. -/
def spelled (radix value : Nat) (ds : List Nat) : Nat :=
  ds.foldl (fun v d => radix * v + d) value

/-- Characters that are digits and spell a number. -/
def Digits (radix : Nat) (cs : List Char) (n : Nat) : Prop :=
  ∃ ds, cs.map (digit? radix) = ds.map some ∧ spelled radix 0 ds = n

theorem le_spelled (h : 0 < radix) (value : Nat) (ds : List Nat) : value ≤ spelled radix value ds := by
  induction ds generalizing value with
  | nil => exact Nat.le_refl _
  | cons d rest ih =>
    calc value
      _ ≤ radix * value := Nat.le_mul_of_pos_left value h
      _ ≤ radix * value + d := Nat.le_add_right _ d
      _ ≤ spelled radix (radix * value + d) rest := ih _

theorem digits_eq_ok (hradix : 0 < radix) (hvalue : value < bound) : digits radix bound value cs = .ok n ↔
    ∃ ds, cs.map (digit? radix) = ds.map some ∧ spelled radix value ds = n ∧ n < bound := by
  induction cs generalizing value with
  | nil =>
    constructor
    · rintro ⟨⟩
      exact ⟨[], rfl, rfl, hvalue⟩
    · rintro ⟨ds, hds, rfl, -⟩
      obtain rfl := List.map_eq_nil_iff.mp hds.symm
      rfl
  | cons c rest ih =>
    unfold digits
    cases hdigit : digit? radix c with
    | none =>
      refine iff_of_false nofun ?_
      rintro ⟨ds, hds, -⟩
      obtain ⟨d, ds, rfl, hd, -⟩ := List.map_eq_cons_iff.mp hds.symm
      exact nomatch hd.trans hdigit
    | some d =>
      dsimp only
      by_cases hnext : radix * value + d < bound
      · rw [if_pos hnext, ih hnext]
        constructor
        · rintro ⟨ds, hds, hn⟩
          exact ⟨d :: ds, by rw [List.map_cons, List.map_cons, hdigit, hds], hn⟩
        · rintro ⟨ds, hds, hn⟩
          obtain ⟨d', ds, rfl, hd, hrest⟩ := List.map_eq_cons_iff.mp hds.symm
          obtain rfl := Option.some.inj (hd.trans hdigit)
          exact ⟨ds, hrest.symm, hn⟩
      · -- Digits that follow never lower the value, so that all of them take it to the bound too.
        rw [if_neg hnext]
        refine iff_of_false nofun ?_
        rintro ⟨ds, hds, rfl, hn⟩
        obtain ⟨d', ds, rfl, hd, -⟩ := List.map_eq_cons_iff.mp hds.symm
        obtain rfl := Option.some.inj (hd.trans hdigit)
        exact hnext (Nat.lt_of_le_of_lt (le_spelled hradix _ ds) hn)

theorem digits_zero_eq_ok (hradix : 0 < radix) (hbound : 0 < bound) :
    digits radix bound 0 cs = .ok n ↔ Digits radix cs n ∧ n < bound := by
  rw [digits_eq_ok hradix hbound]
  constructor
  · rintro ⟨ds, hds, hn, hlt⟩
    exact ⟨⟨ds, hds, hn⟩, hlt⟩
  · rintro ⟨⟨ds, hds, hn⟩, hlt⟩
    exact ⟨ds, hds, hn, hlt⟩

theorem not_digits_plus (rest : List Char) : ¬ Digits radix ('+' :: rest) n := by
  rintro ⟨ds, hds, -⟩
  obtain ⟨d, ds, rfl, hd, -⟩ := List.map_eq_cons_iff.mp hds.symm
  have hplus : digit? radix '+' = none := rfl
  exact nomatch hd.trans hplus

theorem map_digit?_eq {p : Char → Prop} {value : Char → Nat} (h : ∀ c d, digit? radix c = some d ↔ p c ∧ value c = d)
    {ds : List Nat} : cs.map (digit? radix) = ds.map some ↔ (∀ c ∈ cs, p c) ∧ cs.map value = ds := by
  induction cs generalizing ds with
  | nil =>
    cases ds with
    | nil => simp
    | cons d ds => simp
  | cons c rest ih =>
    cases ds with
    | nil => simp
    | cons d ds =>
      rw [List.map_cons, List.map_cons, List.cons.injEq, h, ih, List.forall_mem_cons, List.map_cons, List.cons.injEq,
        and_and_and_comm]

theorem digits_iff {p : Char → Prop} {value : Char → Nat} (h : ∀ c d, digit? radix c = some d ↔ p c ∧ value c = d) :
    Digits radix cs n ↔ (∀ c ∈ cs, p c) ∧ spelled radix 0 (cs.map value) = n := by
  simp only [Digits, map_digit?_eq h, and_assoc, exists_and_left, exists_eq_left']

theorem digits_eq_tooLarge (hvalue : value < bound) {ds : List Nat} (hds : cs.map (digit? radix) = ds.map some)
    (h : bound ≤ spelled radix value ds) : digits radix bound value cs = .error .tooLarge := by
  induction cs generalizing value ds with
  | nil =>
    obtain rfl := List.map_eq_nil_iff.mp hds.symm
    exact absurd h (Nat.not_le_of_lt hvalue)
  | cons c rest ih =>
    obtain ⟨d, ds, rfl, hd, hrest⟩ := List.map_eq_cons_iff.mp hds.symm
    unfold digits
    rw [← hd]
    dsimp only
    by_cases hnext : radix * value + d < bound
    · rw [if_pos hnext]
      exact ih hnext hrest.symm h
    · rw [if_neg hnext]

/-! ## Texts -/

/-- A text that is a numeral for a number: one digit or more, and maybe a plus in front of them. -/
def Spells (radix : Nat) (s : String) (n : Nat) : Prop :=
  ∃ cs, cs ≠ [] ∧ (s.toList = cs ∨ s.toList = '+' :: cs) ∧ Digits radix cs n

theorem parse_eq_ok (hradix : 0 < radix) (hbound : 0 < bound) :
    parse radix bound s = .ok n ↔ Spells radix s n ∧ n < bound := by
  unfold parse Spells
  generalize s.toList = text
  -- Nothing at all, a plus alone, digits behind a plus, and digits alone.
  unfold parseChars
  split
  case h_1 =>
    refine iff_of_false nofun ?_
    rintro ⟨⟨cs, hne, rfl | h, -⟩, -⟩
    · exact hne rfl
    · cases h
  case h_2 =>
    refine iff_of_false nofun ?_
    rintro ⟨⟨cs, hne, rfl | h, hdigits⟩, -⟩
    · exact not_digits_plus _ hdigits
    · exact hne (List.cons.inj h).2.symm
  case h_3 rest hrest =>
    rw [digits_zero_eq_ok hradix hbound]
    constructor
    · rintro ⟨hdigits, hlt⟩
      exact ⟨⟨rest, fun h => hrest (h ▸ rfl), .inr rfl, hdigits⟩, hlt⟩
    · rintro ⟨⟨cs, hne, rfl | h, hdigits⟩, hlt⟩
      · exact absurd hdigits (not_digits_plus _)
      · exact ⟨(List.cons.inj h).2 ▸ hdigits, hlt⟩
  case h_4 hnil _ hplus =>
    rw [digits_zero_eq_ok hradix hbound]
    constructor
    · rintro ⟨hdigits, hlt⟩
      exact ⟨⟨text, hnil, .inl rfl, hdigits⟩, hlt⟩
    · rintro ⟨⟨cs, hne, rfl | h, hdigits⟩, hlt⟩
      · exact ⟨hdigits, hlt⟩
      · exact (hplus cs h).elim

theorem parseChars_cons {c : Char} (h : c ≠ '+') (rest : List Char) :
    parseChars radix bound (c :: rest) = digits radix bound 0 (c :: rest) := by
  unfold parseChars
  split
  next heq => cases heq
  next heq => exact absurd (List.cons.inj heq).1 h
  next heq => exact absurd (List.cons.inj heq).1 h
  next => rfl

theorem parse_eq_tooLarge (hbound : 0 < bound) (hspells : Spells radix s n) (h : bound ≤ n) :
    parse radix bound s = .error .tooLarge := by
  obtain ⟨cs, hne, htext, ds, hds, rfl⟩ := hspells
  have hdigits : digits radix bound 0 cs = .error .tooLarge := digits_eq_tooLarge hbound hds h
  obtain ⟨c, rest, rfl⟩ := List.exists_cons_of_ne_nil hne
  unfold parse
  rcases htext with htext | htext
  · have hc : c ≠ '+' := by
      rintro rfl
      exact not_digits_plus rest ⟨ds, hds, rfl⟩
    rw [htext, parseChars_cons hc, hdigits]
  · rw [htext]
    exact hdigits

/-! ## Decimal digits -/

theorem digit?_ten (c : Char) : digit? 10 c = if c.isDigit then some (c.toNat - '0'.toNat) else none := by
  have hrange : c.isDigit = true ↔ '0' ≤ c ∧ c ≤ '9' := by
    unfold Char.isDigit
    rw [Bool.and_eq_true, decide_eq_true_iff, decide_eq_true_iff]
    exact Iff.rfl
  unfold digit?
  dsimp only
  by_cases hdigit : '0' ≤ c ∧ c ≤ '9'
  · have hle : c.toNat ≤ '9'.toNat := UInt32.le_iff_toNat_le.mp hdigit.2
    have hlt : c.toNat - '0'.toNat < 10 := by
      change c.toNat ≤ 57 at hle
      change c.toNat - 48 < 10
      omega
    rw [if_pos hdigit, if_pos (hrange.mpr hdigit)]
    exact Option.filter_some_pos (decide_eq_true hlt)
  · rw [if_neg hdigit, if_neg (hrange.not.mpr hdigit)]
    split_ifs
    · exact Option.filter_some_neg (by simp)
    · exact Option.filter_some_neg (by simp)
    · rfl

theorem digits_ten : Digits 10 cs n ↔ (∀ c ∈ cs, c.isDigit = true) ∧ Nat.ofDigitChars 10 cs 0 = n := by
  have hspelled : spelled 10 0 (cs.map fun c => c.toNat - '0'.toNat) = Nat.ofDigitChars 10 cs 0 := by
    unfold spelled
    rw [List.foldl_map, Nat.ofDigitChars_eq_foldl]
  rw [digits_iff (fun c d => by rw [digit?_ten, Option.ite_none_right_eq_some, Option.some.injEq]), hspelled]

theorem spells_toDigits {m : Nat} : Spells 10 (.ofList (Nat.toDigits 10 m)) n ↔ m = n := by
  have hdigit : ∀ c ∈ Nat.toDigits 10 m, c.isDigit = true := fun c =>
    Nat.isDigit_of_mem_toDigits (by decide) (by decide)
  simp only [Spells, digits_ten, String.toList_ofList]
  constructor
  · rintro ⟨cs, -, h | h, -, rfl⟩
    · rw [← h, Nat.ofDigitChars_ten_toDigits]
    · have hplus : '+' ∈ Nat.toDigits 10 m := h ▸ List.mem_cons_self
      exact absurd (hdigit '+' hplus) (by decide)
  · rintro rfl
    exact ⟨_, Nat.toDigits_ne_nil, .inl rfl, hdigit, Nat.ofDigitChars_ten_toDigits⟩

end TokenGovernance.Numeral
