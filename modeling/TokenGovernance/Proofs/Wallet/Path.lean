import TokenGovernance.Proofs.Json.Number
import TokenGovernance.Proofs.Outcome
import TokenGovernance.Proofs.Text.Blank
import TokenGovernance.Proofs.Text.Numeral
import TokenGovernance.Wallet.Account
import Mathlib.Data.List.Forall2

/-! # Texts of account paths

A text leads to an account if it is five hardened steps with slashes between them, the first two of them fixed, with
blanks around it and maybe the mark of the root in front. What is written of a path is such a text. Any other text
is refused for its path, before the words are looked at.
-/

namespace TokenGovernance

open Outcome

namespace Wallet

variable {s text : String} {n : Nat} {cs : List Char} {path : Path} {p q : AccountPath} {parts : List String}

/-! ## What is accepted -/

/-- A text of a hardened step: decimal digits, maybe with a plus in front of them, and a mark behind them. -/
def HardenedStep (text : String) (index : Nat) : Prop :=
  ∃ digits mark, digits ≠ [] ∧ (∀ c ∈ digits, c.isDigit = true) ∧ (mark = '\'' ∨ mark = 'h') ∧
    (text.toList = digits ++ [mark] ∨ text.toList = '+' :: digits ++ [mark]) ∧
    Nat.ofDigitChars 10 digits 0 = index ∧ index < 2147483648

/-- The index of every step of an account path. -/
def AccountPath.indexes (p : AccountPath) : List Nat :=
  [44, 4343, p.account, p.change, p.address]

/-- A text of an account path, without the blanks around it: its steps with slashes between them, and maybe the mark
of the root in front of them. -/
def AccountPath.Spelled (s : String) (p : AccountPath) : Prop :=
  ∃ parts, (Text.trim s = "/".intercalate parts ∨ Text.trim s = "m/" ++ "/".intercalate parts) ∧
    List.Forall₂ HardenedStep parts p.indexes

/-! ## Steps -/

theorem hardenedStep_iff {front : List Char} {mark : Char} (hmark : mark = '\'' ∨ mark = 'h') :
    HardenedStep (.ofList (front ++ [mark])) n ↔ Numeral.Spells 10 (.ofList front) n ∧ n < indexBound := by
  simp only [HardenedStep, Numeral.Spells, Numeral.digits_ten, String.toList_ofList]
  constructor
  · rintro ⟨digits, mark', hne, hdigits, -, htext | htext, rfl, hlt⟩
    · exact ⟨⟨digits, hne, .inl (List.append_inj_left' htext rfl), hdigits, rfl⟩, hlt⟩
    · exact ⟨⟨digits, hne, .inr (List.append_inj_left' htext rfl), hdigits, rfl⟩, hlt⟩
  · rintro ⟨⟨digits, hne, hfront, hdigits, rfl⟩, hlt⟩
    refine ⟨digits, mark, hne, hdigits, hmark, ?_, rfl, hlt⟩
    rcases hfront with rfl | rfl
    · exact .inl rfl
    · exact .inr rfl

theorem not_hardenedStep {front : List Char} {mark : Char} (hmark : ¬ (mark = '\'' ∨ mark = 'h')) :
    ¬ HardenedStep (.ofList (front ++ [mark])) n := by
  unfold HardenedStep
  rw [String.toList_ofList]
  rintro ⟨digits, mark', -, -, hmark', htext | htext, -⟩
  · obtain rfl := List.singleton_inj.mp (List.append_inj_right' htext rfl)
    exact hmark hmark'
  · obtain rfl := List.singleton_inj.mp (List.append_inj_right' htext rfl)
    exact hmark hmark'

theorem Step.parse_eq_ok : Step.parse cs = .ok ⟨n, true⟩ ↔ HardenedStep (.ofList cs) n := by
  have hparse {front : List Char} {m : Nat} : Numeral.parseChars 10 UInt32.size front = .ok m ↔
      Numeral.Spells 10 (.ofList front) m ∧ m < UInt32.size := by
    rw [← Numeral.parse_eq_ok (by decide) (by decide), Numeral.parse, String.toList_ofList]
  unfold Step.parse
  -- The mark is the last character, so the text is taken apart from its end.
  rcases List.eq_nil_or_concat' cs with rfl | ⟨front, mark, rfl⟩
  · refine iff_of_false nofun ?_
    rintro ⟨digits, mark, -, -, -, htext | htext, -⟩
    · simp at htext
    · simp at htext
  · simp only [List.getLast?_concat, List.dropLast_concat, Option.some.injEq]
    by_cases hmark : mark = '\'' ∨ mark = 'h'
    · rw [hardenedStep_iff hmark, if_pos hmark, decide_eq_true hmark]
      constructor
      · intro h
        split at h
        next => cases h
        next m hm =>
          obtain ⟨hlt, heq⟩ := require_eq_ok.mp h
          obtain ⟨rfl⟩ := Step.mk.inj (Except.ok.inj heq)
          exact ⟨(hparse.mp hm).1, hlt⟩
      · rintro ⟨hspells, hlt⟩
        have hsize : n < UInt32.size := Nat.lt_trans hlt (by decide)
        rw [hparse.mpr ⟨hspells, hsize⟩]
        exact if_pos hlt
    · refine iff_of_false (fun h => ?_) (not_hardenedStep hmark)
      rw [decide_eq_false hmark] at h
      split at h
      next => cases h
      next m hm =>
        obtain ⟨-, heq⟩ := require_eq_ok.mp h
        cases heq

/-! ## Paths -/

theorem mapM_eq_ok {ε α β : Type} {f : α → Except ε β} {as : List α} {bs : List β} :
    as.mapM f = .ok bs ↔ List.Forall₂ (fun a b => f a = .ok b) as bs := by
  induction as generalizing bs with
  | nil =>
    rw [List.mapM_nil, pure_eq, Except.ok.injEq, List.forall₂_nil_left_iff, eq_comm]
  | cons a as ih =>
    simp only [List.mapM_cons, bind_eq_ok, pure_eq, Except.ok.injEq, ih, List.forall₂_cons_left_iff]
    constructor
    · rintro ⟨b, hb, bs, hbs, rfl⟩
      exact ⟨b, bs, hb, hbs, rfl⟩
    · rintro ⟨b, bs, hb, hbs, rfl⟩
      exact ⟨b, hb, bs, hbs, rfl⟩

/-- What is left of a text when the mark of the root is taken off, if it is there. -/
def withoutRoot : List Char → List Char
  | 'm' :: '/' :: rest => rest
  | cs => cs

theorem eq_withoutRoot (cs : List Char) : cs = withoutRoot cs ∨ cs = 'm' :: '/' :: withoutRoot cs := by
  unfold withoutRoot
  split
  · exact .inr rfl
  · exact .inl rfl

theorem withoutRoot_eq_self (h : ∀ rest, cs ≠ 'm' :: '/' :: rest) : withoutRoot cs = cs := by
  unfold withoutRoot
  split
  · exact absurd rfl (h _)
  · rfl

theorem Path.parse_eq_ok (h : path ≠ []) :
    Path.parse cs = .ok path ↔ List.Forall₂ (fun piece step => Step.parse piece = .ok step)
      ((withoutRoot cs).splitOn '/') path := by
  rw [← mapM_eq_ok]
  have hempty : Except.ok [] ≠ (Except.ok path : Except StepFault Path) := fun heq => h (Except.ok.inj heq).symm
  unfold Path.parse
  split
  -- The texts of the root are a path without steps, and what they split into is no step.
  · exact iff_of_false hempty nofun
  · exact iff_of_false hempty nofun
  · exact iff_of_false hempty nofun
  · rfl
  next hroot => rw [withoutRoot_eq_self hroot]

namespace AccountPath

theorem steps_eq (p : AccountPath) : p.steps = p.indexes.map fun n => ⟨n, true⟩ := rfl

theorem ofSteps_eq_ok : ofSteps path = .ok p ↔ path = p.steps := by
  unfold ofSteps
  split
  next first second account change address =>
    rw [require_eq_ok, require_eq_ok]
    obtain ⟨i, b⟩ := first
    obtain ⟨j, b'⟩ := second
    obtain ⟨a, b₂⟩ := account
    obtain ⟨c, b₃⟩ := change
    obtain ⟨d, b₄⟩ := address
    constructor
    · rintro ⟨hhardened, ⟨hfirst, hsecond⟩, heq⟩
      obtain rfl := Except.ok.inj heq
      obtain ⟨rfl, rfl, rfl, rfl, rfl⟩ : b = true ∧ b' = true ∧ b₂ = true ∧ b₃ = true ∧ b₄ = true := by
        simpa using hhardened
      obtain rfl : i = purpose := hfirst
      obtain rfl : j = coinType := hsecond
      rfl
    · rintro ⟨⟩
      exact ⟨rfl, ⟨rfl, rfl⟩, rfl⟩
  next hfive =>
    refine iff_of_false nofun ?_
    rintro rfl
    exact hfive _ _ _ _ _ rfl

theorem parse_eq_ok_iff_steps : parse s = .ok p ↔ Path.parse (Text.trimChars s.toList) = .ok p.steps := by
  unfold parse
  cases Path.parse (Text.trimChars s.toList) with
  | error fault => exact iff_of_false nofun nofun
  | ok path => rw [Except.ok.injEq, ofSteps_eq_ok]

/-- What stands between the slashes of a text, without the blanks around it and the mark of the root. -/
def pieces (s : String) : List String :=
  ((withoutRoot (Text.trimChars s.toList)).splitOn '/').map .ofList

theorem parse_eq_ok_iff_pieces : parse s = .ok p ↔ List.Forall₂ HardenedStep (pieces s) p.indexes := by
  have hne : p.steps ≠ [] := nofun
  rw [parse_eq_ok_iff_steps, Path.parse_eq_ok hne, steps_eq, List.forall₂_map_right_iff]
  unfold pieces
  rw [List.forall₂_map_left_iff]
  simp only [Step.parse_eq_ok]

theorem trim_eq_pieces (s : String) :
    Text.trim s = "/".intercalate (pieces s) ∨ Text.trim s = "m/" ++ "/".intercalate (pieces s) := by
  have hjoin : ("/".intercalate (pieces s)).toList = withoutRoot (Text.trimChars s.toList) := by
    have hlists : (pieces s).map String.toList = (withoutRoot (Text.trimChars s.toList)).splitOn '/' := by
      unfold pieces
      rw [List.map_map]
      exact List.map_id'' (fun _ => String.toList_ofList) _
    rw [String.toList_intercalate, hlists]
    exact List.intercalate_splitOn '/'
  rw [Text.trim_eq_iff, Text.trim_eq_iff, String.toList_append, hjoin]
  exact eq_withoutRoot _

/-- What may stand between slashes, so that nothing is split or taken off in another place. -/
def IsPiece (text : String) : Prop :=
  ∀ c ∈ text.toList, c ≠ '/' ∧ c ≠ 'm'

theorem mem_intercalate {c : Char} (h : c ∈ ("/".intercalate parts).toList) :
    c = '/' ∨ ∃ t ∈ parts, c ∈ t.toList := by
  induction parts with
  | nil => cases h
  | cons t rest ih =>
    by_cases hrest : rest = []
    · rw [hrest, String.intercalate_singleton] at h
      exact .inr ⟨t, List.mem_cons_self, h⟩
    · rw [String.intercalate_cons_of_ne_nil hrest, String.toList_append, String.toList_append, List.mem_append,
        List.mem_append] at h
      rcases h with (h | h) | h
      · exact .inr ⟨t, List.mem_cons_self, h⟩
      · exact .inl (List.mem_singleton.mp h)
      · exact (ih h).imp_right fun ⟨t', ht', hc⟩ => ⟨t', List.mem_cons_of_mem _ ht', hc⟩

theorem pieces_eq (hne : parts ≠ []) (hparts : ∀ t ∈ parts, IsPiece t)
    (h : Text.trim s = "/".intercalate parts ∨ Text.trim s = "m/" ++ "/".intercalate parts) : pieces s = parts := by
  -- No piece begins with an m, so that the mark of the root is only taken off where it was put.
  have hmark : ∀ rest, ("/".intercalate parts).toList ≠ 'm' :: '/' :: rest := by
    intro rest heq
    have hm : 'm' ∈ ("/".intercalate parts).toList := heq ▸ List.mem_cons_self
    obtain hslash | ⟨t, ht, hmem⟩ := mem_intercalate hm
    · exact absurd hslash (by decide)
    · exact (hparts t ht 'm' hmem).2 rfl
  have hroot : withoutRoot (Text.trimChars s.toList) = ("/".intercalate parts).toList := by
    rcases h with h | h
    · rw [Text.trim_eq_iff.mp h, withoutRoot_eq_self hmark]
    · rw [Text.trim_eq_iff.mp h, String.toList_append]
      rfl
  have hslash : ∀ t ∈ parts, '/' ∉ t.toList := fun t ht hc => (hparts t ht '/' hc).1 rfl
  unfold pieces
  rw [hroot, String.toList_intercalate]
  change ((['/'].intercalate (parts.map String.toList)).splitOn '/').map .ofList = parts
  rw [List.splitOn_intercalate '/' (List.forall_mem_map.mpr hslash) (by simpa using hne), List.map_map]
  exact List.map_id'' (fun _ => String.ofList_toList) _

theorem plain_of_isDigit {c : Char} (h : c.isDigit = true) : c ≠ '/' ∧ c ≠ 'm' := by
  constructor
  · rintro rfl
    exact absurd h (by decide)
  · rintro rfl
    exact absurd h (by decide)

theorem isPiece_of_hardenedStep (h : HardenedStep text n) : IsPiece text := by
  obtain ⟨digits, mark, -, hdigits, hmark, htext, -⟩ := h
  have hends : ∀ c ∈ digits ++ [mark], c ≠ '/' ∧ c ≠ 'm' := by
    refine List.forall_mem_append.mpr ⟨fun c hc => plain_of_isDigit (hdigits c hc), List.forall_mem_singleton.mpr ?_⟩
    rcases hmark with rfl | rfl
    · decide
    · decide
  unfold IsPiece
  rcases htext with htext | htext
  · rw [htext]
    exact hends
  · rw [htext, List.cons_append]
    exact List.forall_mem_cons.mpr ⟨by decide, hends⟩

theorem isPiece_of_mem {indexes : List Nat} (h : List.Forall₂ HardenedStep parts indexes) : ∀ t ∈ parts, IsPiece t := by
  induction h with
  | nil => exact List.forall_mem_nil _
  | cons hstep _ ih => exact List.forall_mem_cons.mpr ⟨isPiece_of_hardenedStep hstep, ih⟩

theorem parse_eq_ok : parse s = .ok p ↔ Spelled s p := by
  rw [parse_eq_ok_iff_pieces]
  constructor
  · intro h
    exact ⟨pieces s, trim_eq_pieces s, h⟩
  · rintro ⟨parts, htrim, hparts⟩
    have hne : parts ≠ [] := by
      rintro rfl
      cases hparts
    rwa [pieces_eq hne (isPiece_of_mem hparts) htrim]

example : parse " m/+44h/04343'/007h/0'/2147483647'\n" = .ok ⟨7, 0, 2147483647⟩ := by decide

/-! ## Written paths -/

theorem toList_stepText (m : Nat) : (Step.text ⟨m, true⟩).toList = Nat.toDigits 10 m ++ ['\''] := by
  have hindex : (toString m).toList = Nat.toDigits 10 m := Nat.toList_repr
  unfold Step.text
  rw [String.toList_append, hindex]
  simp

theorem hardenedStep_text {m : Nat} : HardenedStep (Step.text ⟨m, true⟩) n ↔ m < 2147483648 ∧ m = n := by
  have htext : Step.text ⟨m, true⟩ = .ofList (Nat.toDigits 10 m ++ ['\'']) := by
    rw [← toList_stepText, String.ofList_toList]
  rw [htext, hardenedStep_iff (.inl rfl), Numeral.spells_toDigits, and_comm]
  exact and_congr_left (by rintro rfl; rfl)

theorem plain_stepText {m : Nat} {c : Char} (hc : c ∈ (Step.text ⟨m, true⟩).toList) :
    Text.isBlank c = false ∧ c ≠ '/' ∧ c ≠ 'm' := by
  rw [toList_stepText, List.mem_append, List.mem_singleton] at hc
  rcases hc with hc | rfl
  · have hdigit : c.isDigit = true := Nat.isDigit_of_mem_toDigits (by decide) (by decide) hc
    exact ⟨isBlank_of_mem_toDigits hc, plain_of_isDigit hdigit⟩
  · decide

theorem trim_text (h : s = q.text ∨ s = "m/" ++ q.text) : Text.trim s = s := by
  have htext : ∀ c ∈ q.text.toList, Text.isBlank c = false := by
    intro c hc
    obtain rfl | ⟨t, ht, hmem⟩ := mem_intercalate hc
    · decide
    · obtain ⟨step, hstep, rfl⟩ := List.mem_map.mp ht
      rw [steps_eq] at hstep
      obtain ⟨m, -, rfl⟩ := List.mem_map.mp hstep
      exact (plain_stepText hmem).1
  apply Text.trim_eq_self
  rcases h with rfl | rfl
  · exact htext
  · rw [String.toList_append]
    exact List.forall_mem_append.mpr ⟨by simp [Text.isBlank], htext⟩

theorem pieces_text (h : s = q.text ∨ s = "m/" ++ q.text) :
    pieces s = q.indexes.map fun m => Step.text ⟨m, true⟩ := by
  have hjoin : q.text = "/".intercalate (q.indexes.map fun m => Step.text ⟨m, true⟩) := by
    unfold text Path.text
    rw [steps_eq, List.map_map]
    rfl
  apply pieces_eq
  · exact nofun
  · exact List.forall_mem_map.mpr fun m _ c hc => (plain_stepText hc).2
  · rwa [trim_text h, ← hjoin]

theorem indexes_inj : q.indexes = p.indexes ↔ q = p := by
  obtain ⟨account, change, address⟩ := p
  obtain ⟨account', change', address'⟩ := q
  simp [indexes]

theorem parse_eq_ok_of_text (h : s = q.text ∨ s = "m/" ++ q.text) :
    parse s = .ok p ↔ (∀ n ∈ q.indexes, n < 2147483648) ∧ q = p := by
  rw [parse_eq_ok_iff_pieces, pieces_text h, List.forall₂_map_left_iff]
  simp only [hardenedStep_text]
  rw [List.forall₂_and_left, List.forall₂_eq_eq_eq, indexes_inj]

theorem indexes_lt (h : parse s = .ok p) : ∀ n ∈ p.indexes, n < 2147483648 := by
  have hsteps := parse_eq_ok_iff_pieces.mp h
  generalize pieces s = parts at hsteps
  generalize p.indexes = indexes at hsteps
  induction hsteps with
  | nil => exact List.forall_mem_nil _
  | cons hstep _ ih =>
    obtain ⟨-, -, -, -, -, -, -, hlt⟩ := hstep
    exact List.forall_mem_cons.mpr ⟨hlt, ih⟩

theorem parse_accountPathText {index : UInt32} :
    parse (accountPathText index) = .ok p ↔ index.toNat < 2147483648 ∧ p = ⟨index.toNat, 0, 0⟩ := by
  have htext : accountPathText index = "m/" ++ (mk index.toNat 0 0).text := rfl
  rw [parse_eq_ok_of_text (.inr htext)]
  constructor
  · rintro ⟨hlt, rfl⟩
    exact ⟨hlt _ (by simp [indexes]), rfl⟩
  · rintro ⟨hlt, rfl⟩
    exact ⟨by simp [indexes, hlt], rfl⟩

theorem exists_fault_iff : (∃ fault, parse s = .error fault) ↔ ¬ ∃ p, Spelled s p := by
  simp only [← parse_eq_ok]
  cases parse s with
  | error fault => simp
  | ok p => simp

end AccountPath

theorem Account.ofMnemonic_of_fault {fault : PathFault} (h : AccountPath.parse s = .error fault)
    (words passphrase : String) (network : Network) :
    ofMnemonic words passphrase s network = .error (.invalidPath fault) := by
  unfold ofMnemonic
  rw [h]
  rfl

/-- The paths of accounts are the texts that spell one, and only these: what is written of such a path is read as it is,
a number has a path if it is in bounds, and there is no account where there is no path, whatever the words. -/
theorem AccountPath.parse_iff_spelled :
    (∀ s p, parse s = .ok p ↔ Spelled s p) ∧
    (∀ s, (¬ ∃ p, Spelled s p) → ∃ fault, parse s = .error fault ∧ ∀ words passphrase network,
      Account.ofMnemonic words passphrase s network = .error (.invalidPath fault)) ∧
    (∀ s p, parse s = .ok p → parse p.text = .ok p ∧ parse ("m/" ++ p.text) = .ok p) ∧
    (∀ (index : UInt32) p, parse (accountPathText index) = .ok p ↔
      index.toNat < 2147483648 ∧ p = ⟨index.toNat, 0, 0⟩) ∧
    ∀ index : UInt32, ¬ index.toNat < 2147483648 → ∃ fault, ∀ words passphrase network,
      Account.ofMnemonicAt words passphrase index network = .error (.invalidPath fault) := by
  have hfault (s : String) (h : ¬ ∃ p, Spelled s p) : ∃ fault, parse s = .error fault ∧
      ∀ words passphrase network, Account.ofMnemonic words passphrase s network = .error (.invalidPath fault) := by
    obtain ⟨fault, hparse⟩ := exists_fault_iff.mpr h
    exact ⟨fault, hparse, Account.ofMnemonic_of_fault hparse⟩
  refine ⟨fun s p => parse_eq_ok, hfault, fun s p h => ?_, fun index p => parse_accountPathText, fun index h => ?_⟩
  · have hbounds := indexes_lt h
    exact ⟨(parse_eq_ok_of_text (.inl rfl)).mpr ⟨hbounds, rfl⟩, (parse_eq_ok_of_text (.inr rfl)).mpr ⟨hbounds, rfl⟩⟩
  · have hnone : ¬ ∃ p, Spelled (accountPathText index) p := by
      rintro ⟨p, hp⟩
      exact h (parse_accountPathText.mp (parse_eq_ok.mpr hp)).1
    obtain ⟨fault, -, hwords⟩ := hfault _ hnone
    exact ⟨fault, hwords⟩

end Wallet
end TokenGovernance
