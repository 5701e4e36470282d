import TokenGovernance.Proofs.CommandLine.Words
import TokenGovernance.Proofs.Text.Numeral

/-! # Words that are refused

A word with two dashes that is no option is refused, an option without the value that it takes, and a fee that is
no decimal numeral. What an option takes for its value may look like anything. A word with a single dash that is
no option is not refused.
-/

namespace TokenGovernance

open Outcome

namespace CommandLine

variable {dashes : List Char} {word option value text : String} {words rest : List String} {i : Nat}

/-! ## What is wrong with words -/

/-- The options, in each of their spellings. -/
def optionWords : List String :=
  ["-h", "--help", "-V", "--version", "--pretty", "--snapshot", "--max-fee"]

/-- The options that take the next word for their value. -/
def TakesValue (word : String) : Prop :=
  word = "--snapshot" ∨ word = "--max-fee"

/-- The word at a place is the value of an option, which stands in front of it and is itself no value. -/
def IsValue (words : List String) : Nat → Prop
  | 0 => False
  | i + 1 => (∃ word, words[i]? = some word ∧ TakesValue word) ∧ ¬ IsValue words i

/-- A word that begins with the dashes, and is neither an option nor the lone dash of the standard input. -/
def Foreign (dashes : List Char) (word : String) : Prop :=
  dashes <+: word.toList ∧ word ≠ "-" ∧ word ∉ optionWords

/-- A text that is a fee: decimal digits, with or without a plus in front, for a number of 64 bits. -/
def IsFee (text : String) : Prop :=
  ∃ cs, cs ≠ [] ∧ (text.toList = cs ∨ text.toList = '+' :: cs) ∧ (∀ c ∈ cs, c.isDigit = true) ∧
    Nat.ofDigitChars 10 cs 0 < UInt64.size

/-- What may be wrong with the first of some words. -/
inductive Amiss (dashes : List Char) : List String → Prop
  | foreign {word : String} {rest : List String} (h : Foreign dashes word) : Amiss dashes (word :: rest)
  | valueless {option : String} (h : TakesValue option) : Amiss dashes [option]
  | fee {text : String} {rest : List String} (h : ¬ IsFee text) : Amiss dashes ("--max-fee" :: text :: rest)

/-- Something is wrong with a word that is not the value of an option. -/
def Faulty (dashes : List Char) (words : List String) : Prop :=
  ∃ i, ¬ IsValue words i ∧ Amiss dashes (words.drop i)

/-! ## Fees -/

theorem Options.fee_eq_ok {n : UInt64} : fee text = .ok n ↔ Numeral.Spells 10 text n.toNat := by
  have hparse {m : Nat} : Numeral.parse 10 UInt64.size text = .ok m ↔ Numeral.Spells 10 text m ∧ m < UInt64.size :=
    Numeral.parse_eq_ok (by decide) (by decide)
  unfold fee
  constructor
  · intro h
    split at h
    next m hm =>
      obtain ⟨hspells, hlt⟩ := hparse.mp hm
      obtain rfl := Except.ok.inj h
      rwa [UInt64.toNat_ofNat_of_lt' hlt]
    next => cases h
  · intro h
    rw [hparse.mpr ⟨h, n.toNat_lt⟩]
    exact congrArg Except.ok UInt64.ofNat_toNat

theorem isFee_iff : IsFee text ↔ ∃ n, Options.fee text = .ok n := by
  unfold IsFee
  simp only [Options.fee_eq_ok, Numeral.Spells, Numeral.digits_ten]
  constructor
  · rintro ⟨cs, hne, htext, hdigits, hlt⟩
    exact ⟨.ofNat (Nat.ofDigitChars 10 cs 0), cs, hne, htext, hdigits, (UInt64.toNat_ofNat_of_lt' hlt).symm⟩
  · rintro ⟨n, cs, hne, htext, hdigits, hn⟩
    exact ⟨cs, hne, htext, hdigits, hn ▸ n.toNat_lt⟩

/-! ## One word and its value -/

theorem isValue_cons (h : ¬ TakesValue word) (i : Nat) : IsValue (word :: rest) (i + 1) ↔ IsValue rest i := by
  induction i with
  | zero =>
    refine iff_of_false ?_ id
    rintro ⟨⟨_, ⟨⟩, htakes⟩, -⟩
    exact h htakes
  | succ i ih => rw [IsValue, ih, List.getElem?_cons_succ, IsValue]

theorem isValue_one (h : TakesValue option) : IsValue (option :: rest) 1 :=
  ⟨⟨option, rfl, h⟩, id⟩

theorem isValue_cons_cons (h : TakesValue option) (i : Nat) :
    IsValue (option :: value :: rest) (i + 2) ↔ IsValue rest i := by
  induction i with
  | zero => exact iff_of_false (fun hvalue => hvalue.2 (isValue_one h)) id
  | succ i ih => rw [IsValue, ih, List.getElem?_cons_succ, List.getElem?_cons_succ, IsValue]

theorem faulty_iff : Faulty dashes words ↔
    Amiss dashes words ∨ ∃ i, ¬ IsValue words (i + 1) ∧ Amiss dashes (words.drop (i + 1)) := by
  constructor
  · rintro ⟨i, hvalue, hamiss⟩
    cases i with
    | zero => exact .inl hamiss
    | succ i => exact .inr ⟨i, hvalue, hamiss⟩
  · rintro (hamiss | ⟨i, hvalue, hamiss⟩)
    · exact ⟨0, id, hamiss⟩
    · exact ⟨i + 1, hvalue, hamiss⟩

theorem faulty_cons (h : ¬ TakesValue word) :
    Faulty dashes (word :: rest) ↔ Foreign dashes word ∨ Faulty dashes rest := by
  have hamiss : Amiss dashes (word :: rest) ↔ Foreign dashes word := by
    constructor
    · rintro (hforeign | htakes | -)
      · exact hforeign
      · exact absurd htakes h
      · exact absurd (.inr rfl) h
    · exact .foreign
  rw [faulty_iff, hamiss]
  simp only [isValue_cons h, List.drop_succ_cons, Faulty]

theorem not_foreign (h : word ∈ optionWords) : ¬ Foreign dashes word :=
  fun hforeign => hforeign.2.2 h

theorem mem_optionWords (h : TakesValue option) : option ∈ optionWords := by
  rcases h with rfl | rfl <;> decide

theorem faulty_cons_cons (h : TakesValue option) : Faulty dashes (option :: value :: rest) ↔
    (option = "--max-fee" ∧ ¬ IsFee value) ∨ Faulty dashes rest := by
  have hamiss : Amiss dashes (option :: value :: rest) ↔ option = "--max-fee" ∧ ¬ IsFee value := by
    constructor
    · rintro (hforeign | - | hfee)
      · exact absurd hforeign (not_foreign (mem_optionWords h))
      · exact ⟨rfl, hfee⟩
    · rintro ⟨rfl, hfee⟩
      exact .fee hfee
  rw [faulty_iff, hamiss]
  refine or_congr_right ⟨?_, ?_⟩
  · rintro ⟨i, hvalue, hrest⟩
    cases i with
    | zero => exact absurd (isValue_one h) hvalue
    | succ i => exact ⟨i, (isValue_cons_cons h i).not.mp hvalue, hrest⟩
  · rintro ⟨i, hvalue, hrest⟩
    exact ⟨i + 1, (isValue_cons_cons h i).not.mpr hvalue, hrest⟩

/-! ## All words -/

theorem faulty_flag (hoption : word ∈ optionWords) (hflag : ¬ TakesValue word) :
    Faulty dashes (word :: rest) ↔ Faulty dashes rest := by
  rw [faulty_cons hflag]
  exact or_iff_right (not_foreign hoption)

theorem Word.looks_of_eq {w : Word} (h : ofText word = w) : Looks word w :=
  h ▸ looks_ofText word

theorem Word.flag_of_looks {w : Word} (h : Looks word w) (hw : w = .help ∨ w = .version ∨ w = .pretty) :
    word ∈ optionWords ∧ ¬ TakesValue word := by
  unfold TakesValue
  rcases hw with rfl | rfl | rfl
  · rcases h with rfl | rfl <;> decide
  · rcases h with rfl | rfl <;> decide
  · obtain rfl := h
    decide

namespace Options

theorem readFrom_refused_iff {o : Options} :
    (∃ fault, readFrom o words = .error fault) ↔ Faulty ['-', '-'] words := by
  fun_induction readFrom o words with
  | case1 o =>
    refine iff_of_false nofun ?_
    rintro ⟨i, -, hamiss⟩
    rw [List.drop_nil] at hamiss
    cases hamiss
  | case2 o word rest hword ih =>
    obtain ⟨hoption, hflag⟩ := Word.flag_of_looks (Word.looks_of_eq hword) (.inl rfl)
    rw [faulty_flag hoption hflag, ih]
  | case3 o word rest hword ih =>
    obtain ⟨hoption, hflag⟩ := Word.flag_of_looks (Word.looks_of_eq hword) (.inr (.inl rfl))
    rw [faulty_flag hoption hflag, ih]
  | case4 o word rest hword ih =>
    obtain ⟨hoption, hflag⟩ := Word.flag_of_looks (Word.looks_of_eq hword) (.inr (.inr rfl))
    rw [faulty_flag hoption hflag, ih]
  | case5 o word hword =>
    obtain rfl : word = "--snapshot" := Word.looks_of_eq hword
    exact iff_of_true ⟨_, rfl⟩ ⟨0, id, .valueless (.inl rfl)⟩
  | case6 o word hword path rest ih =>
    -- The word behind is a value, in which nothing can be wrong.
    obtain rfl : word = "--snapshot" := Word.looks_of_eq hword
    rw [faulty_cons_cons (.inl rfl), ih]
    simp
  | case7 o word hword =>
    obtain rfl : word = "--max-fee" := Word.looks_of_eq hword
    exact iff_of_true ⟨_, rfl⟩ ⟨0, id, .valueless (.inr rfl)⟩
  | case8 o word hword text rest ih =>
    obtain rfl : word = "--max-fee" := Word.looks_of_eq hword
    rw [faulty_cons_cons (.inr rfl), isFee_iff]
    cases hfee : fee text with
    | error fault => simp
    | ok n => simp [ih n]
  | case9 o word rest hword =>
    have hoptions : ∀ option ∈ optionWords, Word.ofText option ≠ .unknown := by decide
    have hdashes : ['-', '-'] <+: word.toList := Word.looks_of_eq hword
    refine iff_of_true ⟨_, rfl⟩ ⟨0, id, .foreign ⟨hdashes, ?_, fun h => hoptions word h hword⟩⟩
    rintro rfl
    exact absurd hdashes (by decide)
  | case10 o word rest hword ih =>
    -- A word without dashes leaves what is wrong to those behind it.
    have hplain : Word.Looks word .plain := Word.looks_of_eq hword
    have hvalueless : ¬ TakesValue word := by
      rintro (rfl | rfl)
      · exact hplain.1 (by decide)
      · exact hplain.1 (by decide)
    rw [faulty_cons hvalueless, ih]
    exact (or_iff_right fun hforeign => hplain.1 hforeign.1).symm

end Options

/-! ## A single dash -/

/-- A word with one dash in front that is no option. -/
def Stray (word : String) : Prop :=
  Foreign ['-'] word ∧ ¬ ['-', '-'] <+: word.toList

/-- There is such a word that is not the value of an option. -/
def Strays (words : List String) : Prop :=
  ∃ i word, words[i]? = some word ∧ ¬ IsValue words i ∧ Stray word

theorem amiss_single_dash_iff :
    Amiss ['-'] words ↔ Amiss ['-', '-'] words ∨ ∃ word, words.head? = some word ∧ Stray word := by
  constructor
  · rintro (⟨hdash, hother⟩ | htakes | hfee)
    · rename_i word rest
      by_cases hdashes : ['-', '-'] <+: word.toList
      · exact .inl (.foreign ⟨hdashes, hother⟩)
      · exact .inr ⟨word, rfl, ⟨hdash, hother⟩, hdashes⟩
    · exact .inl (.valueless htakes)
    · exact .inl (.fee hfee)
  · rintro ((⟨hdashes, hother⟩ | htakes | hfee) | ⟨word, hhead, hforeign, -⟩)
    · exact .foreign ⟨(by decide : ['-'] <+: ['-', '-']).trans hdashes, hother⟩
    · exact .valueless htakes
    · exact .fee hfee
    · obtain ⟨rest, rfl⟩ := List.head?_eq_some_iff.mp hhead
      exact .foreign hforeign

theorem faulty_single_dash_iff : Faulty ['-'] words ↔ Faulty ['-', '-'] words ∨ Strays words := by
  unfold Faulty Strays
  simp only [amiss_single_dash_iff, List.head?_drop]
  constructor
  · rintro ⟨i, hvalue, hamiss | ⟨word, hword, hstray⟩⟩
    · exact .inl ⟨i, hvalue, hamiss⟩
    · exact .inr ⟨i, word, hword, hvalue, hstray⟩
  · rintro (⟨i, hvalue, hamiss⟩ | ⟨i, word, hword, hvalue, hstray⟩)
    · exact ⟨i, hvalue, .inl hamiss⟩
    · exact ⟨i, hvalue, .inr ⟨word, hword, hstray⟩⟩

theorem Phrase.words_cases {p : Phrase} (h : p.Allowed) :
    (∃ word, p.words = [word] ∧ ¬ TakesValue word) ∨
      ∃ option value, p.words = [option, value] ∧ TakesValue option := by
  unfold TakesValue
  cases p with
  | help long => exact .inl ⟨_, rfl, by cases long <;> decide⟩
  | version long => exact .inl ⟨_, rfl, by cases long <;> decide⟩
  | pretty => exact .inl ⟨_, rfl, by decide⟩
  | snapshot path => exact .inr ⟨_, path, rfl, .inl rfl⟩
  | maxFee text fee => exact .inr ⟨_, text, rfl, .inr rfl⟩
  | plain word =>
    refine .inl ⟨word, rfl, ?_⟩
    rintro (rfl | rfl)
    · exact h.1 (by decide)
    · exact h.1 (by decide)

theorem exists_phrase_of_not_isValue {phrases : List Phrase} (h : Spelled words phrases)
    (hword : words[i]? = some word) (hvalue : ¬ IsValue words i) : ∃ p ∈ phrases, p.words.head? = some word := by
  obtain ⟨rfl, hallowed⟩ := h
  induction phrases generalizing i with
  | nil => cases hword
  | cons p rest ih =>
    obtain ⟨hp, hrest⟩ := List.forall_mem_cons.mp hallowed
    have hlater {j : Nat} (hword : (rest.flatMap Phrase.words)[j]? = some word)
        (hvalue : ¬ IsValue (rest.flatMap Phrase.words) j) : ∃ q ∈ p :: rest, q.words.head? = some word := by
      obtain ⟨q, hq, hhead⟩ := ih hrest hword hvalue
      exact ⟨q, List.mem_cons_of_mem p hq, hhead⟩
    -- The word is in the phrase in front, as its first or as its value, or in one behind it.
    rw [List.flatMap_cons] at hword hvalue
    rcases Phrase.words_cases hp with ⟨first, hwords, hflag⟩ | ⟨option, value, hwords, htakes⟩
    · rw [hwords] at hword hvalue
      cases i with
      | zero => exact ⟨p, List.mem_cons_self, by rw [hwords]; exact hword⟩
      | succ i => exact hlater hword ((isValue_cons hflag i).not.mp hvalue)
    · rw [hwords] at hword hvalue
      match i with
      | 0 => exact ⟨p, List.mem_cons_self, by rw [hwords]; exact hword⟩
      | 1 => exact absurd (isValue_one htakes) hvalue
      | i + 2 => exact hlater hword ((isValue_cons_cons htakes i).not.mp hvalue)

theorem Phrase.eq_plain_of_foreign {p : Phrase} (hhead : p.words.head? = some word) (h : Foreign dashes word) :
    p = .plain word := by
  obtain ⟨-, -, hoption⟩ := h
  have hne {other : String} (hhead : some other = some word) (hmem : other ∈ optionWords) : p = .plain word :=
    absurd (Option.some.inj hhead ▸ hmem) hoption
  cases p with
  | help long => exact hne hhead (by cases long <;> decide)
  | version long => exact hne hhead (by cases long <;> decide)
  | pretty => exact hne hhead (by decide)
  | snapshot path => exact hne hhead (by decide)
  | maxFee text fee => exact hne hhead (by decide)
  | plain other => exact congrArg Phrase.plain (Option.some.inj hhead)

/-- Words are refused exactly for a word with two dashes that is no option, for an option without its value and for
a fee that is none. For a word with a single dash that is no option they are refused too, unless it is all that is
wrong with them: it is then a plain word, a command, a request or one too many. -/
theorem Options.refuses_iff_faulty (words : List String) :
    ((∃ fault, read words = .error fault) ↔ Faulty ['-', '-'] words) ∧
      ((Faulty ['-'] words → ∃ fault, read words = .error fault) ↔
        ¬ (Strays words ∧ ¬ Faulty ['-', '-'] words)) ∧
      ∀ o i word, read words = .ok o → words[i]? = some word → ¬ IsValue words i → Stray word →
        ∃ phrases, Spelled words phrases ∧ .plain word ∈ phrases ∧ o = ofPhrases phrases := by
  have hrefused : (∃ fault, read words = .error fault) ↔ Faulty ['-', '-'] words := readFrom_refused_iff
  refine ⟨hrefused, ?_, ?_⟩
  · rw [hrefused, faulty_single_dash_iff]
    tauto
  · intro o i word hread hword hvalue hstray
    obtain ⟨phrases, hspelled, rfl⟩ := read_eq_ok.mp hread
    obtain ⟨p, hp, hhead⟩ := exists_phrase_of_not_isValue hspelled hword hvalue
    exact ⟨phrases, hspelled, Phrase.eq_plain_of_foreign hhead hstray.1 ▸ hp, rfl⟩

theorem Options.single_dash_accepted : Faulty ['-'] ["commands", "-x"] ∧
    read ["commands", "-x"] = .ok { command := some "commands", request := some "-x" } ∧
      ¬ (Faulty ['-'] ["commands", "-x"] → ∃ fault, read ["commands", "-x"] = .error fault) := by
  have hread : read ["commands", "-x"] = .ok { command := some "commands", request := some "-x" } := by decide
  have hcommand : ¬ TakesValue "commands" := by unfold TakesValue; decide
  have hforeign : Foreign ['-'] "-x" := by unfold Foreign; decide
  have hfaulty : Faulty ['-'] ["commands", "-x"] := by
    rw [faulty_cons hcommand]
    exact .inr ⟨0, id, .foreign hforeign⟩
  refine ⟨hfaulty, hread, fun h => ?_⟩
  obtain ⟨fault, hfault⟩ := h hfaulty
  exact nomatch hread.symm.trans hfault

end CommandLine
end TokenGovernance
