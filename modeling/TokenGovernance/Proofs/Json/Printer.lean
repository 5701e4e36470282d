import TokenGovernance.Proofs.Json.Token

/-! # Lexemes of printed text

Both ways of printing a value spell the same lexemes, with other blanks between them.
-/

namespace TokenGovernance.Json

/-- Values whose numbers are whole and of 64 bits at most, with no more than `d` containers around each
other. -/
inductive Fits : Nat → Json → Prop
  | null (d : Nat) : Fits d .null
  | bool (d : Nat) (b : Bool) : Fits d (.bool b)
  | whole (d : Nat) {n : Int} (hn : -9223372036854775808 ≤ n ∧ n < 18446744073709551616) :
      Fits d (.number (.whole n))
  | string (d : Nat) (s : String) : Fits d (.string s)
  | array {d : Nat} {items : List Json} (h : ∀ j ∈ items, Fits d j) : Fits (d + 1) (.array items)
  | object {d : Nat} {members : List (String × Json)} (h : ∀ m ∈ members, Fits d m.2) :
      Fits (d + 1) (.object members)

/-! ## Spelling -/

/-- A text and the lexemes that it is scanned as. -/
inductive Spells : List Char → List Lexeme → Prop
  | nil : Spells [] []
  | blank {c : Char} {cs : List Char} {ls : List Lexeme} (hc : isSpace c = true) (h : Spells cs ls) :
      Spells (c :: cs) ls
  | lexeme {c : Char} {word cs : List Char} {l : Lexeme} {ls : List Lexeme} (hc : isSpace c = false)
      (hl : l.isLast = false) (hscan : ∀ offset, scanToken offset c (word ++ cs) = (l, word.length))
      (h : Spells cs ls) : Spells (c :: (word ++ cs)) (l :: ls)

theorem Spells.map_tokens {cs : List Char} {ls : List Lexeme} (h : Spells cs ls) (offset : Nat) :
    (tokens offset cs).map Token.lexeme = ls := by
  induction h generalizing offset with
  | nil =>
    rw [tokens]
    rfl
  | blank hc _ ih =>
    rw [tokens, if_pos hc]
    exact ih _
  | lexeme hc hl hscan _ ih =>
    rw [tokens, if_neg (by rw [hc]; exact Bool.false_ne_true), hscan]
    dsimp only
    rw [hl, if_neg Bool.false_ne_true, List.drop_left, List.map_cons, ih]

variable {cs : List Char} {ls : List Lexeme}

theorem ne_of_isDigit {c d : Char} (h : isDigit c = true) (hd : isDigit d = false) : c ≠ d := by
  rintro rfl
  rw [hd] at h
  cases h

theorem isSpace_of_isDigit {c : Char} (h : isDigit c = true) : isSpace c = false := by
  have hne {d : Char} (hd : isDigit d = false) : decide (c = d) = false := decide_eq_false (ne_of_isDigit h hd)
  unfold isSpace
  rw [hne rfl, hne rfl, hne rfl, hne rfl]
  rfl

theorem scanToken_digit {c : Char} (h : isDigit c = true) (offset : Nat) (rest : List Char) :
    scanToken offset c rest =
      ((scanNumber false offset 0 (c :: rest)).1, (scanNumber false offset 0 (c :: rest)).2 - 1) := by
  unfold scanToken
  repeat rw [if_neg (ne_of_isDigit h rfl)]
  rw [if_pos h]

theorem Spells.mark {c : Char} {l : Lexeme} (hc : isSpace c = false) (hl : l.isLast = false)
    (hscan : ∀ offset, scanToken offset c cs = (l, 0)) (h : Spells cs ls) : Spells (c :: cs) (l :: ls) :=
  show Spells (c :: ([] ++ cs)) (l :: ls) from .lexeme hc hl hscan h

theorem Spells.comma (h : Spells cs ls) : Spells (',' :: cs) (.comma :: ls) :=
  h.mark rfl rfl fun _ => rfl

theorem Spells.colon (h : Spells cs ls) : Spells (':' :: cs) (.colon :: ls) :=
  h.mark rfl rfl fun _ => rfl

theorem Spells.openArray (h : Spells cs ls) : Spells ('[' :: cs) (.openArray :: ls) :=
  h.mark rfl rfl fun _ => rfl

theorem Spells.closeArray (h : Spells cs ls) : Spells (']' :: cs) (.closeArray :: ls) :=
  h.mark rfl rfl fun _ => rfl

theorem Spells.openObject (h : Spells cs ls) : Spells ('\x7b' :: cs) (.openObject :: ls) :=
  h.mark rfl rfl fun _ => rfl

theorem Spells.closeObject (h : Spells cs ls) : Spells ('\x7d' :: cs) (.closeObject :: ls) :=
  h.mark rfl rfl fun _ => rfl

theorem Spells.null (h : Spells cs ls) : Spells (chars .null ++ cs) (.scalar .null :: ls) :=
  show Spells ('n' :: (['u', 'l', 'l'] ++ cs)) _ from .lexeme rfl rfl (fun _ => rfl) h

theorem Spells.bool (b : Bool) (h : Spells cs ls) : Spells (chars (.bool b) ++ cs) (.scalar (.bool b) :: ls) := by
  cases b with
  | true => exact show Spells ('t' :: (['r', 'u', 'e'] ++ cs)) _ from .lexeme rfl rfl (fun _ => rfl) h
  | false => exact show Spells ('f' :: (['a', 'l', 's', 'e'] ++ cs)) _ from .lexeme rfl rfl (fun _ => rfl) h

theorem Spells.string (s : String) (h : Spells cs ls) :
    Spells (stringChars s ++ cs) (.scalar (.string (.ok s)) :: ls) := by
  have hchars : stringChars s ++ cs = '"' :: (s.toList.flatMap escapeChar ++ ['"'] ++ cs) := rfl
  rw [hchars]
  refine .lexeme (by decide) rfl (fun offset => ?_) h
  rw [List.append_assoc, List.length_append]
  exact scanToken_string s offset cs

theorem Spells.whole {n : Int} (hn : -9223372036854775808 ≤ n ∧ n < 18446744073709551616) (hcs : Ends cs)
    (h : Spells cs ls) :
    Spells (Number.chars (.whole n) ++ cs) (.scalar (.number (.ok (.whole n))) :: ls) := by
  have hsize : n.natAbs < UInt64.size := by
    change n.natAbs < 18446744073709551616
    omega
  unfold Number.chars
  -- A number starts at its sign, or else at its first digit.
  by_cases hneg : n < 0
  · have hchars : (if n < 0 then ['-'] else []) ++ Nat.toDigits 10 n.natAbs ++ cs =
        '-' :: (Nat.toDigits 10 n.natAbs ++ cs) := by
      rw [if_pos hneg]
      rfl
    dsimp only
    rw [hchars]
    refine .lexeme (by decide) rfl (fun offset => ?_) h
    obtain ⟨stop, hscan⟩ := scanNumber_toDigits true (offset + 1) 0 n.natAbs hcs
    have hvalue : -(n.natAbs : Int) = n := by omega
    change scanNumber true (offset + 1) 0 _ = _
    rw [hscan, value_toDigits true stop hsize (fun _ => by omega), if_pos rfl, hvalue, Nat.zero_add]
  · dsimp only
    rw [if_neg hneg, List.nil_append]
    obtain ⟨c, rest, hdigits⟩ := List.exists_cons_of_ne_nil (Nat.toDigits_ne_nil (n := n.natAbs) (b := 10))
    have hc : isDigit c = true := isDigit_of_mem_toDigits c (by rw [hdigits]; exact List.mem_cons_self)
    have hvalue : (n.natAbs : Int) = n := by omega
    rw [hdigits, List.cons_append]
    refine .lexeme (isSpace_of_isDigit hc) rfl (fun offset => ?_) h
    obtain ⟨stop, hscan⟩ := scanNumber_toDigits false offset 0 n.natAbs hcs
    rw [hdigits, List.cons_append] at hscan
    rw [scanToken_digit hc, hscan, ← hdigits, value_toDigits false stop hsize nofun, if_neg Bool.false_ne_true,
      hvalue, hdigits, Nat.zero_add]
    rfl

theorem Spells.lineStart (level : Nat) (h : Spells cs ls) : Spells (lineStart level ++ cs) ls := by
  refine .blank (by decide) ?_
  generalize 2 * level = width
  induction width with
  | zero => exact h
  | succ width ih => exact .blank (by decide) ih

/-! ## Values -/

mutual

def lexemes : Json → List Lexeme
  | .null => [.scalar .null]
  | .bool b => [.scalar (.bool b)]
  | .number n => [.scalar (.number (.ok n))]
  | .string s => [.scalar (.string (.ok s))]
  | .array [] => [.openArray, .closeArray]
  | .array (item :: rest) => .openArray :: (lexemes item ++ itemLexemes rest)
  | .object [] => [.openObject, .closeObject]
  | .object ((key, value) :: rest) =>
    .openObject :: .scalar (.string (.ok key)) :: .colon :: (lexemes value ++ memberLexemes rest)

/-- The lexemes behind an item, up to the end of the array. -/
def itemLexemes : List Json → List Lexeme
  | [] => [.closeArray]
  | item :: rest => .comma :: (lexemes item ++ itemLexemes rest)

/-- The lexemes behind a member, up to the end of the object. -/
def memberLexemes : List (String × Json) → List Lexeme
  | [] => [.closeObject]
  | (key, value) :: rest =>
    .comma :: .scalar (.string (.ok key)) :: .colon :: (lexemes value ++ memberLexemes rest)

end

theorem ends_cons {c : Char} (h : isDigit c = false ∧ c ≠ '.' ∧ c ≠ 'e' ∧ c ≠ 'E') (cs : List Char) :
    Ends (c :: cs) := by
  rintro _ ⟨⟩
  exact h

theorem ends_itemChars (items : List Json) (cs : List Char) : Ends (itemChars items ++ ']' :: cs) := by
  cases items with
  | nil => exact ends_cons (by decide) _
  | cons item rest =>
    rw [itemChars]
    exact ends_cons (by decide) _

theorem ends_memberChars (members : List (String × Json)) (cs : List Char) :
    Ends (memberChars members ++ '\x7d' :: cs) := by
  cases members with
  | nil => exact ends_cons (by decide) _
  | cons m rest =>
    rw [memberChars]
    exact ends_cons (by decide) _

mutual

theorem spells_chars : ∀ {j : Json} {d : Nat} {cs : List Char} {ls : List Lexeme}, j.Fits d → Ends cs →
    Spells cs ls → Spells (j.chars ++ cs) (j.lexemes ++ ls)
  | .null, _, _, _, _, _, h => h.null
  | .bool b, _, _, _, _, _, h => h.bool b
  | .number _, _, _, _, .whole _ hn, hcs, h => by
    rw [chars]
    exact h.whole hn hcs
  | .string s, _, _, _, _, _, h => h.string s
  | .array [], _, _, _, _, _, h => h.closeArray.openArray
  | .array (item :: rest), _, cs, _, .array hitems, _, h => by
    obtain ⟨hitem, hrest⟩ := List.forall_mem_cons.mp hitems
    have hspells := spells_chars hitem (ends_itemChars rest cs) (spells_itemChars hrest h)
    rw [chars, lexemes]
    simp only [List.cons_append, List.append_assoc, List.nil_append]
    exact hspells.openArray
  | .object [], _, _, _, _, _, h => h.closeObject.openObject
  | .object ((key, value) :: rest), _, cs, _, .object hmembers, _, h => by
    obtain ⟨hvalue, hrest⟩ := List.forall_mem_cons.mp hmembers
    have hspells := spells_chars hvalue (ends_memberChars rest cs) (spells_memberChars hrest h)
    rw [chars, lexemes]
    simp only [List.cons_append, List.append_assoc, List.nil_append]
    exact (hspells.colon.string key).openObject

theorem spells_itemChars : ∀ {items : List Json} {d : Nat} {cs : List Char} {ls : List Lexeme},
    (∀ j ∈ items, j.Fits d) → Spells cs ls → Spells (itemChars items ++ ']' :: cs) (itemLexemes items ++ ls)
  | [], _, _, _, _, h => h.closeArray
  | item :: rest, _, cs, _, hitems, h => by
    obtain ⟨hitem, hrest⟩ := List.forall_mem_cons.mp hitems
    have hspells := spells_chars hitem (ends_itemChars rest cs) (spells_itemChars hrest h)
    rw [itemChars, itemLexemes]
    simp only [List.cons_append, List.append_assoc]
    exact hspells.comma

theorem spells_memberChars : ∀ {members : List (String × Json)} {d : Nat} {cs : List Char} {ls : List Lexeme},
    (∀ m ∈ members, m.2.Fits d) → Spells cs ls →
      Spells (memberChars members ++ '\x7d' :: cs) (memberLexemes members ++ ls)
  | [], _, _, _, _, h => h.closeObject
  | (key, value) :: rest, _, cs, _, hmembers, h => by
    obtain ⟨hvalue, hrest⟩ := List.forall_mem_cons.mp hmembers
    have hspells := spells_chars hvalue (ends_memberChars rest cs) (spells_memberChars hrest h)
    rw [memberChars, memberLexemes]
    simp only [List.cons_append, List.append_assoc]
    exact (hspells.colon.string key).comma

end

theorem ends_lineStart (level : Nat) (cs : List Char) : Ends (lineStart level ++ cs) :=
  ends_cons (by decide) _

theorem ends_indentedItems (inner level : Nat) (items : List Json) (cs : List Char) :
    Ends (indentedItems inner items ++ (lineStart level ++ ']' :: cs)) := by
  cases items with
  | nil => exact ends_lineStart level _
  | cons item rest =>
    rw [indentedItems]
    exact ends_cons (by decide) _

theorem ends_indentedMembers (inner level : Nat) (members : List (String × Json)) (cs : List Char) :
    Ends (indentedMembers inner members ++ (lineStart level ++ '\x7d' :: cs)) := by
  cases members with
  | nil => exact ends_lineStart level _
  | cons m rest =>
    rw [indentedMembers]
    exact ends_cons (by decide) _

mutual

theorem spells_indentedChars : ∀ {j : Json} {d : Nat} {cs : List Char} {ls : List Lexeme} (level : Nat), j.Fits d →
    Ends cs → Spells cs ls → Spells (j.indentedChars level ++ cs) (j.lexemes ++ ls)
  | .null, _, _, _, _, hfits, hcs, h | .bool _, _, _, _, _, hfits, hcs, h | .number _, _, _, _, _, hfits, hcs, h
  | .string _, _, _, _, _, hfits, hcs, h | .array [], _, _, _, _, hfits, hcs, h
  | .object [], _, _, _, _, hfits, hcs, h => by
    rw [indentedChars]
    exact spells_chars hfits hcs h
  | .array (item :: rest), _, cs, _, level, .array hitems, _, h => by
    obtain ⟨hitem, hrest⟩ := List.forall_mem_cons.mp hitems
    have hspells := spells_indentedChars (level + 1) hitem (ends_indentedItems _ level rest cs)
      (spells_indentedItems (level + 1) level hrest h)
    rw [indentedChars, lexemes]
    simp only [List.cons_append, List.append_assoc, List.nil_append]
    exact (hspells.lineStart _).openArray
  | .object ((key, value) :: rest), _, cs, _, level, .object hmembers, _, h => by
    obtain ⟨hvalue, hrest⟩ := List.forall_mem_cons.mp hmembers
    have hspells := spells_indentedChars (level + 1) hvalue (ends_indentedMembers _ level rest cs)
      (spells_indentedMembers (level + 1) level hrest h)
    rw [indentedChars, lexemes]
    simp only [List.cons_append, List.append_assoc, List.nil_append]
    exact (((Spells.blank (by decide) hspells).colon.string key).lineStart _).openObject

theorem spells_indentedItems : ∀ {items : List Json} {d : Nat} {cs : List Char} {ls : List Lexeme}
    (inner level : Nat), (∀ j ∈ items, j.Fits d) → Spells cs ls →
      Spells (indentedItems inner items ++ (lineStart level ++ ']' :: cs)) (itemLexemes items ++ ls)
  | [], _, _, _, _, level, _, h => h.closeArray.lineStart level
  | item :: rest, _, cs, _, inner, level, hitems, h => by
    obtain ⟨hitem, hrest⟩ := List.forall_mem_cons.mp hitems
    have hspells := spells_indentedChars inner hitem (ends_indentedItems inner level rest cs)
      (spells_indentedItems inner level hrest h)
    rw [indentedItems, itemLexemes]
    simp only [List.cons_append, List.append_assoc]
    exact (hspells.lineStart inner).comma

theorem spells_indentedMembers : ∀ {members : List (String × Json)} {d : Nat} {cs : List Char} {ls : List Lexeme}
    (inner level : Nat), (∀ m ∈ members, m.2.Fits d) → Spells cs ls →
      Spells (indentedMembers inner members ++ (lineStart level ++ '\x7d' :: cs)) (memberLexemes members ++ ls)
  | [], _, _, _, _, level, _, h => h.closeObject.lineStart level
  | (key, value) :: rest, _, cs, _, inner, level, hmembers, h => by
    obtain ⟨hvalue, hrest⟩ := List.forall_mem_cons.mp hmembers
    have hspells := spells_indentedChars inner hvalue (ends_indentedMembers inner level rest cs)
      (spells_indentedMembers inner level hrest h)
    rw [indentedMembers, memberLexemes]
    simp only [List.cons_append, List.append_assoc]
    exact (((Spells.blank (by decide) hspells).colon.string key).lineStart inner).comma

end

end TokenGovernance.Json
