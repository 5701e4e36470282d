import TokenGovernance.Proofs.Json.Printer
import TokenGovernance.Proofs.Json.Value

/-! # Documents of printed text

The lexemes of a value make a document that holds the value, so that what is printed either way is a document
with the value for its root and nothing behind it.
-/

namespace TokenGovernance.Json

/-! ## One token more -/

section

variable {size depth count stop : Nat} {t c next colon : Token} {rest behind : List Token} {node : Node}
  {name key : String}

theorem nodeAt_scalar {value : Scalar} (ht : t.lexeme = .scalar value) :
    nodeAt size depth t rest = (.scalar value t.start t.stop, 0) := by
  rw [nodeAt, ht]

theorem nodeAt_array (ht : t.lexeme = .openArray) :
    nodeAt size depth t rest =
      (.array t.start (depth + 1) (itemsFrom size (depth + 1) rest).1, (itemsFrom size (depth + 1) rest).2) := by
  rw [nodeAt, ht]

theorem nodeAt_object (ht : t.lexeme = .openObject) :
    nodeAt size depth t rest =
      (.object t.start (depth + 1) (membersFrom size (depth + 1) rest).1,
        (membersFrom size (depth + 1) rest).2) := by
  rw [nodeAt, ht]

theorem itemsFrom_close (ht : t.lexeme = .closeArray) :
    itemsFrom size depth (t :: rest) = (.done (.closed t.stop), 1) := by
  rw [itemsFrom, ht]

theorem itemsFrom_item (ht : t.lexeme ≠ .closeArray) :
    itemsFrom size depth (t :: rest) = ((itemAt size depth t rest).1, (itemAt size depth t rest).2 + 1) := by
  rw [itemsFrom]
  split
  next h => exact absurd h ht
  next => rfl

theorem itemAt_close (hnode : nodeAt size depth t rest = (node, count)) (hrest : rest.drop count = c :: behind)
    (hc : c.lexeme = .closeArray) :
    ∃ tail, itemAt size depth t rest = (.item node tail (.done (.closed c.stop)), count + 1) := by
  refine ⟨itemTail size (rest.drop count), ?_⟩
  rw [itemAt, hnode]
  dsimp only
  split
  next h => cases hrest.symm.trans h
  next h =>
    obtain ⟨rfl, rfl⟩ := List.cons.inj (hrest.symm.trans h)
    rw [hc]

theorem itemAt_comma (hnode : nodeAt size depth t rest = (node, count))
    (hrest : rest.drop count = c :: next :: behind) (hc : c.lexeme = .comma) (hnext : next.lexeme ≠ .closeArray) :
    ∃ tail, itemAt size depth t rest =
      (.item node tail (itemAt size depth next behind).1, count + 2 + (itemAt size depth next behind).2) := by
  refine ⟨itemTail size (rest.drop count), ?_⟩
  rw [itemAt, hnode]
  dsimp only
  split
  next h => cases hrest.symm.trans h
  next h =>
    obtain ⟨rfl, rfl⟩ := List.cons.inj (hrest.symm.trans h)
    rw [hc]
    dsimp only
    split
    next h => exact absurd h hnext
    next => rfl

theorem membersFrom_close (ht : t.lexeme = .closeObject) :
    membersFrom size depth (t :: rest) = (.done (.closed t.stop), 1) := by
  rw [membersFrom, ht]

theorem membersFrom_member (ht : t.lexeme = .scalar (.string (.ok name))) :
    membersFrom size depth (t :: rest) =
      ((memberAt size depth (.ok name) t.stop rest).1, (memberAt size depth (.ok name) t.stop rest).2 + 1) := by
  rw [membersFrom, ht]

theorem memberAt_close (hnode : nodeAt size depth t rest = (node, count))
    (hcolon : colon.lexeme = .colon) (hrest : rest.drop count = c :: behind) (hc : c.lexeme = .closeObject) :
    ∃ leave tail, memberAt size depth (.ok name) stop (colon :: t :: rest) =
      (.member ⟨.ok name, stop, leave⟩ node tail (.done (.closed c.stop)), count + 3) := by
  refine ⟨(memberTail size (colon :: t :: rest)).leave, memberTail size (rest.drop count), ?_⟩
  rw [memberAt, hcolon]
  dsimp only
  rw [hnode]
  dsimp only
  split
  next h => cases hrest.symm.trans h
  next h =>
    obtain ⟨rfl, rfl⟩ := List.cons.inj (hrest.symm.trans h)
    rw [hc]
    rfl

theorem memberAt_comma (hnode : nodeAt size depth t rest = (node, count))
    (hcolon : colon.lexeme = .colon) (hrest : rest.drop count = c :: next :: behind) (hc : c.lexeme = .comma)
    (hnext : next.lexeme = .scalar (.string (.ok key))) :
    ∃ leave tail, memberAt size depth (.ok name) stop (colon :: t :: rest) =
      (.member ⟨.ok name, stop, leave⟩ node tail (memberAt size depth (.ok key) next.stop behind).1,
        count + 4 + (memberAt size depth (.ok key) next.stop behind).2) := by
  refine ⟨(memberTail size (colon :: t :: rest)).leave, memberTail size (rest.drop count), ?_⟩
  rw [memberAt, hcolon]
  dsimp only
  rw [hnode]
  dsimp only
  split
  next h => cases hrest.symm.trans h
  next h =>
    obtain ⟨rfl, rfl⟩ := List.cons.inj (hrest.symm.trans h)
    rw [hc]
    dsimp only
    rw [hnext]
    rfl

end

/-! ## Whole values -/

theorem exists_cons_lexemes : ∀ j : Json, ∃ l ls, j.lexemes = l :: ls ∧ l ≠ .closeArray
  | .null => ⟨_, _, rfl, nofun⟩
  | .bool _ => ⟨_, _, rfl, nofun⟩
  | .number _ => ⟨_, _, rfl, nofun⟩
  | .string _ => ⟨_, _, rfl, nofun⟩
  | .array [] => ⟨_, _, rfl, nofun⟩
  | .array (_ :: _) => ⟨_, _, rfl, nofun⟩
  | .object [] => ⟨_, _, rfl, nofun⟩
  | .object (_ :: _) => ⟨_, _, rfl, nofun⟩

theorem exists_tokens {j : Json} {ts : List Token} {ls : List Lexeme}
    (h : ts.map Token.lexeme = j.lexemes ++ ls) :
    ∃ t us behind, ts = t :: (us ++ behind) ∧ (t :: us).map Token.lexeme = j.lexemes ∧
      behind.map Token.lexeme = ls ∧ t.lexeme ≠ .closeArray := by
  obtain ⟨front, behind, rfl, hfront, hbehind⟩ := List.map_eq_append_iff.mp h
  obtain ⟨l, ls, hlexemes, hl⟩ := exists_cons_lexemes j
  obtain ⟨t, us, rfl, rfl, -⟩ := List.map_eq_cons_iff.mp (hfront.trans hlexemes)
  exact ⟨t, us, behind, rfl, hfront, hbehind, hl⟩

theorem scalar_of_map {value : Scalar} {size depth : Nat} {t : Token} {us : List Token} (rest : List Token)
    (h : (t :: us).map Token.lexeme = [.scalar value]) :
    nodeAt size depth t (us ++ rest) = (.scalar value t.start t.stop, us.length) := by
  obtain ⟨ht, hus⟩ := List.cons.inj h
  obtain rfl := List.map_eq_nil_iff.mp hus
  exact nodeAt_scalar ht

variable (size : Nat)

mutual

theorem nodeAt_lexemes : ∀ {j : Json} {d : Nat} (depth : Nat) {t : Token} {us : List Token} (rest : List Token),
    j.Fits d → depth + d < depthLimit → (t :: us).map Token.lexeme = j.lexemes →
      ∃ node, nodeAt size depth t (us ++ rest) = (node, us.length) ∧ node.Denotes j
  | .null, _, _, _, _, rest, _, _, h => ⟨_, scalar_of_map rest h, .null _ _⟩
  | .bool b, _, _, _, _, rest, _, _, h => ⟨_, scalar_of_map rest h, .bool b _ _⟩
  | .number n, _, _, _, _, rest, _, _, h => ⟨_, scalar_of_map rest h, .number n _ _⟩
  | .string s, _, _, _, _, rest, _, _, h => ⟨_, scalar_of_map rest h, .string s _ _⟩
  | .array [], _, depth, t, _, rest, .array _, hlimit, h => by
    obtain ⟨ht, hus⟩ := List.cons.inj h
    obtain ⟨c, _, rfl, hc, hus⟩ := List.map_eq_cons_iff.mp hus
    obtain rfl := List.map_eq_nil_iff.mp hus
    refine ⟨.array t.start (depth + 1) (.done (.closed c.stop)), ?_, .array _ (by omega) (.done _)⟩
    rw [nodeAt_array ht, List.cons_append, itemsFrom_close hc]
    rfl
  | .array (item :: items), _, depth, t, _, rest, .array hitems, hlimit, h => by
    obtain ⟨hitem, hitems⟩ := List.forall_mem_cons.mp hitems
    obtain ⟨ht, hus⟩ := List.cons.inj h
    -- The first item is read one level deeper, and those behind it from the tokens that it leaves.
    obtain ⟨first, us, behind, rfl, hus, hbehind, hopen⟩ := exists_tokens hus
    obtain ⟨node, hnode, hdenotes⟩ := nodeAt_lexemes (depth + 1) (behind ++ rest) hitem (by omega) hus
    obtain ⟨parts, hparts, hdenotes⟩ := itemAt_lexemes (depth + 1) rest hitems (by omega) hbehind hnode hdenotes
    refine ⟨.array t.start (depth + 1) parts, ?_, .array _ (by omega) hdenotes⟩
    rw [nodeAt_array ht, List.cons_append, itemsFrom_item hopen, List.append_assoc, hparts, List.length_cons,
      List.length_append]
  | .object [], _, depth, t, _, rest, .object _, hlimit, h => by
    obtain ⟨ht, hus⟩ := List.cons.inj h
    obtain ⟨c, _, rfl, hc, hus⟩ := List.map_eq_cons_iff.mp hus
    obtain rfl := List.map_eq_nil_iff.mp hus
    refine ⟨.object t.start (depth + 1) (.done (.closed c.stop)), ?_, .object _ (by omega) (.done _)⟩
    rw [nodeAt_object ht, List.cons_append, membersFrom_close hc]
    rfl
  | .object ((key, value) :: members), _, depth, t, _, rest, .object hmembers, hlimit, h => by
    obtain ⟨hvalue, hmembers⟩ := List.forall_mem_cons.mp hmembers
    obtain ⟨ht, hus⟩ := List.cons.inj h
    obtain ⟨name, _, rfl, hname, hus⟩ := List.map_eq_cons_iff.mp hus
    obtain ⟨colon, _, rfl, hcolon, hus⟩ := List.map_eq_cons_iff.mp hus
    obtain ⟨first, us, behind, rfl, hus, hbehind, -⟩ := exists_tokens hus
    obtain ⟨node, hnode, hdenotes⟩ := nodeAt_lexemes (depth + 1) (behind ++ rest) hvalue (by omega) hus
    obtain ⟨parts, hparts, hdenotes⟩ :=
      memberAt_lexemes (depth + 1) name.stop rest hmembers (by omega) hcolon hbehind hnode hdenotes
    refine ⟨.object t.start (depth + 1) parts, ?_, .object _ (by omega) hdenotes⟩
    rw [nodeAt_object ht, List.cons_append, membersFrom_member hname, List.cons_append, List.cons_append,
      List.append_assoc, hparts]
    simp only [List.length_cons, List.length_append]

/-- The items from one on that was read, given the tokens behind it. -/
theorem itemAt_lexemes : ∀ {items : List Json} {d : Nat} (depth : Nat) {t : Token} {us behind : List Token}
    (rest : List Token) {item : Json} {node : Node}, (∀ j ∈ items, j.Fits d) → depth + d < depthLimit →
      behind.map Token.lexeme = itemLexemes items → nodeAt size depth t (us ++ (behind ++ rest)) = (node, us.length) →
        node.Denotes item → ∃ parts, itemAt size depth t (us ++ (behind ++ rest)) =
          (parts, us.length + behind.length) ∧ parts.Denotes (item :: items)
  | [], _, _, _, us, _, rest, _, node, _, _, hbehind, hnode, hdenotes => by
    obtain ⟨c, _, rfl, hc, hbehind⟩ := List.map_eq_cons_iff.mp hbehind
    obtain rfl := List.map_eq_nil_iff.mp hbehind
    obtain ⟨tail, hparts⟩ := itemAt_close hnode List.drop_left hc
    exact ⟨.item node tail (.done (.closed c.stop)), hparts, .item _ hdenotes (.done _)⟩
  | item :: items, _, depth, _, us, _, rest, _, node, hitems, hlimit, hbehind, hnode, hdenotes => by
    obtain ⟨hitem, hitems⟩ := List.forall_mem_cons.mp hitems
    obtain ⟨c, _, rfl, hc, hbehind⟩ := List.map_eq_cons_iff.mp hbehind
    obtain ⟨next, vs, behind, rfl, hvs, hbehind, hopen⟩ := exists_tokens hbehind
    obtain ⟨node', hnode', hdenotes'⟩ := nodeAt_lexemes depth (behind ++ rest) hitem hlimit hvs
    obtain ⟨parts, hparts, hdenotes'⟩ := itemAt_lexemes depth rest hitems hlimit hbehind hnode' hdenotes'
    simp only [List.cons_append, List.append_assoc] at hnode ⊢
    obtain ⟨tail, hitem⟩ := itemAt_comma hnode List.drop_left hc hopen
    refine ⟨.item node tail parts, ?_, .item _ hdenotes hdenotes'⟩
    rw [hitem, hparts]
    simp only [List.length_cons, List.length_append]
    congr 1
    omega

/-- The members from one on whose value was read, given the tokens behind it. -/
theorem memberAt_lexemes : ∀ {members : List (String × Json)} {d : Nat} (depth stop : Nat) {colon t : Token}
    {us behind : List Token} (rest : List Token) {name : String} {value : Json} {node : Node},
      (∀ m ∈ members, m.2.Fits d) → depth + d < depthLimit → colon.lexeme = .colon →
        behind.map Token.lexeme = memberLexemes members →
          nodeAt size depth t (us ++ (behind ++ rest)) = (node, us.length) → node.Denotes value →
            ∃ parts, memberAt size depth (.ok name) stop (colon :: t :: (us ++ (behind ++ rest))) =
              (parts, us.length + behind.length + 2) ∧ parts.Denotes ((name, value) :: members)
  | [], _, _, _, _, _, us, _, rest, _, _, node, _, _, hcolon, hbehind, hnode, hdenotes => by
    obtain ⟨c, _, rfl, hc, hbehind⟩ := List.map_eq_cons_iff.mp hbehind
    obtain rfl := List.map_eq_nil_iff.mp hbehind
    obtain ⟨leave, tail, hparts⟩ := memberAt_close hnode hcolon List.drop_left hc
    exact ⟨_, hparts, .member _ _ _ _ hdenotes (.done _)⟩
  | (key, value) :: members, _, depth, stop, _, _, us, _, rest, name, _, node, hmembers, hlimit, hcolon, hbehind,
      hnode, hdenotes => by
    obtain ⟨hvalue, hmembers⟩ := List.forall_mem_cons.mp hmembers
    obtain ⟨c, _, rfl, hc, hbehind⟩ := List.map_eq_cons_iff.mp hbehind
    obtain ⟨next, _, rfl, hnext, hbehind⟩ := List.map_eq_cons_iff.mp hbehind
    obtain ⟨colon', _, rfl, hcolon', hbehind⟩ := List.map_eq_cons_iff.mp hbehind
    obtain ⟨first, vs, behind, rfl, hvs, hbehind, -⟩ := exists_tokens hbehind
    obtain ⟨node', hnode', hdenotes'⟩ := nodeAt_lexemes depth (behind ++ rest) hvalue hlimit hvs
    obtain ⟨parts, hparts, hdenotes'⟩ :=
      memberAt_lexemes depth next.stop rest hmembers hlimit hcolon' hbehind hnode' hdenotes'
    simp only [List.cons_append, List.append_assoc] at hnode ⊢
    obtain ⟨leave, tail, hmember⟩ := memberAt_comma hnode hcolon List.drop_left hc hnext
    refine ⟨.member ⟨.ok name, stop, leave⟩ node tail parts, ?_, .member _ _ _ _ hdenotes hdenotes'⟩
    rw [hmember, hparts]
    simp only [List.length_cons, List.length_append]
    congr 1
    omega

end

/-! ## Printed text -/

/-- A text that is a document with a value for its root, and nothing behind it. -/
structure WrittenAs (j : Json) (text : String) : Prop where
  root : (Document.read text).root.Denotes j
  trailing : (Document.read text).trailing = none

theorem Spells.writtenAs {cs : List Char} {j : Json} {d : Nat} (h : Spells cs j.lexemes) (hfits : j.Fits d)
    (hd : d < depthLimit) : j.WrittenAs (String.ofList cs) := by
  -- The text has the tokens of the value and none behind them.
  have htokens := h.map_tokens 0
  rw [← List.append_nil j.lexemes] at htokens
  obtain ⟨t, us, behind, hts, hus, hbehind, -⟩ := exists_tokens htokens
  obtain rfl := List.map_eq_nil_iff.mp hbehind
  obtain ⟨node, hnode, hdenotes⟩ :=
    nodeAt_lexemes (Text.utf8Length (String.ofList cs)) 0 [] hfits (by omega) hus
  have hread : Document.read (String.ofList cs) = ⟨node, none⟩ := by
    unfold Document.read
    rw [String.toList_ofList, hts]
    dsimp only
    rw [hnode]
    dsimp only
    rw [List.append_nil, List.drop_length]
    rfl
  constructor
  · rw [hread]
    exact hdenotes
  · rw [hread]

theorem WrittenAs.decodeText_eq {α : Type} {d : Decoder α} {a : α} {j : Json} {text : String} (h : j.WrittenAs text)
    (hread : ∀ node, node.Denotes j → d .text node = .ok a) : decodeText d text = .ok a := by
  unfold decodeText
  dsimp only
  rw [hread _ h.root, Outcome.ok_bind, h.trailing]

theorem spells_compact {j : Json} {d : Nat} (hfits : j.Fits d) : Spells j.chars j.lexemes := by
  have hspells : Spells (j.chars ++ []) (j.lexemes ++ []) := spells_chars hfits nofun .nil
  rw [List.append_nil, List.append_nil] at hspells
  exact hspells

theorem spells_indented {j : Json} {d : Nat} (hfits : j.Fits d) : Spells (j.indentedChars 0) j.lexemes := by
  have hspells : Spells (j.indentedChars 0 ++ []) (j.lexemes ++ []) := spells_indentedChars 0 hfits nofun .nil
  rw [List.append_nil, List.append_nil] at hspells
  exact hspells

section

variable {j : Json} {d : Nat}

theorem Fits.compact (h : j.Fits d) (hd : d < depthLimit) : j.WrittenAs j.compact :=
  (spells_compact h).writtenAs h hd

theorem Fits.indented (h : j.Fits d) (hd : d < depthLimit) : j.WrittenAs j.indented :=
  (spells_indented h).writtenAs h hd

end

end TokenGovernance.Json
