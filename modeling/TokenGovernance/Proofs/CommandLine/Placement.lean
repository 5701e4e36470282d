import TokenGovernance.Proofs.CommandLine.Words

/-! # Options in any place

Options with their values may stand anywhere among the other words. What the words ask for follows from the order
of the options among themselves, and from the order of the other words among themselves.
-/

namespace TokenGovernance.CommandLine

/-! ## Laying two lists into one -/

/-- A list that consists of two others, each of them in its order. -/
inductive Interleaved {α : Type} : List α → List α → List α → Prop
  | nil : Interleaved [] [] []
  | left (a : α) {l r m : List α} (h : Interleaved l r m) : Interleaved (a :: l) r (a :: m)
  | right (a : α) {l r m : List α} (h : Interleaved l r m) : Interleaved l (a :: r) (a :: m)

namespace Interleaved

variable {α β : Type} {l r m : List α}

theorem eq_left (h : Interleaved l [] m) : m = l := by
  generalize hr : [] = r at h
  induction h with
  | nil => rfl
  | left a _ ih => rw [ih hr]
  | right a _ _ => cases hr

theorem eq_right (h : Interleaved [] r m) : m = r := by
  generalize hl : [] = l at h
  induction h with
  | nil => rfl
  | left a _ _ => cases hl
  | right a _ ih => rw [ih hl]

theorem filterMap (f : α → Option β) (h : Interleaved l r m) :
    Interleaved (l.filterMap f) (r.filterMap f) (m.filterMap f) := by
  induction h with
  | nil => exact .nil
  | left a _ ih =>
    cases hf : f a with
    | none => simpa only [List.filterMap_cons, hf] using ih
    | some b => simpa only [List.filterMap_cons, hf] using ih.left b
  | right a _ ih =>
    cases hf : f a with
    | none => simpa only [List.filterMap_cons, hf] using ih
    | some b => simpa only [List.filterMap_cons, hf] using ih.right b

theorem mem_iff {a : α} (h : Interleaved l r m) : a ∈ m ↔ a ∈ l ∨ a ∈ r := by
  induction h with
  | nil => simp
  | left b _ ih => rw [List.mem_cons, List.mem_cons, ih, or_assoc]
  | right b _ ih => rw [List.mem_cons, List.mem_cons, ih, or_left_comm]

end Interleaved

/-! ## Words -/

/-- What plain words and options ask for together: the first two plain words, the last value for an option, and
every flag that is there. -/
def Options.ofParts (plains : List String) (options : List Phrase) : Options where
  command := plains[0]?
  request := plains[1]?
  snapshot := (options.filterMap Phrase.snapshot?).getLast?
  maxFee := (options.filterMap Phrase.fee?).getLast?
  pretty := options.contains .pretty
  help := options.any Phrase.isHelp
  version := options.any Phrase.isVersion

namespace Options

variable {plains : List String} {options phrases : List Phrase}

theorem ofPhrases_of_interleaved (hoptions : ∀ p ∈ options, p.plain? = none)
    (h : Interleaved (plains.map .plain) options phrases) : ofPhrases phrases = ofParts plains options := by
  have hplains : phrases.filterMap Phrase.plain? = plains := by
    have hparts := h.filterMap Phrase.plain?
    rw [List.filterMap_eq_nil_iff.mpr hoptions] at hparts
    rw [hparts.eq_left, List.filterMap_map]
    exact List.filterMap_some
  -- Whatever looks at options only sees them in their order, as if nothing stood between them.
  have hvalues {β : Type} (f : Phrase → Option β) (hf : ∀ word, f (.plain word) = none) :
      phrases.filterMap f = options.filterMap f := by
    have hnone : (plains.map Phrase.plain).filterMap f = [] := by simp [hf]
    have hparts := h.filterMap f
    rw [hnone] at hparts
    exact hparts.eq_right
  have hflag (q : Phrase → Bool) (hq : ∀ word, q (.plain word) = false) : phrases.any q = options.any q := by
    rw [Bool.eq_iff_iff, List.any_eq_true, List.any_eq_true]
    simp [h.mem_iff, or_and_right, exists_or, hq]
  unfold ofPhrases ofParts
  rw [hplains, hvalues Phrase.snapshot? fun _ => rfl, hvalues Phrase.fee? fun _ => rfl,
    List.contains_eq_any_beq, List.contains_eq_any_beq, hflag _ fun _ => rfl, hflag Phrase.isHelp fun _ => rfl,
    hflag Phrase.isVersion fun _ => rfl]

/-- Wherever options with their values stand among plain words, they are accepted and ask for the same. -/
theorem read_of_interleaved (hplains : ∀ word ∈ plains, (Phrase.plain word).Allowed)
    (hoptions : ∀ p ∈ options, p.Allowed ∧ p.plain? = none)
    (h : Interleaved (plains.map .plain) options phrases) :
    read (phrases.flatMap Phrase.words) = .ok (ofParts plains options) := by
  have hallowed : ∀ p ∈ phrases, p.Allowed := by
    intro p hp
    rcases h.mem_iff.mp hp with hplain | hoption
    · obtain ⟨word, hword, rfl⟩ := List.mem_map.mp hplain
      exact hplains word hword
    · exact (hoptions p hoption).1
  rw [read_of_spelled ⟨rfl, hallowed⟩, ofPhrases_of_interleaved (fun p hp => (hoptions p hp).2) h]

/-- Options in front of the command, between it and its request, and behind a word too many. Two values look like
options, and one like a request. -/
theorem read_of_scattered : read ["--snapshot", "--max-fee", "compile", "--max-fee", "+7", "--pretty", "-", "late",
      "--snapshot", "--help", "--max-fee", "08", "--snapshot", "-"] =
    .ok { command := some "compile", request := some "-", snapshot := some "-", maxFee := some 8, pretty := true } := by
  have hscattered : Interleaved (["compile", "-", "late"].map Phrase.plain)
      [.snapshot "--max-fee", .maxFee "+7" 7, .pretty, .snapshot "--help", .maxFee "08" 8, .snapshot "-"]
      [.snapshot "--max-fee", .plain "compile", .maxFee "+7" 7, .pretty, .plain "-", .plain "late",
        .snapshot "--help", .maxFee "08" 8, .snapshot "-"] :=
    .right _ <| .left _ <| .right _ <| .right _ <| .left _ <| .left _ <| .right _ <| .right _ <| .right _ .nil
  refine read_of_interleaved ?_ ?_ hscattered
  · unfold Phrase.Allowed
    decide
  · intro p hp
    simp only [List.mem_cons, List.not_mem_nil, or_false] at hp
    rcases hp with rfl | rfl | rfl | rfl | rfl | rfl
    · exact ⟨trivial, rfl⟩
    · exact ⟨rfl, rfl⟩
    · exact ⟨trivial, rfl⟩
    · exact ⟨trivial, rfl⟩
    · exact ⟨rfl, rfl⟩
    · exact ⟨trivial, rfl⟩

end Options
end TokenGovernance.CommandLine
