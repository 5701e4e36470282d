import TokenGovernance.Proofs.Token.Name

/-! # The grammar of names

Every text has parts, which are what stands between its dots, and it has them in one way only. A text is a name
exactly if there are at most three of them and each is a segment. Any other text is refused, for the number of its
parts or else for the first of them that is no segment.
-/

namespace TokenGovernance.TokenName

variable {text : String} {parts : List String} {e : Refusal}

/-! ## Parts of a text -/

/-- Texts without dots that make up a text when dots are put between them. -/
structure PartsOf (parts : List String) (text : String) : Prop where
  nonempty : parts ≠ []
  no_dot : ∀ s ∈ parts, '.' ∉ s.toList
  joined : join parts = text

theorem notMem_of_mem_splitOn {a : Char} {cs part : List Char} (h : part ∈ cs.splitOn a) : a ∉ part := by
  induction cs generalizing part with
  | nil =>
    obtain rfl := List.mem_singleton.mp h
    exact List.not_mem_nil
  | cons c rest ih =>
    rw [List.splitOn_cons_eq_if_modifyHead] at h
    split at h
    next =>
      obtain rfl | h := List.mem_cons.mp h
      · exact List.not_mem_nil
      · exact ih h
    next hc =>
      -- The character goes to the front of the first part of the rest.
      cases hrest : rest.splitOn a with
      | nil => exact absurd hrest (List.splitOn_ne_nil _ _)
      | cons first others =>
        rw [hrest] at ih h
        rw [List.modifyHead_cons] at h
        obtain rfl | h := List.mem_cons.mp h
        · have hfirst : a ∉ first := ih List.mem_cons_self
          have hne : a ≠ c := by
            rintro rfl
            exact hc BEq.rfl
          exact List.not_mem_cons_of_ne_of_not_mem hne hfirst
        · exact ih (List.mem_cons_of_mem _ h)

theorem partsOf_split (text : String) : PartsOf (split text) text where
  nonempty := split_ne_nil text
  no_dot := by
    intro s hs
    unfold split at hs
    obtain ⟨part, hpart, rfl⟩ := List.mem_map.mp hs
    rw [String.toList_ofList]
    exact notMem_of_mem_splitOn hpart
  joined := join_split text

theorem PartsOf.eq_split (h : PartsOf parts text) : parts = split text := by
  rw [← h.joined, split_join h.nonempty h.no_dot]

theorem existsUnique_partsOf (text : String) : ∃! parts, PartsOf parts text :=
  ⟨split text, partsOf_split text, fun _ => PartsOf.eq_split⟩

/-! ## Characters of a segment -/

theorem plain_of_isMember {c : Char} (h : isMember c = true) :
    c.toNat < 128 ∧ c.isUpper = false ∧ c ≠ '\n' ∧ c ≠ '.' := by
  have hall : ∀ n < 128, isMember (.ofNat n) = true →
      (Char.ofNat n).isUpper = false ∧ Char.ofNat n ≠ '\n' ∧ Char.ofNat n ≠ '.' := by
    decide +kernel
  have hascii := ascii_of_isMember h
  exact ⟨hascii, Text.forall_ascii (fun c => isMember c = true → c.isUpper = false ∧ c ≠ '\n' ∧ c ≠ '.') hall hascii h⟩

/-- A text that is not empty, does not begin with a hyphen, and holds ASCII characters only, none of them in upper case,
a line feed or a dot. -/
structure Plain (s : String) : Prop where
  nonempty : s ≠ ""
  no_hyphen : s.toList.head? ≠ some '-'
  characters : ∀ c ∈ s.toList, c.toNat < 128 ∧ c.isUpper = false ∧ c ≠ '\n' ∧ c ≠ '.'

theorem IsSegment.plain {s : String} (h : IsSegment s) : Plain s := by
  obtain ⟨first, rest, hs, hfirst, hrest, -⟩ := h
  have hinitial : isInitial first = true := isInitial_iff.mpr hfirst
  constructor
  · rintro rfl
    cases hs
  · rw [hs, List.head?_cons]
    rintro ⟨⟩
    exact absurd hinitial (by decide)
  · rw [hs]
    exact List.forall_mem_cons.mpr ⟨plain_of_isMember (isMember_of_isInitial hinitial),
      fun c hc => plain_of_isMember (isMember_iff.mpr (hrest c hc))⟩

/-! ## What is refused -/

/-- What parts are refused for: that they are too many, else the first of them that is no segment. -/
inductive Refuses (parts : List String) : Refusal → Prop
  | levels (h : 3 < parts.length) : Refuses parts (.invalidArgument "name" (.levels parts.length))
  | segment {front back : List String} {bad : String} (hlength : parts.length ≤ 3) (hparts : parts = front ++ bad :: back)
      (hfront : ∀ s ∈ front, IsSegment s) (hbad : ¬ IsSegment bad) :
      Refuses parts (.invalidArgument "name" (.segment bad))

theorem find?_isSegment {bad : String} : (parts.find? fun s => !isSegment s) = some bad ↔
    ∃ front back, parts = front ++ bad :: back ∧ (∀ s ∈ front, IsSegment s) ∧ ¬ IsSegment bad := by
  rw [List.find?_eq_some_iff_append]
  simp only [← isSegment_iff, Bool.not_eq_true', Bool.not_not, Bool.not_eq_true]
  constructor
  · rintro ⟨hbad, front, back, hparts, hfront⟩
    exact ⟨front, back, hparts, hfront, hbad⟩
  · rintro ⟨front, back, hparts, hfront, hbad⟩
    exact ⟨hbad, front, back, hparts, hfront⟩

theorem segments_eq_error : segments text = .error e ↔ Refuses (split text) e := by
  unfold segments Limits.maximumDepth
  dsimp only
  -- The number of parts is looked at before any of them.
  by_cases hlength : 3 < (split text).length
  · rw [if_pos hlength]
    constructor
    · rintro ⟨⟩
      exact .levels hlength
    · rintro (_ | ⟨hle, -, -, -⟩)
      · rfl
      · omega
  · rw [if_neg hlength]
    cases hfind : (split text).find? fun s => !isSegment s with
    | none =>
      refine iff_of_false nofun ?_
      rintro (h | ⟨-, hparts, hfront, hbad⟩)
      · exact hlength h
      · have hsome := find?_isSegment.mpr ⟨_, _, hparts, hfront, hbad⟩
        rw [hfind] at hsome
        cases hsome
    | some bad =>
      constructor
      · rintro ⟨⟩
        obtain ⟨front, back, hparts, hfront, hbad⟩ := find?_isSegment.mp hfind
        exact .segment (by omega) hparts hfront hbad
      · rintro (h | ⟨-, hparts, hfront, hbad⟩)
        · exact absurd h hlength
        · have hsome := find?_isSegment.mpr ⟨_, _, hparts, hfront, hbad⟩
          rw [hfind] at hsome
          obtain rfl := Option.some.inj hsome
          rfl

/-- A text is read as segments exactly if it is one to three of them with dots between them, and is then nothing but
these. What is refused of another text follows from its parts, of which there is one list. -/
theorem segments_grammar (text : String) :
    (∀ parts, segments text = .ok parts ↔
      text = join parts ∧ parts ≠ [] ∧ parts.length ≤ 3 ∧ ∀ s ∈ parts, IsSegment s) ∧
    (∀ parts, segments text = .ok parts → join parts = text ∧ ∀ s ∈ parts, Plain s) ∧
    (∃! parts, PartsOf parts text) ∧
    ∀ parts, PartsOf parts text → ∀ e, segments text = .error e ↔ Refuses parts e := by
  have hok (parts : List String) : segments text = .ok parts ↔
      text = join parts ∧ parts ≠ [] ∧ parts.length ≤ 3 ∧ ∀ s ∈ parts, IsSegment s := by
    simp only [segments_eq_ok, isSegment_iff]
  refine ⟨hok, fun parts h => ?_, existsUnique_partsOf text, fun parts hparts e => ?_⟩
  · obtain ⟨hjoin, -, -, hsegments⟩ := (hok parts).mp h
    exact ⟨hjoin.symm, fun s hs => (hsegments s hs).plain⟩
  · rw [hparts.eq_split]
    exact segments_eq_error

end TokenGovernance.TokenName
