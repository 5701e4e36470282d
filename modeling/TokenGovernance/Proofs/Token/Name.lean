import TokenGovernance.Proofs.Outcome
import TokenGovernance.Proofs.Text.Blank
import TokenGovernance.Token.Namespace

/-! # Names and the namespaces of their paths

Splitting at dots and joining with dots are inverse, also where a part is empty. Therefore the namespace of a
path is the one of its last part under the namespace of what stands in front of it.
-/

namespace TokenGovernance

open Outcome

namespace TokenName

/-! ## Parts -/

theorem split_of_no_dot {s : String} (h : '.' ∉ s.toList) : split s = [s] := by
  unfold split
  rw [List.splitOn_eq_singleton h, List.map_singleton, String.ofList_toList]

theorem split_append (p q : String) : split (p ++ "." ++ q) = split p ++ split q := by
  have hdot : (p ++ "." ++ q).toList = p.toList ++ '.' :: q.toList := by
    rw [String.toList_append, String.toList_append, List.append_assoc]
    rfl
  unfold split
  rw [hdot, List.splitOn_append_cons_self, List.map_append]

theorem split_ne_nil (s : String) : split s ≠ [] := by
  unfold split
  rw [ne_eq, List.map_eq_nil_iff]
  exact List.splitOn_ne_nil _ _

theorem toList_join (parts : List String) : (join parts).toList = ['.'].intercalate (parts.map String.toList) :=
  String.toList_intercalate

theorem join_split (s : String) : join (split s) = s := by
  have hparts : (split s).map String.toList = s.toList.splitOn '.' := by
    unfold split
    rw [List.map_map]
    exact List.map_id'' (fun _ => String.toList_ofList) _
  rw [← String.toList_inj, toList_join, hparts]
  exact List.intercalate_splitOn '.'

theorem split_join {parts : List String} (hne : parts ≠ []) (h : ∀ s ∈ parts, '.' ∉ s.toList) :
    split (join parts) = parts := by
  unfold split
  rw [toList_join, List.splitOn_intercalate '.' (List.forall_mem_map.mpr h) (by simpa using hne), List.map_map]
  exact List.map_id'' (fun _ => String.ofList_toList) _

/-! ## Segments -/

/-- A segment is made of lower-case letters and digits, and behind the first of them also of underscores and
hyphens. There are at most 64. -/
def IsSegment (s : String) : Prop :=
  ∃ first rest, s.toList = first :: rest ∧ (('a' ≤ first ∧ first ≤ 'z') ∨ ('0' ≤ first ∧ first ≤ '9')) ∧
    (∀ c ∈ rest, ('a' ≤ c ∧ c ≤ 'z') ∨ ('0' ≤ c ∧ c ≤ '9') ∨ c = '_' ∨ c = '-') ∧ s.toList.length ≤ 64

theorem isInitial_iff {c : Char} : isInitial c = true ↔ ('a' ≤ c ∧ c ≤ 'z') ∨ ('0' ≤ c ∧ c ≤ '9') := by
  unfold isInitial
  simp only [Bool.or_eq_true, Bool.and_eq_true, decide_eq_true_eq]

theorem isMember_iff {c : Char} :
    isMember c = true ↔ ('a' ≤ c ∧ c ≤ 'z') ∨ ('0' ≤ c ∧ c ≤ '9') ∨ c = '_' ∨ c = '-' := by
  unfold isMember
  simp only [Bool.or_eq_true, isInitial_iff, beq_iff_eq, or_assoc]

theorem ascii_of_isMember {c : Char} (h : isMember c = true) : c.toNat < 128 := by
  obtain ⟨-, hc⟩ | ⟨-, hc⟩ | rfl | rfl := isMember_iff.mp h
  · exact Text.ascii_of_le hc (by decide)
  · exact Text.ascii_of_le hc (by decide)
  · decide
  · decide

theorem isMember_of_isInitial {c : Char} (h : isInitial c = true) : isMember c = true := by
  unfold isMember
  rw [h]
  rfl

theorem isSegment_iff {s : String} : isSegment s = true ↔ IsSegment s := by
  unfold isSegment IsSegment Limits.maximumNameLength
  cases hs : s.toList with
  | nil => simp
  | cons first rest =>
    simp only [Bool.and_eq_true, List.all_eq_true, decide_eq_true_eq, and_assoc]
    -- Bytes are counted, and each of the characters that are allowed is one.
    have hbytes (hfirst : isInitial first = true) (hrest : ∀ c ∈ rest, isMember c = true) :
        Text.utf8Length s = s.toList.length := by
      apply Text.utf8Length_of_ascii
      rw [hs]
      exact List.forall_mem_cons.mpr ⟨ascii_of_isMember (isMember_of_isInitial hfirst),
        fun c hc => ascii_of_isMember (hrest c hc)⟩
    constructor
    · rintro ⟨hfirst, hrest, hlength⟩
      rw [hbytes hfirst hrest, hs] at hlength
      exact ⟨first, rest, rfl, isInitial_iff.mp hfirst, fun c hc => isMember_iff.mp (hrest c hc), hlength⟩
    · rintro ⟨_, _, ⟨rfl, rfl⟩, hfirst, hrest, hlength⟩
      have hinitial := isInitial_iff.mpr hfirst
      have hmembers : ∀ c ∈ rest, isMember c = true := fun c hc => isMember_iff.mpr (hrest c hc)
      rw [hbytes hinitial hmembers, hs]
      exact ⟨hinitial, hmembers, hlength⟩

instance (s : String) : Decidable (IsSegment s) :=
  decidable_of_iff _ isSegment_iff

theorem no_dot_of_isSegment {s : String} (h : isSegment s = true) : '.' ∉ s.toList := by
  obtain ⟨first, rest, hs, hfirst, hrest, -⟩ := isSegment_iff.mp h
  have hdot : isMember '.' = false := by decide
  rw [hs, List.mem_cons, not_or]
  constructor
  · rintro rfl
    rw [isMember_of_isInitial (isInitial_iff.mpr hfirst)] at hdot
    cases hdot
  · intro hmem
    rw [isMember_iff.mpr (hrest _ hmem)] at hdot
    cases hdot

/-- The names that are accepted are one to three segments with dots between them. -/
theorem segments_eq_ok {name : String} {parts : List String} :
    segments name = .ok parts ↔
      name = join parts ∧ parts ≠ [] ∧ parts.length ≤ 3 ∧ ∀ s ∈ parts, isSegment s = true := by
  have hok : segments name = .ok parts ↔
      split name = parts ∧ parts.length ≤ 3 ∧ ∀ s ∈ parts, isSegment s = true := by
    unfold segments Limits.maximumDepth
    simp only [refuse_eq_ok, Nat.not_lt]
    cases hfind : (split name).find? fun s => !isSegment s with
    | none =>
      have hall : ∀ s ∈ split name, isSegment s = true := by simpa using hfind
      simp only [Except.ok.injEq]
      constructor
      · rintro ⟨hlength, rfl⟩
        exact ⟨rfl, hlength, hall⟩
      · rintro ⟨rfl, hlength, -⟩
        exact ⟨hlength, rfl⟩
    | some s =>
      simp only [reduceCtorEq, and_false, false_iff]
      rintro ⟨rfl, -, hall⟩
      have hs := List.find?_some hfind
      rw [hall s (List.mem_of_find?_eq_some hfind)] at hs
      cases hs
  -- Splitting and joining undo each other, as no segment has a dot in it.
  rw [hok]
  constructor
  · rintro ⟨rfl, hlength, hall⟩
    exact ⟨(join_split name).symm, split_ne_nil name, hlength, hall⟩
  · rintro ⟨rfl, hne, hlength, hall⟩
    exact ⟨split_join hne fun s hs => no_dot_of_isSegment (hall s hs), hlength, hall⟩

end TokenName

/-! ## Paths -/

namespace NamespaceId

theorem ofNames_concat (parent : Option NamespaceId) (name : String) (rest : List String) (last : String) :
    ofNames parent name (rest ++ [last]) = ofName last (some (ofNames parent name rest)) := by
  induction rest generalizing parent name with
  | nil => rfl
  | cons next rest ih => rw [List.cons_append, ofNames, ih, ofNames]

theorem ofPath_of_no_dot {name : String} (h : '.' ∉ name.toList) : ofPath name = ofName name none := by
  unfold ofPath
  rw [TokenName.split_of_no_dot h]
  rfl

theorem ofPath_append (p : String) {name : String} (h : '.' ∉ name.toList) :
    ofPath (p ++ "." ++ name) = ofName name (some (ofPath p)) := by
  unfold ofPath
  rw [TokenName.split_append, TokenName.split_of_no_dot h]
  cases hsplit : TokenName.split p with
  | nil => exact absurd hsplit (TokenName.split_ne_nil p)
  | cons first rest => exact ofNames_concat none first rest name

end NamespaceId
end TokenGovernance
