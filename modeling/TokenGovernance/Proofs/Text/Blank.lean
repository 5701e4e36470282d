import TokenGovernance.Text.Blank
import Mathlib.Data.List.TakeWhile

/-! # Blanks and bytes

Trimming takes the blanks at both ends and nothing else, and an ASCII text has one byte for each character.
-/

namespace TokenGovernance.Text

/-! ## Trimming -/

theorem trimChars_append {front back : List Char} (hfront : ∀ c ∈ front, isBlank c = true)
    (hback : ∀ c ∈ back, isBlank c = true) (cs : List Char) :
    trimChars (front ++ cs ++ back) = trimChars cs := by
  have hreverse : ∀ c ∈ back.reverse, isBlank c = true := fun c hc => hback c (List.mem_reverse.mp hc)
  unfold trimChars
  rw [List.append_assoc, List.dropWhile_append_of_pos hfront, List.dropWhile_append]
  by_cases hcs : (cs.dropWhile isBlank).isEmpty
  · -- Only blanks stand between the two ends.
    rw [if_pos hcs, List.isEmpty_iff.mp hcs, List.dropWhile_eq_nil_iff.mpr hback]
  · rw [if_neg hcs, List.reverse_append, List.dropWhile_append_of_pos hreverse]

theorem trimChars_eq_self {cs : List Char} (h : ∀ c ∈ cs, isBlank c = false) : trimChars cs = cs := by
  have hnone {l : List Char} (hl : ∀ c ∈ l, isBlank c = false) : l.dropWhile isBlank = l := by
    cases l with
    | nil => rfl
    | cons c rest => exact List.dropWhile_cons_of_neg (by simp [hl c List.mem_cons_self])
  unfold trimChars
  rw [hnone h, hnone fun c hc => h c (List.mem_reverse.mp hc), List.reverse_reverse]

theorem trimChars_eq_nil_iff {cs : List Char} : trimChars cs = [] ↔ ∀ c ∈ cs, isBlank c = true := by
  unfold trimChars
  rw [List.reverse_eq_nil_iff, List.dropWhile_eq_nil_iff]
  constructor
  · intro h
    rw [← List.dropWhile_eq_nil_iff]
    by_contra hne
    -- The first character that is left is no blank.
    have hhead := List.head_dropWhile_not isBlank hne
    rw [h _ (List.mem_reverse.mpr (List.head_mem hne))] at hhead
    cases hhead
  · intro h c hc
    exact h c ((List.dropWhile_sublist isBlank).subset (List.mem_reverse.mp hc))

theorem mem_dropWhile_of_not {c : Char} {cs : List Char} (hc : c ∈ cs) (hblank : isBlank c = false) :
    c ∈ cs.dropWhile isBlank := by
  rw [← List.takeWhile_append_dropWhile (p := isBlank) (l := cs)] at hc
  rcases List.mem_append.mp hc with hc | hc
  · rw [List.mem_takeWhile_imp hc] at hblank
    cases hblank
  · exact hc

theorem mem_trim_of_not {c : Char} {s : String} (hc : c ∈ s.toList) (hblank : isBlank c = false) :
    c ∈ (trim s).toList := by
  have hfront : c ∈ (s.toList.dropWhile isBlank).reverse := List.mem_reverse.mpr (mem_dropWhile_of_not hc hblank)
  unfold trim trimChars
  rw [String.toList_ofList]
  exact List.mem_reverse.mpr (mem_dropWhile_of_not hfront hblank)

theorem trim_eq_iff {s t : String} : trim s = t ↔ trimChars s.toList = t.toList := by
  unfold trim
  rw [← String.toList_inj, String.toList_ofList]

theorem trim_eq_empty_iff {s : String} : trim s = "" ↔ ∀ c ∈ s.toList, isBlank c = true := by
  unfold trim
  rw [← trimChars_eq_nil_iff, ← String.toList_inj, String.toList_ofList]
  rfl

theorem trim_eq_self {s : String} (h : ∀ c ∈ s.toList, isBlank c = false) : trim s = s := by
  unfold trim
  rw [trimChars_eq_self h, String.ofList_toList]

theorem trim_append {front back : String} (hfront : ∀ c ∈ front.toList, isBlank c = true)
    (hback : ∀ c ∈ back.toList, isBlank c = true) (s : String) : trim (front ++ s ++ back) = trim s := by
  unfold trim
  rw [String.toList_append, String.toList_append, trimChars_append hfront hback]

/-! ## Bytes -/

theorem forall_ascii (p : Char → Prop) (h : ∀ n < 128, p (.ofNat n)) {c : Char} (hc : c.toNat < 128) : p c := by
  have hcode := h c.toNat hc
  rw [Char.ofNat_toNat] at hcode
  exact hcode

theorem ascii_of_le {c d : Char} (h : c ≤ d) (hd : d.toNat < 128) : c.toNat < 128 :=
  Nat.lt_of_le_of_lt (UInt32.le_iff_toNat_le.mp h) hd

theorem utf8_eq_flatMap (s : String) : utf8 s = s.toList.flatMap String.utf8EncodeChar := by
  have hbytes : s.toByteArray = s.toList.utf8Encode := by
    rw [← String.toByteArray_ofList, String.ofList_toList]
  unfold utf8
  rw [hbytes, List.utf8Encode, List.data_toByteArray]

theorem utf8EncodeChar_of_ascii {c : Char} (h : c.toNat < 128) :
    String.utf8EncodeChar c = [UInt8.ofNat c.toNat] := by
  have hval : c.val.toNat ≤ 127 := Nat.le_of_lt_succ h
  unfold String.utf8EncodeChar
  rw [if_pos hval]
  rfl

theorem exists_byte_of_not_ascii {c : Char} (h : ¬ c.toNat < 128) :
    ∃ b ∈ String.utf8EncodeChar c, ¬ b.toNat < 128 := by
  have hval : ¬ c.val.toNat ≤ 127 := fun hval => h (Nat.lt_succ_of_le hval)
  unfold String.utf8EncodeChar
  rw [if_neg hval]
  split
  · refine ⟨_, List.mem_cons_self, ?_⟩
    rw [UInt8.toNat_ofNat']
    omega
  · split
    · refine ⟨_, List.mem_cons_self, ?_⟩
      rw [UInt8.toNat_ofNat']
      omega
    · refine ⟨_, List.mem_cons_self, ?_⟩
      rw [UInt8.toNat_ofNat']
      omega

theorem utf8_of_ascii {s : String} (h : ∀ c ∈ s.toList, c.toNat < 128) :
    utf8 s = s.toList.map fun c => UInt8.ofNat c.toNat := by
  rw [utf8_eq_flatMap]
  generalize s.toList = cs at h
  induction cs with
  | nil => rfl
  | cons c rest ih =>
    rw [List.flatMap_cons, utf8EncodeChar_of_ascii (h c List.mem_cons_self),
      ih fun d hd => h d (List.mem_cons_of_mem _ hd)]
    rfl

theorem ascii_of_utf8 {s : String} (h : ∀ b ∈ utf8 s, b.toNat < 128) : ∀ c ∈ s.toList, c.toNat < 128 := by
  intro c hc
  by_contra hbeyond
  obtain ⟨b, hb, hlarge⟩ := exists_byte_of_not_ascii hbeyond
  apply hlarge
  apply h
  rw [utf8_eq_flatMap]
  exact List.mem_flatMap.mpr ⟨c, hc, hb⟩

theorem utf8Length_of_ascii {s : String} (h : ∀ c ∈ s.toList, c.toNat < 128) :
    utf8Length s = s.toList.length := by
  unfold utf8Length
  rw [utf8_of_ascii h, List.length_map]

end TokenGovernance.Text
