import TokenGovernance.CommandLine.Options
import TokenGovernance.Proofs.Outcome
import Mathlib.Data.List.Induction

/-! # What words spell

The words of a command line as the phrases that they are read as. An option with its value is one phrase, so
that neither the order of the phrases nor what a value looks like is in doubt.
-/

namespace TokenGovernance

open Outcome

namespace CommandLine

/-! ## Phrases -/

/-- What stands together on a command line: a flag, an option with its value, or a word that is neither. -/
inductive Phrase
  | help (long : Bool)
  | version (long : Bool)
  | pretty
  | snapshot (path : String)
  | maxFee (text : String) (fee : UInt64)
  | plain (word : String)
  deriving DecidableEq

namespace Phrase

def words : Phrase → List String
  | help long => [if long then "--help" else "-h"]
  | version long => [if long then "--version" else "-V"]
  | pretty => ["--pretty"]
  | snapshot path => ["--snapshot", path]
  | maxFee text _ => ["--max-fee", text]
  | plain word => [word]

/-- A fee is spelled by its text, and a plain word does not look like an option. -/
def Allowed : Phrase → Prop
  | maxFee text fee => Options.fee text = .ok fee
  | plain word => ¬ ['-', '-'] <+: word.toList ∧ word ≠ "-h" ∧ word ≠ "-V"
  | _ => True

def plain? : Phrase → Option String
  | plain word => some word
  | _ => none

def snapshot? : Phrase → Option String
  | snapshot path => some path
  | _ => none

def fee? : Phrase → Option UInt64
  | maxFee _ fee => some fee
  | _ => none

def isHelp : Phrase → Bool
  | help _ => true
  | _ => false

def isVersion : Phrase → Bool
  | version _ => true
  | _ => false

end Phrase

/-- The words are those of the phrases, one phrase behind the other. -/
def Spelled (words : List String) (phrases : List Phrase) : Prop :=
  words = phrases.flatMap Phrase.words ∧ ∀ p ∈ phrases, p.Allowed

/-- What phrases ask for: the first plain word for the command, the second for its request, the last value for
an option, and a flag wherever it stands. -/
def Options.ofPhrases (phrases : List Phrase) : Options where
  command := (phrases.filterMap Phrase.plain?)[0]?
  request := (phrases.filterMap Phrase.plain?)[1]?
  snapshot := (phrases.filterMap Phrase.snapshot?).getLast?
  maxFee := (phrases.filterMap Phrase.fee?).getLast?
  pretty := phrases.contains .pretty
  help := phrases.any Phrase.isHelp
  version := phrases.any Phrase.isVersion

/-! ## One phrase -/

/-- What a word looks like that is taken for an option, or for none. -/
def Word.Looks (s : String) : Word → Prop
  | .help => s = "-h" ∨ s = "--help"
  | .version => s = "-V" ∨ s = "--version"
  | .pretty => s = "--pretty"
  | .snapshot => s = "--snapshot"
  | .maxFee => s = "--max-fee"
  | .unknown => ['-', '-'] <+: s.toList
  | .plain => ¬ ['-', '-'] <+: s.toList ∧ s ≠ "-h" ∧ s ≠ "-V"

theorem Word.looks_ofText (s : String) : Word.Looks s (Word.ofText s) := by
  unfold ofText
  split_ifs with hhelp hversion hpretty hsnapshot hfee hdashes
  · exact hhelp
  · exact hversion
  · exact hpretty
  · exact hsnapshot
  · exact hfee
  · exact List.isPrefixOf_iff_prefix.mp hdashes
  · exact ⟨fun h => hdashes (List.isPrefixOf_iff_prefix.mpr h), fun h => hhelp (.inl h), fun h => hversion (.inl h)⟩

theorem Word.ofText_of_plain {s : String} (h : Word.Looks s .plain) : Word.ofText s = .plain := by
  obtain ⟨hdashes, hhelp, hversion⟩ := h
  have hne (t : String) (ht : ['-', '-'] <+: t.toList) : s ≠ t := fun heq => hdashes (heq ▸ ht)
  simp [ofText, hhelp, hversion, hdashes, hne "--help" (by decide), hne "--version" (by decide),
    hne "--pretty" (by decide), hne "--snapshot" (by decide), hne "--max-fee" (by decide)]

namespace Options

variable {o o' : Options} {word : String} {words rest : List String} {p : Phrase} {phrases : List Phrase}

/-- Options with one more phrase behind those that they were read from. -/
def withPhrase (o : Options) : Phrase → Options
  | .help _ => { o with help := true }
  | .version _ => { o with version := true }
  | .pretty => { o with pretty := true }
  | .snapshot path => { o with snapshot := some path }
  | .maxFee _ fee => { o with maxFee := some fee }
  | .plain word => o.withPlain word

theorem readFrom_words (h : p.Allowed) (rest : List String) :
    readFrom o (p.words ++ rest) = readFrom (o.withPhrase p) rest := by
  cases p with
  | help long => cases long <;> rfl
  | version long => cases long <;> rfl
  | pretty => rfl
  | snapshot path => rfl
  | maxFee text fee =>
    change (Options.fee text >>= fun n => readFrom { o with maxFee := some n } rest) = _
    rw [show Options.fee text = .ok fee from h]
    rfl
  | plain word =>
    change readFrom o (word :: rest) = _
    rw [readFrom.eq_def]
    dsimp only
    rw [Word.ofText_of_plain h]
    rfl

theorem readFrom_flatMap (h : ∀ p ∈ phrases, p.Allowed) :
    readFrom o (phrases.flatMap Phrase.words) = .ok (phrases.foldl withPhrase o) := by
  induction phrases generalizing o with
  | nil => rfl
  | cons p rest ih =>
    obtain ⟨hp, hrest⟩ := List.forall_mem_cons.mp h
    rw [List.flatMap_cons, readFrom_words hp, ih hrest, List.foldl_cons]

theorem exists_phrase (h : readFrom o (word :: rest) = .ok o') :
    ∃ p rest', p.Allowed ∧ word :: rest = p.words ++ rest' ∧ readFrom (o.withPhrase p) rest' = .ok o' := by
  have hlooks := Word.looks_ofText word
  unfold readFrom at h
  cases hword : Word.ofText word with
  | help =>
    rw [hword] at h hlooks
    rcases hlooks with rfl | rfl
    · exact ⟨.help false, rest, trivial, rfl, h⟩
    · exact ⟨.help true, rest, trivial, rfl, h⟩
  | version =>
    rw [hword] at h hlooks
    rcases hlooks with rfl | rfl
    · exact ⟨.version false, rest, trivial, rfl, h⟩
    · exact ⟨.version true, rest, trivial, rfl, h⟩
  | pretty =>
    rw [hword] at h hlooks
    obtain rfl := hlooks
    exact ⟨.pretty, rest, trivial, rfl, h⟩
  | snapshot =>
    rw [hword] at h hlooks
    obtain rfl := hlooks
    cases rest with
    | nil => cases h
    | cons path rest => exact ⟨.snapshot path, rest, trivial, rfl, h⟩
  | maxFee =>
    rw [hword] at h hlooks
    obtain rfl := hlooks
    cases rest with
    | nil => cases h
    | cons text rest =>
      obtain ⟨fee, hfee, h⟩ := bind_eq_ok.mp h
      exact ⟨.maxFee text fee, rest, hfee, rfl, h⟩
  | unknown =>
    rw [hword] at h
    cases h
  | plain =>
    rw [hword] at h hlooks
    exact ⟨.plain word, rest, hlooks, rfl, h⟩

theorem exists_spelled (h : readFrom o words = .ok o') : ∃ phrases, Spelled words phrases := by
  -- A phrase takes one word or two, so that the induction is on the number of words.
  induction hlength : words.length using Nat.strongRecOn generalizing o words with
  | ind n ih =>
    cases words with
    | nil => exact ⟨[], rfl, List.forall_mem_nil _⟩
    | cons word rest =>
      obtain ⟨p, rest', hp, heq, hrest⟩ := exists_phrase h
      have hshorter : rest'.length < n := by
        have hwords : 0 < p.words.length := by cases p <;> simp [Phrase.words]
        rw [← hlength, heq, List.length_append]
        omega
      obtain ⟨phrases, rfl, hall⟩ := ih _ hshorter hrest rfl
      exact ⟨p :: phrases, heq, List.forall_mem_cons.mpr ⟨hp, hall⟩⟩

/-! ## All phrases -/

theorem ofPhrases_concat (phrases : List Phrase) (p : Phrase) :
    ofPhrases (phrases ++ [p]) = (ofPhrases phrases).withPhrase p := by
  unfold ofPhrases withPhrase
  cases p with
  | plain word =>
    simp only [withPlain, List.filterMap_append, List.filterMap_cons, List.filterMap_nil, Phrase.plain?,
      Phrase.snapshot?, Phrase.fee?, List.append_nil]
    -- The word is the command, its request, or one too many.
    rcases phrases.filterMap Phrase.plain? with _ | ⟨command, _ | ⟨request, others⟩⟩
    · simp [Phrase.isHelp, Phrase.isVersion]
    · simp [Phrase.isHelp, Phrase.isVersion]
    · simp [Phrase.isHelp, Phrase.isVersion]
  | _ =>
    simp [List.filterMap_cons, Phrase.plain?, Phrase.snapshot?, Phrase.fee?, Phrase.isHelp, Phrase.isVersion]

theorem foldl_withPhrase (phrases : List Phrase) : phrases.foldl withPhrase {} = ofPhrases phrases := by
  induction phrases using List.reverseRecOn with
  | nil => rfl
  | append_singleton phrases p ih => rw [List.foldl_append, ih, ofPhrases_concat]; rfl

theorem read_of_spelled (h : Spelled words phrases) : read words = .ok (ofPhrases phrases) := by
  obtain ⟨rfl, hall⟩ := h
  unfold read
  rw [readFrom_flatMap hall, foldl_withPhrase]

/-- Exactly the words that phrases spell are accepted, for what the phrases ask. -/
theorem read_eq_ok : read words = .ok o ↔ ∃ phrases, Spelled words phrases ∧ o = ofPhrases phrases := by
  constructor
  · intro h
    obtain ⟨phrases, hspelled⟩ := exists_spelled h
    exact ⟨phrases, hspelled, Except.ok.inj (h.symm.trans (read_of_spelled hspelled))⟩
  · rintro ⟨phrases, hspelled, rfl⟩
    exact read_of_spelled hspelled

end Options
end CommandLine
end TokenGovernance
