import TokenGovernance.CommandLine.Run
import TokenGovernance.Proofs.Transaction.Codec
import TokenGovernance.Proofs.Transaction.Order

/-! # What is written

The text of a value is one document, on a line or on several, and a reader of it finds the value.
-/

namespace TokenGovernance

open Outcome Json

namespace CommandLine

theorem spells_render {j : Json} {d : Nat} (hfits : j.Fits d) (pretty : Bool) :
    ∃ cs, render pretty j = String.ofList cs ∧ Spells cs j.lexemes := by
  have hends : Ends ['\n'] := ends_cons (by decide) []
  have hbreak : Spells ['\n'] [] := .blank (by decide) .nil
  rw [← List.append_nil j.lexemes]
  cases pretty with
  | false => exact ⟨j.chars ++ ['\n'], by rw [String.ofList_append]; rfl, spells_chars hfits hends hbreak⟩
  | true =>
    exact ⟨j.indentedChars 0 ++ ['\n'], by rw [String.ofList_append]; rfl,
      spells_indentedChars 0 hfits hends hbreak⟩

theorem decodeText_render {j : Json} {d : Nat} (hfits : j.Fits d) (hdepth : d < depthLimit)
    (hnormal : j.normal = j) (pretty : Bool) : decodeText .any (render pretty j) = .ok j := by
  obtain ⟨cs, htext, hspells⟩ := spells_render hfits pretty
  rw [htext]
  refine (hspells.writtenAs hfits hdepth).decodeText_eq fun node hnode => ?_
  rw [Decoder.any, hnode.value_eq, hnormal]

/-! ## Errors -/

/-- A text that is an object with a message as its only member, an error. -/
def Complains (text message : String) : Prop :=
  decodeText .any text = .ok (.object [("error", .string message)])

theorem complains_render (message : String) (pretty : Bool) :
    Complains (render pretty (.object [("error", .string message)])) message :=
  decodeText_render (.object (List.forall_mem_singleton.mpr (.string 0 message))) (by decide) rfl pretty

/-! ## Compiled commands -/

/-- A text that is an object which names a command, and counts and lists its transactions. -/
def Reports (text command : String) (transactions : List InnerTransaction) : Prop :=
  ∃ members list, decodeText .any text = .ok (.object members) ∧
    members.lookup "command" = some (.string command) ∧
    members.lookup "count" = some (.nat transactions.length) ∧
    members.lookup "transactions" = some list ∧ decode Wire.decoder list = .ok transactions

theorem fits_compiled {c : Compiled} (h : c.transactions.length < 18446744073709551616) : c.toJson.Fits 7 := by
  have htransactions : (toJson c.transactions).Fits 6 := LawfulWire.fits c.transactions
  have hcount : (Json.nat c.transactions.length).Fits 6 := .whole 6 (by omega)
  refine .object fun m hm => ?_
  simp only [List.mem_cons, List.not_mem_nil, or_false] at hm
  rcases hm with rfl | rfl | rfl | rfl
  · exact .string 6 _
  · exact hcount
  · exact .string 6 _
  · exact htransactions

theorem normal_compiled (c : Compiled) : c.toJson.normal = c.toJson :=
  OrderedWire.normal_object ["command", "count", "standard", "transactions"] rfl (by decide)
    (by simp [normalMembers, normal, Json.nat])

theorem reports_render {c : Compiled} (h : c.transactions.length < 18446744073709551616) (pretty : Bool) :
    Reports (render pretty c.toJson) c.command.name c.transactions :=
  ⟨_, _, decodeText_render (fits_compiled h) (by decide) (normal_compiled c) pretty, rfl, rfl, rfl,
    LawfulWire.decoder_eq (denotes_toNode _)⟩

end CommandLine
end TokenGovernance
