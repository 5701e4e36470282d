import TokenGovernance.Json.Wire
import TokenGovernance.Proofs.Json.Record

/-! # Where decoders take their texts from

Whatever is read from a document is put together from parts of it. What has to be spelled by a text is therefore
spelled by one that stands in the document.
-/

namespace TokenGovernance.Json

open Outcome

mutual

/-- The strings of a document that can be read, and the keys of its members. -/
def Node.texts : Node → List String
  | .scalar (.string (.ok s)) _ _ => [s]
  | .scalar .. | .broken .. => []
  | .array _ _ items => items.texts
  | .object _ _ members => members.texts

def Items.texts : Items → List String
  | .done _ => []
  | .item value _ rest => value.texts ++ rest.texts

def Members.texts : Members → List String
  | .done _ => []
  | .member key value _ rest => key.text.toOption.toList ++ value.texts ++ rest.texts

end

/-- The strings in a value, and the keys of its members. -/
def texts (j : Json) : List String :=
  j.toNode.texts

variable {α β κ : Type} {src : Source}

/-! ## Strings and lists -/

theorem texts_of_string {node : Node} {s : String} (h : Decoder.string src node = .ok s) : node.texts = [s] := by
  unfold Decoder.string at h
  split at h
  · obtain rfl := Except.ok.inj h
    rw [Node.texts]
  · cases h

theorem refine_eq_ok {d : Decoder α} {check : α → Except String β} {node : Node} {b : β} :
    d.refine check src node = .ok b ↔ ∃ a, d src node = .ok a ∧ check a = .ok b := by
  unfold Decoder.refine
  simp only [bind_eq_ok, mapError_eq_ok]

theorem exists_of_mem_items {d : Decoder α} {parts : Items} {l : List α} (h : Decoder.items src d parts = .ok l) :
    ∀ a ∈ l, ∃ node : Node, node.texts ⊆ parts.texts ∧ d src node = .ok a := by
  fun_induction Decoder.items src d parts generalizing l with
  | case1 ending =>
    obtain ⟨_, -, hl⟩ := bind_eq_ok.mp h
    obtain rfl := Except.ok.inj hl
    exact List.forall_mem_nil _
  | case2 value tail rest ih =>
    obtain ⟨first, hfirst, h⟩ := bind_eq_ok.mp h
    obtain ⟨more, hmore, h⟩ := bind_eq_ok.mp h
    obtain rfl := Except.ok.inj h
    rw [Items.texts]
    refine List.forall_mem_cons.mpr ⟨⟨value, List.subset_append_left _ _, mapError_eq_ok.mp hfirst⟩, ?_⟩
    intro a ha
    obtain ⟨node, hnode, hread⟩ := ih hmore a ha
    exact ⟨node, List.subset_append_of_subset_right _ hnode, hread⟩

theorem exists_of_mem_list {d : Decoder α} {node : Node} {l : List α} (h : d.list src node = .ok l) :
    ∀ a ∈ l, ∃ part : Node, part.texts ⊆ node.texts ∧ d src part = .ok a := by
  unfold Decoder.list at h
  split at h
  · rw [Node.texts]
    exact exists_of_mem_items h
  · cases h

/-! ## Objects -/

/-- The members of an object whose keys can be read. -/
def Members.entries : Members → List (String × Node)
  | .done _ => []
  | .member key value _ rest => (key.text.toOption.toList.map fun name => (name, value)) ++ rest.entries

theorem entries_toMembers (members : List (String × Json)) :
    (toMembers members).entries = members.map fun (name, j) => (name, j.toNode) := by
  induction members with
  | nil => rfl
  | cons member rest ih =>
    obtain ⟨name, j⟩ := member
    rw [toMembers, Members.entries, ih]
    rfl

theorem texts_of_mem_entries {parts : Members} {name : String} {node : Node} (h : (name, node) ∈ parts.entries) :
    name ∈ parts.texts ∧ node.texts ⊆ parts.texts := by
  fun_induction Members.entries parts with
  | case1 => cases h
  | case2 key value tail rest ih =>
    rw [Members.texts]
    rcases List.mem_append.mp h with h | h
    · obtain ⟨other, hother, heq⟩ := List.mem_map.mp h
      obtain ⟨rfl, rfl⟩ := Prod.mk.inj heq
      exact ⟨by simp [hother], fun s hs => by simp [hs]⟩
    · obtain ⟨hname, hnode⟩ := ih h
      exact ⟨List.mem_append_right _ hname, List.subset_append_of_subset_right _ hnode⟩

theorem exists_of_mem_entries {key : String → Except String κ} {d : Decoder α} {parts : Members} {l : List (κ × α)}
    (h : Decoder.entries src key d parts = .ok l) : ∀ entry ∈ l, ∃ name node,
      (name, node) ∈ parts.entries ∧ key name = .ok entry.1 ∧ d src node = .ok entry.2 := by
  fun_induction Decoder.entries src key d parts generalizing l with
  | case1 ending =>
    obtain ⟨_, -, hl⟩ := bind_eq_ok.mp h
    obtain rfl := Except.ok.inj hl
    exact List.forall_mem_nil _
  | case2 k value tail rest ih =>
    simp only [bind_eq_ok, mapError_eq_ok] at h
    obtain ⟨name, hname, x, hx, a, ha, more, hmore, h⟩ := h
    obtain rfl := Except.ok.inj h
    rw [Members.entries, hname]
    refine List.forall_mem_cons.mpr ⟨⟨name, value, List.mem_cons_self, hx, mapError_eq_ok.mp ha⟩, ?_⟩
    intro entry hentry
    obtain ⟨name, node, hmem, hread⟩ := ih hmore entry hentry
    exact ⟨name, node, List.mem_append_right _ hmem, hread⟩

theorem exists_of_mem_table {key : String → Except String κ} {d : Decoder α} {node : Node} {l : List (κ × α)}
    (h : Decoder.table key d src node = .ok l) : ∀ entry ∈ l, ∃ name ∈ node.texts, key name = .ok entry.1 ∧
      ∃ part : Node, part.texts ⊆ node.texts ∧ d src part = .ok entry.2 := by
  intro entry hentry
  unfold Decoder.table at h
  split at h
  · obtain ⟨name, part, hmem, hkey, hread⟩ := exists_of_mem_entries h entry hentry
    obtain ⟨hname, hpart⟩ := texts_of_mem_entries hmem
    rw [Node.texts]
    exact ⟨name, hname, hkey, part, hpart, hread⟩
  · cases h

/-! ## Records -/

namespace Record

variable {fields : List Field} {find : String → Option Node}

theorem build_field_eq_ok {name : String} {d : Decoder α} {a : α} :
    (field name d).build src find = .ok a ↔ ∃ node, find name = some node ∧ d src node = .ok a := by
  unfold field
  rw [build_fieldOr_eq_ok]
  simp

theorem mem_of_find {nodes : List (String × Node)} {name : String} {node : Node}
    (h : Record.find nodes name = some node) : (name, node) ∈ nodes := by
  obtain ⟨front, back, rfl, -⟩ := List.lookup_eq_some_iff.mp h
  exact List.mem_append_right _ List.mem_cons_self

theorem entries_of_fromMembers {seen : List String} {parts : Members} {nodes : List (String × Node)} {stop : Nat}
    (h : fromMembers src fields seen parts = .ok (nodes, stop)) : ∀ entry ∈ nodes, entry ∈ parts.entries := by
  fun_induction fromMembers src fields seen parts generalizing nodes stop with
  | case1 =>
    obtain ⟨rfl, -⟩ := Prod.mk.inj (Except.ok.inj h)
    exact List.forall_mem_nil _
  | case2 => cases h
  | case3 seen key value tail rest ihField ihNone =>
    obtain ⟨name, hname, h⟩ := bind_eq_ok.mp h
    rw [Members.entries, hname]
    split at h
    next f hf =>
      obtain ⟨-, h⟩ := refuse_eq_ok.mp h
      obtain ⟨_, -, h⟩ := bind_eq_ok.mp h
      obtain ⟨⟨more, stop'⟩, hmore, h⟩ := bind_eq_ok.mp h
      obtain ⟨rfl, -⟩ := Prod.mk.inj (Except.ok.inj h)
      refine List.forall_mem_cons.mpr ⟨List.mem_cons_self, fun entry hentry => ?_⟩
      exact List.mem_append_right _ (ihField name hmore entry hentry)
    next =>
      obtain ⟨_, -, h⟩ := bind_eq_ok.mp h
      exact fun entry hentry => List.mem_append_right _ (ihNone h entry hentry)

theorem find_of_fromMembers {seen : List String} {parts : Members} {nodes : List (String × Node)} {stop : Nat}
    (h : fromMembers src fields seen parts = .ok (nodes, stop)) {name : String} (hname : name ∈ fields.map (·.name)) :
    Record.find nodes name = parts.entries.lookup name := by
  obtain ⟨f, hf, rfl⟩ := List.mem_map.mp hname
  fun_induction fromMembers src fields seen parts generalizing nodes stop with
  | case1 =>
    obtain ⟨rfl, -⟩ := Prod.mk.inj (Except.ok.inj h)
    rfl
  | case2 => cases h
  | case3 seen key value tail rest ihField ihNone =>
    obtain ⟨name, hname, h⟩ := bind_eq_ok.mp h
    have hentries : (Members.member key value tail rest).entries = (name, value) :: rest.entries := by
      rw [Members.entries, hname]
      rfl
    rw [hentries]
    split at h
    next g hg =>
      obtain ⟨-, h⟩ := refuse_eq_ok.mp h
      obtain ⟨_, -, h⟩ := bind_eq_ok.mp h
      obtain ⟨⟨more, stop'⟩, hmore, h⟩ := bind_eq_ok.mp h
      obtain ⟨rfl, -⟩ := Prod.mk.inj (Except.ok.inj h)
      have hrest := ihField name hmore
      unfold Record.find at hrest ⊢
      rw [List.lookup_cons, List.lookup_cons, hrest]
    next hnone =>
      -- A name without a field is not the one that is looked for.
      obtain ⟨_, -, h⟩ := bind_eq_ok.mp h
      have hne : (f.name == name) = false := by
        have hother := List.find?_eq_none.mp hnone f hf
        simpa using hother
      rw [List.lookup_cons, hne]
      exact ihNone h

theorem texts_of_fromItems {expected : String} {index : Nat} {parts : Items} {fault fault' : Option Fault}
    {nodes : List (String × Node)} (h : fromItems src expected index fields parts fault = .ok (nodes, fault')) :
    ∀ entry ∈ nodes, entry.2.texts ⊆ parts.texts := by
  fun_induction fromItems src expected index fields parts fault generalizing nodes fault' with
  | case1 =>
    obtain ⟨rfl, -⟩ := Prod.mk.inj (Except.ok.inj h)
    exact List.forall_mem_nil _
  | case2 index f fields value tail rest fault ih =>
    obtain ⟨_, -, h⟩ := bind_eq_ok.mp h
    obtain ⟨⟨more, fault''⟩, hmore, h⟩ := bind_eq_ok.mp h
    obtain ⟨rfl, -⟩ := Prod.mk.inj (Except.ok.inj h)
    rw [Items.texts]
    refine List.forall_mem_cons.mpr ⟨List.subset_append_left _ _, fun entry hentry => ?_⟩
    exact List.subset_append_of_subset_right _ (ih hmore entry hentry)
  | case3 index f fields ending fault ih =>
    obtain ⟨_, -, h⟩ := bind_eq_ok.mp h
    exact ih (require_eq_ok.mp h).2

theorem exists_build_object {r : Record α} {kind : String} {start depth : Nat} {parts : Members} {a : α}
    (h : r.decoder kind src (.object start depth parts) = .ok a) :
    ∃ find, (∀ name node, find name = some node → (name, node) ∈ parts.entries) ∧ r.build src find = .ok a := by
  obtain ⟨⟨nodes, stop⟩, hread, h⟩ := bind_eq_ok.mp h
  exact ⟨Record.find nodes, fun name node hfind => entries_of_fromMembers hread _ (mem_of_find hfind),
    mapError_eq_ok.mp h⟩

theorem exists_build_lookup {r : Record α} {kind : String} {start depth : Nat} {parts : Members} {a : α}
    (h : r.decoder kind src (.object start depth parts) = .ok a) :
    ∃ find, (∀ name ∈ r.fields.map (·.name), find name = parts.entries.lookup name) ∧ r.build src find = .ok a := by
  obtain ⟨⟨nodes, stop⟩, hread, h⟩ := bind_eq_ok.mp h
  exact ⟨Record.find nodes, fun name hname => find_of_fromMembers hread hname, mapError_eq_ok.mp h⟩

theorem exists_build {r : Record α} {kind : String} {node : Node} {a : α} (h : r.decoder kind src node = .ok a) :
    ∃ find, (∀ name part, find name = some part → part.texts ⊆ node.texts) ∧ r.build src find = .ok a := by
  cases node with
  | object start depth parts =>
    obtain ⟨find, hfind, hbuild⟩ := exists_build_object h
    refine ⟨find, fun name part hpart => ?_, hbuild⟩
    rw [Node.texts]
    exact (texts_of_mem_entries (hfind name part hpart)).2
  | array start depth parts =>
    obtain ⟨⟨nodes, fault⟩, hread, h⟩ := bind_eq_ok.mp h
    obtain ⟨a', hbuild, h⟩ := bind_eq_ok.mp h
    obtain ⟨_, -, h⟩ := bind_eq_ok.mp h
    obtain rfl := Except.ok.inj h
    refine ⟨Record.find nodes, fun name part hpart => ?_, hbuild⟩
    rw [Node.texts]
    exact texts_of_fromItems hread _ (mem_of_find hpart)
  | _ => cases h

end Record

/-! ## Tagged records -/

namespace Case

variable {cases : List (Case α)} {tag : String}

theorem mem_of_tagDecoder {node : Node} {c : Case α} (h : tagDecoder cases src node = .ok c) : c ∈ cases := by
  unfold tagDecoder Decoder.name at h
  split at h
  · split at h
    next hpick =>
      obtain rfl := Except.ok.inj h
      exact List.mem_of_find?_eq_some hpick
    next => cases h
  · cases h

theorem texts_of_fromMembers {chosen : Option (Case α)} {parts parts' : Members} {c : Case α}
    (hchosen : ∀ c ∈ chosen, c ∈ cases) (h : fromMembers src tag cases chosen parts = .ok (c, parts')) :
    c ∈ cases ∧ parts'.texts ⊆ parts.texts := by
  fun_induction fromMembers src tag cases chosen parts generalizing c parts' with
  | case1 => cases h
  | case2 stop c' =>
    obtain ⟨rfl, rfl⟩ := Prod.mk.inj (Except.ok.inj h)
    exact ⟨hchosen _ rfl, List.Subset.refl _⟩
  | case3 => cases h
  | case4 chosen key value tail rest ihTag ihOther =>
    obtain ⟨name, hname, h⟩ := bind_eq_ok.mp h
    rw [Members.texts]
    split at h
    next =>
      -- The tag is not among the members that are left.
      obtain ⟨-, h⟩ := refuse_eq_ok.mp h
      obtain ⟨c', hc', h⟩ := bind_eq_ok.mp h
      have hmem := mem_of_tagDecoder (mapError_eq_ok.mp hc')
      obtain ⟨hc, hparts⟩ := ihTag c' (fun _ hc => Option.some.inj hc ▸ hmem) h
      exact ⟨hc, List.subset_append_of_subset_right _ hparts⟩
    next =>
      obtain ⟨_, -, h⟩ := bind_eq_ok.mp h
      obtain ⟨⟨c', members⟩, hmembers, h⟩ := bind_eq_ok.mp h
      obtain ⟨rfl, rfl⟩ := Prod.mk.inj (Except.ok.inj h)
      obtain ⟨hc, hparts⟩ := ihOther hchosen hmembers
      refine ⟨hc, ?_⟩
      rw [Members.texts]
      exact List.append_subset.mpr ⟨List.subset_append_left _ _, List.subset_append_of_subset_right _ hparts⟩

theorem exists_content {kind : String} {node : Node} {a : α} (h : decoder kind tag cases src node = .ok a) :
    ∃ c ∈ cases, ∃ part : Node, part.texts ⊆ node.texts ∧ c.content .besideTag part = .ok a := by
  unfold decoder at h
  split at h
  · obtain ⟨_, -, h⟩ := bind_eq_ok.mp h
    obtain ⟨⟨c, members⟩, hmembers, h⟩ := bind_eq_ok.mp h
    obtain ⟨hc, htexts⟩ := texts_of_fromMembers (by simp) hmembers
    refine ⟨c, hc, _, ?_, h⟩
    rw [Node.texts, Node.texts]
    exact htexts
  · obtain ⟨_, -, h⟩ := bind_eq_ok.mp h
    obtain ⟨_, -, h⟩ := bind_eq_ok.mp h
    cases h
  · obtain ⟨_, -, h⟩ := bind_eq_ok.mp h
    obtain ⟨c, hc, h⟩ := bind_eq_ok.mp h
    obtain ⟨_, -, h⟩ := bind_eq_ok.mp h
    refine ⟨c, mem_of_tagDecoder (mapError_eq_ok.mp hc), _, ?_, h⟩
    rw [Node.texts, Node.texts, Items.texts]
    exact List.subset_append_right _ _
  · cases h

end Case
end TokenGovernance.Json
