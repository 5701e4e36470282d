import TokenGovernance.Proofs.Command.Arguments
import TokenGovernance.Proofs.Keyed

/-! # The register of arguments

An argument has the value of the first write to its name that is not refused, whatever is written after
it.
-/

namespace TokenGovernance.Context

open Outcome

/-! ## What can be written -/

/-- Names that can be written to, one after the other. -/
def Free (c : Context) (arguments : List (String × Json)) : Prop :=
  (arguments.map Prod.fst).Nodup ∧ ∀ name ∈ arguments.map Prod.fst, c.argument? name = none

/-- The first name of a list that was written before, or that occurs for the second time. -/
def Clash (c : Context) (arguments : List (String × Json)) (name : String) : Prop :=
  ∃ front value back, arguments = front ++ (name, value) :: back ∧ c.Free front ∧
    (c.argument? name ≠ none ∨ name ∈ front.map Prod.fst)

/-- The context with some more arguments, whatever it has under their names. -/
def enter (c : Context) (arguments : List (String × Json)) : Context :=
  { c with arguments := arguments.foldl (fun l (name, value) => Keyed.insert name value l) c.arguments }

variable {c c' : Context} {name : String} {value : Json} {arguments more : List (String × Json)}

@[simp] theorem enter_nil : c.enter [] = c := rfl

theorem enter_append : c.enter (arguments ++ more) = (c.enter arguments).enter more := by
  unfold enter
  rw [List.foldl_append]

theorem argument?_enter_singleton (x : String) :
    (c.enter [(name, value)]).argument? x = if x = name then some value else c.argument? x :=
  Keyed.find?_insert name x value c.arguments

theorem free_nil : c.Free [] := by simp [Free]

theorem free_cons :
    c.Free ((name, value) :: more) ↔ c.argument? name = none ∧ (c.enter [(name, value)]).Free more := by
  unfold Free
  simp only [List.map_cons, List.nodup_cons, List.forall_mem_cons, argument?_enter_singleton]
  constructor
  · rintro ⟨⟨hnew, hnodup⟩, hname, hmore⟩
    refine ⟨hname, hnodup, fun x hx => ?_⟩
    rw [if_neg (ne_of_mem_of_not_mem hx hnew)]
    exact hmore x hx
  · rintro ⟨hname, hnodup, hmore⟩
    have hne : ∀ x ∈ more.map Prod.fst, x ≠ name := by
      rintro x hx rfl
      simpa using hmore x hx
    exact ⟨⟨fun h => hne name h rfl, hnodup⟩, hname, fun x hx => by simpa [hne x hx] using hmore x hx⟩

theorem free_append : c.Free (arguments ++ more) ↔ c.Free arguments ∧ (c.enter arguments).Free more := by
  induction arguments generalizing c with
  | nil => simp [free_nil]
  | cons first rest ih =>
    obtain ⟨name, value⟩ := first
    rw [List.cons_append, free_cons, ih, free_cons, and_assoc]
    rfl

theorem argument?_enter (h : c.Free arguments) (x : String) :
    (c.enter arguments).argument? x = (c.argument? x).or (arguments.lookup x) := by
  induction arguments generalizing c with
  | nil => simp
  | cons first rest ih =>
    obtain ⟨name, value⟩ := first
    obtain ⟨hname, hrest⟩ := free_cons.mp h
    change ((c.enter [(name, value)]).enter rest).argument? x = _
    rw [ih hrest, argument?_enter_singleton, List.lookup_cons]
    by_cases hx : x = name
    · simp [hx, hname]
    · simp [hx, beq_eq_false_iff_ne.mpr hx]

/-! ## What one call writes -/

theorem set_eq : c.set name value = if c.argument? name = none then .ok (c.enter [(name, value)])
    else .error (.invalidArgument name .alreadySet) := by
  unfold set
  cases c.argument? name with
  | none => rfl
  | some v => rfl

theorem setAll_cons :
    c.setAll ((name, value) :: more) = if c.argument? name = none then (c.enter [(name, value)]).setAll more
      else .error (.invalidArgument name .alreadySet) := by
  change (c.set name value >>= fun c' => c'.setAll more) = _
  rw [set_eq]
  by_cases h : c.argument? name = none
  · rw [if_pos h, if_pos h, ok_bind]
  · rw [if_neg h, if_neg h, error_bind]

theorem setAll_eq_ok : c.setAll arguments = .ok c' ↔ c.Free arguments ∧ c' = c.enter arguments := by
  induction arguments generalizing c with
  | nil =>
    change Except.ok c = Except.ok c' ↔ _
    simp [free_nil, eq_comm]
  | cons first rest ih =>
    obtain ⟨name, value⟩ := first
    rw [setAll_cons, require_eq_ok, ih, free_cons, and_assoc]
    rfl

theorem not_clash_nil : ¬ c.Clash [] name := by
  rintro ⟨front, value, back, h, -⟩
  simp at h

theorem claimed_enter_singleton {front : List (String × Json)} {x : String} :
    ((c.enter [(name, value)]).argument? x ≠ none ∨ x ∈ front.map Prod.fst) ↔
      (c.argument? x ≠ none ∨ x ∈ ((name, value) :: front).map Prod.fst) := by
  rw [argument?_enter_singleton]
  by_cases hx : x = name
  · simp [hx]
  · simp [hx]

theorem clash_cons {x : String} : c.Clash ((name, value) :: more) x ↔
    (c.argument? name ≠ none ∧ x = name) ∨
      (c.argument? name = none ∧ (c.enter [(name, value)]).Clash more x) := by
  constructor
  · rintro ⟨front, v, back, h, hfront, hx⟩
    cases front with
    | nil =>
      simp only [List.nil_append, List.cons.injEq, Prod.mk.injEq] at h
      obtain ⟨⟨rfl, -⟩, -⟩ := h
      exact .inl ⟨by simpa using hx, rfl⟩
    | cons first front =>
      simp only [List.cons_append, List.cons.injEq] at h
      obtain ⟨rfl, rfl⟩ := h
      obtain ⟨hname, hrest⟩ := free_cons.mp hfront
      exact .inr ⟨hname, front, v, back, rfl, hrest, claimed_enter_singleton.mpr hx⟩
  · rintro (⟨hname, rfl⟩ | ⟨hname, front, v, back, rfl, hfront, hx⟩)
    · exact ⟨[], value, more, rfl, free_nil, .inl hname⟩
    · exact ⟨(name, value) :: front, v, back, rfl, free_cons.mpr ⟨hname, hfront⟩,
        claimed_enter_singleton.mp hx⟩

theorem setAll_eq_error {refusal : Refusal} : c.setAll arguments = .error refusal ↔
    ∃ name, c.Clash arguments name ∧ refusal = .invalidArgument name .alreadySet := by
  induction arguments generalizing c with
  | nil =>
    change Except.ok c = Except.error refusal ↔ _
    simp [not_clash_nil]
  | cons first rest ih =>
    obtain ⟨name, value⟩ := first
    simp only [setAll_cons, clash_cons]
    by_cases h : c.argument? name = none
    · simp [h, ih]
    · simp [h, eq_comm]

/-! ## Runs -/

/-- A call that writes one argument, or several. -/
inductive Write
  | one (name : String) (value : Json)
  | several (arguments : List (String × Json))

def Write.entries : Write → List (String × Json)
  | .one name value => [(name, value)]
  | .several arguments => arguments

def perform (c : Context) : Write → Except Refusal Context
  | .one name value => c.set name value
  | .several arguments => c.setAll arguments

/-- The context after some calls. Whoever makes a call that is refused goes on with the context there was. -/
def after (c : Context) : List Write → Context
  | [] => c
  | write :: writes =>
    match c.perform write with
    | .ok c' => c'.after writes
    | .error _ => c.after writes

/-- What is written by those calls of a run that are not refused, in their order. -/
def written (c : Context) : List Write → List (String × Json)
  | [] => []
  | write :: writes =>
    match c.perform write with
    | .ok c' => write.entries ++ c'.written writes
    | .error _ => c.written writes

/-- The value of the first write to a name: that which the context came with, or else that of the first
call which is not refused. -/
def first (c : Context) (writes : List Write) (name : String) : Option Json :=
  (c.argument? name).or ((c.written writes).lookup name)

variable {writes : List Write}

theorem perform_eq_ok {write : Write} :
    c.perform write = .ok c' ↔ c.Free write.entries ∧ c' = c.enter write.entries := by
  cases write with
  | one name value =>
    rw [← setAll_eq_ok, Write.entries, setAll_cons, perform, set_eq]
    rfl
  | several arguments => exact setAll_eq_ok

/-- A run enters what it writes, and every name of that was free when the run began. -/
theorem after_eq_enter (c : Context) (writes : List Write) :
    c.Free (c.written writes) ∧ c.after writes = c.enter (c.written writes) := by
  induction writes generalizing c with
  | nil => exact ⟨free_nil, rfl⟩
  | cons write writes ih =>
    unfold written after
    cases hstep : c.perform write with
    | error refusal => exact ih c
    | ok c' =>
      obtain ⟨hfree, rfl⟩ := perform_eq_ok.mp hstep
      obtain ⟨hrest, heq⟩ := ih (c.enter write.entries)
      exact ⟨free_append.mpr ⟨hfree, hrest⟩, heq.trans enter_append.symm⟩

theorem argument?_after (c : Context) (writes : List Write) (name : String) :
    (c.after writes).argument? name = c.first writes name := by
  obtain ⟨hfree, heq⟩ := after_eq_enter c writes
  rw [heq, argument?_enter hfree]
  rfl

theorem after_append (writes later : List Write) : c.after (writes ++ later) = (c.after writes).after later := by
  induction writes generalizing c with
  | nil => rfl
  | cons write writes ih =>
    rw [List.cons_append, after, after]
    cases c.perform write with
    | error refusal => exact ih
    | ok c' => exact ih

theorem argument?_after_append {later : List Write} (h : (c.after writes).argument? name = some value) :
    (c.after (writes ++ later)).argument? name = some value := by
  rw [after_append, argument?_after, first, h, Option.some_or]

theorem after_refused {write : Write} {refusal : Refusal} (h : (c.after writes).perform write = .error refusal) :
    c.after (writes ++ [write]) = c.after writes := by
  rw [after_append, after, h]
  rfl

/-! ## Reading -/

theorem has_eq_false : c.has name = false ↔ c.argument? name = none ∨ c.argument? name = some .null := by
  unfold has
  cases c.argument? name with
  | none => simp
  | some value => cases value <;> simp [Json.isNull]

theorem get_of_has (h : c.has name = true) : ∃ value, c.argument? name = some value ∧ value ≠ .null ∧
    ∀ {α : Type} (d : Json.Decoder α) (absent : α), c.get d name absent =
      (Json.decode d value).mapError fun fault => .invalidArgument name (.undecodable fault.flaw) := by
  unfold has at h
  unfold get
  cases hvalue : c.argument? name with
  | none => simp [hvalue] at h
  | some value =>
    cases value with
    | null => simp [hvalue, Json.isNull] at h
    | _ => exact ⟨_, rfl, by simp, fun d absent => rfl⟩

theorem get_default_iff {α : Type} (d : Json.Decoder α) {a b : α} (hne : a ≠ b) :
    (c.get d name a = .ok a ∧ c.get d name b = .ok b) ↔ c.has name = false := by
  constructor
  · rintro ⟨ha, hb⟩
    by_contra hthere
    rw [Bool.not_eq_false] at hthere
    obtain ⟨value, -, -, hget⟩ := get_of_has hthere
    rw [hget] at ha hb
    exact hne (Except.ok.inj (ha.symm.trans hb))
  · intro h
    exact ⟨get_of_not_has h d a, get_of_not_has h d b⟩

/-! ## The register is written once -/

/-- What holds of a context after a run of writes. -/
structure WrittenOnce (c : Context) (writes : List Write) : Prop where
  argument : ∀ name, (c.after writes).argument? name = c.first writes name
  once : ((c.written writes).map Prod.fst).Nodup ∧
    ∀ name ∈ (c.written writes).map Prod.fst, c.argument? name = none
  lasting : ∀ later name value, (c.after writes).argument? name = some value →
    (c.after (writes ++ later)).argument? name = some value
  others : (c.after writes).revision = c.revision ∧ (c.after writes).network = c.network ∧
    (c.after writes).actor = c.actor ∧ (c.after writes).parameters = c.parameters
  /-- A call to which a name is not free is refused with that name, and leaves the context as it was. -/
  claimed : ∀ name value, c.first writes name ≠ none →
    (c.after writes).set name value = .error (.invalidArgument name .alreadySet) ∧
      c.after (writes ++ [.one name value]) = c.after writes
  unclaimed : ∀ name value, c.first writes name = none →
    ∃ c', (c.after writes).set name value = .ok c' ∧ c'.argument? name = some value
  several : ∀ arguments, (∃ c', (c.after writes).setAll arguments = .ok c') ↔
    (arguments.map Prod.fst).Nodup ∧ ∀ name ∈ arguments.map Prod.fst, c.first writes name = none
  /-- A list is refused with the first name of it that was claimed, before it or in it. -/
  clash : ∀ arguments refusal, (c.after writes).setAll arguments = .error refusal ↔
    ∃ front name value back, arguments = front ++ (name, value) :: back ∧
      ((front.map Prod.fst).Nodup ∧ ∀ x ∈ front.map Prod.fst, c.first writes x = none) ∧
      (c.first writes name ≠ none ∨ name ∈ front.map Prod.fst) ∧
      refusal = .invalidArgument name .alreadySet
  refused : ∀ arguments refusal, (c.after writes).setAll arguments = .error refusal →
    c.after (writes ++ [.several arguments]) = c.after writes
  has : ∀ name, (c.after writes).has name = false ↔
    c.first writes name = none ∨ c.first writes name = some .null
  absent : ∀ {α : Type} (d : Json.Decoder α) name, (c.after writes).has name = false →
    ∀ absent, (c.after writes).get d name absent = .ok absent
  present : ∀ {α : Type} (d : Json.Decoder α) name, (c.after writes).has name = true →
    ∃ value, c.first writes name = some value ∧ value ≠ .null ∧
      ∀ absent, (c.after writes).get d name absent =
        (Json.decode d value).mapError fun fault => .invalidArgument name (.undecodable fault.flaw)
  default_iff : ∀ {α : Type} (d : Json.Decoder α) name (a b : α), a ≠ b →
    (((c.after writes).get d name a = .ok a ∧ (c.after writes).get d name b = .ok b) ↔
      (c.after writes).has name = false)

/-- Whatever is written, and in whatever calls, a name keeps the value of the first write to it. -/
theorem written_once (c : Context) (writes : List Write) : c.WrittenOnce writes := by
  -- What a run leaves behind is the first write of each name, which answers all questions about it.
  obtain ⟨hfree, hentered⟩ := after_eq_enter c writes
  have hargument := argument?_after c writes
  constructor
  case argument => exact hargument
  case once => exact hfree
  case lasting =>
    intro later name value h
    exact argument?_after_append h
  case others => rw [hentered]; exact ⟨rfl, rfl, rfl, rfl⟩
  case claimed =>
    intro name value hclaimed
    have hset : (c.after writes).set name value = .error (.invalidArgument name .alreadySet) := by
      rw [set_eq, hargument, if_neg hclaimed]
    exact ⟨hset, after_refused hset⟩
  case unclaimed =>
    intro name value hnone
    rw [set_eq, hargument, if_pos hnone]
    exact ⟨_, rfl, by rw [argument?_enter_singleton, if_pos rfl]⟩
  case several =>
    intro arguments
    simp only [setAll_eq_ok, exists_and_left, exists_eq, and_true, Free, hargument]
  case clash =>
    intro arguments refusal
    rw [setAll_eq_error]
    simp only [Clash, Free, hargument]
    constructor
    · rintro ⟨name, ⟨front, value, back, heq, hfront, hname⟩, rfl⟩
      exact ⟨front, name, value, back, heq, hfront, hname, rfl⟩
    · rintro ⟨front, name, value, back, heq, hfront, hname, rfl⟩
      exact ⟨name, ⟨front, value, back, heq, hfront, hname⟩, rfl⟩
  case refused =>
    intro arguments refusal h
    exact after_refused h
  case has =>
    intro name
    rw [has_eq_false, hargument]
  case absent =>
    intro α d name h absent
    exact get_of_not_has h d absent
  case present =>
    intro α d name h
    obtain ⟨value, hvalue, hnull, hget⟩ := get_of_has h
    exact ⟨value, (hargument name).symm.trans hvalue, hnull, hget d⟩
  case default_iff =>
    intro α d name a b hne
    exact get_default_iff d hne

end TokenGovernance.Context
