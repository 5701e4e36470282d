import TokenGovernance.Proofs.CommandLine.Compile

/-! # How runs end

A run ends with its output, or with an error as an object. It is broken off only where the deadline of a
request that it compiles is outside the calendar.
-/

namespace TokenGovernance

open Outcome Json

namespace CommandLine

variable {s : Surroundings} {words : List String} {o : Options}

/-- An end with output and without errors, or with nothing but an error that is an object with a message. -/
def Orderly (outcome : Outcome) : Prop :=
  (∃ output, outcome = .finished 0 output "") ∨
    ∃ errors message, outcome = .finished 1 "" errors ∧ Complains errors message

/-- The words have a request compiled, and its deadline is outside the calendar, or that of a request which
names none. -/
def Overruns (s : Surroundings) (words : List String) : Prop :=
  ∃ o r ledger, Options.read words = .ok o ∧ Compiles s o r ledger ∧
    (Deadline.inHours? s.now Deadline.defaultHours = none ∨ Deadline.inHours? s.now r.hours = none)

theorem orderly_written (text : String) : Orderly (.written text) :=
  .inl ⟨text, rfl⟩

theorem orderly_failed (pretty : Bool) (f : Fault) : Orderly (.failed pretty f) :=
  .inr ⟨_, _, rfl, complains_render _ pretty⟩

theorem not_orderly_aborted : ¬ Orderly .aborted := by
  rintro (⟨output, h⟩ | ⟨errors, message, h, -⟩)
  · cases h
  · cases h

theorem parameters?_eq_none {now : Int} {r : Request} : parameters? now o r = none ↔
    Deadline.inHours? now Deadline.defaultHours = none ∨ Deadline.inHours? now r.hours = none := by
  rw [parameters?_eq]
  cases Deadline.inHours? now Deadline.defaultHours with
  | none => simp
  | some byDefault => simp

theorem mapError_ne_outsideCalendar {ε α : Type} {x : Except ε α} {f : ε → Fault} :
    (x.mapError fun e => Halt.fault (f e)) ≠ .error .outsideCalendar := by
  cases x with
  | error e => simp [Except.mapError]
  | ok a => simp [Except.mapError]

theorem compile_eq_outsideCalendar (h : compile s o = .error .outsideCalendar) :
    ∃ r ledger, readRequest s o = .ok r ∧ readLedger s o r = .ok ledger ∧ parameters? s.now o r = none := by
  rcases bind_eq_error.mp h with hfault | ⟨r, hrequest, h⟩
  · exact absurd hfault mapError_ne_outsideCalendar
  · rcases bind_eq_error.mp h with hfault | ⟨ledger, hledger, h⟩
    · exact absurd hfault mapError_ne_outsideCalendar
    · refine ⟨r, ledger, mapError_eq_ok.mp hrequest, mapError_eq_ok.mp hledger, ?_⟩
      split at h
      next hnone => exact hnone
      next => exact absurd h mapError_ne_outsideCalendar

theorem perform_eq_outsideCalendar {command : String} (h : perform s o command = .error .outsideCalendar) :
    command = "compile" ∧ compile s o = .error .outsideCalendar := by
  unfold perform at h
  split at h
  next hcommand =>
    refine ⟨hcommand, ?_⟩
    cases hcompile : compile s o with
    | ok c =>
      rw [hcompile] at h
      cases h
    | error halt =>
      rw [hcompile] at h
      cases h
      rfl
  next =>
    split at h
    · cases h
    · cases h

/-- Whatever the words are, a run is orderly, or it compiles and is stopped by a deadline. -/
theorem run_cases (s : Surroundings) (words : List String) : Orderly (run s words) ∨
    ∃ o, Options.read words = .ok o ∧ o.help = false ∧ o.version = false ∧ o.command = some "compile" ∧
      compile s o = .error .outsideCalendar := by
  unfold run
  cases hread : Options.read words with
  | error fault => exact .inl (orderly_failed _ _)
  | ok o =>
    dsimp only
    by_cases hhelp : o.help = true
    · rw [if_pos hhelp]
      exact .inl (orderly_written usage)
    · by_cases hversion : o.version = true
      · rw [if_neg hhelp, if_pos hversion]
        exact .inl (orderly_written version)
      · rw [if_neg hhelp, if_neg hversion]
        cases hcommand : o.command with
        | none => exact .inl (orderly_written usage)
        | some command =>
          dsimp only
          cases hperform : perform s o command with
          | ok j => exact .inl (orderly_written _)
          | error halt =>
            cases halt with
            | fault f => exact .inl (orderly_failed _ f)
            | outsideCalendar =>
              obtain ⟨rfl, hcompile⟩ := perform_eq_outsideCalendar hperform
              exact .inr ⟨o, rfl, Bool.eq_false_of_not_eq_true hhelp, Bool.eq_false_of_not_eq_true hversion,
                hcommand, hcompile⟩

theorem run_eq_aborted : run s words = .aborted ↔ Overruns s words := by
  constructor
  · intro h
    rcases run_cases s words with horderly | ⟨o, hread, hhelp, hversion, hcommand, hcompile⟩
    · rw [h] at horderly
      exact absurd horderly not_orderly_aborted
    · obtain ⟨r, ledger, hrequest, hledger, hparameters⟩ := compile_eq_outsideCalendar hcompile
      exact ⟨o, r, ledger, hread,
        ⟨hcommand, hhelp, hversion, readRequest_eq_ok.mp hrequest, readLedger_eq_ok.mp hledger⟩,
        parameters?_eq_none.mp hparameters⟩
  · rintro ⟨o, r, ledger, hread, h, hoverrun⟩
    rw [run_of_compile hread h.help h.version h.command, h.compile_eq, parameters?_eq_none.mpr hoverrun]

/-- A run ends orderly exactly when no deadline overruns the calendar. Otherwise it is broken off. -/
theorem orderly_iff_not_overruns (s : Surroundings) (words : List String) :
    (Orderly (run s words) ↔ ¬ Overruns s words) ∧ (run s words = .aborted ↔ Overruns s words) := by
  refine ⟨?_, run_eq_aborted⟩
  constructor
  · intro horderly hoverruns
    rw [run_eq_aborted.mpr hoverruns] at horderly
    exact not_orderly_aborted horderly
  · intro hwithin
    rcases run_cases s words with horderly | ⟨o, hread, hhelp, hversion, hcommand, hcompile⟩
    · exact horderly
    · have haborted : run s words = .aborted := by rw [run_of_compile hread hhelp hversion hcommand, hcompile]
      exact absurd (run_eq_aborted.mp haborted) hwithin

end CommandLine

open Sample CommandLine in
/-- At the start of 2026, the request has its deadline at the last hour that there is a number for. -/
theorem CommandLine.aborted_beyond_calendar :
    decodeText Request.decoder (Json.object (requestMembers 9223372036854775807)).compact =
        .ok (request 9223372036854775807) ∧
      run (requesting 1767225600000 9223372036854775807) ["compile", "-"] = .aborted ∧
      ¬ Orderly (run (requesting 1767225600000 9223372036854775807) ["compile", "-"]) := by
  have haborted : run (requesting 1767225600000 9223372036854775807) ["compile", "-"] = .aborted :=
    run_eq_aborted.mpr ⟨_, _, _, read_standardInput, compiles _ _, .inr (by decide)⟩
  refine ⟨request_decoded _, haborted, ?_⟩
  rw [haborted]
  exact not_orderly_aborted

end TokenGovernance
