import ActionRehearsal.CommandLine.Outcome

/-!
# Exit statuses

A run that is not misused ends with status 0 or 1. `Outcome.FailsIf` says under which condition it is 1,
and there is one equivalence for each way in which such a run ends.
-/

set_option autoImplicit false

namespace ActionRehearsal.CommandLine

/-- Whether a run ends with status 1 exactly under a condition, and with 0 otherwise. -/
def Outcome.FailsIf (o : Outcome) (p : Prop) : Prop :=
  (o.status = 0 ∨ o.status = 1) ∧ (o.status = 1 ↔ p)

theorem Outcome.FailsIf.of_iff {o : Outcome} {p q : Prop} (h : o.FailsIf p) (same : p ↔ q) :
    o.FailsIf q :=
  ⟨h.1, h.2.trans same⟩

theorem Outcome.failsIf_done (printed : Printed) (failed : Bool) :
    (done printed failed).FailsIf (failed = true) := by
  cases failed with
  | true => exact ⟨.inr rfl, fun _ => rfl, fun _ => rfl⟩
  | false =>
      refine ⟨.inl rfl, ?_, ?_⟩
      · intro fails
        cases fails
      · intro found
        cases found

theorem Outcome.failsIf_cut (printed : Printed) (escape : Escape) :
    (cut printed escape).FailsIf True :=
  ⟨.inr rfl, fun _ => trivial, fun _ => rfl⟩

theorem Outcome.failsIf_ofConfigError (console : Console) (e : ConfigError) :
    (ofConfigError console e).FailsIf True :=
  ⟨.inr rfl, fun _ => trivial, fun _ => rfl⟩

end ActionRehearsal.CommandLine
