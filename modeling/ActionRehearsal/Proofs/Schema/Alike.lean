import ActionRehearsal.Proofs.Schema.Check
import Mathlib.Data.List.Forall2

/-!
# Checks that come to the same

Two checks are alike up to a function if both read something, and the function makes the same of it, or
both find the very same problems in the same order (`Checked.Alike`). Each way of putting checks together
keeps this: there is one lemma for two checks side by side, for all checks of a list, for the items of a
list and for the entries of a table.

A check that reads something whatever happens can be put between others without a trace
(`Checked.Alike.insert`). This is what makes entries that no field has irrelevant.
-/

set_option autoImplicit false

namespace ActionRehearsal

namespace Schema

namespace Checked

variable {α β γ δ : Type} {f : α → γ} {g : β → δ}

/-- Whether two checks come to the same up to a function: both read something of which it makes the same,
or both find the same problems. -/
inductive Alike (f : α → γ) : Checked α → Checked α → Prop where
  | ok {a b : α} (same : f a = f b) : Alike f (.ok a) (.ok b)
  | error (p : Problems) : Alike f (.error p) (.error p)

namespace Alike

theorem refl (f : α → γ) (check : Checked α) : Alike f check check := by
  cases check with
  | ok a => exact .ok rfl
  | error p => exact .error p

theorem of_eq {a b : Checked α} (same : a = b) : Alike f a b := by
  subst same
  exact .refl f a

theorem symm {a b : Checked α} (alike : Alike f a b) : Alike f b a := by
  cases alike with
  | ok same => exact .ok same.symm
  | error p => exact .error p

theorem trans {a b c : Checked α} (first : Alike f a b) (second : Alike f b c) : Alike f a c := by
  cases first with
  | ok same =>
      cases second with
      | ok same' => exact .ok (same.trans same')
  | error p => exact second

/-- Checks that are alike up to no function but the identity are the same. -/
theorem eq {a b : Checked α} (alike : Alike id a b) : a = b := by
  cases alike with
  | ok same => exact congrArg Except.ok same
  | error p => rfl

theorem both {a b : Checked α} {a' b' : Checked β} (first : Alike f a b) (second : Alike g a' b') :
    Alike (Prod.map f g) (both a a') (both b b') := by
  cases first with
  | ok same =>
      cases second with
      | ok same' => exact .ok (Prod.ext same same')
      | error q => exact .error q
  | error p =>
      cases second with
      | ok same' => exact .error p
      | error q => exact .error (p.append q)

theorem map {a b : Checked α} (alike : Alike f a b) {k : α → β}
    (step : ∀ x y, f x = f y → g (k x) = g (k y)) : Alike g (a.map k) (b.map k) := by
  cases alike with
  | ok same => exact .ok (step _ _ same)
  | error p => exact .error p

theorem inside {a b : Checked α} (alike : Alike f a b) (place : String) :
    Alike f (a.inside place) (b.inside place) := by
  cases alike with
  | ok same => exact .ok same
  | error p => exact .error (p.inside place)

/-- Lists of checks that are alike one by one. -/
theorem all {checks checks' : List (Checked α)} (alike : List.Forall₂ (Alike f) checks checks') :
    Alike (List.map f) (all checks) (all checks') := by
  induction alike with
  | nil => exact .ok rfl
  | cons first _ ih =>
      refine (first.both ih).map ?_
      rintro ⟨a, rest⟩ ⟨b, rest'⟩ same
      exact List.cons_eq_cons.2 (Prod.mk.inj same)

/-- A check that reads something, put before others, changes none of the problems. -/
theorem insert {checks checks' : List (Checked α)}
    (alike : Alike (fun _ => ()) (Checked.all checks) (Checked.all checks')) (b : α) :
    Alike (fun _ => ()) (Checked.all checks) (Checked.all (.ok b :: checks')) := by
  rw [Checked.all]
  generalize Checked.all checks = found at alike ⊢
  generalize Checked.all checks' = found' at alike ⊢
  cases alike with
  | ok => exact .ok rfl
  | error p => exact .error p

end Alike

end Checked

open Checked

section Collections

variable {α γ : Type} {change : Value → Value → Prop} {check : Value → Checked α} {f : α → γ}

theorem forall₂_itemsFrom (step : ∀ v v', change v v' → Alike f (check v) (check v'))
    {items items' : List Value} (changed : List.Forall₂ change items items') (n : Nat) :
    List.Forall₂ (Alike f) (itemsFrom check n items) (itemsFrom check n items') := by
  induction changed generalizing n with
  | nil => exact .nil
  | cons first _ ih => exact .cons ((step _ _ first).inside _) (ih (n + 1))

/-- Mappings whose values are read alike under the same keys are read as tables that are alike. -/
theorem alike_tableOf (step : ∀ v v', change v v' → Alike f (check v) (check v'))
    {entries entries' : Mapping}
    (changed : List.Forall₂ (fun e e' => e.1 = e'.1 ∧ change e.2 e'.2) entries entries') :
    Alike (Table.mapValues f) (tableOf check (.map entries)) (tableOf check (.map entries')) := by
  let pair (entry : Scalar × Value) : Checked (String × α) :=
    both ((text (.scalar entry.1)).inside "[key]" |>.inside (keyPlace entry.1))
      ((check entry.2).inside (keyPlace entry.1))
  have pairs : List.Forall₂ (Alike (Prod.map id f)) (entries.map pair) (entries'.map pair) := by
    refine List.forall₂_map_left_iff.2 (List.forall₂_map_right_iff.2 (changed.imp ?_))
    rintro ⟨key, v⟩ ⟨key', v'⟩ ⟨same, changed⟩
    obtain rfl : key = key' := same
    exact (Alike.refl id _).both ((step v v' changed).inside (keyPlace key))
  refine (Alike.all pairs).map fun found found' same => ?_
  have mapped (found : List (String × α)) :
      (Table.ofList found).mapValues f = Table.ofList (found.map (Prod.map id f)) :=
    Table.mapValues_ofList f found
  rw [mapped, mapped, same]

end Collections

end Schema

end ActionRehearsal
