import Mathlib.Data.List.Nodup
import TestScribe.Failure.Basic
import TestScribe.Generation.Options
import TestScribe.Proofs.Json.Members
import TestScribe.Proofs.Wire.RoundTrip

/-!
# Records without their nulls

What is null may be left out of a record: a field that may be null reads the same when it is missing
(`field?_withoutNulls`), and all other fields are there as before (`field_withoutNulls`).
-/

namespace TestScribe.Wire

open Generation.Options (isNull)

/-- The members of an object that are not null. -/
def withoutNulls (ms : Members) : Members :=
  ms.filter fun m => !isNull m.2

theorem withoutNulls_cons (name : String) (v : Json) (ms : Members) :
    withoutNulls ((name, v) :: ms) =
      if isNull v then withoutNulls ms else (name, v) :: withoutNulls ms := by
  cases v <;> rfl

theorem withoutNulls_append (ms ms' : Members) :
    withoutNulls (ms ++ ms') = withoutNulls ms ++ withoutNulls ms' :=
  List.filter_append ms ms'

theorem withoutNulls_singleton (name : String) (v : Json) :
    withoutNulls [(name, v)] = Failure.unlessNull name v := by
  cases v <;> rfl

theorem eq_null_of_isNull {v : Json} (h : isNull v = true) : v = .null := by
  cases v with
  | null => rfl
  | _ => cases h

/-- Where each name stands once, nothing but nulls gets lost.  If a name stood twice, a null would
give way to the value behind it. -/
theorem get?_withoutNulls {ms : Members} (hnodup : (ms.map (·.1)).Nodup) (key : String) :
    (withoutNulls ms).get? key = (ms.get? key).filter fun v => !isNull v := by
  induction ms with
  | nil => rfl
  | cons m ms ih =>
    obtain ⟨name, v⟩ := m
    obtain ⟨hnot, hnodup⟩ := List.nodup_cons.1 hnodup
    have hrest := ih hnodup
    rw [withoutNulls_cons, Members.get?]
    by_cases hname : name = key
    · subst hname
      rw [Members.get?_eq_none_of_not_mem hnot] at hrest
      cases hv : isNull v with
      | true => simpa [Option.filter_some, hv] using hrest
      | false => simp [Option.filter_some, hv, Members.get?]
    · rw [if_neg hname]
      cases hv : isNull v with
      | true => simpa [hv] using hrest
      | false => simpa [hv, Members.get?, hname] using hrest

/-! ## Fields -/

section Fields

variable {α : Type} (reader : Reader α) {k : Key} {ms : Members} {v : Json}

theorem find?_withoutNulls (hnodup : (ms.map (·.1)).Nodup) (hwire : ms.get? k.wire = some v)
    (hplain : k.plain = k.wire ∨ k.plain ∉ ms.map (·.1)) :
    k.find? (withoutNulls ms) = if isNull v then none else some (k.wire, v) := by
  have hshort := get?_withoutNulls hnodup k.wire
  rw [hwire, Option.filter_some] at hshort
  unfold Key.find?
  cases hv : isNull v with
  | false =>
    rw [hshort, hv]
    rfl
  | true =>
    have hmissing : (withoutNulls ms).get? k.wire = none := by
      rw [hshort, hv]
      rfl
    have hmissing' : (withoutNulls ms).get? k.plain = none := by
      rcases hplain with heq | hnot
      · rw [heq, hmissing]
      · rw [get?_withoutNulls hnodup, Members.get?_eq_none_of_not_mem hnot]
        rfl
    rw [hmissing, hmissing']
    rfl

theorem find?_of_get? (hwire : ms.get? k.wire = some v) : k.find? ms = some (k.wire, v) := by
  rw [Key.find?, hwire]

theorem field_withoutNulls (hnodup : (ms.map (·.1)).Nodup) (hwire : ms.get? k.wire = some v)
    (hplain : k.plain = k.wire ∨ k.plain ∉ ms.map (·.1)) (hv : isNull v = false) :
    field k reader (withoutNulls ms) = field k reader ms := by
  rw [field, field, find?_withoutNulls hnodup hwire hplain, find?_of_get? hwire, hv]
  rfl

theorem field?_withoutNulls (hnodup : (ms.map (·.1)).Nodup) (hwire : ms.get? k.wire = some v)
    (hplain : k.plain = k.wire ∨ k.plain ∉ ms.map (·.1)) :
    field? k reader (withoutNulls ms) = field? k reader ms := by
  rw [field?, field?, fieldOr, fieldOr, find?_withoutNulls hnodup hwire hplain,
    find?_of_get? hwire]
  cases hv : isNull v with
  | false => rfl
  | true =>
    rw [eq_null_of_isNull hv]
    rfl

end Fields

end TestScribe.Wire
