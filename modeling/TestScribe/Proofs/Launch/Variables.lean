import TestScribe.Proofs.Json.Members
import TestScribe.Proofs.Wire.RoundTrip
import TestScribe.Settings

/-!
# The variables that hold settings

A setting is held by the variable that stands beside it in the table, and a blank variable holds
none (`get?_given`).  So the settings of an environment are those of the environment without its
blank variables and without all that are not in the table (`ofVariables_told`).
-/

namespace TestScribe.Settings

open Wire Checked

/-! ## Environments -/

namespace Environment

/-- The value of a variable that is set and not blank. -/
def filled? (env : Environment) (name : String) : Option String :=
  (env.get? name).filter fun value => Text.trimmed value != ""

/-- A variable that holds a setting. -/
def IsKnown (name : String) : Prop :=
  name ∈ variableTable.map (·.1)

instance (name : String) : Decidable (IsKnown name) :=
  inferInstanceAs (Decidable (_ ∈ _))

/-- The environment without its blank variables and without those that hold no setting. -/
def told (env : Environment) : Environment :=
  env.filter fun v => decide (IsKnown v.1) && (env.filled? v.1).isSome

theorem get?_cons (v : String × String) (env : Environment) (name : String) :
    get? (v :: env) name = if v.1 = name then some v.2 else get? env name := by
  unfold get?
  rw [List.find?_cons]
  by_cases h : v.1 = name
  · rw [if_pos h, beq_iff_eq.2 h, Option.map_some]
  · rw [if_neg h, beq_eq_false_iff_ne.2 h]

theorem get?_filter (env : Environment) (p : String → Bool) (name : String) :
    get? (env.filter fun v => p v.1) name = if p name then env.get? name else none := by
  induction env with
  | nil => cases p name <;> rfl
  | cons v env ih =>
    rw [List.filter_cons, get?_cons]
    by_cases hv : v.1 = name
    · rw [if_pos hv, hv]
      cases hp : p name with
      | true => rw [if_pos rfl, if_pos rfl, get?_cons, if_pos hv]
      | false => simpa [hp] using ih
    · rw [if_neg hv, ← ih]
      cases p v.1 with
      | true => rw [if_pos rfl, get?_cons, if_neg hv]
      | false => rfl

theorem get?_told {env : Environment} {name : String} (h : IsKnown name) :
    env.told.get? name = env.filled? name := by
  rw [told, get?_filter env fun v => decide (IsKnown v) && (env.filled? v).isSome]
  cases hfilled : env.filled? name with
  | none => rw [if_neg (by simp)]
  | some value => rw [if_pos (by simp [h]), (Option.filter_eq_some_iff.1 hfilled).1]

theorem filled?_told {env : Environment} {name : String} (h : IsKnown name) :
    env.told.filled? name = env.filled? name := by
  rw [filled?, get?_told h, filled?, Option.filter_filter]
  simp only [Bool.and_self]

end Environment

open Environment

/-! ## Settings -/

/-- What a variable holds. -/
def held? (env : Environment) (name : String) : Option Json :=
  (env.filled? name).map fun value => .str (Text.trimmed value)

theorem given_eq (env : Environment) :
    given env = variableTable.filterMap fun entry =>
      (held? env entry.1).map fun v => (entry.2, v) := by
  unfold given
  refine List.filterMap_congr fun entry _ => ?_
  unfold held? filled?
  dsimp only
  cases env.get? entry.1 with
  | none => rfl
  | some value => by_cases hblank : Text.trimmed value = "" <;> simp [Option.filter_some, hblank]

/-- By induction on the table, in which no setting comes twice. -/
theorem get?_filterMap {table : List (String × String)} (hnodup : (table.map (·.2)).Nodup)
    (f : String → Option Json) {entry : String × String} (h : entry ∈ table) :
    Members.get? (table.filterMap fun e => (f e.1).map fun v => (e.2, v)) entry.2 = f entry.1 := by
  induction table with
  | nil => cases h
  | cons e table ih =>
    obtain ⟨hnot, hnodup⟩ := List.nodup_cons.1 hnodup
    have hrest : e.2 ∉ (table.filterMap fun e => (f e.1).map fun v => (e.2, v)).map (·.1) := by
      intro hmem
      simp only [List.mem_map, List.mem_filterMap, Option.map_eq_some_iff] at hmem
      obtain ⟨m, ⟨e', he', v, -, rfl⟩, heq⟩ := hmem
      exact hnot (List.mem_map.2 ⟨e', he', heq⟩)
    rw [List.filterMap_cons]
    rcases List.mem_cons.1 h with rfl | hmem
    · cases hf : f entry.1 with
      | none => exact Members.get?_eq_none_of_not_mem hrest
      | some v => exact if_pos rfl
    · have hne : e.2 ≠ entry.2 := fun heq => hnot (List.mem_map.2 ⟨entry, hmem, heq.symm⟩)
      cases f e.1 with
      | none => exact ih hnodup hmem
      | some v => exact (if_neg hne).trans (ih hnodup hmem)

/-- A setting is held by the variable beside it in the table. -/
theorem get?_given (env : Environment) {name setting : String}
    (h : (name, setting) ∈ variableTable) : (given env).get? setting = held? env name := by
  rw [given_eq]
  exact get?_filterMap (by decide) (held? env) h

theorem ofVariables_told (env : Environment) : ofVariables env.told = ofVariables env := by
  have hgiven : given env.told = given env := by
    rw [given_eq, given_eq]
    refine List.filterMap_congr fun entry hentry => ?_
    have hknown : IsKnown entry.1 := List.mem_map_of_mem hentry
    rw [held?, filled?_told hknown, held?]
  rw [ofVariables, hgiven, ofVariables]

/-- A service is called what the variable for its name says, if that says anything. -/
theorem serviceName_of_ofVariables {env : Environment} {s : Settings}
    (h : ofVariables env = .ok s) :
    s.serviceName = ((env.filled? nameVariable).map Text.trimmed).getD "rtlgen" := by
  have hheld : (given env).get? "service_name" = held? env nameVariable :=
    get?_given env (by decide)
  rw [ofVariables, read, record] at h
  -- all fields but the first one
  repeat
    rw [seq_eq_ok_iff] at h
    obtain ⟨_, h, _, -, rfl⟩ := h
  obtain ⟨name, hname, rfl⟩ := functorMap_eq_ok_iff.1 h
  rw [setting, fieldOr, Key.find?, Key.single] at hname
  dsimp only at hname ⊢
  rw [hheld, held?] at hname
  cases hfilled : env.filled? nameVariable with
  | none =>
    rw [hfilled] at hname
    exact (Checked.ok.inj hname).symm
  | some value =>
    rw [hfilled] at hname
    exact (Checked.ok.inj hname).symm

end TestScribe.Settings
