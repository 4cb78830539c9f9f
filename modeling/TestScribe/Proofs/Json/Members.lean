import Mathlib.Data.List.Nodup
import TestScribe.Json.Basic

/-!
# Members of objects

A value that is written under a name is found there and nowhere else (`get?_set`), and of two
objects of which one is written over the other the second one is asked first (`get?_merge`).
Members whose names all differ are the members of an object as they stand (`ofList_of_nodup`).  What
is written over an object leaves its names in their places, and new names follow in their order
(`names_merge`); to write two objects over it one after another is to write over it the second one
written over the first (`merge_merge`).
-/

namespace TestScribe.Members

/-! ## Looking up -/

theorem get?_eq_none_of_not_mem {ms : Members} {key : String} (h : key ∉ ms.map (·.1)) :
    ms.get? key = none := by
  induction ms with
  | nil => rfl
  | cons m ms ih =>
    simp only [List.map_cons, List.mem_cons, not_or] at h
    rw [get?, if_neg (Ne.symm h.1), ih h.2]

theorem get?_set (ms : Members) (key : String) (v : Json) (name : String) :
    (ms.set key v).get? name = if key = name then some v else ms.get? name := by
  induction ms with
  | nil => rfl
  | cons m ms ih =>
    obtain ⟨k, w⟩ := m
    by_cases hk : k = key
    · subst hk
      by_cases hname : k = name <;> simp [set, get?, hname]
    · by_cases hname : k = name
      · subst hname
        simp [set, get?, hk, Ne.symm hk]
      · simp [set, get?, hk, hname, ih]

/-- By induction on what is written, whose names differ: the first of it is not written again. -/
theorem get?_merge {extra : Members} (h : (extra.map (·.1)).Nodup) (ms : Members) (name : String) :
    (ms.merge extra).get? name = (extra.get? name).or (ms.get? name) := by
  induction extra generalizing ms with
  | nil => rfl
  | cons m extra ih =>
    obtain ⟨k, v⟩ := m
    obtain ⟨hk, hextra⟩ := List.nodup_cons.1 h
    have hstep : ms.merge ((k, v) :: extra) = (ms.set k v).merge extra := rfl
    rw [hstep, ih hextra, get?_set, get?]
    by_cases hname : k = name
    · subst hname
      simp [get?_eq_none_of_not_mem hk]
    · simp [hname]

/-! ## Names that all differ -/

theorem set_of_not_mem {ms : Members} {key : String} (h : key ∉ ms.map (·.1)) (v : Json) :
    ms.set key v = ms ++ [(key, v)] := by
  induction ms with
  | nil => rfl
  | cons m ms ih =>
    simp only [List.map_cons, List.mem_cons, not_or] at h
    rw [set, if_neg (Ne.symm h.1), ih h.2]
    rfl

theorem merge_of_nodup {ms extra : Members} (h : ((ms ++ extra).map (·.1)).Nodup) :
    ms.merge extra = ms ++ extra := by
  induction extra generalizing ms with
  | nil => exact (List.append_nil ms).symm
  | cons m extra ih =>
    have hm : m.1 ∉ ms.map (·.1) := by
      intro hmem
      rw [List.map_append, List.nodup_append] at h
      exact h.2.2 m.1 hmem m.1 (by simp) rfl
    have hstep : ms.merge (m :: extra) = (ms.set m.1 m.2).merge extra := rfl
    rw [hstep, set_of_not_mem hm, ih (by simpa using h)]
    simp

/-- Where each name stands once, nothing is written over. -/
theorem ofList_of_nodup {pairs : Members} (h : (pairs.map (·.1)).Nodup) : ofList pairs = pairs := by
  have hmerge : merge [] pairs = [] ++ pairs := merge_of_nodup h
  exact hmerge

/-! ## The order of names -/

theorem names_set (ms : Members) (key : String) (v : Json) :
    (ms.set key v).map (·.1) =
      if key ∈ ms.map (·.1) then ms.map (·.1) else ms.map (·.1) ++ [key] := by
  induction ms with
  | nil => rfl
  | cons m ms ih =>
    obtain ⟨k, w⟩ := m
    by_cases hk : k = key
    · simp [set, hk]
    · rw [set, if_neg hk, List.map_cons, ih, List.map_cons]
      by_cases hmem : key ∈ ms.map (·.1)
      · rw [if_pos hmem, if_pos (List.mem_cons_of_mem k hmem)]
      · rw [if_neg hmem, if_neg (List.not_mem_cons_of_ne_of_not_mem (Ne.symm hk) hmem),
          List.cons_append]

theorem nodup_set {ms : Members} (h : (ms.map (·.1)).Nodup) (key : String) (v : Json) :
    ((ms.set key v).map (·.1)).Nodup := by
  rw [names_set]
  split_ifs with hmem
  · exact h
  · exact List.nodup_append.2 ⟨h, List.nodup_singleton key,
      fun a ha b hb => by rw [List.mem_singleton.1 hb]; exact ne_of_mem_of_not_mem ha hmem⟩

theorem nodup_merge {ms : Members} (h : (ms.map (·.1)).Nodup) (extra : Members) :
    ((ms.merge extra).map (·.1)).Nodup := by
  induction extra generalizing ms with
  | nil => exact h
  | cons m extra ih => exact ih (nodup_set h m.1 m.2)

/-- An object that is read holds each name once. -/
theorem nodup_ofList (pairs : List (String × Json)) : ((ofList pairs).map (·.1)).Nodup := by
  have hnil : (([] : Members).map (·.1)).Nodup := List.nodup_nil
  exact nodup_merge hnil pairs

/-- Names that are there keep their places, and the others follow in their order. -/
theorem names_merge {extra : Members} (h : (extra.map (·.1)).Nodup) (ms : Members) :
    (ms.merge extra).map (·.1) =
      ms.map (·.1) ++ (extra.map (·.1)).filter fun key => key ∉ ms.map (·.1) := by
  induction extra generalizing ms with
  | nil => exact (List.append_nil _).symm
  | cons m extra ih =>
    obtain ⟨hm, hextra⟩ := List.nodup_cons.1 h
    have hstep : ms.merge (m :: extra) = (ms.set m.1 m.2).merge extra := rfl
    rw [hstep, ih hextra, names_set, List.map_cons]
    by_cases hmem : m.1 ∈ ms.map (·.1)
    · rw [if_pos hmem, List.filter_cons_of_neg (by simpa using hmem)]
    · rw [if_neg hmem, List.filter_cons_of_pos (by simpa using hmem), List.append_assoc]
      refine congrArg (fun keys => ms.map (·.1) ++ m.1 :: keys)
        (List.filter_congr fun key hkey => ?_)
      have hne : key ≠ m.1 := ne_of_mem_of_not_mem hkey hm
      simp [hne]

/-! ## Writing twice -/

theorem set_set (ms : Members) (key : String) (v w : Json) :
    (ms.set key v).set key w = ms.set key w := by
  induction ms with
  | nil => simp [set]
  | cons m ms ih => by_cases hm : m.1 = key <;> simp [set, hm, ih]

/-- A name that is there already has its place, whatever is written before it. -/
theorem set_comm {ms : Members} {key name : String} (h : key ∈ ms.map (·.1)) (hne : name ≠ key)
    (v w : Json) : (ms.set name w).set key v = (ms.set key v).set name w := by
  induction ms with
  | nil => cases h
  | cons m ms ih =>
    obtain ⟨k, x⟩ := m
    by_cases hk : k = key
    · subst hk
      simp [set, Ne.symm hne]
    · have hmem : key ∈ ms.map (·.1) := by simpa [Ne.symm hk] using h
      by_cases hname : k = name
      · simp [set, hname, hne]
      · simp [set, hk, hname, ih hmem]

theorem merge_set_comm {ms extra : Members} {key : String} (h : key ∈ ms.map (·.1))
    (hextra : key ∉ extra.map (·.1)) (v : Json) :
    (ms.merge extra).set key v = (ms.set key v).merge extra := by
  induction extra generalizing ms with
  | nil => rfl
  | cons m extra ih =>
    rw [List.map_cons, List.mem_cons, not_or] at hextra
    have hthere : key ∈ (ms.set m.1 m.2).map (·.1) := by
      rw [names_set]
      split_ifs
      · exact h
      · exact List.mem_append_left _ h
    have hstep : ms.merge (m :: extra) = (ms.set m.1 m.2).merge extra := rfl
    rw [hstep, ih hthere hextra.2, set_comm h (Ne.symm hextra.1)]
    rfl

/-- By induction on what is written first, whose names differ. -/
theorem set_merge {extra : Members} (h : (extra.map (·.1)).Nodup) (ms : Members) (key : String)
    (v : Json) : (ms.merge extra).set key v = ms.merge (extra.set key v) := by
  induction extra generalizing ms with
  | nil => rfl
  | cons m extra ih =>
    obtain ⟨k, w⟩ := m
    obtain ⟨hk, hextra⟩ := List.nodup_cons.1 h
    have hstep : ms.merge ((k, w) :: extra) = (ms.set k w).merge extra := rfl
    by_cases hkey : k = key
    · subst hkey
      have hthere : k ∈ (ms.set k w).map (·.1) := by
        rw [names_set]
        split_ifs with hmem
        · exact hmem
        · simp
      rw [hstep, merge_set_comm hthere hk, set_set, set, if_pos rfl]
      rfl
    · rw [hstep, ih hextra, set, if_neg hkey]
      rfl

/-- Two objects that are written over a third one after another may as well be put together
before. -/
theorem merge_merge {extra : Members} (h : (extra.map (·.1)).Nodup) (ms others : Members) :
    (ms.merge extra).merge others = ms.merge (extra.merge others) := by
  induction others generalizing extra with
  | nil => rfl
  | cons m others ih =>
    have hstep : (ms.merge extra).merge (m :: others) =
        ((ms.merge extra).set m.1 m.2).merge others := rfl
    rw [hstep, set_merge h, ih (nodup_set h m.1 m.2)]
    rfl

end TestScribe.Members
