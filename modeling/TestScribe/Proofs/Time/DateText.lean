import Mathlib.Data.String.Basic
import TestScribe.Proofs.Json.Numbers
import TestScribe.Proofs.Time.Calendar

/-!
# Dates as they are written and read

A number is written in digits that stand for it (`spells_digits`).  What is read at the front of a
text is a date of the calendar (`Date.valid_of_readFront`), and the text of such a date reads back
(`Date.readFront_text`).
-/

namespace TestScribe.Time

/-! ## Digits -/

/-- Digits of a width that stand for a number. -/
structure Spells (ds : List Char) (width n : Nat) : Prop where
  length : ds.length = width
  digits : ∀ c ∈ ds, Json.isDigit c = true
  value : Json.digitsValue ds = n

/-- A number is written with as many digits as it is given room for. -/
theorem spells_digits {width n : Nat} (hwidth : 0 < width) (h : n < 10 ^ width) :
    Spells (digits width n).toList width n := by
  have hlist : (digits width n).toList =
      List.replicate (width - (Nat.toDigits 10 n).length) '0' ++ Nat.toDigits 10 n := by
    simp [digits, Decimal.padZeros, toString, ← String.length_toList, Nat.toList_repr]
  have hlength := (Nat.length_toDigits_le_iff (by decide) hwidth).2 h
  refine ⟨?_, ?_, ?_⟩
  · rw [hlist, List.length_append, List.length_replicate]
    omega
  · intro c hc
    rw [hlist, List.mem_append] at hc
    rcases hc with hzero | hdigit
    · rw [List.eq_of_mem_replicate hzero]
      rfl
    · exact Nat.isDigit_of_mem_toDigits (by decide) (by decide) hdigit
  · rw [hlist, Json.digitsValue_zeros, Json.digitsValue_eq_ofDigits, Json.ofDigits_toDigits]

namespace Spells

variable {ds : List Char} {n : Nat}

theorem exists_two (h : Spells ds 2 n) : ∃ a b, ds = [a, b] :=
  List.length_eq_two.1 h.length

theorem exists_four (h : Spells ds 4 n) : ∃ a b c e, ds = [a, b, c, e] := by
  match ds, h.length with
  | [a, b, c, e], _ => exact ⟨a, b, c, e, rfl⟩

theorem numberOf? {width : Nat} (h : Spells ds width n) (fault : Date.Fault) :
    Date.numberOf? fault ds = .ok n := by
  rw [Date.numberOf?, if_pos (List.all_eq_true.2 h.digits), h.value]

end Spells

/-! ## Dates -/

namespace Date

theorem length_le_utf8ByteSize (cs : List Char) :
    cs.length ≤ (String.ofList cs).utf8ByteSize := by
  rw [String.utf8ByteSize_ofList]
  induction cs with
  | nil => exact Nat.zero_le _
  | cons c cs ih =>
    have := c.utf8Size_pos
    rw [List.length_cons, String.utf8Len_cons]
    omega

theorem Valid.month {d : Date} (h : d.Valid) : d.month ≤ 12 := by
  by_contra hmonth
  have hnone : daysInMonth d.year d.month = 0 := by
    unfold daysInMonth
    split <;> omega
  have := h.day_pos
  have := h.day_le
  omega

theorem Valid.day_le_31 {d : Date} (h : d.Valid) : d.day ≤ 31 := by
  refine h.day_le.trans ?_
  unfold daysInMonth
  repeat' split
  all_goals decide

/-- A date reads back, whatever stands behind it. -/
theorem readFront_text {d : Date} (h : d.Valid) (rest : List Char) :
    readFront (d.text.toList ++ rest) = .ok (d, rest) := by
  have hyear := spells_digits (n := d.year) (by decide : 0 < 4) (Nat.lt_succ_of_le h.year)
  have hmonth := spells_digits (n := d.month) (by decide : 0 < 2)
    (h.month.trans_lt (by decide))
  have hday := spells_digits (n := d.day) (by decide : 0 < 2) (h.day_le_31.trans_lt (by decide))
  have htext : d.text.toList = (digits 4 d.year).toList ++ '-' :: ((digits 2 d.month).toList ++
      '-' :: (digits 2 d.day).toList) := by
    simp [text]
  rw [htext]
  obtain ⟨y₁, y₂, y₃, y₄, hy⟩ := hyear.exists_four
  obtain ⟨m₁, m₂, hm⟩ := hmonth.exists_two
  obtain ⟨d₁, d₂, hd⟩ := hday.exists_two
  rw [hy] at hyear
  rw [hm] at hmonth
  rw [hd] at hday
  rw [hy, hm, hd]
  have hsize := length_le_utf8ByteSize
    ([y₁, y₂, y₃, y₄] ++ '-' :: ([m₁, m₂] ++ '-' :: [d₁, d₂]) ++ rest)
  have hlong : ¬(String.ofList
      ([y₁, y₂, y₃, y₄] ++ '-' :: ([m₁, m₂] ++ '-' :: [d₁, d₂]) ++ rest)).utf8ByteSize < 10 := by
    refine Nat.not_lt.2 (le_trans ?_ hsize)
    simp
  have hcalendar : ¬daysInMonth d.year d.month = 0 := fun hnone => by
    have := h.day_pos
    have := h.day_le
    omega
  have hday₀ : d.day ≠ 0 := Nat.pos_iff_ne_zero.1 h.day_pos
  have hlast : ¬daysInMonth d.year d.month < d.day := Nat.not_lt.2 h.day_le
  unfold readFront
  rw [if_neg hlong]
  simp [mark, hyear.numberOf?, hmonth.numberOf?, hday.numberOf?, hcalendar, hday₀, hlast, bind,
    Except.bind, pure, Except.pure]

theorem numberOf?_eq_ok {fault : Fault} {cs : List Char} {n : Nat}
    (h : Date.numberOf? fault cs = .ok n) : n < 10 ^ cs.length := by
  unfold Date.numberOf? at h
  split at h
  case isTrue hdigits =>
    obtain rfl := Except.ok.inj h
    exact Json.digitsValue_lt cs (List.all_eq_true.1 hdigits)
  case isFalse => cases h

/-- What is read off the front of a text is a date of the calendar. -/
theorem valid_of_readFront {s rest : List Char} {d : Date} (h : readFront s = .ok (d, rest)) :
    d.Valid := by
  unfold readFront at h
  split at h
  · cases h
  obtain ⟨year, hyear, h⟩ := Json.bind_eq_ok h
  obtain ⟨_, -, h⟩ := Json.bind_eq_ok h
  obtain ⟨month, -, h⟩ := Json.bind_eq_ok h
  obtain ⟨_, -, h⟩ := Json.bind_eq_ok h
  obtain ⟨day, -, h⟩ := Json.bind_eq_ok h
  dsimp only at h
  split at h
  · cases h
  split at h
  · cases h
  case isFalse hday =>
    obtain rfl := (Prod.mk.inj (Except.ok.inj h)).1
    simp only [Bool.or_eq_true, decide_eq_true_eq, not_or, not_lt] at hday
    have hshort : (s.take 4).length ≤ 4 := List.length_take_le 4 s
    have hbound : year < 10 ^ 4 :=
      (numberOf?_eq_ok hyear).trans_le (Nat.pow_le_pow_right (by decide) hshort)
    exact ⟨Nat.le_of_lt_succ hbound, hday.1, hday.2⟩

end Date

end TestScribe.Time
