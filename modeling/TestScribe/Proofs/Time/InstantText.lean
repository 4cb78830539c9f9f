import TestScribe.Proofs.Time.DateText
import TestScribe.Time.Instant

/-!
# Instants as they are written and read

An instant that was read, from a text or from a count, is one of the calendar and of the clock
(`valid_of_read`).  The text that such an instant is written as reads back as the instant
(`read_toJson`).
-/

namespace TestScribe.Time

namespace Instant

/-- An instant of the calendar and of the clock, whose place is less than a day off. -/
structure Valid (t : Instant) : Prop where
  date : t.date.Valid
  hour : t.hour < 24
  minute : t.minute < 60
  second : t.second < 60
  micro : t.micro < 1000000
  offset : ∀ m, t.offset = some m → m.natAbs < 1440

/-! ## Reading what was written -/

theorem twoDigits?_append {ds : List Char} {n : Nat} (h : Spells ds 2 n) (rest : List Char) :
    twoDigits? (ds ++ rest) = some (n, rest) := by
  obtain ⟨a, b, rfl⟩ := h.exists_two
  have ha := h.digits a (by simp)
  have hb := h.digits b (by simp)
  simp [twoDigits?, ha, hb, h.value]

/-- An offset begins with a mark that belongs to no number. -/
theorem head_offsetText (o : Option Int) (c : Char) (h : (offsetText "Z" o).toList.head? = some c) :
    c = 'Z' ∨ c = '-' ∨ c = '+' := by
  cases o with
  | none => cases h
  | some m =>
    unfold offsetText at h
    dsimp only at h
    split at h
    · exact .inl (Option.some.inj h).symm
    · unfold signedOffset at h
      split at h
      · simp at h; exact .inr (.inl h.symm)
      · simp at h; exact .inr (.inr h.symm)

theorem readOffset?_signed {c : Char} {sign : Int} {hs ms : List Char} {hours minutes : Nat}
    (hc : offsetSign? c = some sign) (hhs : Spells hs 2 hours) (hms : Spells ms 2 minutes)
    (hhours : hours < 24) (hminutes : minutes < 60) :
    readOffset? (c :: (hs ++ ':' :: ms)) = some (some (sign * (hours * 60 + minutes : Nat))) := by
  obtain ⟨a, b, rfl⟩ := hhs.exists_two
  have hfront : twoDigits? (a :: b :: ':' :: ms) = some (hours, ':' :: ms) :=
    twoDigits?_append hhs (':' :: ms)
  have hback : twoDigits? ms = some (minutes, []) := by
    have := twoDigits?_append hms []
    rwa [List.append_nil] at this
  show readOffset? (c :: a :: b :: ':' :: ms) = _
  unfold readOffset?
  simp [hc, hfront, hback, hhours, hminutes]

theorem toList_signedOffset (m : Int) :
    (signedOffset m).toList = (if m < 0 then '-' else '+') ::
      ((digits 2 (m.natAbs / 60)).toList ++ ':' :: (digits 2 (m.natAbs % 60)).toList) := by
  unfold signedOffset
  split <;> simp

theorem offsetSign?_mark (m : Int) :
    offsetSign? (if m < 0 then '-' else '+') = some (if m < 0 then -1 else 1) := by
  unfold offsetSign?
  split <;> simp

theorem readOffset?_text {o : Option Int} (h : ∀ m, o = some m → m.natAbs < 1440) :
    readOffset? (offsetText "Z" o).toList = some o := by
  cases o with
  | none => rfl
  | some m =>
    have hm := h m rfl
    by_cases hzero : m = 0
    · subst hzero
      rfl
    have hhours := spells_digits (n := m.natAbs / 60) (by decide : 0 < 2) (by omega)
    have hminutes := spells_digits (n := m.natAbs % 60) (by decide : 0 < 2) (by omega)
    have hsum : m.natAbs / 60 * 60 + m.natAbs % 60 = m.natAbs := by omega
    have hsign : (if m < 0 then -1 else 1) * (m.natAbs : Int) = m := by
      split <;> omega
    have htext : offsetText "Z" (some m) = signedOffset m := if_neg (by simpa using hzero)
    rw [htext, toList_signedOffset, readOffset?_signed (offsetSign?_mark m) hhours hminutes
      (by omega) (by omega), hsum, hsign]

theorem microOf_eq {ds : List Char} {micro : Nat} (h : Spells ds 6 micro) : microOf ds = micro := by
  unfold microOf
  simpa [List.take_of_length_le h.length.le, h.length] using h.value

/-- What stands behind the seconds begins with no digit, and with no mark of a fraction. -/
theorem readSeconds?_text {second micro : Nat} (hsecond : second < 60) (hmicro : micro < 1000000)
    (after : List Char)
    (hafter : ∀ c, after.head? = some c → Json.isDigit c = false ∧ c ≠ '.' ∧ c ≠ ',') :
    readSeconds? (':' :: ((digits 2 second).toList ++ ((fractionText micro).toList ++ after))) =
      some (second, micro, after) := by
  have hread := twoDigits?_append (spells_digits (n := second) (by decide : 0 < 2) (by omega))
    ((fractionText micro).toList ++ after)
  unfold readSeconds?
  have hsecond' : ¬59 < second := Nat.not_lt.2 (Nat.le_of_lt_succ hsecond)
  simp only [hread, Option.bind_eq_bind, Option.bind_some, if_neg hsecond']
  by_cases hzero : micro = 0
  · subst hzero
    cases after with
    | nil => rfl
    | cons c r =>
      obtain ⟨-, hpoint, hcomma⟩ := hafter c rfl
      simp [fractionText, hpoint, hcomma]
  · have hdigits := spells_digits (n := micro) (by decide : 0 < 6) hmicro
    have htake : ((digits 6 micro).toList ++ after).takeWhile Json.isDigit =
        (digits 6 micro).toList := by
      rw [List.takeWhile_append_of_pos hdigits.digits]
      cases after with
      | nil => simp
      | cons c r => simp [(hafter c rfl).1]
    have hsome : (digits 6 micro).toList ≠ [] := fun hnil => by
      have := hdigits.length
      rw [hnil] at this
      cases this
    simp [fractionText, hzero, htake, hsome, microOf_eq hdigits]

/-- An instant reads back from its text. -/
theorem readText?_text {t : Instant} (h : t.Valid) : readText? t.text.toList = some t := by
  have hhour := spells_digits (n := t.hour) (by decide : 0 < 2) (h.hour.trans (by decide))
  have hminute := spells_digits (n := t.minute) (by decide : 0 < 2) (h.minute.trans (by decide))
  have htext : t.text.toList = t.date.text.toList ++ 'T' :: ((digits 2 t.hour).toList ++
      ':' :: ((digits 2 t.minute).toList ++ ':' :: ((digits 2 t.second).toList ++
        ((fractionText t.micro).toList ++ (offsetText "Z" t.offset).toList)))) := by
    simp [text, textWith]
  have hrest := readSeconds?_text h.second h.micro (offsetText "Z" t.offset).toList
    fun c hc => by
      rcases head_offsetText t.offset c hc with rfl | rfl | rfl <;> decide
  have hhour' : ¬23 < t.hour := Nat.not_lt.2 (Nat.le_of_lt_succ h.hour)
  have hminute' : ¬59 < t.minute := Nat.not_lt.2 (Nat.le_of_lt_succ h.minute)
  rw [htext]
  unfold readText?
  simp only [Date.readFront_text h.date, Except.toOption, Option.bind_eq_bind, Option.bind_some,
    twoDigits?_append hhour, twoDigits?_append hminute, hrest, readOffset?_text h.offset]
  simp [hhour', hminute', isTimeMark]

/-! ## What is read is valid -/

theorem microOf_lt {ds : List Char} (h : ∀ c ∈ ds, Json.isDigit c = true) :
    microOf ds < 1000000 := by
  have hlength : (ds.take 6 ++ List.replicate (6 - (ds.take 6).length) '0').length = 6 := by
    rw [List.length_append, List.length_replicate, List.length_take]
    omega
  have hdigits : ∀ c ∈ ds.take 6 ++ List.replicate (6 - (ds.take 6).length) '0',
      Json.isDigit c = true := fun c hc => by
    rcases List.mem_append.1 hc with hshown | hzero
    · exact h c (List.mem_of_mem_take hshown)
    · rw [List.eq_of_mem_replicate hzero]
      rfl
  have := Json.digitsValue_lt _ hdigits
  rwa [hlength] at this

theorem bounds_of_readSeconds? {s rest : List Char} {second micro : Nat}
    (h : readSeconds? s = some (second, micro, rest)) : second < 60 ∧ micro < 1000000 := by
  unfold readSeconds? at h
  split at h
  · obtain ⟨⟨n, behind⟩, -, h⟩ := Option.bind_eq_some_iff.1 h
    dsimp only at h
    split at h
    · cases h
    case isFalse hn =>
      have hn : n < 60 := Nat.lt_succ_of_le (Nat.not_lt.1 hn)
      split at h
      · split at h
        · split at h
          · cases h
          · cases h
            exact ⟨hn, microOf_lt (List.all_eq_true.1 List.all_takeWhile)⟩
        · cases h
          exact ⟨hn, by decide⟩
      · cases h
        exact ⟨hn, by decide⟩
  · simp only [Option.some.injEq, Prod.mk.injEq] at h
    omega

theorem offsetSign?_cases {c : Char} {sign : Int} (h : offsetSign? c = some sign) :
    sign = 1 ∨ sign = -1 := by
  unfold offsetSign? at h
  split at h
  · exact .inl (Option.some.inj h).symm
  · split at h
    · exact .inr (Option.some.inj h).symm
    · cases h

theorem bound_of_readOffset? {s : List Char} {o : Option Int} (h : readOffset? s = some o) :
    ∀ m, o = some m → m.natAbs < 1440 := by
  rintro m rfl
  unfold readOffset? at h
  split at h
  · cases h
  · split at h
    · cases h
      decide
    · cases h
  · obtain ⟨sign, hsign, h⟩ := Option.bind_eq_some_iff.1 h
    obtain ⟨⟨hours, rest⟩, -, h⟩ := Option.bind_eq_some_iff.1 h
    obtain ⟨⟨minutes, after⟩, -, h⟩ := Option.bind_eq_some_iff.1 h
    dsimp only at h
    split at h
    case isTrue hbounds =>
      simp only [Bool.and_eq_true, decide_eq_true_eq] at hbounds
      obtain rfl := Option.some.inj (Option.some.inj h)
      rcases offsetSign?_cases hsign with rfl | rfl <;> omega
    case isFalse => cases h

theorem valid_of_readText? {s : List Char} {t : Instant} (h : readText? s = some t) : t.Valid := by
  unfold readText? at h
  obtain ⟨⟨date, rest⟩, hdate, h⟩ := Option.bind_eq_some_iff.1 h
  have hvalid : date.Valid := by
    cases hfront : Date.readFront s with
    | error e =>
      rw [hfront] at hdate
      cases hdate
    | ok d =>
      rw [hfront] at hdate
      cases hdate
      exact Date.valid_of_readFront hfront
  dsimp only at h
  split at h
  · split at h
    · obtain ⟨⟨hour, r⟩, -, h⟩ := Option.bind_eq_some_iff.1 h
      dsimp only at h
      split at h
      · obtain ⟨⟨minute, r⟩, -, h⟩ := Option.bind_eq_some_iff.1 h
        dsimp only at h
        split at h
        · cases h
        case isFalse hclock =>
          obtain ⟨⟨second, micro, r⟩, hsecond, h⟩ := Option.bind_eq_some_iff.1 h
          obtain ⟨offset, hoffset, h⟩ := Option.bind_eq_some_iff.1 h
          obtain rfl := Option.some.inj h
          simp only [Bool.or_eq_true, decide_eq_true_eq, not_or, not_lt] at hclock
          have hbounds := bounds_of_readSeconds? hsecond
          exact ⟨hvalid, Nat.lt_succ_of_le hclock.1, Nat.lt_succ_of_le hclock.2, hbounds.1,
            hbounds.2, bound_of_readOffset? hoffset⟩
      · cases h
    · cases h
  · cases h

theorem valid_of_ofSeconds {seconds : Int} {micro : Nat} {t : Instant} (hmicro : micro < 1000000)
    (h : ofSeconds seconds micro = .ok t) : t.Valid := by
  unfold ofSeconds at h
  split at h
  · cases h
  case isFalse hlast =>
    split at h
    · cases h
    split at h
    · cases h
    case h_2 date hdate =>
      cases h
      have hday : Int.fdiv seconds 86400 ≤ 2932896 := by
        rw [Int.fdiv_eq_ediv_of_nonneg _ (by decide)]
        unfold lastSecond at hlast
        omega
      have hsecond : (Int.fmod seconds 86400).toNat < 86400 := by
        rw [Int.fmod_eq_emod_of_nonneg _ (by decide)]
        omega
      refine ⟨Date.valid_ofDayNumber? hdate hday, ?_, ?_, ?_, hmicro, ?_⟩
      · dsimp only
        omega
      · exact Nat.mod_lt _ (by decide)
      · exact Nat.mod_lt _ (by decide)
      · rintro m hm
        cases hm
        decide

theorem valid_of_ofCount {count : Int} {micro : Nat} {t : Instant}
    (h : ofCount count micro = .ok t) : t.Valid := by
  unfold ofCount at h
  split at h
  · exact valid_of_ofSeconds (Nat.mod_lt _ (by decide)) h
  · refine valid_of_ofSeconds ?_ h
    rw [Int.fmod_eq_emod_of_nonneg _ (by decide)]
    omega

theorem valid_of_ofNumber {x : Float} {t : Instant} (h : ofNumber x = .ok t) : t.Valid := by
  unfold ofNumber at h
  split at h
  · cases h
  · cases h
  · exact valid_of_ofCount h

theorem valid_midnight {d : Date} (h : d.Valid) : (midnight d).Valid :=
  ⟨h, Nat.succ_pos _, Nat.succ_pos _, Nat.succ_pos _, Nat.succ_pos _, fun m hm => by cases hm⟩

theorem valid_of_readDate {s : List Char} {t : Instant} (h : (Date.read s).map midnight = .ok t) :
    t.Valid := by
  cases hdate : Date.read s with
  | error e =>
    rw [hdate] at h
    cases h
  | ok d =>
    rw [hdate] at h
    cases h
    obtain ⟨⟨e, rest⟩, hfront, hrest⟩ := Json.bind_eq_ok hdate
    dsimp only at hrest
    split at hrest
    · cases hrest
      exact valid_midnight (Date.valid_of_readFront hfront)
    · cases hrest

theorem valid_of_ofText {s : List Char} {t : Instant} (h : ofText s = .ok t) : t.Valid := by
  unfold ofText at h
  split at h
  · next hread =>
    cases h
    exact valid_of_readText? hread
  · next hdigits =>
    cases h
    obtain ⟨⟨n, micro⟩, -, hcount⟩ := Option.map_eq_some_iff.1 hdigits
    exact valid_of_ofCount hcount
  · split at h
    · exact valid_of_readDate h
    · cases h
  · exact valid_of_readDate h

/-- From whatever value it was read, an instant is valid. -/
theorem valid_of_read {v : Json} {t : Instant} (h : read v = .ok t) : t.Valid := by
  unfold read at h
  dsimp only at h
  split at h
  · split at h
    · next hcount => cases h; exact valid_of_ofCount hcount
    · cases h
  · split at h
    · next hnumber => cases h; exact valid_of_ofNumber hnumber
    · cases h
  · split at h
    · next htext => cases h; exact valid_of_ofText htext
    · cases h
  · cases h

/-- A valid instant reads back from what is written for it. -/
theorem read_toJson {t : Instant} (h : t.Valid) : read t.toJson = .ok t := by
  have htext : ofText t.text.toList = .ok t := by
    unfold ofText
    rw [readText?_text h]
  simp only [read, toJson, htext]

end Instant

end TestScribe.Time
