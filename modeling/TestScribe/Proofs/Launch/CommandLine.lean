import TestScribe.Launch.Arguments
import TestScribe.Proofs.Json.Numbers

/-!
# What a command line says

The words of a command line give texts: values for switches and, beside them, plain words (`given`).
A command line that is accepted gives one plain word, that of its service, and its port is the one
that the last value for it stands for (`read_eq_ok`).
-/

namespace TestScribe.Launch

/-! ## Texts -/

/-- A text that is given as the value of a switch, or as a plain word. -/
abbrev Given := Option Switch × String

/-- The texts that words give, in order. -/
def given : List Word → List Given
  | [] => []
  | .switch s (some value) :: ws => (some s, value) :: given ws
  | .switch s none :: .plain value :: ws => (some s, value) :: given ws
  | .plain w :: ws => (none, w) :: given ws
  | _ :: ws => given ws

/-- The texts that are given for a switch, or the plain words. -/
def textsFor (s : Option Switch) (gs : List Given) : List String :=
  (gs.filter fun g => g.1 = s).map (·.2)

/-- The port that the last value for it stands for. -/
def portGiven? (gs : List Given) : Option Int :=
  (textsFor (some .port) gs).getLast?.bind wholeOf?

theorem textsFor_cons_self (s : Option Switch) (text : String) (gs : List Given) :
    textsFor s ((s, text) :: gs) = text :: textsFor s gs := by
  simp [textsFor]

theorem textsFor_cons_ne {s t : Option Switch} (h : t ≠ s) (text : String) (gs : List Given) :
    textsFor s ((t, text) :: gs) = textsFor s gs := by
  simp [textsFor, h]

/-! ## Reading on -/

namespace Draft

/-- What a draft becomes when texts are read: a port that is given goes over the one before it, and
where nothing is left over the plain words name services. -/
structure Advances (d : Draft) (gs : List Given) (d' : Draft) : Prop where
  whole : ∀ value ∈ textsFor (some .port) gs, (wholeOf? value).isSome
  port : d'.port = (portGiven? gs).or d.port
  service : d'.extra = [] → d.extra = [] ∧
    d'.service.toList.map Service.word = d.service.toList.map Service.word ++ textsFor none gs

variable {d d₁ d' : Draft} {gs : List Given} {word : String}

theorem Advances.refl (d : Draft) : d.Advances [] d where
  whole := nofun
  port := rfl
  service h := ⟨h, (List.append_nil _).symm⟩

/-- A word that is set aside is left over in the end. -/
theorem Advances.extra_ne_nil (h : (d.leave word).Advances gs d') : d'.extra ≠ [] := fun hnil =>
  List.append_ne_nil_of_right_ne_nil d.extra (List.cons_ne_nil word []) (h.service hnil).1

theorem Advances.leave (h : (d.leave word).Advances gs d') : d.Advances gs d' where
  whole := h.whole
  port := h.port
  service hnil := absurd hnil h.extra_ne_nil

theorem Advances.leavePlain (h : (d.leave word).Advances gs d') :
    d.Advances ((none, word) :: gs) d' where
  whole := by rw [textsFor_cons_ne (by simp)]; exact h.whole
  port := by rw [portGiven?, textsFor_cons_ne (by simp)]; exact h.port
  service hnil := absurd hnil h.extra_ne_nil

theorem Advances.choose (hservice : d.service = none) (hd₁ : d.choose word = .ok d₁)
    (h : d₁.Advances gs d') : d.Advances ((none, word) :: gs) d' := by
  unfold Draft.choose at hd₁
  split at hd₁
  case h_2 => cases hd₁
  case h_1 s hs =>
    obtain rfl := Except.ok.inj hd₁
    have hword : s.word = word := by simpa using List.find?_some hs
    constructor
    case whole => rw [textsFor_cons_ne (by simp)]; exact h.whole
    case port => rw [portGiven?, textsFor_cons_ne (by simp)]; exact h.port
    case service =>
      intro hnil
      obtain ⟨hextra, hservices⟩ := h.service hnil
      refine ⟨hextra, ?_⟩
      rw [hservices, hservice, textsFor_cons_self, ← hword]
      rfl

/-- The last value for the port counts, as all of them stand for integers. -/
theorem Advances.givePort {value : String} {n : Int} (hn : wholeOf? value = some n)
    (h : Advances { d with port := some n } gs d') : d.Advances ((some .port, value) :: gs) d' := by
  constructor
  case whole =>
    rw [textsFor_cons_self]
    exact List.forall_mem_cons.2 ⟨by rw [hn]; rfl, h.whole⟩
  case port =>
    rw [h.port, portGiven?, portGiven?, textsFor_cons_self, List.getLast?_cons]
    cases hlast : (textsFor (some .port) gs).getLast? with
    | none => simp [hn]
    | some last =>
      obtain ⟨m, hm⟩ := Option.isSome_iff_exists.1 (h.whole last (List.mem_of_getLast? hlast))
      simp [hm]
  case service =>
    intro hnil
    rw [textsFor_cons_ne (by simp)]
    exact h.service hnil

theorem Advances.give {s : Switch} {value : String} (hd₁ : d.give s value = .ok d₁)
    (h : d₁.Advances gs d') : d.Advances ((some s, value) :: gs) d' := by
  cases s with
  | help => cases hd₁
  | host =>
    obtain rfl := Except.ok.inj hd₁
    constructor
    case whole => rw [textsFor_cons_ne (by simp)]; exact h.whole
    case port => rw [portGiven?, textsFor_cons_ne (by simp)]; exact h.port
    case service => rw [textsFor_cons_ne (by simp)]; exact h.service
  | port =>
    unfold Draft.give at hd₁
    dsimp only at hd₁
    split at hd₁
    case h_1 n hn =>
      obtain rfl := Except.ok.inj hd₁
      exact h.givePort hn
    case h_2 => cases hd₁

/-- By the recursion of `read`, one step after another. -/
theorem advances_of_read {ws : List Word} (h : d.read ws = .ok d') : d.Advances (given ws) d' := by
  fun_induction Draft.read d ws
  case case1 d =>
    obtain rfl := Except.ok.inj h
    exact .refl d
  case case2 ih => exact (ih h).leave
  case case3 ih =>
    obtain ⟨d₁, hgive, hread⟩ := Json.bind_eq_ok h
    exact .give hgive (ih d₁ hread)
  case case4 | case6 => cases h
  case case5 ih =>
    obtain ⟨d₁, hgive, hread⟩ := Json.bind_eq_ok h
    exact .give hgive (ih d₁ hread)
  case case7 hservice ih | case9 hservice ih =>
    obtain ⟨d₁, hchoose, hread⟩ := Json.bind_eq_ok h
    exact .choose hservice hchoose (ih d₁ hread)
  case case8 ih => exact (ih h).leave.leavePlain
  case case10 ih => exact (ih h).leavePlain.leave
  case case11 hservice ih =>
    obtain ⟨d₁, hchoose, hread⟩ := Json.bind_eq_ok h
    exact .choose hservice hchoose (ih d₁ hread)
  case case12 ih => exact (ih h).leavePlain
  case case13 ih => exact (ih h).leave

end Draft

/-! ## Accepted command lines -/

theorem eq_ok_of_mapError {ε ε' α : Type} {f : ε → ε'} {r : Except ε α} {a : α}
    (h : r.mapError f = .ok a) : r = .ok a := by
  cases r with
  | ok b => exact congrArg Except.ok (Except.ok.inj h)
  | error e => cases h

/-- An accepted command line names its service by its one plain word; its port is the last one that
is given, if one is. -/
theorem Arguments.read_eq_ok {host : String} {words : List String} {a : Arguments}
    (h : Arguments.read host words = .ok a) :
    ∃ ws, readWords words = .ok ws ∧ textsFor none (given ws) = [a.service.word] ∧
      a.port = portGiven? (given ws) := by
  obtain ⟨ws, hwords, h⟩ := Json.bind_eq_ok h
  obtain ⟨d, hread, hfinish⟩ := Json.bind_eq_ok h
  have hadvances := Draft.advances_of_read hread
  unfold Draft.finish at hfinish
  split at hfinish
  case h_1 => cases hfinish
  case h_2 service hservice =>
    split at hfinish
    case isFalse => cases hfinish
    case isTrue hextra =>
      obtain rfl := Except.ok.inj hfinish
      obtain ⟨-, hplain⟩ := hadvances.service (List.isEmpty_iff.1 hextra)
      rw [hservice] at hplain
      refine ⟨ws, eq_ok_of_mapError hwords, hplain.symm, ?_⟩
      rw [hadvances.port, Option.or_none]

end TestScribe.Launch
