import TestScribe.Journal.Line
import TestScribe.Proofs.Failure.RoundTrip
import TestScribe.Proofs.Json.Writing
import TestScribe.Proofs.Text.Lines

/-!
# Log lines

An entry is shown by four members that are always there, the values with a known name in the fixed
order of these names (`names_shownOf`, `get?_shownOf`), and the exception.  All names differ
(`nodup_members`), so what is read in the line is what was shown, and no text in it, from wherever
it comes, breaks the line or leaves printable ASCII.  A value with any other name is not looked at
(`members_congr`).
-/

namespace TestScribe.Journal

open Json (IsPrintable)

/-! ## Values with a known name -/

section Shown

variable (fields : Members)

/-- The values of the given names, as far as they are there. -/
def shownOf (names : List String) : Members :=
  names.filterMap fun name => (fields.get? name).map fun v => (name, v)

theorem shownOf_cons (name : String) (names : List String) :
    shownOf fields (name :: names) =
      ((fields.get? name).map fun v => (name, v)).toList ++ shownOf fields names := by
  rw [shownOf, List.filterMap_cons]
  cases fields.get? name <;> rfl

theorem names_shownOf (names : List String) :
    (shownOf fields names).map (·.1) = names.filter fun name => (fields.get? name).isSome := by
  induction names with
  | nil => rfl
  | cons name names ih =>
    rw [shownOf_cons, List.map_append, ih]
    cases hvalue : fields.get? name with
    | none => rw [List.filter_cons_of_neg (by simp [hvalue])]; rfl
    | some v => rw [List.filter_cons_of_pos (by simp [hvalue])]; rfl

/-- By induction on the names: the first one is found at once, if it has a value. -/
theorem get?_shownOf {names : List String} {name : String} (h : name ∈ names) :
    (shownOf fields names).get? name = fields.get? name := by
  induction names with
  | nil => exact absurd h List.not_mem_nil
  | cons first names ih =>
    rw [shownOf_cons, Members.get?_append]
    by_cases hname : first = name
    · subst hname
      cases hvalue : fields.get? first with
      | none =>
        have hnone : first ∉ (shownOf fields names).map (·.1) := by
          rw [names_shownOf]
          simp [hvalue]
        exact Members.get?_eq_none_of_not_mem hnone
      | some v => simp [Members.get?]
    · have hfirst : Members.get? ((fields.get? first).map (first, ·)).toList name = none := by
        cases fields.get? first <;> simp [Members.get?, hname]
      rw [hfirst, Option.none_or, ih ((List.mem_cons.1 h).resolve_left (Ne.symm hname))]

/-- What is shown under a name is what stands there. -/
theorem get?_of_mem_shownOf {names : List String} {m : String × Json}
    (h : m ∈ shownOf fields names) : m.1 ∈ names ∧ fields.get? m.1 = some m.2 := by
  obtain ⟨name, hname, hm⟩ := List.mem_filterMap.1 h
  obtain ⟨v, hv, rfl⟩ := Option.map_eq_some_iff.1 hm
  exact ⟨hname, hv⟩

end Shown

/-! ## What a line tells -/

namespace Entry

/-- Members that tell all that is to be known of an entry, in a fixed order, and nothing else. -/
structure Tells (e : Entry) (ms : Members) : Prop where
  names : ms.map (·.1) = ["timestamp", "level", "logger", "message"] ++
    knownFields.filter (fun name => (e.fields.get? name).isSome) ++
    if e.exception.isSome then ["exception"] else []
  time : ms.get? "timestamp" = some (.str (timeText e.seconds e.millis))
  level : ms.get? "level" = some (.str (levelName e.level))
  source : ms.get? "logger" = some (.str e.source)
  message : ms.get? "message" = some (.str e.message)
  known : ∀ name ∈ knownFields, ms.get? name = e.fields.get? name
  exception : ms.get? "exception" = e.exception.map .str

/-- Two entries that are the same but for values whose names are not known. -/
structure Agrees (e e' : Entry) : Prop where
  seconds : e.seconds = e'.seconds
  millis : e.millis = e'.millis
  level : e.level = e'.level
  source : e.source = e'.source
  message : e.message = e'.message
  known : ∀ name ∈ knownFields, e.fields.get? name = e'.fields.get? name
  exception : e.exception = e'.exception

/-- An entry whose known values have no other numbers than integers. -/
def IsIntegral (e : Entry) : Prop :=
  ∀ name ∈ knownFields, ∀ v, e.fields.get? name = some v → Json.IsIntegral v

section Members

variable (e : Entry)

/-- The members that every line has. -/
def fixed : Members :=
  [("timestamp", .str (timeText e.seconds e.millis)), ("level", .str (levelName e.level)),
    ("logger", .str e.source), ("message", .str e.message)]

/-- The member for the exception, if there is one. -/
def raised : Members :=
  (e.exception.map fun text => ("exception", .str text)).toList

theorem members_eq : e.members = e.fixed ++ shownOf e.fields knownFields ++ e.raised := rfl

theorem names_fixed : e.fixed.map (·.1) = ["timestamp", "level", "logger", "message"] := rfl

theorem names_raised :
    e.raised.map (·.1) = if e.exception.isSome then ["exception"] else [] := by
  unfold raised
  cases e.exception <;> rfl

theorem names_members :
    e.members.map (·.1) = ["timestamp", "level", "logger", "message"] ++
      knownFields.filter (fun name => (e.fields.get? name).isSome) ++
      if e.exception.isSome then ["exception"] else [] := by
  rw [members_eq, List.map_append, List.map_append, names_fixed, names_shownOf, names_raised]

/-- No known name is one of those that every line has, or that of the exception. -/
theorem nodup_members : (e.members.map (·.1)).Nodup := by
  have hall : (["timestamp", "level", "logger", "message"] ++ knownFields ++
      ["exception"]).Nodup := by
    decide
  have hexception : (if e.exception.isSome then ["exception"] else []).Sublist ["exception"] := by
    split
    · exact List.Sublist.refl _
    · exact List.nil_sublist _
  rw [names_members]
  exact hall.sublist (((List.Sublist.refl _).append List.filter_sublist).append hexception)

theorem get?_members_of_known {name : String} (h : name ∈ knownFields) :
    e.members.get? name = e.fields.get? name := by
  have hapart : ∀ name ∈ knownFields,
      name ∉ ["timestamp", "level", "logger", "message"] ∧ name ∉ ["exception"] := by
    decide
  have hfixed : e.fixed.get? name = none := Members.get?_eq_none_of_not_mem (hapart name h).1
  have hraised : e.raised.get? name = none := by
    refine Members.get?_eq_none_of_not_mem ?_
    rw [names_raised]
    split
    · exact (hapart name h).2
    · exact List.not_mem_nil
  rw [members_eq, Members.get?_append, Members.get?_append, hfixed, hraised, Option.none_or,
    Option.or_none, get?_shownOf e.fields h]

theorem get?_members_exception : e.members.get? "exception" = e.exception.map .str := by
  have hfixed : e.fixed.get? "exception" = none :=
    Members.get?_eq_none_of_not_mem (by rw [names_fixed]; decide)
  have hshown : (shownOf e.fields knownFields).get? "exception" = none := by
    refine Members.get?_eq_none_of_not_mem fun hmem => ?_
    rw [names_shownOf] at hmem
    exact absurd (List.mem_of_mem_filter hmem) (by decide)
  rw [members_eq, Members.get?_append, Members.get?_append, hfixed, hshown, Option.none_or,
    Option.none_or, raised]
  cases e.exception <;> simp [Members.get?]

theorem tells_members : e.Tells e.members where
  names := e.names_members
  time := rfl
  level := rfl
  source := rfl
  message := rfl
  known _ hname := e.get?_members_of_known hname
  exception := e.get?_members_exception

end Members

variable {e e' : Entry}

/-- Only the known names are looked up. -/
theorem members_congr (h : e.Agrees e') : e.members = e'.members := by
  have hshown : shownFields e.fields = shownFields e'.fields :=
    List.filterMap_congr fun name hname => by rw [h.known name hname]
  rw [members, members, h.seconds, h.millis, h.level, h.source, h.message, h.exception, hshown]

theorem isIntegral_members (h : e.IsIntegral) : Json.IsIntegral (.obj e.members) := by
  refine .obj e.nodup_members ?_
  rw [members_eq, List.forall_mem_append, List.forall_mem_append]
  refine ⟨⟨?fixed, ?shown⟩, ?raised⟩
  case fixed =>
    simp only [fixed, List.forall_mem_cons]
    exact ⟨.str _, .str _, .str _, .str _, List.forall_mem_nil _⟩
  case shown =>
    intro m hm
    obtain ⟨hname, hvalue⟩ := get?_of_mem_shownOf e.fields hm
    exact h m.1 hname m.2 hvalue
  case raised =>
    intro m hm
    obtain ⟨text, -, rfl⟩ := Option.map_eq_some_iff.1 (Option.mem_toList.1 hm)
    exact .str text

/-- No character of printable ASCII ends a line. -/
theorem isLineBoundary_of_isPrintable {c : Char} (h : IsPrintable c) :
    Text.isLineBoundary c = false := by
  obtain ⟨hlow, hhigh⟩ := h
  simp only [Text.isLineBoundary, Bool.or_eq_false_iff, Bool.and_eq_false_iff,
    decide_eq_false_iff_not, beq_eq_false_iff_ne]
  omega

/-- Every line is one line of printable ASCII in which the entry is read back, with its known
values and no others, whatever its texts and values hold.  Entries that agree on all that is known
have the same line. -/
theorem line_tells :
    (∀ e : Entry, e.IsIntegral →
      (∀ c ∈ e.line.toList, IsPrintable c) ∧ Text.IsOneLine e.line.toList ∧
        ∃ ms, Json.read? e.line = some (.obj ms) ∧ e.Tells ms) ∧
    ∀ e e' : Entry, e.Agrees e' → e.line = e'.line := by
  refine ⟨fun e h => ?_, fun e e' h => by rw [line, line, members_congr h]⟩
  have hvalue := isIntegral_members h
  have hprintable : ∀ c ∈ e.line.toList, IsPrintable c := by
    rw [line, Json.render, String.toList_ofList]
    exact Json.isPrintable_of_mem_chars Json.isOneLine_spaced hvalue 0
  refine ⟨hprintable, fun c hc => ?_, e.members, ?_, e.tells_members⟩
  · exact isLineBoundary_of_isPrintable (hprintable c hc)
  · exact Json.read?_render Json.isProper_spaced hvalue

/-- An entry whose message tries to end its line and to begin another one, with a value whose name
is not known and an exception of two lines. -/
def forging : Entry where
  seconds := 0
  millis := 7
  level := 40
  source := "rtlgen"
  message := "\"\x7d\n\x7b\"level\": \"INFO"
  fields := [("secret", .str "token"), ("error", .obj [("code", .int 7)])]
  exception := some "ValueError\n  é"

/-- The quotes and the line feeds are escaped, and the value that is not known leaves no trace. -/
theorem line_tells_forging :
    forging.IsIntegral ∧ forging.Agrees { forging with fields := forging.fields.drop 1 } ∧
    Text.IsOneLine forging.line.toList ∧
    (∃ ms, Json.read? forging.line = some (.obj ms) ∧ forging.Tells ms) ∧
    forging.line = { forging with fields := forging.fields.drop 1 }.line ∧
    forging.line = "\x7b\"timestamp\": \"1970-01-01 00:00:00,007\", \"level\": \"ERROR\", " ++
      "\"logger\": \"rtlgen\", \"message\": \"\\\"\x7d\\n\x7b\\\"level\\\": \\\"INFO\", " ++
      "\"error\": \x7b\"code\": 7\x7d, \"exception\": \"ValueError\\n  \\u00e9\"\x7d" := by
  have hsecret : ∀ name ∈ knownFields, "secret" ≠ name := by decide
  have hintegral : forging.IsIntegral := by
    intro name hname v hv
    simp only [forging, Members.get?, if_neg (hsecret name hname)] at hv
    split at hv
    · cases hv
      exact .obj (by decide) (List.forall_mem_singleton.2 (.int 7))
    · cases hv
  have hagrees : forging.Agrees { forging with fields := forging.fields.drop 1 } :=
    ⟨rfl, rfl, rfl, rfl, rfl, fun name hname => if_neg (hsecret name hname), rfl⟩
  obtain ⟨hlines, hsame⟩ := line_tells
  obtain ⟨-, hone, hread⟩ := hlines forging hintegral
  exact ⟨hintegral, hagrees, hone, hread, hsame _ _ hagrees, by decide +kernel⟩

end Entry

end TestScribe.Journal
