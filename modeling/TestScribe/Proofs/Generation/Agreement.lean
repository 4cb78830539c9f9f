import TestScribe.Proofs.Generation.EventGrammar
import TestScribe.Proofs.Generation.Oblivious
import TestScribe.Proofs.Generation.TextStream

/-!
# A test and its stream of events

A test may be generated as a whole or followed as a stream of events.  From servers that would reply
the same both ask for the same, both come to an error or neither does, and without an error the test
is made of the tokens (`generate_agrees_with_events`).
-/

namespace TestScribe.Generation

open Transport TestScribe.Flow Component

/-! ## What events tell -/

namespace StreamEvent

/-- The text of a token. -/
def tokenText? (e : StreamEvent) : Option String :=
  match e.event with
  | .token => (Members.get? e.data "token").bind Json.string?
  | _ => none

end StreamEvent

/-- The texts of the tokens of a stream. -/
def tokenTexts (es : List StreamEvent) : List String :=
  es.filterMap StreamEvent.tokenText?

/-- The error events of a stream. -/
def errorsIn (es : List StreamEvent) : List StreamEvent :=
  es.filter fun e => e.event = .error

theorem exists_error_iff {es : List StreamEvent} :
    (∃ e ∈ es, e.event = .error) ↔ errorsIn es ≠ [] := by
  simp [errorsIn, List.filter_eq_nil_iff]

section Events

variable (a : Analysis) (cs : List Chunk)

theorem tokenTexts_chunkEvents (hproper : ∀ c ∈ cs, c.IsProper) :
    tokenTexts (cs.filterMap (chunkEvent? a)) = (piecesIn cs).filterMap Json.string? := by
  induction cs with
  | nil => rfl
  | cons c cs ih =>
    obtain ⟨hfirst, hrest⟩ := List.forall_mem_cons.1 hproper
    rcases hfirst with rfl | ⟨v, hv, rfl⟩
    · exact ih hrest
    · have hpieces : piecesIn (.piece v :: cs) = v :: piecesIn cs := rfl
      rw [List.filterMap_cons_some (chunkEvent?_piece a hv), hpieces, tokenTexts,
        List.filterMap_cons, List.filterMap_cons]
      have htail := ih hrest
      unfold tokenTexts at htail
      rw [htail]
      rfl

theorem event_ne_error_of_chunkEvent? {c : Chunk} {e : StreamEvent} (h : chunkEvent? a c = some e) :
    e.event ≠ .error := by
  unfold chunkEvent? at h
  split at h
  · cases h
    simp
  · split at h
    · cases h
      simp
    · cases h

theorem errorsIn_chunkEvents : errorsIn (cs.filterMap (chunkEvent? a)) = [] := by
  refine List.filter_eq_nil_iff.2 fun e he => ?_
  obtain ⟨c, -, hc⟩ := List.mem_filterMap.1 he
  simpa using event_ne_error_of_chunkEvent? a hc

theorem tokenTexts_closingEvents (r : Except Problem Backend.Summary) :
    tokenTexts (closingEvents r) = [] := by
  match r with
  | .ok _ => rfl
  | .error (.failure f) => rfl
  | .error (.defect d) => cases d <;> rfl

theorem errorsIn_closingEvents (r : Except Problem Backend.Summary) :
    errorsIn (closingEvents r) = closingEvents r := by
  match r with
  | .ok _ => rfl
  | .error (.failure f) => rfl
  | .error (.defect d) => cases d <;> rfl

end Events

/-! ## Replies of text -/

/-- Whether all pieces of text on the lines of a reply are strings. -/
def isTextual : Reply → Bool
  | .mishap _ => true
  | .answer a => a.lines.all fun l => (pieceOn? l).all fun v => v.string?.isSome

/-- The pieces that a reply delivers stand on its lines. -/
theorem exists_line_of_piece {r : Reply} {v : Json} (h : v ∈ piecesIn (delivery r)) :
    ∃ answer, r = .answer answer ∧ ∃ l ∈ answer.lines, pieceOn? l = some v := by
  match r with
  | .mishap m => exact absurd h List.not_mem_nil
  | .answer answer =>
    by_cases hstatus : isError answer.status = true
    · rw [delivery, if_pos hstatus] at h
      exact absurd h List.not_mem_nil
    · rw [delivery, if_neg hstatus, piecesIn_deliveryOfLines] at h
      obtain ⟨l, hl, hpiece⟩ := List.mem_filterMap.1 h
      exact ⟨answer, rfl, l, (List.takeWhile_prefix _).subset hl, hpiece⟩

theorem string?_of_isTextual {r : Reply} (htextual : isTextual r = true) {v : Json}
    (h : v ∈ piecesIn (delivery r)) : ∃ t, v = .str t := by
  obtain ⟨answer, rfl, l, hl, hpiece⟩ := exists_line_of_piece h
  have hstring : v.string?.isSome = true := by
    have hline := List.all_eq_true.1 htextual l hl
    rwa [hpiece] at hline
  cases v with
  | str t => exact ⟨t, rfl⟩
  | _ => cases hstring

theorem eq_map_str {vs : List Json} (h : ∀ v ∈ vs, ∃ t, v = .str t) :
    vs = (vs.filterMap Json.string?).map .str := by
  induction vs with
  | nil => rfl
  | cons v vs ih =>
    obtain ⟨⟨t, rfl⟩, hrest⟩ := List.forall_mem_cons.1 h
    exact congrArg (.str t :: ·) (ih hrest)

/-! ## Requests for text -/

namespace Backend

variable {s : Settings} {prompt : String} {options : Option Options} {b : Backend}
  {e : Except Problem Summary × Backend}

/-- Every request for text hands on what one reply delivers, or nothing. -/
theorem handed_stream (hrun : Flow.run (stream s prompt options none) b = e) :
    e.2.handed = [] ∨ ∃ n, e.2.handed = delivery (b.script.reply n) := by
  rcases stream_served s prompt options none b with ⟨d, -, hd⟩ | ⟨n, e', hserved, hd⟩
  · rw [← hrun, hd]
    exact .inl rfl
  · rw [← hrun, hd, handed_summarized]
    exact .inr ⟨n, hserved.handed⟩

theorem isProper_of_mem_handed (hrun : Flow.run (stream s prompt options none) b = e) :
    ∀ c ∈ e.2.handed, c.IsProper := by
  intro c hc
  rcases handed_stream hrun with hnil | ⟨n, hn⟩
  · rw [hnil] at hc
    exact absurd hc List.not_mem_nil
  · rw [hn] at hc
    exact isProper_of_mem_delivery hc

/-- From a server that replies text all pieces that are handed on are strings. -/
theorem exists_texts (hrun : Flow.run (stream s prompt options none) b = e)
    (htextual : ∀ k, isTextual (b.script.reply k) = true) :
    ∃ texts : List String, piecesIn e.2.handed = texts.map .str := by
  refine ⟨_, eq_map_str fun v hv => ?_⟩
  rcases handed_stream hrun with hnil | ⟨n, hn⟩
  · rw [hnil] at hv
    exact absurd hv List.not_mem_nil
  · rw [hn] at hv
    exact string?_of_isTextual (htextual n) hv

/-- All requests that are sent are the same. -/
theorem eq_textCall_of_mem (hrun : Flow.run (stream s prompt options none) b = e) {es : Events}
    (hjournal : e.2.journal = b.journal ++ es) :
    ∀ call ∈ callsIn es, call = textCall s prompt options := by
  rcases stream_served s prompt options none b with ⟨d, -, hd⟩ | ⟨n, e', hserved, hd⟩
  · have hnil : b.journal ++ [] = b.journal ++ es := by
      rw [← hjournal, ← hrun, hd]
      exact List.append_nil _
    rw [← List.append_cancel_left hnil]
    exact fun call hcall => absurd hcall List.not_mem_nil
  · obtain ⟨es', hjournal', hcalls⟩ := hserved.journal
    have hes : b.journal ++ es' = b.journal ++ es := by
      rw [← hjournal, ← hrun, hd, journal_summarized, hjournal']
      rfl
    rw [← List.append_cancel_left hes, hcalls]
    exact fun call hcall => List.eq_of_mem_replicate hcall

theorem model_of_summarized {e : Except Problem Unit × Backend} {x : Summary}
    (h : (summarized s options b e).1 = .ok x) :
    x.model = (options.getD .none).modelName s.modelName := by
  rcases e with ⟨p | ⟨⟩, b'⟩
  · cases h
  · simp only [summarized] at h
    split at h
    · obtain rfl := Except.ok.inj h
      rfl
    · cases h

theorem model_of_stream (hrun : Flow.run (stream s prompt options none) b = e) {x : Summary}
    (hx : e.1 = .ok x) : x.model = (options.getD .none).modelName s.modelName := by
  rw [← hrun, run_stream] at hx
  exact model_of_summarized hx

end Backend

/-! ## Tests and streams -/

section Runs

variable (s : Settings) (a : Analysis) (options : Option Options) (correlation : Json) (b : Backend)

/-- The backend after it was recorded that a test is generated. -/
def announced : Backend :=
  { b with
    journal := b.journal ++ [.record
      { severity := .info, source := Journal.partName generatorPart
        message := "Generating test for " ++ a.name
        fields := [("correlation_id", correlation), ("component", .str a.name)] }] }

/-- A test is generated from the texts that its request collects, and ends as the request does. -/
theorem run_generate {e : Except Problem Backend.Summary × Backend} {texts : List String}
    (hrun : Flow.run (followed s a options none) (announced a correlation b) = e)
    (hpieces : piecesIn e.2.handed = texts.map .str) :
    ∃ r, Flow.run (generate s a options none correlation) b = (r, e.2) ∧
      (∀ p, e.1 = .error p → r = .error p) ∧
      ∀ x, e.1 = .ok x → ∃ t, r = .ok t ∧ t.model = some x.model ∧
        t.content = codeBlock (Text.trimmed (String.join texts)) := by
  have hcollect := Backend.run_collect _ _ _ _ hrun (Backend.isProper_of_mem_handed hrun) hpieces
  have hgenerate : Flow.run (generate s a options none correlation) b =
      Flow.run (Backend.collect s (promptFor a (options.getD .none)) (some (options.getD .none))
          none >>= fun t => return { t with
          content := codeBlock t.content
          metadata := t.metadata.merge (componentNotes a) }) (announced a correlation b) := rfl
  rw [hgenerate]
  rcases e with ⟨p | x, b₁⟩
  · rw [run_bind_of_error hcollect]
    refine ⟨_, rfl, fun q hq => ?_, fun x hx => ?_⟩
    · exact congrArg Except.error (Except.error.inj hq)
    · cases hx
  · rw [run_bind_of_ok hcollect]
    refine ⟨_, rfl, fun q hq => ?_, fun y hy => ?_⟩
    · cases hq
    · obtain rfl := Except.ok.inj hy
      exact ⟨_, rfl, rfl, rfl⟩

end Runs

/-- What is generated and the stream of events for it: an error of the one is the only error event
of the other, and without an error the test is made of the texts of the tokens.  A generation that
waits without end has neither a test nor an error. -/
structure Agree (model : String) (r : Except Problem TestFile) (es : List StreamEvent) : Prop where
  start : ∃ e rest, es = e :: rest ∧ e.event = .start ∧ e.data.get? "model" = some (.str model)
  errors : (∃ e ∈ es, e.event = .error) ↔ ∃ p, r = .error p ∧ p ≠ .defect .endless
  failure : ∀ f, r = .error (.failure f) → errorsIn es = [errorEvent f.message f.cause.code]
  defect : ∀ d, r = .error (.defect d) → d ≠ .endless →
    errorsIn es = [errorEvent (.str d.message) Cause.internal.code]
  test : ∀ t, r = .ok t → t.model = some model ∧
    t.content = codeBlock (Text.trimmed (String.join (tokenTexts es)))

theorem closingEvents_of_defect {d : Defect} (h : d ≠ .endless) :
    closingEvents (.error (.defect d)) = [errorEvent (.str d.message) Cause.internal.code] := by
  cases d with
  | endless => exact absurd rfl h
  | _ => rfl

section Agree

variable (s : Settings) (a : Analysis) (options : Options) (cs : List Chunk)
  (e : Except Problem Backend.Summary)

theorem errorsIn_events :
    errorsIn (startEvent s a options :: cs.filterMap (chunkEvent? a) ++ closingEvents e) =
      closingEvents e := by
  have hsplit : errorsIn (startEvent s a options :: cs.filterMap (chunkEvent? a) ++
      closingEvents e) = errorsIn (cs.filterMap (chunkEvent? a)) ++ errorsIn (closingEvents e) :=
    List.filter_append _ _
  rw [hsplit, errorsIn_chunkEvents, errorsIn_closingEvents, List.nil_append]

theorem tokenTexts_events (hproper : ∀ c ∈ cs, c.IsProper) :
    tokenTexts (startEvent s a options :: cs.filterMap (chunkEvent? a) ++ closingEvents e) =
      (piecesIn cs).filterMap Json.string? := by
  have hsplit : tokenTexts (startEvent s a options :: cs.filterMap (chunkEvent? a) ++
      closingEvents e) =
        tokenTexts (cs.filterMap (chunkEvent? a)) ++ tokenTexts (closingEvents e) :=
    List.filterMap_append
  rw [hsplit, tokenTexts_chunkEvents a cs hproper, tokenTexts_closingEvents, List.append_nil]

theorem start_of_events :
    ∃ e' rest, startEvent s a options :: cs.filterMap (chunkEvent? a) ++ closingEvents e =
      e' :: rest ∧ e'.event = .start ∧
        e'.data.get? "model" = some (.str (options.modelName s.modelName)) :=
  ⟨_, _, rfl, rfl, rfl⟩

theorem agree_of_error (p : Problem) :
    Agree (options.modelName s.modelName) (.error p)
      (startEvent s a options :: cs.filterMap (chunkEvent? a) ++ closingEvents (.error p)) := by
  constructor
  case start => exact start_of_events s a options cs _
  case errors =>
    rw [exists_error_iff, errorsIn_events]
    -- a stream that waits without end closes with no event
    by_cases hp : p = .defect .endless
    · subst hp
      exact iff_of_false (fun hne => hne rfl) (by rintro ⟨q, hq, hne⟩; cases hq; exact hne rfl)
    · obtain ⟨e, he, -⟩ := closingEvents_of_error hp
      exact iff_of_true (by simp [he]) ⟨p, rfl, hp⟩
  case failure =>
    intro f hf
    obtain rfl := Except.error.inj hf
    exact errorsIn_events s a options cs _
  case defect =>
    intro d hd hne
    obtain rfl := Except.error.inj hd
    rw [errorsIn_events, closingEvents_of_defect hne]
  case test =>
    intro t ht
    cases ht

theorem agree_of_ok {texts : List String} {t : TestFile} (x : Backend.Summary)
    (hproper : ∀ c ∈ cs, c.IsProper) (hpieces : piecesIn cs = texts.map .str)
    (hmodel : t.model = some (options.modelName s.modelName))
    (hcontent : t.content = codeBlock (Text.trimmed (String.join texts))) :
    Agree (options.modelName s.modelName) (.ok t)
      (startEvent s a options :: cs.filterMap (chunkEvent? a) ++ closingEvents (.ok x)) := by
  have htokens : (piecesIn cs).filterMap Json.string? = texts := by
    rw [hpieces, List.filterMap_map]
    exact List.filterMap_some
  constructor
  case start => exact start_of_events s a options cs _
  case test =>
    intro t' ht
    obtain rfl := Except.ok.inj ht
    refine ⟨hmodel, ?_⟩
    rw [hcontent, tokenTexts_events s a options cs _ hproper, htokens]
  case errors =>
    rw [exists_error_iff, errorsIn_events]
    exact iff_of_false (fun hne => hne rfl) fun ⟨q, hq, _⟩ => by cases hq
  all_goals
    intros
    contradiction

end Agree

/-! ## Two runs -/

section Alike

variable {s : Settings} {a : Analysis} {options : Option Options} {correlation : Json}
  {b b' b₁' : Backend} {e e' : Except Problem Backend.Summary × Backend}
  (hrun : Flow.run (followed s a options none) (announced a correlation b) = e)
  (halike : Backend.Alike (announced a correlation b) b' e e')

include hrun halike

/-- A test and a stream agree if their requests for text took the same course. -/
theorem agree_of_alike {r : Except Problem TestFile} {texts : List String}
    (hpieces : piecesIn e.2.handed = texts.map .str) (herror : ∀ p, e.1 = .error p → r = .error p)
    (hok : ∀ x, e.1 = .ok x → ∃ t, r = .ok t ∧ t.model = some x.model ∧
      t.content = codeBlock (Text.trimmed (String.join texts))) :
    Agree ((options.getD .none).modelName s.modelName) r
      (startEvent s a (options.getD .none) :: e'.2.handed.filterMap (chunkEvent? a) ++
        closingEvents e'.1) := by
  rw [halike.handed]
  rcases e with ⟨p | x, b₀⟩
  · rw [halike.eq_error rfl, herror p rfl]
    exact agree_of_error s a _ b₀.handed p
  · obtain ⟨x', hx'⟩ := halike.exists_ok rfl
    obtain ⟨t, rfl, hmodel, hcontent⟩ := hok x rfl
    rw [Backend.model_of_stream hrun rfl] at hmodel
    rw [hx']
    exact agree_of_ok s a _ b₀.handed x' (Backend.isProper_of_mem_handed hrun) hpieces hmodel
      hcontent

/-- Records aside, both do the same. -/
theorem sent_of_alike {rs : List Journal.Record}
    (hjournal' : b₁'.journal = e'.2.journal ++ rs.map .record) :
    Flow.sent b e.2 = Flow.sent b' b₁' ∧ ∀ call ∈ Flow.sent b e.2, call =
      Backend.textCall s (promptFor a (options.getD .none)) (some (options.getD .none)) := by
  obtain ⟨es, hes, hes'⟩ := halike.journal
  have hsent : Flow.sent b e.2 = callsIn es := by
    rw [Flow.sent_eq (hes.trans (List.append_assoc _ _ _)), callsIn_append, callsIn_record,
      List.nil_append]
  have hsent' : Flow.sent b' b₁' = callsIn es := by
    rw [hes', List.append_assoc] at hjournal'
    rw [Flow.sent_eq hjournal', callsIn_append, callsIn_records, List.append_nil]
  rw [hsent, hsent']
  exact ⟨rfl, Backend.eq_textCall_of_mem hrun hes⟩

end Alike

/-- From servers that would reply the same text, a generation and a stream of events agree and send
the same requests, all for the model that the stream names. -/
theorem generate_agrees_with_events (s : Settings) (a : Analysis) (options : Option Options)
    (correlation correlation' : Json) {b b' : Backend} (hscript : b'.script = b.script)
    (htimed : b'.isTimed = b.isTimed) (htextual : ∀ k, isTextual (b.script.reply k) = true) :
    ∃ r b₁ es b₁', Flow.run (generate s a options none correlation) b = (r, b₁) ∧
      Flow.run (events s a options none correlation') b' = (.ok es, b₁') ∧
      Agree ((options.getD .none).modelName s.modelName) r es ∧
      Flow.sent b b₁ = Flow.sent b' b₁' ∧
      ∀ call ∈ Flow.sent b b₁, ∃ body, call.body = some body ∧
        body.get? "model" = some (.str ((options.getD .none).modelName s.modelName)) := by
  have hrun : Flow.run (followed s a options none) (announced a correlation b) = _ := rfl
  have hrun' : Flow.run (followed s a options none) b' = _ := rfl
  -- the record that comes before a test does not change the course of its request
  have halike := Backend.stream_alike s (promptFor a (options.getD .none))
    (some (options.getD .none)) none (announced a correlation b) b' hscript htimed
  obtain ⟨texts, hpieces⟩ := Backend.exists_texts hrun htextual
  obtain ⟨r, hgenerate, herror, hok⟩ := run_generate s a options correlation b hrun hpieces
  obtain ⟨b₁', rs, hevents, hjournal'⟩ := run_events s a options none correlation' b' hrun'
  obtain ⟨hsent, hcalls⟩ := sent_of_alike hrun halike hjournal'
  refine ⟨r, _, _, b₁', hgenerate, hevents, agree_of_alike hrun halike hpieces herror hok, hsent,
    fun call hcall => ?_⟩
  rw [hcalls call hcall]
  exact ⟨_, rfl, rfl⟩

/-! ## A server that replies text, and options that cannot be written -/

/-- A reply with two pieces of text. -/
def textReply : Reply :=
  .answer
    { status := 200
      text := "\x7b\"response\":\" it\"\x7d\n\x7b\"response\":\"() \"\x7d\n" ++
        "\x7b\"done\":true\x7d\n"
      ending := .complete }

/-- A model server that replies text, on a clock of its own. -/
def answering (clock : Nat → Float) : Backend :=
  { script := { first := textReply, rest := [] }
    handed := [], clock := { reading := clock, used := 0 }, journal := [] }

theorem isTextual_answering (clock : Nat → Float) (k : Nat) :
    isTextual ((answering clock).script.reply k) = true := by
  have hreply : (answering clock).script.reply k = textReply :=
    congrArg Script.first (Script.after_of_last rfl k)
  rw [hreply]
  decide +kernel

theorem generate_agrees_with_events_answering :
    (answering fun _ => 1.0).script = (answering fun _ => 0.0).script ∧
    (answering fun _ => 1.0).isTimed = (answering fun _ => 0.0).isTimed ∧
    ∃ r b₁ es b₁',
      Flow.run (generate impatient greeting none none .null) (answering fun _ => 0.0) = (r, b₁) ∧
      Flow.run (events impatient greeting none none .null) (answering fun _ => 1.0) =
        (.ok es, b₁') ∧
      Agree "llama3" r es ∧ r.toOption.map (·.content) = some "it()" := by
  have hscript : (answering fun _ => 1.0).script = (answering fun _ => 0.0).script := rfl
  have htimed : (answering fun _ => 1.0).isTimed = (answering fun _ => 0.0).isTimed := by
    decide +kernel
  have hcontent : (Flow.run (generate impatient greeting none none .null)
      (answering fun _ => 0.0)).1.toOption.map (·.content) = some "it()" := by
    decide +kernel
  obtain ⟨r, b₁, es, b₁', hgenerate, hevents, hagree, -, -⟩ :=
    generate_agrees_with_events impatient greeting none .null .null hscript htimed
      (isTextual_answering fun _ => 0.0)
  rw [hgenerate] at hcontent
  exact ⟨hscript, htimed, r, b₁, es, b₁', hgenerate, hevents, hagree, hcontent⟩

/-- An infinite temperature. -/
def overheated : Options :=
  { Options.none with temperature := some (1.0 / 0.0) }

/-- Whether a generation ended in a failure. -/
def isFailure (r : Except Problem TestFile) : Bool :=
  match r with
  | .error (.failure _) => true
  | _ => false

/-- A request that cannot be written is an error event of the stream, and no failure but a defect of
the generation. -/
theorem not_failure_iff_error :
    ¬ ∀ (s : Settings) (a : Analysis) (options : Option Options) (correlation : Json) (b : Backend),
      (∀ k, isTextual (b.script.reply k) = true) →
      ∀ es b', Flow.run (events s a options none correlation) b = (.ok es, b') →
        ((∃ f, (Flow.run (generate s a options none correlation) b).1 = .error (.failure f)) ↔
          ∃ e ∈ es, e.event = .error) := by
  intro hiff
  have hkinds : (Flow.run (events impatient greeting (some overheated) none .null)
      (answering fun _ => 0.0)).1.toOption.map (·.map (·.event)) = some [.start, .error] := by
    decide +kernel
  have hdefect : isFailure (Flow.run (generate impatient greeting (some overheated) none .null)
      (answering fun _ => 0.0)).1 = false := by
    decide +kernel
  rcases hevents : Flow.run (events impatient greeting (some overheated) none .null)
      (answering fun _ => 0.0) with ⟨p | es, b'⟩
  · rw [hevents] at hkinds
    cases hkinds
  · rw [hevents] at hkinds
    have hes : es.map (·.event) = [.start, .error] := Option.some.inj hkinds
    have herror : ∃ e ∈ es, e.event = .error :=
      List.mem_map.1 (hes ▸ List.mem_cons_of_mem _ (List.mem_singleton_self _))
    obtain ⟨f, hf⟩ := (hiff impatient greeting (some overheated) .null (answering fun _ => 0.0)
      (isTextual_answering fun _ => 0.0) es b' hevents).2 herror
    rw [hf] at hdefect
    cases hdefect

end TestScribe.Generation
