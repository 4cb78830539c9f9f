import TestScribe.Proofs.Generation.Asking

/-!
# What a request for text hands on

Whatever the model server replies, a request for text hands on what its last reply delivers, and
nothing of the replies before (`stream_delivers`).  When it succeeds the end was marked once, and
the text that `collect` gives back is that of the pieces.
-/

namespace TestScribe.Generation.Backend

open Transport TestScribe.Flow

/-! ## Collected text -/

theorem textOf?_cons (c : Chunk) (cs : List Chunk) :
    textOf? (c :: cs) = c.content.string?.bind fun t => (textOf? cs).map (t ++ ·) := by
  unfold textOf?
  rw [List.mapM_cons]
  cases c.content.string? with
  | none => rfl
  | some t =>
    cases cs.mapM fun (c : Chunk) => c.content.string? with
    | none => rfl
    | some ts => exact congrArg some String.join_cons

/-- The text of chunks is that of their pieces, for the mark of the end holds none. -/
theorem textOf?_of_pieces {cs : List Chunk} (hproper : ∀ c ∈ cs, c.IsProper) {texts : List String}
    (hpieces : piecesIn cs = texts.map .str) : textOf? cs = some (String.join texts) := by
  induction cs generalizing texts with
  | nil =>
    obtain rfl := List.map_eq_nil_iff.1 hpieces.symm
    rfl
  | cons c cs ih =>
    obtain ⟨hfirst, hrest⟩ := List.forall_mem_cons.1 hproper
    rw [textOf?_cons]
    rcases hfirst with rfl | ⟨v, -, rfl⟩
    · rw [ih hrest hpieces]
      exact congrArg some (String.empty_append)
    · cases texts with
      | nil => cases hpieces
      | cons t texts =>
        obtain ⟨rfl, htail⟩ := List.cons.inj hpieces
        rw [ih hrest htail]
        exact congrArg some String.join_cons.symm

variable (s : Settings) (prompt : String) (options : Option Options) (stop : Stop)

/-- A request whose pieces are strings is collected as it ends. -/
theorem run_collect {b : Backend} {e : Except Problem Summary × Backend} {texts : List String}
    (hrun : Flow.run (stream s prompt options stop) b = e) (hproper : ∀ c ∈ e.2.handed, c.IsProper)
    (hpieces : piecesIn e.2.handed = texts.map .str) :
    Flow.run (collect s prompt options stop) b =
      (e.1.map fun x =>
        { content := Text.trimmed (String.join texts), model := some x.model, prompt
          metadata := [("streamed", .bool true), ("durationMs", .int x.duration)]
          fileName := none, relativePath := none, generatedAt := none }, e.2) := by
  rcases e with ⟨p | x, b₁⟩
  · exact run_bind_of_error hrun
  · unfold collect
    rw [run_bind_of_ok hrun, run_bind_of_ok (run_get b₁), textOf?_of_pieces hproper hpieces]
    rfl

/-- A request for text that succeeds, with pieces that are strings, is collected. -/
theorem run_collect_of_ok {b b' : Backend} {x : Summary} {texts : List String}
    (hrun : Flow.run (stream s prompt options stop) b = (.ok x, b'))
    (hproper : ∀ c ∈ b'.handed, c.IsProper) (hpieces : piecesIn b'.handed = texts.map .str) :
    ∃ t, (Flow.run (collect s prompt options stop) b).1 = .ok t ∧
      t.content = Text.trimmed (String.join texts) := by
  rw [run_collect s prompt options stop hrun hproper hpieces]
  exact ⟨_, rfl, rfl⟩

/-! ## Delivery -/

/-- The delivery of a request for text: all replies but the last were idle, and what was handed on
is what the last one delivers. -/
structure Delivered (b : Backend) (r : Except Problem Summary) (b' : Backend) (n : Nat) : Prop where
  le_retries : n ≤ (Patience.ofSettings s).retries
  sent : Flow.sent b b' = List.replicate (n + 1) (textCall s prompt options)
  earlier : ∀ k < n, IsIdle (b.script.reply k)
  handed : b'.handed = delivery (b.script.reply n)
  pieces : ∀ a, b.script.reply n = .answer a → isError a.status = false →
    piecesIn b'.handed = (heard a.lines).filterMap pieceOn?
  error : ∀ a e, b.script.reply n = .answer a → isError a.status = false →
    a.lines.findSome? errorOn? = some e → r = .error (.failure (.plain .serviceFault e.plain))
  whole : ∀ a, b.script.reply n = .answer a → isError a.status = false → isWhole a = true →
    (∃ x, r = .ok x) ∨ r = .error (.defect .overflow)
  marked : ∀ x, r = .ok x → b'.handed.countP Chunk.done = 1
  collected : ∀ x texts, r = .ok x → piecesIn b'.handed = texts.map .str →
    ∃ t, (Flow.run (collect s prompt options none) b).1 = .ok t ∧
      t.content = Text.trimmed (String.join texts)

variable {s prompt options}

theorem delivered_of_served {b : Backend} {n : Nat} {e : Except Problem Unit × Backend}
    (h : Served (textCall s prompt options) none (Patience.ofSettings s) b.begun n e)
    (hrun : Flow.run (stream s prompt options none) b = summarized s options b e) :
    Delivered s prompt options b (summarized s options b e).1 (summarized s options b e).2 n := by
  have hhanded : (summarized s options b e).2.handed = delivery (b.script.reply n) :=
    (handed_summarized s options b e).trans h.handed
  have hproper : ∀ c ∈ (summarized s options b e).2.handed, c.IsProper := fun c hc =>
    isProper_of_mem_delivery (hhanded ▸ hc)
  constructor
  case le_retries => exact h.le_retries
  case sent =>
    obtain ⟨es, hjournal, hes⟩ := h.journal
    rw [← hes]
    exact Flow.sent_eq ((journal_summarized s options b e).trans hjournal)
  case earlier => exact h.earlier
  case handed => exact hhanded
  case pieces =>
    intro a ha hstatus
    rw [hhanded, ha, delivery, hstatus]
    exact piecesIn_deliveryOfLines a
  case error =>
    intro a v ha hstatus hv
    have hfinish : (attemptOf textAction (b.script.reply n)).finish =
        .failed (.plain .serviceFault v.plain) := by
      rw [ha]
      exact finish_of_error textAction hstatus hv
    exact summarized_of_error s options b e (h.eq_error hfinish rfl)
  case whole =>
    intro a ha hstatus hwhole
    have hdone : (attemptOf textAction (b.script.reply n)).finish = .done :=
      finish_eq_done_iff.2 ⟨a, ha, hstatus, hwhole⟩
    exact summarized_of_ok s options b e (h.eq_ok_iff.2 hdone)
  case marked =>
    intro x hx
    have hdone := h.eq_ok_iff.1 (ok_of_summarized s options b e hx)
    obtain ⟨a, ha, hstatus, hwhole⟩ := finish_eq_done_iff.1 hdone
    have ha : b.script.reply n = .answer a := ha
    rw [hhanded, ha, delivery, hstatus]
    exact countP_done_of_isWhole hwhole
  case collected =>
    intro x texts hx htexts
    exact run_collect_of_ok s prompt options none (hrun.trans (Prod.ext hx rfl)) hproper htexts

/-- A request for text that cannot be written hands on nothing; for any other there is a last reply,
and what was handed on is what that reply delivers. -/
theorem stream_delivers (s : Settings) (prompt : String) (options : Option Options) (b : Backend) :
    let e := Flow.run (stream s prompt options none) b
    (∃ d, objection? (textCall s prompt options) = some d ∧ e.1 = .error (.defect d) ∧
      Flow.sent b e.2 = [] ∧ e.2.handed = []) ∨
    ∃ n, Delivered s prompt options b e.1 e.2 n := by
  intro e
  rcases stream_served s prompt options none b with ⟨d, hd, hrun⟩ | ⟨n, e', hserved, hrun⟩
  · have he : e = (.error (.defect d), b.begun) := hrun
    rw [he]
    exact .inl ⟨d, hd, rfl, Flow.sent_of_journal_eq rfl, rfl⟩
  · refine .inr ⟨n, ?_⟩
    have hdelivered := delivered_of_served hserved hrun
    rw [← hrun] at hdelivered
    exact hdelivered

end TestScribe.Generation.Backend
