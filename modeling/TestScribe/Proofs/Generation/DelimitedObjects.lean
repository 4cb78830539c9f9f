import TestScribe.Proofs.Generation.EventGrammar
import TestScribe.Proofs.Generation.Oblivious
import TestScribe.Proofs.Generation.TextStream
import TestScribe.Proofs.Json.Beginnings
import TestScribe.Proofs.Json.Members
import TestScribe.Proofs.Text.Lines

/-!
# Answers of delimited objects

The model server answers with objects, each written on a line of its own that a line feed ends.  A
text is cut into lines at more characters than the line feed, so an object may be cut.  What is left
of it cannot be read and is lost.  If none is cut, the text that is collected is that of the objects
before the first error (`collect_delimited`).
-/

namespace TestScribe.Generation

open Transport TestScribe.Flow

/-! ## Objects on lines -/

/-- The objects on lines. -/
def objectsOn (ls : List (List Char)) : List Members :=
  ls.filterMap objectOn?

/-- The objects before the first that reports an error. -/
def heardObjects (objects : List Members) : List Members :=
  objects.takeWhile fun ms => (telling? ms "error").isNone

theorem findSome?_errorOn? (ls : List (List Char)) :
    ls.findSome? errorOn? = (objectsOn ls).findSome? fun ms => telling? ms "error" := by
  induction ls with
  | nil => rfl
  | cons l ls ih =>
    rw [List.findSome?_cons, ih]
    unfold errorOn? objectsOn
    cases hobject : objectOn? l with
    | none => rw [List.filterMap_cons_none hobject]; rfl
    | some ms => rw [List.filterMap_cons_some hobject, List.findSome?_cons]; rfl

/-- By induction on the lines: those without an object say nothing. -/
theorem filterMap_heard (ls : List (List Char)) :
    (heard ls).filterMap pieceOn? =
      (heardObjects (objectsOn ls)).filterMap fun ms => telling? ms "response" := by
  induction ls with
  | nil => rfl
  | cons l ls ih =>
    cases hobject : objectOn? l with
    | none =>
      have herror : errorOn? l = none := by rw [errorOn?, hobject]; rfl
      have hpiece : pieceOn? l = none := by rw [pieceOn?, hobject]; rfl
      rw [heard_cons_of_none herror, List.filterMap_cons_none hpiece, ih, objectsOn, objectsOn,
        List.filterMap_cons_none hobject]
    | some ms =>
      have herror : errorOn? l = telling? ms "error" := by rw [errorOn?, hobject]; rfl
      have hpiece : pieceOn? l = telling? ms "response" := by rw [pieceOn?, hobject]; rfl
      have hobjects : objectsOn (l :: ls) = ms :: objectsOn ls := List.filterMap_cons_some hobject
      rw [hobjects]
      unfold heardObjects at ih ⊢
      cases htelling : telling? ms "error" with
      | some e =>
        rw [heard_cons_of_error (herror.trans htelling),
          List.takeWhile_cons_of_neg (by simp [htelling])]
        rfl
      | none =>
        rw [heard_cons_of_none (herror.trans htelling),
          List.takeWhile_cons_of_pos (by simp [htelling]), List.filterMap_cons, hpiece, ih,
          List.filterMap_cons]

/-! ## Objects in a text -/

theorem ofChars_of_trim {l l' : List Char} (h : Text.trim l = Text.trim l') :
    Line.ofChars l = Line.ofChars l' := by
  unfold Line.ofChars
  rw [h]

/-- A line that holds an object and blanks around it. -/
theorem ofChars_of_read {l : List Char} {c : Char} {r : List Char} {ms : Members}
    (htrim : Text.trim l = c :: r) (hread : Json.read? (String.ofList (c :: r)) = some (.obj ms)) :
    Line.ofChars l = .object ms := by
  unfold Line.ofChars
  rw [htrim]
  simp only [hread]

/-- The characters of a line that cannot be read. -/
def brokenOn? (l : List Char) : Option (List Char) :=
  match Line.ofChars l with
  | .unreadable s => some s
  | _ => none

theorem ignoresBlanks_objectOn? : Text.IgnoresBlanks objectOn? where
  nil := rfl
  trim := by
    intro l l' h
    rw [objectOn?, ofChars_of_trim h, objectOn?]

theorem ignoresBlanks_brokenOn? : Text.IgnoresBlanks brokenOn? where
  nil := rfl
  trim := by
    intro l l' h
    rw [brokenOn?, ofChars_of_trim h, brokenOn?]

/-- The objects in a text, line by line. -/
def objectsIn (s : List Char) : List Members :=
  Text.madeOf objectOn? s

/-- The lines of a text that cannot be read. -/
def brokenIn (s : List Char) : List (List Char) :=
  Text.madeOf brokenOn? s

/-! ## Delimited objects -/

/-- Texts, each with a line feed behind it. -/
def delimited (texts : List (List Char)) : List Char :=
  texts.flatMap (· ++ ['\n'])

/-- A text is cut into several lines, blanks at its ends aside. -/
def IsCut (text : List Char) : Prop :=
  ¬ Text.IsOneLine (Text.trim text)

instance (text : List Char) : Decidable (IsCut text) :=
  inferInstanceAs (Decidable (¬ Text.IsOneLine (Text.trim text)))

/-- The text of an object: its braces, what stands between them, and the blanks around it. -/
structure ObjectParts (ms : Members) (text g inner g' : List Char) : Prop where
  text_eq : text = g ++ ('\x7b' :: inner ++ ['\x7d'] ++ g')
  before : ∀ c ∈ g, Text.isBlank c = true
  behind : ∀ c ∈ g', Text.isBlank c = true
  spells : Json.Spells (.value (.obj ms)) ('\x7b' :: inner ++ ['\x7d'])

section ObjectParts

variable {ms : Members} {text g inner g' : List Char}

theorem exists_objectParts (h : Json.Spells (.element (.obj ms)) text) :
    ∃ g inner g', ObjectParts ms text g inner g' := by
  have hblank : ∀ c ∈ Json.gapChars, Text.isBlank c = true := by decide
  cases h with
  | @element _ g s g' hg hv hg' =>
    have hbraces : ∃ inner, s = '\x7b' :: inner ++ ['\x7d'] := by
      cases hv with
      | number hnumber => exact absurd rfl (hnumber.ne_obj _)
      | noMembers _ => exact ⟨_, rfl⟩
      | object _ => exact ⟨_, rfl⟩
    obtain ⟨inner, rfl⟩ := hbraces
    exact ⟨g, inner, g', rfl, fun c hc => hblank c (hg c hc), fun c hc => hblank c (hg' c hc), hv⟩

/-- The blanks behind the braces are trimmed off. -/
theorem trim_braces {p : List Char} (hp : ∀ c ∈ p, Text.isBlank c = true) (inner : List Char) :
    Text.trim ('\x7b' :: inner ++ ['\x7d'] ++ p) = '\x7b' :: inner ++ ['\x7d'] :=
  Text.trim_surrounded (g := []) (by simp) hp (by decide) (by decide) inner

theorem trim_bare (inner : List Char) :
    Text.trim ('\x7b' :: inner ++ ['\x7d']) = '\x7b' :: inner ++ ['\x7d'] := by
  have htrim := trim_braces (p := []) (by simp) inner
  rwa [List.append_nil] at htrim

theorem ObjectParts.trim_eq (h : ObjectParts ms text g inner g') :
    Text.trim text = '\x7b' :: inner ++ ['\x7d'] := by
  rw [h.text_eq, Text.trim_surrounded h.before h.behind (by decide) (by decide)]

/-- The text of an object that is not cut stands on a line, blanks around it aside. -/
theorem ObjectParts.madeOf_eq (hparts : ObjectParts ms text g inner g') (hcut : ¬ IsCut text)
    {α : Type} {f : List Char → Option α} (hf : Text.IgnoresBlanks f) (r : List Char) :
    Text.madeOf f (text ++ '\n' :: r) =
      (f ('\x7b' :: inner ++ ['\x7d'])).toList ++ Text.madeOf f r := by
  have hline : Text.IsOneLine ('\x7b' :: inner ++ ['\x7d']) := by
    rw [← hparts.trim_eq]
    exact Decidable.not_not.1 hcut
  -- the line ends at the first boundary behind the object, and only blanks follow
  have hend : ¬ Text.IsOneLine (g' ++ ['\n']) := fun hone =>
    absurd (hone '\n' (by simp)) (by decide)
  obtain ⟨p, b, q, hsplit, hp, hb⟩ := Text.exists_first_boundary hend
  have hblank : ∀ c ∈ p ++ b :: q, Text.isBlank c = true := by
    rw [← hsplit]
    intro c hc
    rcases List.mem_append.1 hc with hc | hc
    · exact hparts.behind c hc
    · rw [List.mem_singleton.1 hc]
      rfl
  obtain ⟨hpblank, hqblank⟩ := List.forall_mem_append.1 hblank
  have htrim : Text.trim ('\x7b' :: inner ++ ['\x7d'] ++ p) =
      Text.trim ('\x7b' :: inner ++ ['\x7d']) :=
    (trim_braces hpblank inner).trans (trim_bare inner).symm
  have htext : text ++ '\n' :: r =
      g ++ ('\x7b' :: inner ++ ['\x7d'] ++ p ++ b :: (q ++ r)) := by
    have hrest : g' ++ '\n' :: r = p ++ b :: (q ++ r) := by
      rw [← List.cons_append, ← List.append_assoc, ← hsplit, List.append_assoc]
      rfl
    rw [hparts.text_eq, List.append_assoc, List.append_assoc, hrest, List.append_assoc _ p]
  rw [htext, Text.madeOf_blanks hf hparts.before,
    Text.madeOf_append hf (List.forall_mem_append.2 ⟨hline, hp⟩) hb, hf.trim htrim,
    Text.madeOf_blanks hf fun c hc => hqblank c (List.mem_cons_of_mem b hc)]

/-- An object that is not cut is found on its line, and nothing of it is lost. -/
theorem objectsIn_text (h : Json.Spells (.element (.obj ms)) text) (hcut : ¬ IsCut text)
    (r : List Char) : objectsIn (text ++ '\n' :: r) = ms :: objectsIn r ∧
      brokenIn (text ++ '\n' :: r) = brokenIn r := by
  obtain ⟨g, inner, g', hparts⟩ := exists_objectParts h
  have hread := Json.read?_of_spells (Json.element_of_value hparts.spells)
  have hline : Line.ofChars ('\x7b' :: inner ++ ['\x7d']) = .object ms :=
    ofChars_of_read (trim_bare inner) hread
  constructor
  · rw [objectsIn, hparts.madeOf_eq hcut ignoresBlanks_objectOn?, objectOn?, hline]
    rfl
  · rw [brokenIn, hparts.madeOf_eq hcut ignoresBlanks_brokenOn?, brokenOn?, hline]
    rfl

/-- Of an object that is cut the first line cannot be read: it holds a beginning of the object. -/
theorem brokenIn_text (h : Json.Spells (.element (.obj ms)) text) (hcut : IsCut text)
    (r : List Char) : brokenIn (text ++ '\n' :: r) ≠ [] := by
  obtain ⟨g, inner, g', hparts⟩ := exists_objectParts h
  unfold IsCut at hcut
  rw [hparts.trim_eq] at hcut
  obtain ⟨p, b, q, hsplit, hp, hb⟩ := Text.exists_first_boundary hcut
  cases p with
  | nil =>
    -- the brace is no boundary
    obtain ⟨rfl, -⟩ := List.cons.inj hsplit
    cases hb
  | cons c p =>
    obtain ⟨rfl, -⟩ := List.cons.inj hsplit
    obtain ⟨p', blanks, htrim, hp'⟩ := Text.exists_trim_cons (a := '\x7b') (by decide) p
    have hspells : Json.Spells (.value (.obj ms)) ('\x7b' :: p' ++ (blanks ++ b :: q)) := by
      rw [← List.append_assoc, ← hp', ← hsplit]
      exact hparts.spells
    have hline : Line.ofChars ('\x7b' :: p) = .unreadable ('\x7b' :: p') := by
      unfold Line.ofChars
      rw [htrim]
      simp only [Json.read?_beginning hspells (by simp)]
    have htext : text ++ '\n' :: r = g ++ ('\x7b' :: p ++ b :: (q ++ (g' ++ '\n' :: r))) := by
      rw [hparts.text_eq, hsplit]
      simp
    rw [brokenIn, htext, Text.madeOf_blanks ignoresBlanks_brokenOn? hparts.before,
      Text.madeOf_append ignoresBlanks_brokenOn? hp hb, brokenOn?, hline]
    exact List.cons_ne_nil _ _

end ObjectParts

section Delimited

variable {objects : List Members} {texts : List (List Char)}

theorem delimited_cons (text : List Char) (texts : List (List Char)) :
    delimited (text :: texts) = text ++ '\n' :: delimited texts := by
  simp [delimited]

/-- By induction on the objects: none of them is cut. -/
theorem objectsIn_delimited
    (h : List.Forall₂ (fun ms text => Json.Spells (.element (.obj ms)) text) objects texts)
    (hwhole : ∀ text ∈ texts, ¬ IsCut text) : objectsIn (delimited texts) = objects := by
  induction h with
  | nil => rfl
  | cons hms _ ih =>
    obtain ⟨htext, htexts⟩ := List.forall_mem_cons.1 hwhole
    rw [delimited_cons, (objectsIn_text hms htext _).1, ih htexts]

/-- A line is lost if and only if an object is cut.  By induction on the objects, up to the first
that is cut. -/
theorem brokenIn_delimited
    (h : List.Forall₂ (fun ms text => Json.Spells (.element (.obj ms)) text) objects texts) :
    brokenIn (delimited texts) = [] ↔ ∀ text ∈ texts, ¬ IsCut text := by
  induction h with
  | nil => exact ⟨fun _ _ hmem => absurd hmem List.not_mem_nil, fun _ => rfl⟩
  | @cons ms text objects texts hms _ ih =>
    rw [delimited_cons, List.forall_mem_cons]
    by_cases hcut : IsCut text
    · exact ⟨fun hnone => absurd hnone (brokenIn_text hms hcut _),
        fun hwhole => absurd hcut hwhole.1⟩
    · rw [(objectsIn_text hms hcut _).2, ih]
      exact ⟨fun htexts => ⟨hcut, htexts⟩, And.right⟩

end Delimited

/-! ## What they say -/

/-- The text of a response. -/
def responseText? (ms : Members) : Option String :=
  (ms.get? "response").bind Json.string?

/-- The response of an object, if it has one that is not empty, is a text. -/
def SaysText (ms : Members) : Prop :=
  ∀ v, telling? ms "response" = some v → ∃ t, v = .str t

/-- What comes of objects: the pieces that are handed on are the responses before the first error,
which is the failure if there is one.  Else the text is that of the responses, which have to be
texts. -/
structure Arrives (objects : List Members) (handed : List Chunk) (r : Except Problem TestFile) :
    Prop where
  handed : piecesIn handed =
    (heardObjects objects).filterMap fun ms => telling? ms "response"
  failed : ∀ e, (objects.findSome? fun ms => telling? ms "error") = some e →
    r = .error (.failure (.plain .serviceFault e.plain))
  collected : (objects.findSome? fun ms => telling? ms "error") = none →
    (∀ ms ∈ objects, SaysText ms) →
    ∃ t, r = .ok t ∧ t.content = Text.trimmed (String.join (objects.filterMap responseText?))
  refused : (objects.findSome? fun ms => telling? ms "error") = none →
    ¬ (∀ ms ∈ objects, SaysText ms) → r = .error (.defect .wrongType)

theorem heardObjects_eq_self {objects : List Members}
    (h : (objects.findSome? fun ms => telling? ms "error") = none) :
    heardObjects objects = objects := by
  rw [List.findSome?_eq_none_iff] at h
  exact List.takeWhile_eq_self_iff.2 fun ms hms => by simp [h ms hms]

/-- A response that counts as true is a text that is not empty. -/
theorem telling?_response {ms : Members} (h : SaysText ms) :
    telling? ms "response" = ((responseText? ms).filter (· != "")).map .str := by
  unfold SaysText at h
  unfold telling? responseText? at *
  cases hv : ms.get? "response" with
  | none => rfl
  | some v =>
    cases htruthy : v.truthy with
    | true =>
      obtain ⟨t, rfl⟩ := h v (by simp [hv, htruthy])
      have ht : t ≠ "" := by simpa [Json.truthy] using htruthy
      simp [Option.filter, Json.string?, Json.truthy, ht]
    | false =>
      cases v with
      | str t =>
        have ht : t = "" := by simpa [Json.truthy] using htruthy
        simp [Option.filter, Json.string?, Json.truthy, ht]
      | _ => simp [Option.filter, Json.string?, htruthy]

theorem join_filterMap_filter (objects : List Members) :
    String.join (objects.filterMap fun ms => (responseText? ms).filter (· != "")) =
      String.join (objects.filterMap responseText?) := by
  induction objects with
  | nil => rfl
  | cons ms objects ih =>
    cases htext : responseText? ms with
    | none => simpa [htext] using ih
    | some t =>
      by_cases ht : t = ""
      · simpa [htext, ht, String.join_cons] using ih
      · have hkept : (some t).filter (· != "") = some t := by simp [Option.filter, ht]
        simp only [List.filterMap_cons, htext, hkept, String.join_cons, ih]

/-- Responses that are texts are the pieces of the text that they make up. -/
theorem exists_texts_of_says {objects : List Members} (h : ∀ ms ∈ objects, SaysText ms) :
    ∃ texts : List String,
      (objects.filterMap fun ms => telling? ms "response") = texts.map .str ∧
        String.join texts = String.join (objects.filterMap responseText?) := by
  refine ⟨_, ?_, join_filterMap_filter objects⟩
  rw [List.map_filterMap]
  exact List.filterMap_congr fun ms hms => telling?_response (h ms hms)

end TestScribe.Generation

namespace TestScribe.Generation.Backend

open Transport TestScribe.Flow

/-- Chunks are no text if one of their pieces is none. -/
theorem textOf?_eq_none {cs : List Chunk} {v : Json} (hmem : v ∈ piecesIn cs)
    (hv : v.string? = none) : textOf? cs = none := by
  obtain ⟨c, hc, rfl⟩ := List.mem_map.1 hmem
  replace hmem := (List.mem_filter.1 hc).1
  clear hc
  induction cs with
  | nil => exact absurd hmem List.not_mem_nil
  | cons d cs ih =>
    rw [textOf?_cons]
    rcases List.mem_cons.1 hmem with rfl | hmem
    · rw [hv]
      rfl
    · rw [ih hmem]
      cases d.content.string? <;> rfl

variable {s : Settings} {prompt : String} {options : Option Options} {b : Backend}
  {objects : List Members} {a : Answer}

/-- A request whose pieces are not all texts is not collected. -/
theorem collect_of_not_text {x : Summary} {v : Json}
    (hx : (Flow.run (stream s prompt options none) b).1 = .ok x)
    (hmem : v ∈ piecesIn (Flow.run (stream s prompt options none) b).2.handed)
    (hv : v.string? = none) :
    (Flow.run (collect s prompt options none) b).1 = .error (.defect .wrongType) := by
  have hrun : Flow.run (stream s prompt options none) b =
      (.ok x, (Flow.run (stream s prompt options none) b).2) := Prod.ext hx rfl
  unfold collect
  rw [run_bind_of_ok hrun, run_bind_of_ok (run_get _), textOf?_eq_none hmem hv]
  rfl

/-- A whole answer to the first request decides. -/
theorem served_by_first {n : Nat} {e : Except Problem Unit × Backend}
    (h : Served (textCall s prompt options) none (Patience.ofSettings s) b.begun n e)
    (hreply : b.script.first = .answer a) (hstatus : isError a.status = false)
    (hending : a.ending = .complete) : n = 0 := by
  cases n with
  | zero => rfl
  | succ n =>
    obtain ⟨-, f, hf, hretried⟩ := h.earlier 0 (Nat.succ_pos n)
    have hfirst : b.begun.script.reply 0 = .answer a := hreply
    rw [hfirst] at hf
    cases herror : a.lines.findSome? errorOn? with
    | some v =>
      rw [finish_of_error textAction hstatus herror] at hf
      obtain rfl := Finish.failed.inj hf
      cases hretried
    | none =>
      have hdone : (attemptOf textAction (.answer a)).finish = .done :=
        finish_eq_done_iff.2 ⟨a, rfl, hstatus, isWhole_of_complete hending herror⟩
      rw [hdone] at hf
      cases hf

/-- What comes of a whole answer to the first request. -/
theorem arrives_of_answer (hreply : b.script.first = .answer a) (hstatus : isError a.status = false)
    (hending : a.ending = .complete)
    (hwritable : objection? (textCall s prompt options) = none) (htimed : b.isTimed = true) :
    Arrives (objectsOn a.lines) (Flow.run (stream s prompt options none) b).2.handed
      (Flow.run (collect s prompt options none) b).1 := by
  have hfirst : b.begun.script.reply 0 = .answer a := hreply
  rcases stream_served s prompt options none b with ⟨d, hd, -⟩ | ⟨n, e, hserved, hrun⟩
  · rw [hwritable] at hd
    cases hd
  obtain rfl := served_by_first hserved hreply hstatus hending
  have hdelivered := delivered_of_served hserved hrun
  rw [← hrun] at hdelivered
  have hpieces := (hdelivered.pieces a hreply hstatus).trans (filterMap_heard a.lines)
  have hok : a.lines.findSome? errorOn? = none →
      ∃ x, (Flow.run (stream s prompt options none) b).1 = .ok x := by
    intro herror
    have hdone : (attemptOf textAction (b.begun.script.reply 0)).finish = .done := by
      rw [hfirst]
      exact finish_eq_done_iff.2 ⟨a, rfl, hstatus, isWhole_of_complete hending herror⟩
    rw [hrun]
    exact summarized_of_clock s options b e (hserved.eq_ok_iff.2 hdone) hserved.clock htimed
  constructor
  case handed => exact hpieces
  case failed =>
    intro v hv
    have herror := hdelivered.error a v hreply hstatus ((findSome?_errorOn? a.lines).trans hv)
    exact congrArg Prod.fst (run_bind_of_error (Prod.ext herror rfl))
  case collected =>
    intro hnone hsays
    obtain ⟨x, hx⟩ := hok ((findSome?_errorOn? a.lines).trans hnone)
    obtain ⟨texts, htexts, hjoin⟩ := exists_texts_of_says hsays
    rw [heardObjects_eq_self hnone, htexts] at hpieces
    obtain ⟨t, ht, hcontent⟩ := hdelivered.collected x texts hx hpieces
    exact ⟨t, ht, hjoin ▸ hcontent⟩
  case refused =>
    intro hnone hsays
    obtain ⟨x, hx⟩ := hok ((findSome?_errorOn? a.lines).trans hnone)
    rw [heardObjects_eq_self hnone] at hpieces
    obtain ⟨ms, hms, v, hv, hnot⟩ : ∃ ms ∈ objectsOn a.lines, ∃ v,
        telling? ms "response" = some v ∧ v.string? = none := by
      simp only [SaysText, not_forall] at hsays
      obtain ⟨ms, hms, v, hv, hnot⟩ := hsays
      refine ⟨ms, hms, v, hv, ?_⟩
      cases v with
      | str t => exact absurd ⟨t, rfl⟩ hnot
      | _ => rfl
    refine collect_of_not_text hx ?_ hnot
    rw [hpieces]
    exact List.mem_filterMap.2 ⟨ms, hms, hv⟩

/-- The text of objects that are each written on a line of its own is collected as a whole, if none
of them is cut into several lines.  If one is cut, a line of the answer cannot be read. -/
theorem collect_delimited (s : Settings) (prompt : String) (options : Option Options) (b : Backend)
    {objects : List Members} {texts : List (List Char)}
    (hobjects :
      List.Forall₂ (fun ms text => Json.Spells (.element (.obj ms)) text) objects texts)
    (hreply : b.script.first = .answer
      { status := 200, text := String.ofList (delimited texts), ending := .complete })
    (hwritable : objection? (textCall s prompt options) = none) (htimed : b.isTimed = true) :
    (brokenIn (delimited texts) = [] ↔ ∀ text ∈ texts, ¬ IsCut text) ∧
      ((∀ text ∈ texts, ¬ IsCut text) →
        Arrives objects (Flow.run (stream s prompt options none) b).2.handed
          (Flow.run (collect s prompt options none) b).1) := by
  refine ⟨brokenIn_delimited hobjects, fun hwhole => ?_⟩
  have harrives := arrives_of_answer hreply rfl rfl hwritable htimed
  have hfound : objectsOn (Answer.lines
      { status := 200, text := String.ofList (delimited texts), ending := .complete }) =
        objects := by
    rw [← objectsIn_delimited hobjects hwhole]
    exact congrArg (fun s => objectsOn (Text.lines s)) String.toList_ofList
  rwa [hfound] at harrives

/-! ## Two answers -/

/-- An object with a response, without gaps. -/
def responding (t : String) : List Char :=
  '\x7b' :: ('"' :: "response".toList ++ ['"'] ++ ':' :: ('"' :: t.toList ++ ['"'])) ++ ['\x7d']

theorem spells_responding {t : String}
    (h : ∀ c ∈ t.toList, 0x20 ≤ c.toNat ∧ c ≠ '"' ∧ c ≠ '\\') :
    Json.Spells (.element (.obj [("response", .str t)])) (responding t) := by
  have hname : Json.SpellsText "response" ('"' :: "response".toList ++ ['"']) :=
    .intro (Json.spellsChars_plain (by decide))
  have htext := Json.Spells.text (Json.SpellsText.intro (Json.spellsChars_plain h))
  have hmember :=
    Json.Spells.member Json.isGap_nil hname Json.isGap_nil (Json.element_of_value htext)
  have hobject := Json.element_of_value (Json.Spells.object (Json.Spells.lastMember hmember))
  rw [Members.ofList_of_nodup (by simp)] at hobject
  rwa [List.nil_append, List.nil_append] at hobject

theorem saysText_str (t : String) : SaysText [("response", .str t)] := by
  intro v hv
  obtain ⟨hmem, -⟩ := Option.filter_eq_some_iff.1 hv
  exact ⟨t, (Option.some.inj hmem).symm⟩

/-- A model server that answers with objects. -/
def delimiting (texts : List (List Char)) : Backend :=
  { script :=
      { first := .answer
          { status := 200, text := String.ofList (delimited texts), ending := .complete }
        rest := [] }
    handed := [], clock := { reading := fun _ => 0.0, used := 0 }, journal := [] }

theorem collect_delimited_pair :
    (∀ text ∈ [responding "it", responding "()"], ¬ IsCut text) ∧
      ∃ t, (Flow.run (collect impatient "p" none none)
          (delimiting [responding "it", responding "()"])).1 = .ok t ∧ t.content = "it()" := by
  have hwhole : ∀ text ∈ [responding "it", responding "()"], ¬ IsCut text := by decide
  have harrives := (collect_delimited impatient "p" none
    (delimiting [responding "it", responding "()"])
    (.cons (spells_responding (by decide)) (.cons (spells_responding (by decide)) .nil)) rfl
    (by decide +kernel) (by decide +kernel)).2 hwhole
  have hsays : ∀ ms ∈ [[("response", .str "it")], [("response", .str "()")]], SaysText ms :=
    List.forall_mem_cons.2 ⟨saysText_str "it", List.forall_mem_cons.2 ⟨saysText_str "()", by simp⟩⟩
  obtain ⟨t, ht, hcontent⟩ := harrives.collected (by decide +kernel) hsays
  exact ⟨hwhole, t, ht, hcontent.trans (by decide +kernel)⟩

/-- A separator of lines in a response is no line feed, but the response is lost. -/
theorem collect_loses_cut :
    ¬ ∀ (s : Settings) (prompt : String) (options : Option Options) (b : Backend)
      (objects : List Members) (texts : List (List Char)),
      List.Forall₂ (fun ms text => Json.Spells (.element (.obj ms)) text) objects texts →
      (∀ text ∈ texts, '\n' ∉ text) →
      b.script.first = .answer
        { status := 200, text := String.ofList (delimited texts), ending := .complete } →
      objection? (textCall s prompt options) = none → b.isTimed = true →
      (∀ ms ∈ objects, telling? ms "error" = none) → (∀ ms ∈ objects, SaysText ms) →
      ∃ t, (Flow.run (collect s prompt options none) b).1 = .ok t ∧
        t.content = Text.trimmed (String.join (objects.filterMap responseText?)) := by
  intro harrives
  have hlost : (Flow.run (collect impatient "p" none none)
      (delimiting [responding "a\u2028b"])).1.toOption.map (·.content) = some "" := by
    decide +kernel
  have hsays : ∀ ms ∈ [[("response", .str "a\u2028b")]], SaysText ms :=
    List.forall_mem_cons.2 ⟨saysText_str "a\u2028b", by simp⟩
  obtain ⟨t, ht, hcontent⟩ := harrives impatient "p" none (delimiting [responding "a\u2028b"])
    [[("response", .str "a\u2028b")]] _ (.cons (spells_responding (by decide)) .nil) (by decide) rfl
    (by decide +kernel) (by decide +kernel) (by decide +kernel) hsays
  rw [ht] at hlost
  have hwhole : Text.trimmed (String.join ([[("response", Json.str "a\u2028b")]].filterMap
      responseText?)) = "a\u2028b" := by
    decide +kernel
  rw [hwhole] at hcontent
  have hboth : some "a\u2028b" = some "" := (congrArg some hcontent).symm.trans hlost
  exact absurd hboth (by decide)

end TestScribe.Generation.Backend
