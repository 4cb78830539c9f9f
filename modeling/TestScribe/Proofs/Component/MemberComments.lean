import Mathlib.Data.List.Basic
import Mathlib.Data.List.Induction
import TestScribe.Component.Props
import TestScribe.Grammar.Program

/-!
# Which comments describe a member

Between two neighboring members of a type stand comments and separators.  Of these comments the
description of the second member takes all but the first, and the first too unless it starts on the
row on which the first member ends (`commentsAbove_between`).  A comment behind the first that
starts on that row is taken although it belongs to the member before: the description is that of the
other comments exactly if no such comment has a text (`description_eq_own_iff`).
-/

namespace TestScribe.Component

open Syntax

variable {s : Source} {c p : Node} {between front : List Node}

/-! ## Members by place -/

/-- The name of a property signature, if it has one that is not empty. -/
def signatureName? (s : Source) (m : Node) : Option String :=
  if m.isNamed && m.kind == "property_signature" then
    (m.child? "name").bind fun key => nonempty? (keyName? s key)
  else none

theorem memberProp?_eq (s : Source) (before : List Node) (m : Node) :
    memberProp? s before m = (signatureName? s m).map fun name =>
      { name, type := ((m.child? "type").bind annotated?).map s.text, required := !m.hasChild "?",
        default := none, description := description? s before } := by
  unfold memberProp? signatureName?
  split
  · cases m.child? "name" with
    | none => rfl
    | some key => cases h : nonempty? (keyName? s key) <;> simp [h]
  · rfl

theorem memberProps_append (s : Source) (before cs ds : List Node) :
    memberProps s before (cs ++ ds) =
      memberProps s before cs ++ memberProps s (cs.reverse ++ before) ds := by
  induction cs generalizing before with
  | nil => rfl
  | cons c cs ih =>
    rw [List.cons_append, memberProps, memberProps, ih, List.append_assoc, List.reverse_cons,
      List.append_assoc, List.singleton_append]

theorem length_memberProps (s : Source) (before cs : List Node) :
    (memberProps s before cs).length = cs.countP fun m => (signatureName? s m).isSome := by
  induction cs generalizing before with
  | nil => rfl
  | cons c cs ih =>
    rw [memberProps, List.length_append, ih, List.countP_cons, memberProp?_eq, Nat.add_comm]
    cases signatureName? s c <;> rfl

/-! ## Comments between members -/

/-- Whether a comment starts on the row on which a member ends. -/
def startsBeside (p c : Node) : Bool :=
  p.span.endPoint.row == c.span.startPoint.row

/-- The comments without the first one, if that starts on the row on which the member `p` ends. -/
def withoutBeside (p : Node) : List Node → List Node
  | [] => []
  | c :: cs => if startsBeside p c then cs else c :: cs

theorem withoutBeside_append {cs : List Node} (h : cs ≠ []) (ds : List Node) :
    withoutBeside p (cs ++ ds) = withoutBeside p cs ++ ds := by
  cases cs with
  | nil => exact absurd rfl h
  | cons c cs =>
    rw [List.cons_append, withoutBeside, withoutBeside]
    split <;> rfl

/-- A member that other members follow: no comment, no separator and not the opening brace. -/
structure IsMember (p : Node) : Prop where
  comment : p.isComment = false
  separator : isSeparator p = false
  brace : p.kind ≠ "\x7b"

/-- What stands nearest in front of a comment, separators left aside, decides whether it trails. -/
theorem trails_between (hp : IsMember p) (hloose : ∀ n ∈ between, n.isComment ∨ isSeparator n) :
    trails c (between.reverse ++ p :: front) =
      ((between.filter Node.isComment).isEmpty && startsBeside p c) := by
  unfold trails
  induction between using List.reverseRecOn with
  | nil =>
    rw [List.reverse_nil, List.nil_append, List.dropWhile_cons_of_neg (by simp [hp.separator])]
    simp [hp.comment, hp.brace, startsBeside]
  | append_singleton between n ih =>
    have hbetween := ih fun n hn => hloose n (List.mem_append_left _ hn)
    rw [List.reverse_append, List.reverse_singleton, List.singleton_append, List.cons_append]
    by_cases hsep : isSeparator n = true
    · have hcomment : n.isComment = false := by
        simp only [isSeparator, Bool.or_eq_true, beq_iff_eq] at hsep
        rcases hsep with hk | hk <;> simp [Node.isComment, hk]
      rw [List.dropWhile_cons_of_pos hsep, hbetween, List.filter_append]
      simp [hcomment]
    · have hcomment : n.isComment = true :=
        (hloose n (List.mem_append_right _ (List.mem_singleton_self n))).resolve_right hsep
      rw [List.dropWhile_cons_of_neg hsep, List.filter_append]
      simp [hcomment]

/-- By induction from behind: the comments are taken one by one, and only the first of them has the
member in front of it. -/
theorem commentsAbove_between (hp : IsMember p)
    (hloose : ∀ n ∈ between, n.isComment ∨ isSeparator n) :
    (commentsAbove (between.reverse ++ p :: front)).reverse =
      withoutBeside p (between.filter Node.isComment) := by
  induction between using List.reverseRecOn with
  | nil => simp [commentsAbove, hp.comment, hp.separator, withoutBeside]
  | append_singleton between n ih =>
    have hfirst : ∀ n ∈ between, n.isComment ∨ isSeparator n :=
      fun n hn => hloose n (List.mem_append_left _ hn)
    rw [List.reverse_append, List.reverse_singleton, List.singleton_append, List.cons_append,
      commentsAbove, List.filter_append]
    specialize ih hfirst
    by_cases hcomment : n.isComment = true
    · rw [if_pos hcomment, trails_between hp hfirst, List.filter_cons_of_pos hcomment,
        List.filter_nil]
      by_cases hnone : between.filter Node.isComment = []
      · rw [hnone] at ih ⊢
        rw [List.isEmpty_nil, Bool.true_and, List.nil_append, withoutBeside]
        split
        · rfl
        · rw [List.reverse_cons, ih, withoutBeside, List.nil_append]
      · rw [List.isEmpty_eq_false_iff.2 hnone, Bool.false_and, if_neg Bool.false_ne_true,
          List.reverse_cons, ih, withoutBeside_append hnone]
    · have hsep : isSeparator n = true :=
        (hloose n (List.mem_append_right _ (List.mem_singleton_self n))).resolve_left hcomment
      rw [if_neg hcomment, if_pos hsep, List.filter_cons_of_neg hcomment, List.filter_nil,
        List.append_nil, ih]

/-! ## Descriptions -/

/-- The texts of comments that are not empty. -/
def textsOf (s : Source) (cs : List Node) : List String :=
  (cs.map fun c => commentText (s.text c)).filter (· != "")

/-- The description that some comments make up: their texts, empty ones dropped, joined by line
feeds, or none when nothing is left. -/
def describedBy (s : Source) (cs : List Node) : Option String :=
  match textsOf s cs with
  | [] => none
  | ts => some ("\n".intercalate ts)

theorem description?_eq (s : Source) (before : List Node) :
    description? s before = describedBy s (commentsAbove before).reverse := rfl

/-- The length of some texts, each with a line feed behind it. -/
def lengthOfLines : List String → Nat
  | [] => 0
  | t :: ts => t.length + 1 + lengthOfLines ts

theorem length_joined (t : String) (ts : List String) :
    ("\n".intercalate (t :: ts)).length + 1 = lengthOfLines (t :: ts) := by
  induction ts generalizing t with
  | nil => simp [lengthOfLines]
  | cons u ts ih =>
    have hnewline : "\n".length = 1 := by decide
    have hrest := ih u
    rw [String.intercalate_cons_cons, String.length_append, String.length_append, hnewline,
      lengthOfLines]
    omega

theorem lengthOfLines_le {ts us : List String} (h : us.Sublist ts) :
    lengthOfLines us ≤ lengthOfLines ts := by
  induction h with
  | slnil => exact Nat.le_refl _
  | cons t _ ih =>
    rw [lengthOfLines]
    omega
  | cons_cons t _ ih =>
    rw [lengthOfLines, lengthOfLines]
    omega

/-- Some texts and part of them join to the same only if they are all of them, since each adds to
the length. -/
theorem eq_of_lengthOfLines {ts us : List String} (h : us.Sublist ts)
    (hlength : lengthOfLines ts = lengthOfLines us) : us = ts := by
  induction h with
  | slnil => rfl
  | cons t h _ =>
    have hle := lengthOfLines_le h
    rw [lengthOfLines] at hlength
    omega
  | cons_cons t h ih =>
    rw [lengthOfLines, lengthOfLines] at hlength
    rw [ih (by omega)]

theorem textsOf_eq_of_describedBy {cs ds : List Node} (h : (textsOf s ds).Sublist (textsOf s cs))
    (hsame : describedBy s ds = describedBy s cs) : textsOf s ds = textsOf s cs := by
  unfold describedBy at hsame
  cases hds : textsOf s ds with
  | nil =>
    cases hcs : textsOf s cs with
    | nil => rfl
    | cons t ts => rw [hds, hcs] at hsame; cases hsame
  | cons u us =>
    cases hcs : textsOf s cs with
    | nil => rw [hds, hcs] at hsame; cases hsame
    | cons t ts =>
      rw [hds, hcs] at hsame h
      have hjoined := Option.some.inj hsame
      have hlength := congrArg String.length hjoined
      have ht := length_joined t ts
      have hu := length_joined u us
      exact eq_of_lengthOfLines h (by omega)

/-- Leaving comments out keeps the description exactly if they have no text. -/
theorem describedBy_filter_iff (cs : List Node) (q : Node → Bool) :
    describedBy s (cs.filter q) = describedBy s cs ↔
      ∀ c ∈ cs, q c = false → commentText (s.text c) = "" := by
  have htexts (ds : List Node) : textsOf s ds =
      (ds.filter fun c => commentText (s.text c) != "").map fun c => commentText (s.text c) := by
    unfold textsOf
    rw [List.filter_map]
    rfl
  have hsub : (textsOf s (cs.filter q)).Sublist (textsOf s cs) :=
    ((List.filter_sublist.map _).filter _)
  constructor
  · intro hsame c hc hq
    by_contra htext
    have heq := textsOf_eq_of_describedBy hsub hsame
    have hlength := congrArg List.length heq
    rw [htexts, htexts, List.length_map, List.length_map, List.filter_comm] at hlength
    have hkept := List.length_filter_eq_length_iff.1 hlength c
      (List.mem_filter.2 ⟨hc, bne_iff_ne.2 htext⟩)
    rw [hq] at hkept
    cases hkept
  · intro hempty
    have heq : textsOf s (cs.filter q) = textsOf s cs := by
      rw [htexts, htexts, List.filter_filter]
      refine congrArg _ (List.filter_congr fun c hc => ?_)
      cases hq : q c with
      | true => simp
      | false => simp [hempty c hc hq]
    unfold describedBy
    rw [heq]

/-! ## Neighboring members -/

/-- Two members of a type, the second a signature with a name, with nothing but comments and
separators between them. -/
structure Neighbors (s : Source) where
  type : Node
  front : List Node
  previous : Node
  between : List Node
  member : Node
  back : List Node
  isBody : type.kind = "object_type" ∨ type.kind = "interface_body"
  children : type.children = front ++ previous :: (between ++ member :: back)
  isMember : IsMember previous
  loose : ∀ n ∈ between, n.isComment ∨ isSeparator n
  isSignature : (signatureName? s member).isSome

namespace Neighbors

/-- The comments between the two members. -/
def comments (n : Neighbors s) : List Node :=
  n.between.filter Node.isComment

/-- The description by the comments between the two members that do not start on the row on which
the first one ends. -/
def ownDescription (n : Neighbors s) : Option String :=
  describedBy s (n.comments.filter fun c => !startsBeside n.previous c)

/-- What stands in front of the second member. -/
def before (n : Neighbors s) : List Node :=
  n.front ++ n.previous :: n.between

/-- The prop that the type has for the second member: as many props are in front of it as there are
signatures with a name. -/
def fact? (n : Neighbors s) : Option PropFact :=
  (typeProps s n.type)[n.before.countP fun m => (signatureName? s m).isSome]?

theorem fact?_eq (n : Neighbors s) : n.fact? = memberProp? s n.before.reverse n.member := by
  have hchildren : n.type.children = n.before ++ n.member :: n.back := by
    rw [n.children, before, List.append_assoc, List.cons_append]
  have hbody : (n.type.kind == "object_type" || n.type.kind == "interface_body") = true := by
    simpa using n.isBody
  obtain ⟨name, hname⟩ := Option.isSome_iff_exists.1 n.isSignature
  unfold fact? typeProps
  rw [if_pos hbody, hchildren, memberProps_append, ← length_memberProps s [],
    List.getElem?_append_right (Nat.le_refl _), Nat.sub_self, List.append_nil, memberProps,
    memberProp?_eq, hname]
  rfl

theorem description_before (n : Neighbors s) :
    description? s n.before.reverse = describedBy s (withoutBeside n.previous n.comments) := by
  rw [description?_eq, before, List.reverse_append, List.reverse_cons, List.append_assoc,
    List.singleton_append, commentsAbove_between n.isMember n.loose]
  rfl

end Neighbors

theorem filter_withoutBeside (p : Node) (cs : List Node) :
    (withoutBeside p cs).filter (fun c => !startsBeside p c) =
      cs.filter fun c => !startsBeside p c := by
  cases cs with
  | nil => rfl
  | cons c cs =>
    rw [withoutBeside]
    split
    case isTrue h => rw [List.filter_cons_of_neg (by simp [h])]
    case isFalse => rfl

theorem forall_withoutBeside_iff (p : Node) (cs : List Node) (empty : Node → Prop) :
    (∀ c ∈ withoutBeside p cs, (!startsBeside p c) = false → empty c) ↔
      ∀ c ∈ cs.tail, startsBeside p c → empty c := by
  simp only [Bool.not_eq_false']
  cases cs with
  | nil => rfl
  | cons c cs =>
    rw [withoutBeside, List.tail_cons]
    split
    case isTrue => rfl
    case isFalse h => rw [List.forall_mem_cons, and_iff_right fun hc => absurd hc h]

/-- A member is described by the comments between it and the member in front of it, without the
first if that starts beside the member in front.  This is the description by the comments that do
not start there exactly if no later one that starts there has a text. -/
theorem description_eq_own_iff (n : Neighbors s) :
    ∃ fact, n.fact? = some fact ∧ signatureName? s n.member = some fact.name ∧
      fact.description = describedBy s (withoutBeside n.previous n.comments) ∧
      (fact.description = n.ownDescription ↔
        ∀ c ∈ n.comments.tail, startsBeside n.previous c → commentText (s.text c) = "") := by
  obtain ⟨name, hname⟩ := Option.isSome_iff_exists.1 n.isSignature
  have hfact := n.fact?_eq
  rw [memberProp?_eq, hname, Option.map_some] at hfact
  refine ⟨_, hfact, hname, n.description_before, ?_⟩
  show description? s n.before.reverse = n.ownDescription ↔ _
  have hown : n.ownDescription = describedBy s
      ((withoutBeside n.previous n.comments).filter fun c => !startsBeside n.previous c) := by
    rw [filter_withoutBeside, Neighbors.ownDescription]
  rw [n.description_before, hown, eq_comm, describedBy_filter_iff]
  exact forall_withoutBeside_iff n.previous n.comments _

/-- An interface with two comments behind its first member. -/
def sizeCode : String :=
  "interface P \x7b\n  size: number; /* px */ /* width */\n  color: string;\n\x7d\n" ++
    "function Tag(props: P) \x7b return null; \x7d\n"

/-- The body of the interface. -/
def sizeBody : Node :=
  let span (row base i j : Nat) : Span := ⟨i, j, ⟨row, i - base⟩, ⟨row, j - base⟩⟩
  let signature (row base i j k : Nat) : Node :=
    .mk "property_signature" true none false false (span row base i k) [
      .mk "property_identifier" true (some "name") false false (span row base i j) [],
      .mk "type_annotation" true (some "type") false false (span row base j k) [
        .mk ":" false none false false (span row base j (j + 1)) [],
        .mk "predefined_type" true none false false (span row base (j + 2) k) []]]
  .mk "interface_body" true (some "body") false false ⟨12, 69, ⟨0, 12⟩, ⟨3, 1⟩⟩ [
    .mk "\x7b" false none false false (span 0 0 12 13) [],
    signature 1 14 16 20 28,
    .mk ";" false none false false (span 1 14 28 29) [],
    .mk "comment" true none false false (span 1 14 30 38) [],
    .mk "comment" true none false false (span 1 14 39 50) [],
    signature 2 51 53 58 66,
    .mk ";" false none false false (span 2 51 66 67) [],
    .mk "\x7d" false none false false (span 3 68 68 69) []]

/-- The second comment behind a member is taken for a description of the next one. -/
theorem second_comment_beside_describes :
    (∃ n : Neighbors (Source.ofText sizeCode), n.type = sizeBody ∧ n.ownDescription = none ∧
      n.fact?.map PropFact.description = some (some "width")) ∧
    (Grammar.parse? .tsx sizeCode).map (fun root =>
      (props (Source.ofText sizeCode) root "Tag").map fun p => (p.name, p.description)) =
        some [("size", none), ("color", some "width")] := by
  refine ⟨⟨⟨sizeBody, sizeBody.children.take 1, sizeBody.children[1],
    (sizeBody.children.drop 2).take 3, sizeBody.children[5], sizeBody.children.drop 6,
    .inr rfl, rfl, ⟨by decide, by decide, by decide⟩, by decide, by decide +kernel⟩,
    rfl, ?_, ?_⟩, ?_⟩
  · decide +kernel
  · decide +kernel
  · decide +kernel

end TestScribe.Component
