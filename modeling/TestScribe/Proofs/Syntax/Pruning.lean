import Mathlib.Data.List.Forall2
import TestScribe.Syntax.Source
import TestScribe.Syntax.Walk

/-!
# Trees without some of their comments

`Pruned t t'` says that `t'` is the tree `t` with some comments taken out, at any depth.  What is
reached from the two trees by a field or among the parts is again related in this way, and a walk of
`t` meets the comments in addition (`Pruned.visits`).  What is read off the whole walk is therefore
the same for both trees if it is the same at related nodes and nothing at comments
(`Thinned.filterMap_eq`, `Thinned.flatMap`).
-/

/-! ## Related options and lists -/

namespace Option.Rel

variable {α β γ δ : Type} {R : α → β → Prop} {Q : γ → δ → Prop} {a : Option α} {b : Option β}

theorem bind {f : α → Option γ} {g : β → Option δ} (h : Option.Rel R a b)
    (hf : ∀ x y, R x y → Option.Rel Q (f x) (g y)) : Option.Rel Q (a.bind f) (b.bind g) := by
  cases h with
  | some hxy => exact hf _ _ hxy
  | none => exact .none

theorem map {f : α → γ} {g : β → δ} (h : Option.Rel R a b) (hf : ∀ x y, R x y → Q (f x) (g y)) :
    Option.Rel Q (a.map f) (b.map g) := by
  cases h with
  | some hxy => exact .some (hf _ _ hxy)
  | none => exact .none

theorem bind_eq {f : α → Option γ} {g : β → Option γ} (h : Option.Rel R a b)
    (hf : ∀ x y, R x y → f x = g y) : a.bind f = b.bind g := by
  cases h with
  | some hxy => exact hf _ _ hxy
  | none => rfl

theorem map_eq {f : α → γ} {g : β → γ} (h : Option.Rel R a b) (hf : ∀ x y, R x y → f x = g y) :
    a.map f = b.map g := by
  cases h with
  | some hxy => exact congrArg _ (hf _ _ hxy)
  | none => rfl

theorem or {a' : Option α} {b' : Option β} (h : Option.Rel R a b) (h' : Option.Rel R a' b') :
    Option.Rel R (a.or a') (b.or b') := by
  cases h with
  | some hxy => exact .some hxy
  | none => exact h'

theorem filter {p : α → Bool} {q : β → Bool} (h : Option.Rel R a b)
    (hp : ∀ x y, R x y → p x = q y) : Option.Rel R (a.filter p) (b.filter q) := by
  cases h with
  | none => exact .none
  | @some x y hxy =>
    simp only [Option.filter_some, ← hp _ _ hxy]
    split
    · exact .some hxy
    · exact .none

theorem isSome_eq (h : Option.Rel R a b) : a.isSome = b.isSome := by
  cases h <;> rfl

theorem getD {d : α} {e : β} (h : Option.Rel R a b) (hd : R d e) : R (a.getD d) (b.getD e) := by
  cases h with
  | some hxy => exact hxy
  | none => exact hd

theorem toList (h : Option.Rel R a b) : List.Forall₂ R a.toList b.toList := by
  cases h with
  | some hxy => exact .cons hxy .nil
  | none => exact .nil

end Option.Rel

namespace List.Forall₂

variable {α β γ : Type} {R : α → β → Prop} {xs : List α} {ys : List β}

theorem getElem?_rel (h : Forall₂ R xs ys) (i : Nat) : Option.Rel R xs[i]? ys[i]? := by
  induction h generalizing i with
  | nil => exact .none
  | cons hxy _ ih =>
    cases i with
    | zero => exact .some hxy
    | succ i => exact ih i

theorem head?_rel (h : Forall₂ R xs ys) : Option.Rel R xs.head? ys.head? := by
  cases h with
  | nil => exact .none
  | cons hxy _ => exact .some hxy

theorem getLast?_rel (h : Forall₂ R xs ys) : Option.Rel R xs.getLast? ys.getLast? := by
  rw [List.getLast?_eq_head?_reverse, List.getLast?_eq_head?_reverse]
  exact (List.forall₂_reverse_iff.2 h).head?_rel

theorem map_eq {f : α → γ} {g : β → γ} (h : Forall₂ R xs ys) (hf : ∀ x y, R x y → f x = g y) :
    xs.map f = ys.map g := by
  induction h with
  | nil => rfl
  | cons hxy _ ih => rw [List.map_cons, List.map_cons, hf _ _ hxy, ih]

theorem filterMap_eq {f : α → Option γ} {g : β → Option γ} (h : Forall₂ R xs ys)
    (hf : ∀ x y, R x y → f x = g y) : xs.filterMap f = ys.filterMap g := by
  induction h with
  | nil => rfl
  | cons hxy _ ih => rw [List.filterMap_cons, List.filterMap_cons, hf _ _ hxy, ih]

theorem flatMap_eq {f : α → List γ} {g : β → List γ} (h : Forall₂ R xs ys)
    (hf : ∀ x y, R x y → f x = g y) : xs.flatMap f = ys.flatMap g := by
  rw [List.flatMap_def, List.flatMap_def, h.map_eq hf]

theorem filter_rel {p : α → Bool} {q : β → Bool} (h : Forall₂ R xs ys)
    (hp : ∀ x y, R x y → p x = q y) : Forall₂ R (xs.filter p) (ys.filter q) :=
  List.rel_filter (fun x y hxy => iff_of_eq (congrArg (· = true) (hp x y hxy))) h

end List.Forall₂

namespace TestScribe.Syntax

/-! ## Thinned lists -/

/-- What is left of a list when loose items are taken out of it, the others changed within `R`. -/
inductive Thinned {α β : Type} (R : α → β → Prop) (loose : α → Prop) : List α → List β → Prop
  | nil : Thinned R loose [] []
  | keep {x : α} {y : β} {xs : List α} {ys : List β} :
      R x y → Thinned R loose xs ys → Thinned R loose (x :: xs) (y :: ys)
  | drop {x : α} {xs : List α} {ys : List β} :
      loose x → Thinned R loose xs ys → Thinned R loose (x :: xs) ys

namespace Thinned

variable {α β γ δ : Type} {R : α → β → Prop} {loose : α → Prop} {Q : γ → δ → Prop}
  {xs xs' : List α} {ys ys' : List β}

theorem append (h : Thinned R loose xs ys) (h' : Thinned R loose xs' ys') :
    Thinned R loose (xs ++ xs') (ys ++ ys') := by
  induction h with
  | nil => exact h'
  | keep hxy _ ih => exact .keep hxy ih
  | drop hx _ ih => exact .drop hx ih

theorem map {f : α → γ} {g : β → δ} {free : γ → Prop} (h : Thinned R loose xs ys)
    (hf : ∀ x y, R x y → Q (f x) (g y)) (hx : ∀ x, loose x → free (f x)) :
    Thinned Q free (xs.map f) (ys.map g) := by
  induction h with
  | nil => exact .nil
  | keep hxy _ ih => exact .keep (hf _ _ hxy) ih
  | drop hl _ ih => exact .drop (hx _ hl) ih

/-- Nothing is read off loose items, and the same off related ones. -/
theorem flatMap {f : α → List γ} {g : β → List δ} (h : Thinned R loose xs ys)
    (hf : ∀ x y, R x y → List.Forall₂ Q (f x) (g y)) (hx : ∀ x, loose x → f x = []) :
    List.Forall₂ Q (xs.flatMap f) (ys.flatMap g) := by
  induction h with
  | nil => exact .nil
  | keep hxy _ ih =>
    rw [List.flatMap_cons, List.flatMap_cons]
    exact List.rel_append (hf _ _ hxy) ih
  | drop hl _ ih => rwa [List.flatMap_cons, hx _ hl, List.nil_append]

theorem filterMap {f : α → Option γ} {g : β → Option δ} (h : Thinned R loose xs ys)
    (hf : ∀ x y, R x y → Option.Rel Q (f x) (g y)) (hx : ∀ x, loose x → f x = none) :
    List.Forall₂ Q (xs.filterMap f) (ys.filterMap g) := by
  rw [List.filterMap_eq_flatMap_toList, List.filterMap_eq_flatMap_toList]
  exact h.flatMap (fun x y hxy => (hf x y hxy).toList) fun x hl => by rw [hx x hl]; rfl

theorem filterMap_eq {f : α → Option γ} {g : β → Option γ} (h : Thinned R loose xs ys)
    (hf : ∀ x y, R x y → f x = g y) (hx : ∀ x, loose x → f x = none) :
    xs.filterMap f = ys.filterMap g := by
  induction h with
  | nil => rfl
  | keep hxy _ ih => rw [List.filterMap_cons, List.filterMap_cons, hf _ _ hxy, ih]
  | drop hl _ ih => rw [List.filterMap_cons, hx _ hl, ih]

theorem filter {p : α → Bool} {q : β → Bool} (h : Thinned R loose xs ys)
    (hp : ∀ x y, R x y → p x = q y) (hx : ∀ x, loose x → p x = false) :
    List.Forall₂ R (xs.filter p) (ys.filter q) := by
  induction h with
  | nil => exact .nil
  | drop hl _ ih => simpa only [List.filter_cons_of_neg (Bool.eq_false_iff.1 (hx _ hl))] using ih
  | keep hxy _ ih =>
    simp only [List.filter_cons, hp _ _ hxy]
    split
    · exact .cons hxy ih
    · exact ih

theorem find? {p : α → Bool} {q : β → Bool} (h : Thinned R loose xs ys)
    (hp : ∀ x y, R x y → p x = q y) (hx : ∀ x, loose x → p x = false) :
    Option.Rel R (xs.find? p) (ys.find? q) := by
  rw [← List.head?_filter, ← List.head?_filter]
  exact (h.filter hp hx).head?_rel

theorem any_eq {p : α → Bool} {q : β → Bool} (h : Thinned R loose xs ys)
    (hp : ∀ x y, R x y → p x = q y) (hx : ∀ x, loose x → p x = false) : xs.any p = ys.any q := by
  rw [← List.isSome_find?, ← List.isSome_find?]
  exact (h.find? hp hx).isSome_eq

theorem all_eq {p : α → Bool} {q : β → Bool} (h : Thinned R loose xs ys)
    (hp : ∀ x y, R x y → p x = q y) (hx : ∀ x, loose x → p x = true) : xs.all p = ys.all q := by
  rw [List.all_eq_not_any_not, List.all_eq_not_any_not]
  refine congrArg not (h.any_eq (fun x y hxy => ?_) fun x hl => ?_)
  · rw [hp x y hxy]
  · rw [hx x hl]; rfl

end Thinned

/-! ## Pruned trees -/

/-- A comment that can be taken out of a tree: it has no children and fills no field. -/
structure LooseComment (n : Node) : Prop where
  kind : n.kind = "comment"
  field : n.field = none
  children : n.children = []

/-- A tree and what is left of it when some comments are taken out.  Nothing else is changed, and
the spans stay as they are. -/
inductive Pruned : Node → Node → Prop
  | mk (kind : String) (isNamed : Bool) (field : Option String) (missing hasError : Bool)
      (span : Span) {cs ds : List Node} : Thinned Pruned LooseComment cs ds →
      Pruned (.mk kind isNamed field missing hasError span cs)
        (.mk kind isNamed field missing hasError span ds)

namespace Pruned

variable {c d : Node}

theorem kind (h : Pruned c d) : c.kind = d.kind := by cases h; rfl

theorem isNamed (h : Pruned c d) : c.isNamed = d.isNamed := by cases h; rfl

theorem field (h : Pruned c d) : c.field = d.field := by cases h; rfl

theorem span (h : Pruned c d) : c.span = d.span := by cases h; rfl

theorem isComment (h : Pruned c d) : c.isComment = d.isComment := by
  unfold Node.isComment
  rw [h.kind]

theorem children (h : Pruned c d) : Thinned Pruned LooseComment c.children d.children := by
  cases h; assumption

/-! ## Children -/

theorem child? (h : Pruned c d) (name : String) :
    Option.Rel Pruned (c.child? name) (d.child? name) :=
  h.children.find? (fun x y hxy => by rw [hxy.field]) fun x hx => by rw [hx.field]; rfl

theorem parts (h : Pruned c d) : List.Forall₂ Pruned c.parts d.parts :=
  h.children.filter (fun x y hxy => by rw [hxy.isNamed, hxy.isComment]) fun x hx => by
    unfold Node.isComment
    rw [hx.kind]
    simp

theorem hasChild (h : Pruned c d) (kind : String) (hk : kind ≠ "comment") :
    c.hasChild kind = d.hasChild kind :=
  h.children.any_eq (fun x y hxy => by rw [hxy.kind]) fun x hx => by
    rw [hx.kind]
    simpa using hk.symm

/-- The named children of a kind, which is not that of comments. -/
theorem namedOfKind (h : Pruned c d) (kind : String) (hk : kind ≠ "comment") :
    List.Forall₂ Pruned (c.namedChildren.filter fun n => n.kind == kind)
      (d.namedChildren.filter fun n => n.kind == kind) := by
  unfold Node.namedChildren
  rw [List.filter_filter, List.filter_filter]
  refine h.children.filter (fun x y hxy => by rw [hxy.kind, hxy.isNamed]) fun x hx => ?_
  rw [hx.kind]
  simp [hk.symm]

theorem findNamed? (h : Pruned c d) (kind : String) (hk : kind ≠ "comment") :
    Option.Rel Pruned (c.namedChildren.find? fun n => n.kind == kind)
      (d.namedChildren.find? fun n => n.kind == kind) := by
  rw [← List.head?_filter, ← List.head?_filter]
  exact (h.namedOfKind kind hk).head?_rel

/-! ## Texts -/

variable (s : Source)

theorem text (h : Pruned c d) : s.text c = s.text d := by
  unfold Source.text
  rw [h.span]

theorem unquoted (h : Pruned c d) : s.unquoted c = s.unquoted d := by
  unfold Source.unquoted
  rw [h.text s]

theorem fieldText? (h : Pruned c d) (name : String) : s.fieldText? c name = s.fieldText? d name :=
  (h.child? name).map_eq fun _ _ hxy => hxy.text s

end Pruned

/-! ## Walks -/

/-- Visits of the same node of a tree and of what is left of it. -/
structure Visit.Pruned (v w : Visit) : Prop where
  node : Syntax.Pruned v.node w.node
  parent : Option.Rel Syntax.Pruned v.parent w.parent
  before : Thinned Syntax.Pruned LooseComment v.before w.before

/-- The visits of one of the two trees, the comments that were taken out passed over. -/
abbrev Walk.Pruned : List Visit → List Visit → Prop :=
  Thinned Visit.Pruned fun v => LooseComment v.node

mutual

/-- By recursion on the tree: a node that is left is met on both walks. -/
theorem Pruned.visitsIn {p q : Option Node} {b e : List Node} :
    (c d : Node) → Pruned c d → Option.Rel Pruned p q → Thinned Pruned LooseComment b e →
    Walk.Pruned (Node.visitsIn p b c) (Node.visitsIn q e d)
  | .mk _ _ _ _ _ _ cs, .mk _ _ _ _ _ _ ds, h, hp, hb => by
    have hall := Pruned.visitsAll h .nil cs ds h.children
    cases h
    exact .keep ⟨.mk _ _ _ _ _ _ ‹_›, hp, hb⟩ hall

/-- A comment that is taken out has one visit, its own. -/
theorem Pruned.visitsAll {c d : Node} (h : Pruned c d) {b e : List Node}
    (hb : Thinned Pruned LooseComment b e) :
    (cs ds : List Node) → Thinned Pruned LooseComment cs ds →
    Walk.Pruned (Node.visitsAll c b cs) (Node.visitsAll d e ds)
  | [], [], .nil => .nil
  | x :: xs, y :: ys, .keep hxy hrest =>
    (Pruned.visitsIn x y hxy (.some h) hb).append
      (Pruned.visitsAll h (.keep hxy hb) xs ys hrest)
  | .mk k n f m er sp zs :: xs, ds, .drop hx hrest => by
    have hzs : zs = [] := hx.children
    subst hzs
    exact .drop hx (Pruned.visitsAll h (.drop hx hb) xs ds hrest)

end

variable {t t' : Node}

theorem Pruned.visits (h : Pruned t t') : Walk.Pruned t.visits t'.visits :=
  Pruned.visitsIn t t' h .none .nil

theorem Pruned.nodes (h : Pruned t t') : Thinned Pruned LooseComment t.nodes t'.nodes :=
  h.visits.map (fun _ _ hvw => hvw.node) fun _ hv => hv

end TestScribe.Syntax
