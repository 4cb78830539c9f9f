import TestScribe.Component.Props
import TestScribe.Proofs.Component.FactsOfPruned

/-!
# Props do not depend on comments

Only the members of types take something from comments, their descriptions (`memberProp?_alike`).
What functions take out of their parameters is the same without comments (`takenProps_eq`), and so
is the list of the members but for the descriptions (`typedProps_alike`).  With the other facts of a
tree this is `sameFacts_of_pruned`.
-/

namespace TestScribe.Component

open Syntax

variable {s : Source} {c d t t' : Node}

/-! ## Types -/

theorem annotated?_rel (h : Pruned c d) : Option.Rel Pruned (annotated? c) (annotated? d) := by
  unfold annotated?
  rw [h.kind]
  split
  · exact h.parts.head?_rel
  · exact .none

/-- The type that is annotated in a field of a node. -/
theorem typeIn_rel (h : Pruned c d) (name : String) :
    Option.Rel Pruned ((c.child? name).bind annotated?) ((d.child? name).bind annotated?) :=
  (h.child? name).bind fun _ _ hxy => annotated?_rel hxy

mutual

/-- By recursion on the type, through parentheses and lookups. -/
theorem typeName?_eq : (c d : Node) → Pruned c d → typeName? s c = typeName? s d
  | .mk k n f m e sp cs, .mk k' n' f' m' e' sp' ds, h => by
    obtain rfl : k = k' := h.kind
    simp only [typeName?, h.text s, h.fieldText? s, firstTypeName?_eq cs ds h.children]

/-- A comment in front of the first part is no part. -/
theorem firstTypeName?_eq : (cs ds : List Node) → Thinned Pruned LooseComment cs ds →
    firstTypeName? s cs = firstTypeName? s ds
  | [], [], .nil => rfl
  | x :: xs, y :: ys, .keep hxy hrest => by
    rw [firstTypeName?, firstTypeName?, hxy.isNamed, hxy.isComment, typeName?_eq x y hxy,
      firstTypeName?_eq xs ys hrest]
  | x :: xs, ds, .drop hx hrest => by
    have hcomment : x.isComment = true := beq_iff_eq.2 hx.kind
    rw [firstTypeName?, hcomment, Bool.not_true, Bool.and_false, if_neg Bool.false_ne_true,
      firstTypeName?_eq xs ds hrest]

end

theorem firstTypeArgument?_rel (h : Pruned c d) :
    Option.Rel Pruned (firstTypeArgument? c) (firstTypeArgument? d) := by
  unfold firstTypeArgument?
  rw [h.kind]
  split
  · have harguments := (h.child? "type_arguments").or (h.findNamed? "type_arguments" (by decide))
    exact harguments.bind fun _ _ hxy => hxy.parts.head?_rel
  · exact .none

/-! ## Members of types -/

/-- A prop without its description. -/
def PropFact.undescribed (p : PropFact) : PropFact :=
  { p with description := none }

/-- Props that differ in their descriptions at most. -/
def PropFact.Alike (p q : PropFact) : Prop :=
  p.undescribed = q.undescribed

theorem PropFact.Alike.name {p q : PropFact} (h : p.Alike q) : p.name = q.name :=
  (PropFact.mk.inj h).1

theorem PropFact.Alike.type {p q : PropFact} (h : p.Alike q) : p.type = q.type :=
  (PropFact.mk.inj h).2.1

theorem PropFact.Alike.required {p q : PropFact} (h : p.Alike q) : p.required = q.required :=
  (PropFact.mk.inj h).2.2.1

theorem keyName?_eq (h : Pruned c d) : keyName? s c = keyName? s d := by
  unfold keyName?
  rw [h.kind, h.text s, h.unquoted s]

/-- What stands in front of a member shows in its description only. -/
theorem memberProp?_alike (h : Pruned c d) (b e : List Node) :
    Option.Rel PropFact.Alike (memberProp? s b c) (memberProp? s e d) := by
  unfold memberProp?
  rw [h.isNamed, h.kind, h.hasChild "?" (by decide),
    (typeIn_rel h "type").map_eq fun _ _ hxy => hxy.text s]
  split
  · refine (h.child? "name").bind fun x y hxy => ?_
    rw [keyName?_eq hxy]
    cases nonempty? (keyName? s y) with
    | none => exact .none
    | some name => exact .some rfl
  · exact .none

theorem memberProps_alike {cs ds : List Node} (h : Thinned Pruned LooseComment cs ds)
    (b e : List Node) :
    List.Forall₂ PropFact.Alike (memberProps s b cs) (memberProps s e ds) := by
  induction h generalizing b e with
  | nil => exact .nil
  | keep hxy _ ih => exact List.rel_append (memberProp?_alike hxy b e).toList (ih _ _)
  | drop hx _ ih =>
    rw [memberProps, show memberProp? s b _ = none by simp [memberProp?, hx.kind]]
    exact ih _ _

theorem typeProps_alike (h : Pruned c d) :
    List.Forall₂ PropFact.Alike (typeProps s c) (typeProps s d) := by
  unfold typeProps
  rw [h.kind]
  split
  · exact memberProps_alike h.children [] []
  · exact .nil

/-- The name and the members of a declared type. -/
theorem typeDeclaration?_rel (h : Pruned c d) :
    Option.Rel (fun a b => a.1 = b.1 ∧ Pruned a.2 b.2) (typeDeclaration? s c)
      (typeDeclaration? s d) := by
  have declares : ∀ x y, Pruned x y → Option.Rel (fun a b => a.1 = b.1 ∧ Pruned a.2 b.2)
      ((nonempty? (s.fieldText? c "name")).bind fun name => some (name, x))
      ((nonempty? (s.fieldText? d "name")).bind fun name => some (name, y)) := fun x y hxy => by
    rw [h.fieldText? s]
    cases nonempty? (s.fieldText? d "name") with
    | none => exact .none
    | some name => exact .some ⟨rfl, hxy⟩
  unfold typeDeclaration?
  dsimp only
  rw [h.kind]
  split
  · exact (h.child? "body").bind declares
  split
  · exact (h.child? "value").bind declares
  · exact .none

theorem declaredType?_rel (h : Pruned t t') (name : String) :
    Option.Rel Pruned (declaredType? s t name) (declaredType? s t' name) := by
  have declared := h.nodes.filterMap (fun _ _ hxy => typeDeclaration?_rel (s := s) hxy)
    fun x hx => by simp [typeDeclaration?, hx.kind]
  have ofName := declared.filter_rel (p := fun a => a.1 == name) (q := fun a => a.1 == name)
    fun _ _ hab => by rw [hab.1]
  exact ofName.getLast?_rel.map fun _ _ hab => hab.2

/-! ## Parameters -/

/-- Of the members of the parameter's own type, names, types and marks count. -/
theorem takenProp?_eq {inline inline' : List PropFact}
    (h : List.Forall₂ PropFact.Alike inline inline') (optional : Bool) (name : Option String)
    {a b : Option Node} (hdefault : Option.Rel Pruned a b) :
    takenProp? s inline optional name a = takenProp? s inline' optional name b := by
  have htext : a.map s.text = b.map s.text := hdefault.map_eq fun _ _ hxy => hxy.text s
  have hnone : a.isNone = b.isNone := by
    rw [← Option.isNone_map (f := s.text), htext, Option.isNone_map]
  unfold takenProp?
  cases nonempty? name with
  | none => rfl
  | some name =>
    have member := (h.filter_rel (p := fun p => p.name == name) (q := fun p => p.name == name)
      fun _ _ hpq => by rw [hpq.name]).getLast?_rel
    simp only [Option.bind_eq_bind, Option.bind_some, htext, hnone]
    generalize (inline.filter fun p => p.name == name).getLast? = m,
      (inline'.filter fun p => p.name == name).getLast? = m' at member ⊢
    cases member with
    | none => rfl
    | some hpq => simp only [Option.bind_some, Option.any_some, hpq.type, hpq.required]

theorem patternProp?_eq {inline inline' : List PropFact}
    (h : List.Forall₂ PropFact.Alike inline inline') (optional : Bool) (hcd : Pruned c d) :
    patternProp? s inline optional c = patternProp? s inline' optional d := by
  unfold patternProp?
  rw [hcd.kind, hcd.text s]
  split
  · exact takenProp?_eq h optional _ .none
  split
  · refine (hcd.child? "left").bind_eq fun x y hxy => ?_
    rw [hxy.kind, hxy.text s, takenProp?_eq h optional _ (hcd.child? "right")]
  split
  · have hkey := (hcd.child? "key").bind_eq fun _ _ hxy => keyName?_eq (s := s) hxy
    rw [hkey]
    refine takenProp?_eq h optional _ ((hcd.child? "value").bind fun x y hxy => ?_)
    rw [hxy.kind]
    split
    · exact hxy.child? "right"
    · exact .none
  split
  · refine hcd.parts.head?_rel.bind_eq fun x y hxy => ?_
    rw [hxy.kind, hxy.text s]
  · rfl

theorem firstParameter?_rel (h : Pruned c d) :
    Option.Rel Pruned (firstParameter? c) (firstParameter? d) := by
  refine (h.child? "parameters").bind fun x y hxy => ?_
  rw [hxy.kind]
  split
  · refine hxy.parts.head?_rel.bind fun a b hab => ?_
    rw [hab.kind]
    split
    · exact .some hab
    · exact .none
  · exact .none

theorem parameterProps_eq (h : Pruned c d) : parameterProps s c = parameterProps s d := by
  unfold parameterProps
  have hfirst := firstParameter?_rel h
  generalize firstParameter? c = a, firstParameter? d = b at hfirst ⊢
  cases hfirst with
  | none => rfl
  | @some p q hpq =>
    have inline : List.Forall₂ PropFact.Alike (((parameterType? p).map (typeProps s)).getD [])
        (((parameterType? q).map (typeProps s)).getD []) :=
      ((typeIn_rel hpq "type").map fun _ _ hab => typeProps_alike hab).getD .nil
    have hpattern := hpq.child? "pattern"
    dsimp only
    rw [hpq.kind, (hpq.child? "value").isSome_eq]
    generalize p.child? "pattern" = a, q.child? "pattern" = b at hpattern ⊢
    cases hpattern with
    | none => rfl
    | some hab =>
      dsimp only
      rw [hab.kind, hab.parts.filterMap_eq fun _ _ hxy => patternProp?_eq inline _ hxy]

/-! ## What is said about the component -/

theorem classPropsType?_eq (h : Pruned c d) : classPropsType? s c = classPropsType? s d := by
  unfold classPropsType?
  have heritages := h.namedOfKind "class_heritage" (by decide)
  have clauses := List.rel_flatMap heritages fun _ _ hxy =>
    hxy.namedOfKind "extends_clause" (by decide)
  have arguments := List.rel_flatMap clauses fun _ _ hxy =>
    hxy.namedOfKind "type_arguments" (by decide)
  refine arguments.head?_rel.bind_eq fun x y hxy => ?_
  exact hxy.parts.head?_rel.bind_eq fun a b hab => typeName?_eq a b hab

/-- Mentions in a tree and in what is left of it. -/
inductive Mention.Pruned : Mention → Mention → Prop
  | function {c d : Node} : Syntax.Pruned c d → Mention.Pruned (.function c) (.function d)
  | type (name : String) : Mention.Pruned (.type name) (.type name)

theorem typeMention_rel (name : Option String) :
    List.Forall₂ Mention.Pruned (typeMention name) (typeMention name) := by
  unfold typeMention
  cases nonempty? name with
  | none => exact .nil
  | some name => exact .cons (.type name) .nil

theorem mentions_rel (h : Pruned c d) (name : String) :
    List.Forall₂ Mention.Pruned (mentions s name c) (mentions s name d) := by
  unfold mentions
  simp only [h.kind, h.fieldText? s, isFunctionValue_eq h, isClassDeclaration_eq h,
    classPropsType?_eq h]
  split
  · split
    · exact .cons (.function h) .nil
    · exact .nil
  split
  · split
    · have htype : ((c.child? "type").bind annotated?).bind (fun t =>
          typeName? s ((firstTypeArgument? t).getD t)) =
          ((d.child? "type").bind annotated?).bind fun t =>
            typeName? s ((firstTypeArgument? t).getD t) := by
        refine (typeIn_rel h "type").bind_eq fun x y hxy => typeName?_eq _ _ ?_
        exact (firstTypeArgument?_rel hxy).getD hxy
      have hvalue := (h.child? "value").filter (p := isFunctionValue) (q := isFunctionValue)
        fun _ _ hxy => isFunctionValue_eq hxy
      rw [htype]
      exact List.rel_append (typeMention_rel _)
        (hvalue.map fun _ _ hxy => Mention.Pruned.function hxy).toList
    · exact .nil
  split
  · split
    · exact typeMention_rel _
    · exact .nil
  · exact .nil

/-- Spans are kept, so a function is left out on both sides or on none. -/
theorem readOnce_rel {ms ns : List Mention} (h : List.Forall₂ Mention.Pruned ms ns)
    (seen : List (Nat × Nat)) :
    List.Forall₂ Mention.Pruned (readOnce seen ms) (readOnce seen ns) := by
  induction h generalizing seen with
  | nil => exact .nil
  | cons hmn _ ih =>
    cases hmn with
    | type name => exact .cons (.type name) (ih seen)
    | function hcd =>
      simp only [readOnce, hcd.span]
      split
      · exact ih seen
      · exact .cons (.function hcd) (ih _)

theorem Mention.props_eq {m n : Mention} (h : m.Pruned n) : m.props s = n.props s := by
  cases h with
  | function hcd => exact parameterProps_eq hcd
  | type name => rfl

theorem Mention.types_eq {m n : Mention} (h : m.Pruned n) : m.types s = n.types s := by
  cases h with
  | type name => rfl
  | function hcd =>
    have htype := ((firstParameter?_rel hcd).bind fun _ _ hxy => typeIn_rel hxy "type").bind_eq
      fun a b hab => typeName?_eq (s := s) a b hab
    exact congrArg (fun name => (nonempty? name).toList) htype

/-! ## Props -/

/-- What is said about the props of the component `name`. -/
def said (s : Source) (root : Node) (name : String) : List Mention :=
  readOnce [] (root.nodes.flatMap (mentions s name))

/-- The props that the functions of the component take out of their parameters. -/
def takenProps (s : Source) (root : Node) (name : String) : List PropFact :=
  (said s root name).flatMap (Mention.props s)

/-- The members of the types that are named for the props of the component. -/
def typedProps (s : Source) (root : Node) (name : String) : List PropFact :=
  ((said s root name).flatMap (Mention.types s)).eraseDups.flatMap fun t =>
    ((declaredType? s root t).map (typeProps s)).getD []

theorem props_eq_append (s : Source) (root : Node) (name : String) :
    props s root name = takenProps s root name ++ typedProps s root name := rfl

theorem said_rel (h : Pruned t t') (name : String) :
    List.Forall₂ Mention.Pruned (said s t name) (said s t' name) := by
  refine readOnce_rel (h.nodes.flatMap (fun _ _ hxy => mentions_rel hxy name) fun x hx => ?_) []
  simp [mentions, isFunctionValue, isClassDeclaration, hx.kind]

theorem takenProps_eq (h : Pruned t t') (name : String) :
    takenProps s t name = takenProps s t' name :=
  (said_rel h name).flatMap_eq fun _ _ hmn => Mention.props_eq hmn

theorem typedProps_alike (h : Pruned t t') (name : String) :
    List.Forall₂ PropFact.Alike (typedProps s t name) (typedProps s t' name) := by
  unfold typedProps
  rw [(said_rel h name).flatMap_eq fun _ _ hmn => Mention.types_eq hmn]
  refine List.rel_flatMap (R := Eq) (List.forall₂_refl _) fun n n' hn => ?_
  subst hn
  exact ((declaredType?_rel h n).map fun _ _ hab => typeProps_alike hab).getD .nil

/-! ## All facts -/

/-- The facts that are read off two trees over a source are the same, but for the descriptions that
members of types take from comments. -/
structure SameFacts (s : Source) (t t' : Node) : Prop where
  name : name? s t = name? s t'
  form (name : String) : form s t name = form s t' name
  hooks : hooks s t = hooks s t'
  state : state s t = state s t'
  handlers : handlers s t = handlers s t'
  testIds : testIds s t = testIds s t'
  imports : imports s t = imports s t'
  props (name : String) :
    props s t name = takenProps s t name ++ typedProps s t name ∧
    props s t' name = takenProps s t name ++ typedProps s t' name ∧
    (typedProps s t name).map PropFact.undescribed =
      (typedProps s t' name).map PropFact.undescribed

/-- Comments do not change what is read off a tree, wherever they stand. -/
theorem sameFacts_of_pruned (s : Source) {t t' : Node} (h : Pruned t t') : SameFacts s t t' where
  name := name?_eq h
  form := form_eq h
  hooks := hooks_eq h
  state := state_eq h
  handlers := handlers_eq h
  testIds := testIds_eq h
  imports := imports_eq h
  props name := by
    refine ⟨props_eq_append s t name, ?_, (typedProps_alike h name).map_eq fun _ _ hpq => hpq⟩
    rw [takenProps_eq h name]
    exact props_eq_append s t' name

/-! A comment in front of the first argument of a state hook. -/

/-- The bytes of a line from `start` to `stop`. -/
def spanOn (start stop : Nat) : Span :=
  ⟨start, stop, ⟨0, start⟩, ⟨0, stop⟩⟩

/-- The tree of `const [n] = useState(/*a*/1)`, the comment among the arguments given apart. -/
def stateTree (comments : List Node) : Node :=
  .mk "program" true none false false (spanOn 0 28) [
    .mk "lexical_declaration" true none false false (spanOn 0 28) [
      .mk "variable_declarator" true none false false (spanOn 6 28) [
        .mk "array_pattern" true (some "name") false false (spanOn 6 9) [
          .mk "[" false none false false (spanOn 6 7) [],
          .mk "identifier" true none false false (spanOn 7 8) [],
          .mk "]" false none false false (spanOn 8 9) []],
        .mk "call_expression" true (some "value") false false (spanOn 12 28) [
          .mk "identifier" true (some "function") false false (spanOn 12 20) [],
          .mk "arguments" true (some "arguments") false false (spanOn 20 28) (comments ++ [
            .mk "number" true none false false (spanOn 26 27) []])]]]]

theorem sameFacts_of_pruned_stateTree :
    let s := Source.ofText "const [n] = useState(/*a*/1)"
    let comment := Node.mk "comment" true none false false (spanOn 21 26) []
    SameFacts s (stateTree [comment]) (stateTree []) ∧
      state s (stateTree [comment]) = [{ name := "n", initial := some "1" }] := by
  have leaf (k : String) (n : Bool) (f : Option String) (sp : Span) :
      Pruned (.mk k n f false false sp []) (.mk k n f false false sp []) := .mk _ _ _ _ _ _ .nil
  have pruned : Pruned
      (stateTree [.mk "comment" true none false false (spanOn 21 26) []]) (stateTree []) := by
    refine .mk _ _ _ _ _ _ (.keep (.mk _ _ _ _ _ _ (.keep (.mk _ _ _ _ _ _ ?_) .nil)) .nil)
    refine .keep (.mk _ _ _ _ _ _ (.keep (leaf _ _ _ _) (.keep (leaf _ _ _ _)
      (.keep (leaf _ _ _ _) .nil)))) ?_
    refine .keep (.mk _ _ _ _ _ _ (.keep (leaf _ _ _ _) (.keep (.mk _ _ _ _ _ _ ?_) .nil))) .nil
    exact .drop ⟨rfl, rfl, rfl⟩ (.keep (leaf _ _ _ _) .nil)
  exact ⟨sameFacts_of_pruned _ pruned, by decide +kernel⟩

end TestScribe.Component
