import TestScribe.Proofs.Component.ParameterProps
import TestScribe.Proofs.Component.PropsOfPruned
import TestScribe.Proofs.FirstSeen

/-!
# Props are complete and counted once

Each node of a tree says at most two things about the props of a component: the name of their type
and the function that takes them (`Says`).  A function that is met again is left out
(`said_eq_eraseDupsBy`), so each function contributes its entries once, and each type that is
referred to contributes the members of its last declaration.  Together this is `props_complete`.
-/

namespace TestScribe.Component

open Syntax

variable {s : Source} {root n f body : Node} {name t : String}

/-! ## What a node says -/

/-- A node binds `name` to a function: the function has this name itself, or it is the value of a
variable of this name. -/
inductive Binds (s : Source) (name : String) : Node → Node → Prop
  | own {f : Node} : f.kind ∈ "function_declaration" :: functionValueKinds →
      s.fieldText? f "name" = some name → Binds s name f f
  | value {n f : Node} : n.kind = "variable_declarator" → s.fieldText? n "name" = some name →
      n.child? "value" = some f → f.kind ∈ functionValueKinds → Binds s name n f

/-- The rows of type arguments in what a class extends. -/
def superArguments (n : Node) : List Node :=
  let heritages := n.namedChildren.filter fun c => c.kind == "class_heritage"
  let clauses := heritages.flatMap fun h =>
    h.namedChildren.filter fun c => c.kind == "extends_clause"
  clauses.flatMap fun h => h.namedChildren.filter fun c => c.kind == "type_arguments"

/-- A node names the type of the props of `name`: a variable by its annotation, of which the first
type argument goes before the whole, and a class by the first type argument of what it extends. -/
inductive NamesType (s : Source) (name : String) : Node → String → Prop
  | variable {n type : Node} {t : String} : n.kind = "variable_declarator" →
      s.fieldText? n "name" = some name → (n.child? "type").bind annotated? = some type →
      typeName? s ((firstTypeArgument? type).getD type) = some t → t ≠ "" → NamesType s name n t
  | ofClass {n arguments type : Node} {t : String} : n.kind ∈ classKinds →
      s.fieldText? n "name" = some name → (superArguments n).head? = some arguments →
      arguments.parts.head? = some type → typeName? s type = some t → t ≠ "" → NamesType s name n t

/-- What a node says about the props of `name`, the type before the function. -/
inductive Says (s : Source) (name : String) (n : Node) : List Mention → Prop
  | mk {type : Option String} {function : Option Node} :
      (∀ t, type = some t ↔ NamesType s name n t) →
      (∀ f, function = some f ↔ Binds s name n f) →
      Says s name n ((type.map Mention.type).toList ++ (function.map Mention.function).toList)

/-- The function that a node binds to `name`. -/
def boundFunction? (s : Source) (name : String) (n : Node) : Option Node :=
  if s.fieldText? n "name" = some name then
    if n.kind ∈ "function_declaration" :: functionValueKinds then some n
    else if n.kind = "variable_declarator" then (n.child? "value").filter isFunctionValue
    else none
  else none

/-- The type that a node names for the props of `name`. -/
def namedType? (s : Source) (name : String) (n : Node) : Option String :=
  if s.fieldText? n "name" = some name then
    if n.kind = "variable_declarator" then
      nonempty? (((n.child? "type").bind annotated?).bind fun t =>
        typeName? s ((firstTypeArgument? t).getD t))
    else if n.kind ∈ classKinds then nonempty? (classPropsType? s n)
    else none
  else none

theorem boundFunction?_eq_some_iff : boundFunction? s name n = some f ↔ Binds s name n f := by
  unfold boundFunction?
  constructor
  · intro h
    split at h
    case isFalse => cases h
    case isTrue hname =>
      split at h
      case isTrue hk =>
        cases h
        exact .own hk hname
      split at h
      case isTrue hk =>
        obtain ⟨hvalue, hf⟩ := Option.filter_eq_some_iff.1 h
        exact .value hk hname hvalue (isFunctionValue_iff.1 hf)
      case isFalse => cases h
  · rintro (⟨hk, hname⟩ | ⟨hk, hname, hvalue, hf⟩)
    · rw [if_pos hname, if_pos hk]
    · rw [if_pos hname, if_neg (by rw [hk]; decide), if_pos hk]
      exact Option.filter_eq_some_iff.2 ⟨hvalue, isFunctionValue_iff.2 hf⟩

theorem classPropsType?_eq_some_iff : classPropsType? s n = some t ↔
    ∃ arguments, (superArguments n).head? = some arguments ∧
      ∃ type, arguments.parts.head? = some type ∧ typeName? s type = some t :=
  Option.bind_eq_some_iff.trans
    (exists_congr fun _ => and_congr_right fun _ => Option.bind_eq_some_iff)

theorem namedType?_eq_some_iff : namedType? s name n = some t ↔ NamesType s name n t := by
  unfold namedType?
  constructor
  · intro h
    split at h
    case isFalse => cases h
    case isTrue hname =>
      split at h
      case isTrue hk =>
        obtain ⟨h, hne⟩ := nonempty?_eq_some_iff.1 h
        obtain ⟨type, htype, ht⟩ := Option.bind_eq_some_iff.1 h
        exact .variable hk hname htype ht hne
      split at h
      case isTrue hk =>
        obtain ⟨h, hne⟩ := nonempty?_eq_some_iff.1 h
        obtain ⟨arguments, harguments, type, htype, ht⟩ := classPropsType?_eq_some_iff.1 h
        exact .ofClass hk hname harguments htype ht hne
      case isFalse => cases h
  · rintro (⟨hk, hname, htype, ht, hne⟩ | ⟨hk, hname, harguments, htype, ht, hne⟩)
    · rw [if_pos hname, if_pos hk, htype]
      exact nonempty?_eq_some_iff.2 ⟨ht, hne⟩
    · have hvariable : n.kind ≠ "variable_declarator" := fun h => by
        rw [h] at hk
        exact absurd hk (by decide)
      have hclass := classPropsType?_eq_some_iff.2 ⟨_, harguments, _, htype, ht⟩
      rw [if_pos hname, if_neg hvariable, if_pos hk]
      exact nonempty?_eq_some_iff.2 ⟨hclass, hne⟩

theorem mentions_eq (s : Source) (name : String) (n : Node) : mentions s name n =
    ((namedType? s name n).map Mention.type).toList ++
      ((boundFunction? s name n).map Mention.function).toList := by
  have hfunction : (n.kind == "function_declaration" || isFunctionValue n) = true ↔
      n.kind ∈ "function_declaration" :: functionValueKinds := by
    rw [Bool.or_eq_true, beq_iff_eq, isFunctionValue_iff, List.mem_cons]
  unfold mentions namedType? boundFunction? typeMention
  simp only [hfunction, isClassDeclaration_iff, beq_iff_eq]
  by_cases hname : s.fieldText? n "name" = some name
  · simp only [if_pos hname]
    by_cases hf : n.kind ∈ "function_declaration" :: functionValueKinds
    · have hother : ∀ k ∈ "function_declaration" :: functionValueKinds,
          k ≠ "variable_declarator" ∧ k ∉ classKinds := by decide
      obtain ⟨hvariable, hclass⟩ := hother _ hf
      simp only [if_pos hf, if_neg hvariable, if_neg hclass]
      rfl
    · simp only [if_neg hf]
      by_cases hvariable : n.kind = "variable_declarator"
      · simp only [if_pos hvariable]
      · simp only [if_neg hvariable]
        split <;> simp
  · simp [if_neg hname]

theorem says_mentions (s : Source) (name : String) (n : Node) :
    Says s name n (mentions s name n) := by
  rw [mentions_eq]
  exact .mk (fun _ => namedType?_eq_some_iff) fun _ => boundFunction?_eq_some_iff

/-! ## Functions are read once -/

/-- The bytes that a node covers. -/
def extent (n : Node) : Nat × Nat :=
  (n.span.start, n.span.stop)

/-- The function of a mention. -/
def Mention.function? : Mention → Option Node
  | .function n => some n
  | .type _ => none

/-- Two mentions of functions that cover the same bytes. -/
def Mention.again (l m : Mention) : Bool :=
  l.function?.any fun f => m.function?.any fun g => extent f == extent g

theorem readOnce_eq_eraseDupsBy (seen : List (Nat × Nat)) (ms : List Mention) :
    readOnce seen ms =
      (ms.filter fun m => !m.function?.any fun f => seen.contains (extent f)).eraseDupsBy
        Mention.again := by
  induction ms generalizing seen with
  | nil => rfl
  | cons m ms ih =>
    cases m with
    | type t =>
      have hself : ∀ ms : List Mention, (ms.filter fun l => l.again (.type t) = false) = ms :=
        fun ms => List.filter_eq_self.2 fun l _ => by simp [Mention.again, Mention.function?]
      rw [readOnce, List.filter_cons_of_pos rfl, List.eraseDupsBy_cons, hself, ih]
    | function f =>
      have hseen : ∀ ms : List Mention,
          ((ms.filter fun m => !m.function?.any fun g => seen.contains (extent g)).filter
            fun l => l.again (.function f) = false) =
          ms.filter fun m => !m.function?.any fun g => (extent f :: seen).contains (extent g) := by
        intro ms
        rw [List.filter_filter]
        refine List.filter_congr fun l _ => ?_
        cases l <;> simp [Mention.again, Mention.function?]
      have hstep : readOnce seen (.function f :: ms) =
          if seen.contains (extent f) then readOnce seen ms
          else .function f :: readOnce (extent f :: seen) ms := rfl
      rw [hstep]
      by_cases h : seen.contains (extent f) = true
      · rw [if_pos h, ih, List.filter_cons_of_neg (by simpa [Mention.function?] using h)]
      · rw [if_neg h, ih, List.filter_cons_of_pos (by simpa [Mention.function?] using h),
          List.eraseDupsBy_cons, hseen]

theorem said_eq_eraseDupsBy (s : Source) (root : Node) (name : String) :
    said s root name = (root.nodes.flatMap (mentions s name)).eraseDupsBy Mention.again := by
  have hall : ∀ ms : List Mention,
      (ms.filter fun m => !m.function?.any fun f => [].contains (extent f)) = ms :=
    fun ms => List.filter_eq_self.2 fun m _ => by cases m.function? <;> rfl
  unfold said
  rw [readOnce_eq_eraseDupsBy, hall]

/-- The functions that are bound to `name`, as the walk meets them. -/
def boundFunctions (s : Source) (root : Node) (name : String) : List Node :=
  root.nodes.filterMap (boundFunction? s name)

/-- The functions whose parameters are read. -/
def readFunctions (s : Source) (root : Node) (name : String) : List Node :=
  (said s root name).filterMap Mention.function?

theorem readFunctions_eq_eraseDupsBy (s : Source) (root : Node) (name : String) :
    readFunctions s root name =
      (boundFunctions s root name).eraseDupsBy fun f g => extent f == extent g := by
  have hagain : ∀ l m, Mention.again l m =
      l.function?.any fun f => m.function?.any fun g => extent f == extent g := fun _ _ => rfl
  have hbound : (root.nodes.flatMap (mentions s name)).filterMap Mention.function? =
      root.nodes.filterMap (boundFunction? s name) := by
    rw [List.filterMap_flatMap, List.filterMap_eq_flatMap_toList]
    refine List.flatMap_congr fun n _ => ?_
    rw [mentions_eq]
    cases namedType? s name n <;> cases boundFunction? s name n <;> rfl
  unfold readFunctions boundFunctions
  rw [said_eq_eraseDupsBy, List.filterMap_eraseDupsBy hagain, hbound]

/-! ## Types that are referred to -/

/-- A mention refers to a type: by its name, or by the type of the first parameter of a function. -/
inductive Refers (s : Source) : Mention → String → Prop
  | named {t : String} : Refers s (.type t) t
  | parameter {f p type : Node} {t : String} : FirstParameter f p →
      (p.child? "type").bind annotated? = some type → typeName? s type = some t → t ≠ "" →
      Refers s (.function f) t

/-- The type that a mention refers to. -/
def Mention.type? (s : Source) : Mention → Option String
  | .function f => nonempty? (((firstParameter? f).bind parameterType?).bind (typeName? s))
  | .type t => some t

theorem Mention.type?_eq_some_iff {m : Mention} : m.type? s = some t ↔ Refers s m t := by
  cases m with
  | type u =>
    constructor
    · rintro ⟨⟩
      exact .named
    · rintro ⟨⟩
      rfl
  | function f =>
    refine nonempty?_eq_some_iff.trans ⟨?_, ?_⟩
    · rintro ⟨h, hne⟩
      obtain ⟨type, htype, ht⟩ := Option.bind_eq_some_iff.1 h
      obtain ⟨p, hp, htype⟩ := Option.bind_eq_some_iff.1 htype
      exact .parameter (firstParameter?_eq_some_iff.1 hp) htype ht hne
    · rintro (_ | ⟨hp, htype, ht, hne⟩)
      refine ⟨?_, hne⟩
      rw [firstParameter?_eq_some_iff.2 hp, Option.bind_some, parameterType?, htype,
        Option.bind_some, ht]

theorem flatMap_types (s : Source) (ms : List Mention) :
    ms.flatMap (Mention.types s) = ms.filterMap (Mention.type? s) := by
  rw [List.filterMap_eq_flatMap_toList]
  refine List.flatMap_congr fun m _ => ?_
  cases m <;> rfl

/-- A node declares the type `t`, with its members in `body`. -/
inductive DeclaresType (s : Source) : Node → String → Node → Prop
  | interface {n body : Node} {t : String} : n.kind = "interface_declaration" →
      n.child? "body" = some body → s.fieldText? n "name" = some t → t ≠ "" →
      DeclaresType s n t body
  | alias {n body : Node} {t : String} : n.kind = "type_alias_declaration" →
      n.child? "value" = some body → s.fieldText? n "name" = some t → t ≠ "" →
      DeclaresType s n t body

/-- The last declaration of the type `t` on a walk has its members in `body`. -/
def LastDeclared (s : Source) (root : Node) (t : String) (body : Node) : Prop :=
  ∃ front n back, root.nodes = front ++ n :: back ∧ DeclaresType s n t body ∧
    ∀ m ∈ back, ∀ b, ¬ DeclaresType s m t b

theorem typeDeclaration?_eq_some_iff :
    typeDeclaration? s n = some (t, body) ↔ DeclaresType s n t body := by
  have hdeclares : ∀ field, ((n.child? field).bind fun b =>
      (nonempty? (s.fieldText? n "name")).bind fun u => some (u, b)) = some (t, body) ↔
      n.child? field = some body ∧ s.fieldText? n "name" = some t ∧ t ≠ "" := by
    intro field
    rw [Option.bind_eq_some_iff]
    constructor
    · rintro ⟨b, hb, h⟩
      obtain ⟨u, hu, h⟩ := Option.bind_eq_some_iff.1 h
      cases h
      exact ⟨hb, nonempty?_eq_some_iff.1 hu⟩
    · rintro ⟨hb, hname⟩
      exact ⟨body, hb, by rw [nonempty?_eq_some_iff.2 hname, Option.bind_some]⟩
  unfold typeDeclaration?
  dsimp only
  constructor
  · intro h
    split at h
    case isTrue hk =>
      obtain ⟨hbody, hname, hne⟩ := (hdeclares "body").1 h
      exact .interface (beq_iff_eq.1 hk) hbody hname hne
    split at h
    case isTrue hk =>
      obtain ⟨hbody, hname, hne⟩ := (hdeclares "value").1 h
      exact .alias (beq_iff_eq.1 hk) hbody hname hne
    case isFalse => cases h
  · rintro (⟨hk, hbody, hname, hne⟩ | ⟨hk, hbody, hname, hne⟩)
    · rw [if_pos (beq_iff_eq.2 hk)]
      exact (hdeclares "body").2 ⟨hbody, hname, hne⟩
    · rw [if_neg (by rw [hk]; decide), if_pos (beq_iff_eq.2 hk)]
      exact (hdeclares "value").2 ⟨hbody, hname, hne⟩

/-- The members of the type `t` if a node declares it. -/
def declaredBy? (s : Source) (t : String) (n : Node) : Option Node :=
  ((typeDeclaration? s n).filter fun d => d.1 == t).map Prod.snd

theorem declaredBy?_eq_some_iff : declaredBy? s t n = some body ↔ DeclaresType s n t body := by
  rw [← typeDeclaration?_eq_some_iff]
  unfold declaredBy?
  cases typeDeclaration? s n with
  | none => simp
  | some d =>
    obtain ⟨u, b⟩ := d
    by_cases hu : u = t <;> simp [Option.filter_some, hu]

theorem declaredBy?_eq_none_iff : declaredBy? s t n = none ↔ ∀ b, ¬ DeclaresType s n t b := by
  rw [Option.eq_none_iff_forall_ne_some]
  exact forall_congr' fun _ => not_congr declaredBy?_eq_some_iff

/-- The last declaration of a type is the first one of the walk in reverse. -/
theorem declaredType?_eq_findSome? (s : Source) (root : Node) (t : String) :
    declaredType? s root t = root.nodes.reverse.findSome? (declaredBy? s t) := by
  unfold declaredType?
  rw [List.filter_filterMap, ← List.getLast?_map, List.map_filterMap, List.getLast?_filterMap]
  rfl

theorem lastDeclared_of_declaredType? (h : declaredType? s root t = some body) :
    LastDeclared s root t body := by
  rw [declaredType?_eq_findSome?, List.findSome?_eq_some_iff] at h
  obtain ⟨back, n, front, hnodes, hn, hback⟩ := h
  refine ⟨front.reverse, n, back.reverse, ?_, declaredBy?_eq_some_iff.1 hn, fun m hm => ?_⟩
  · rw [← List.reverse_reverse root.nodes, hnodes]
    simp
  · exact declaredBy?_eq_none_iff.1 (hback m (List.mem_reverse.1 hm))

theorem not_declaresType_of_declaredType? (h : declaredType? s root t = none) :
    ∀ n ∈ root.nodes, ∀ b, ¬ DeclaresType s n t b := by
  intro n hn
  rw [declaredType?_eq_findSome?, List.findSome?_eq_none_iff] at h
  exact declaredBy?_eq_none_iff.1 (h n (List.mem_reverse.2 hn))

/-- What the type `t` contributes: one entry for each member of its last declaration that has a
name, and nothing if it is not declared or has no members. -/
inductive Supplies (s : Source) (root : Node) (t : String) : List PropFact → Prop
  | members {body : Node} {facts : List PropFact} : LastDeclared s root t body →
      body.kind ∈ bodyKinds → Lists (Member s) body.children facts → Supplies s root t facts
  | noBody {body : Node} : LastDeclared s root t body → body.kind ∉ bodyKinds → Supplies s root t []
  | undeclared : (∀ n ∈ root.nodes, ∀ b, ¬ DeclaresType s n t b) → Supplies s root t []

theorem supplies_declaredType? (s : Source) (root : Node) (t : String) :
    Supplies s root t (((declaredType? s root t).map (typeProps s)).getD []) := by
  cases h : declaredType? s root t with
  | none => exact .undeclared (not_declaresType_of_declaredType? h)
  | some body =>
    have hlast := lastDeclared_of_declaredType? h
    by_cases hk : body.kind ∈ bodyKinds
    · exact .members hlast hk (lists_typeProps hk)
    · rw [Option.map_some, Option.getD_some, typeProps_of_not_body hk]
      exact .noBody hlast hk

/-! ## All props -/

/-- Where the props of `name` come from.  The nodes of the tree bind the functions `fs`, of which
`rs` are read, and say `ms`; the types `ts` are referred to.  The functions that are read contribute
`ps` and the types `qs`. -/
structure Sources (s : Source) (root : Node) (name : String) (fs rs : List Node) (ms : List Mention)
    (ts : List String) (ps qs : List (List PropFact)) : Prop where
  walk : ∃ placed, InDocumentOrder root placed ∧ root.nodes = placed.map fun x => x.2.node
  bound : Lists (Binds s name) root.nodes fs
  read : rs = fs.eraseDupsBy fun f g => extent f == extent g
  once : (rs.map extent).Nodup
  covered : ∀ f ∈ fs, extent f ∈ rs.map extent
  contributed : List.Forall₂ (Contributes s) rs ps
  said : ∃ mss, List.Forall₂ (Says s name) root.nodes mss ∧
    ms = mss.flatten.eraseDupsBy Mention.again ∧ ms.filterMap Mention.function? = rs
  referred : ∃ us, Lists (Refers s) ms us ∧ ts = us.eraseDups
  distinct : ts.Nodup
  types : ∀ t, t ∈ ts ↔
    (∃ f ∈ rs, Refers s (.function f) t) ∨ ∃ n ∈ root.nodes, NamesType s name n t
  supplied : List.Forall₂ (Supplies s root) ts qs

/-- The types that are referred to, in the order of their first references. -/
def referredTypes (s : Source) (root : Node) (name : String) : List String :=
  ((said s root name).filterMap (Mention.type? s)).eraseDups

theorem mem_said_type_iff :
    .type t ∈ said s root name ↔ ∃ n ∈ root.nodes, NamesType s name n t := by
  have hmention : ∀ n, .type t ∈ mentions s name n ↔ NamesType s name n t := by
    intro n
    rw [mentions_eq, ← namedType?_eq_some_iff]
    simp
  rw [said_eq_eraseDupsBy, List.mem_eraseDupsBy_iff fun _ => rfl, List.mem_flatMap]
  exact exists_congr fun n => and_congr_right fun _ => hmention n

theorem mem_referredTypes_iff : t ∈ referredTypes s root name ↔
    (∃ f ∈ readFunctions s root name, Refers s (.function f) t) ∨
      ∃ n ∈ root.nodes, NamesType s name n t := by
  unfold referredTypes readFunctions
  rw [List.mem_eraseDups, List.mem_filterMap, ← mem_said_type_iff]
  constructor
  · rintro ⟨m, hm, ht⟩
    cases m with
    | function f =>
      exact .inl ⟨f, List.mem_filterMap.2 ⟨_, hm, rfl⟩, Mention.type?_eq_some_iff.1 ht⟩
    | type u =>
      cases ht
      exact .inr hm
  · rintro (⟨f, hf, ht⟩ | hm)
    · obtain ⟨m, hm, hf⟩ := List.mem_filterMap.1 hf
      cases m with
      | function g =>
        cases hf
        exact ⟨_, hm, Mention.type?_eq_some_iff.2 ht⟩
      | type u => cases hf
    · exact ⟨_, hm, rfl⟩

theorem takenProps_eq_flatten (s : Source) (root : Node) (name : String) :
    takenProps s root name = ((readFunctions s root name).map (parameterProps s)).flatten := by
  unfold takenProps readFunctions
  rw [← List.flatMap_def, List.filterMap_eq_flatMap_toList, List.flatMap_assoc]
  refine List.flatMap_congr fun m _ => ?_
  cases m <;> simp [Mention.props, Mention.function?]

theorem typedProps_eq_flatten (s : Source) (root : Node) (name : String) :
    typedProps s root name = ((referredTypes s root name).map fun t =>
      ((declaredType? s root t).map (typeProps s)).getD []).flatten := by
  unfold typedProps referredTypes
  rw [flatMap_types, List.flatMap_def]

theorem sources_of_tree (s : Source) (root : Node) (name : String) :
    Sources s root name (boundFunctions s root name) (readFunctions s root name)
      (said s root name) (referredTypes s root name)
      ((readFunctions s root name).map (parameterProps s))
      ((referredTypes s root name).map fun t =>
        ((declaredType? s root t).map (typeProps s)).getD []) := by
  have hextents : (readFunctions s root name).map extent =
      ((boundFunctions s root name).map extent).eraseDups := by
    rw [readFunctions_eq_eraseDupsBy, List.map_eraseDupsBy]
  obtain ⟨placed, horder, hvisits⟩ := exists_inDocumentOrder root
  exact {
    walk := ⟨placed, horder, nodes_eq_map hvisits⟩
    bound := lists_filterMap (fun _ _ => boundFunction?_eq_some_iff) _
    read := readFunctions_eq_eraseDupsBy s root name
    once := hextents ▸ List.nodup_eraseDups _
    covered := fun f hf => by
      rw [hextents, List.mem_eraseDups]
      exact List.mem_map_of_mem hf
    contributed := List.forall₂_map_right_iff.2 (List.forall₂_same.2 fun f _ =>
      contributes_parameterProps s f)
    said := ⟨root.nodes.map (mentions s name),
      List.forall₂_map_right_iff.2 (List.forall₂_same.2 fun n _ => says_mentions s name n),
      said_eq_eraseDupsBy s root name, rfl⟩
    referred := ⟨_, lists_filterMap (fun _ _ => Mention.type?_eq_some_iff) _, rfl⟩
    distinct := List.nodup_eraseDups _
    types := fun t => mem_referredTypes_iff
    supplied := List.forall₂_map_right_iff.2 (List.forall₂_same.2 fun t _ =>
      supplies_declaredType? s root t) }

/-- The props are the entries of the functions, followed by the entries of the types. -/
theorem props_complete (s : Source) (root : Node) (name : String) :
    ∃ fs rs ms ts ps qs, Sources s root name fs rs ms ts ps qs ∧
      props s root name = ps.flatten ++ qs.flatten := by
  refine ⟨_, _, _, _, _, _, sources_of_tree s root name, ?_⟩
  rw [props_eq_append, takenProps_eq_flatten, typedProps_eq_flatten]

/-- The declarator of `const A = function A({ b }) {}`: two nodes bind the function to its name. -/
def boundTwice : Node :=
  .mk "variable_declarator" true none false false (spanOn 6 30) [
    .mk "identifier" true (some "name") false false (spanOn 6 7) [],
    .mk "function_expression" true (some "value") false false (spanOn 10 30) [
      .mk "identifier" true (some "name") false false (spanOn 19 20) [],
      .mk "formal_parameters" true (some "parameters") false false (spanOn 20 27) [
        .mk "required_parameter" true none false false (spanOn 21 26) [
          .mk "object_pattern" true (some "pattern") false false (spanOn 21 26) [
            .mk "shorthand_property_identifier_pattern" true none false false (spanOn 23 24) []]]]]]

example :
    let s := Source.ofText "const A = function A(\x7b b \x7d) \x7b\x7d"
    (boundFunctions s boundTwice "A").length = 2 ∧
      (props s boundTwice "A").map PropFact.name = ["b"] := by
  decide +kernel

end TestScribe.Component
