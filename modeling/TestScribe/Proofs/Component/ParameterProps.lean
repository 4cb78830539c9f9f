import TestScribe.Proofs.Component.MemberComments
import TestScribe.Proofs.Component.Naming
import TestScribe.Proofs.Syntax.Walks

/-!
# What a function and a type say about props

A function contributes one entry for each property of its first parameter that takes a prop out
(`contributes_parameterProps`), and a type one entry for each of its signatures with a name
(`lists_typeProps`).  The relations say what an entry is, in terms of the nodes it comes from.
-/

namespace TestScribe.Component

open Syntax

variable {s : Source} {f n p : Node} {name : String} {fact : PropFact}

/-! ## Members of types -/

/-- The name that the key of a property gives: an identifier or what a string holds. -/
inductive KeyName (s : Source) : Node → String → Prop
  | identifier {key : Node} : key.kind = "property_identifier" → KeyName s key (s.text key)
  | string {key : Node} : key.kind = "string" → KeyName s key (s.unquoted key)

theorem keyName?_eq_some_iff {key : Node} : keyName? s key = some name ↔ KeyName s key name := by
  unfold keyName?
  constructor
  · intro h
    split at h
    case isTrue hid =>
      cases h
      exact .identifier (beq_iff_eq.1 hid)
    split at h
    case isTrue hstring =>
      cases h
      exact .string (beq_iff_eq.1 hstring)
    case isFalse => cases h
  · rintro (hid | hstring)
    · rw [if_pos (beq_iff_eq.2 hid)]
    · rw [hstring]
      rfl

/-- The kinds of nodes that hold the members of a type. -/
def bodyKinds : List String := ["object_type", "interface_body"]

/-- The entry of a signature: required unless it is marked as optional, with its type if it has one.
Its description comes from the comments around it. -/
structure Member (s : Source) (n : Node) (fact : PropFact) : Prop where
  isSignature : n.isNamed = true ∧ n.kind = "property_signature"
  key : ∃ key, n.child? "name" = some key ∧ KeyName s key fact.name
  ne_empty : fact.name ≠ ""
  type : fact.type = ((n.child? "type").bind annotated?).map s.text
  required : fact.required = !n.hasChild "?"
  default : fact.default = none

theorem signatureName?_eq_some_iff : signatureName? s n = some name ↔
    (n.isNamed = true ∧ n.kind = "property_signature") ∧
      (∃ key, n.child? "name" = some key ∧ KeyName s key name) ∧ name ≠ "" := by
  have hkey : ((n.child? "name").bind fun key => nonempty? (keyName? s key)) = some name ↔
      (∃ key, n.child? "name" = some key ∧ KeyName s key name) ∧ name ≠ "" := by
    rw [Option.bind_eq_some_iff, ← exists_and_right]
    refine exists_congr fun key => ?_
    rw [nonempty?_eq_some_iff, keyName?_eq_some_iff, and_assoc]
  unfold signatureName?
  split
  case isTrue h =>
    rw [Bool.and_eq_true, beq_iff_eq] at h
    rw [hkey, and_iff_right h]
  case isFalse h =>
    rw [Bool.and_eq_true, beq_iff_eq] at h
    exact iff_of_false (by simp) fun hn => h hn.1

theorem lists_memberProps (s : Source) (before cs : List Node) :
    Lists (Member s) cs (memberProps s before cs) := by
  induction cs generalizing before with
  | nil => exact .nil
  | cons c cs ih =>
    rw [memberProps, memberProp?_eq]
    cases hname : signatureName? s c with
    | none =>
      refine .drop (fun fact hfact => ?_) (ih _)
      have hsome := signatureName?_eq_some_iff.2 ⟨hfact.isSignature, hfact.key, hfact.ne_empty⟩
      rw [hname] at hsome
      cases hsome
    | some name =>
      obtain ⟨hsignature, hkey, hne⟩ := signatureName?_eq_some_iff.1 hname
      exact .keep ⟨hsignature, hkey, hne, rfl, rfl, rfl⟩ (ih _)

theorem lists_typeProps {body : Node} (h : body.kind ∈ bodyKinds) :
    Lists (Member s) body.children (typeProps s body) := by
  unfold typeProps
  rw [if_pos (by simpa [bodyKinds] using h)]
  exact lists_memberProps s [] body.children

theorem typeProps_of_not_body {body : Node} (h : body.kind ∉ bodyKinds) :
    typeProps s body = [] := by
  unfold typeProps
  rw [if_neg (by simpa [bodyKinds] using h)]

/-! ## Parameters -/

/-- The first parameter of a function. -/
structure FirstParameter (f p : Node) : Prop where
  first : ∃ ps, f.child? "parameters" = some ps ∧ ps.kind = "formal_parameters" ∧
    ps.parts.head? = some p
  kind : p.kind = "required_parameter" ∨ p.kind = "optional_parameter"

theorem firstParameter?_eq_some_iff : firstParameter? f = some p ↔ FirstParameter f p := by
  unfold firstParameter?
  constructor
  · intro h
    obtain ⟨ps, hps, h⟩ := Option.bind_eq_some_iff.1 h
    split at h
    case isFalse => cases h
    case isTrue hkind =>
      obtain ⟨first, hfirst, h⟩ := Option.bind_eq_some_iff.1 h
      split at h
      case isFalse => cases h
      case isTrue hp =>
        cases h
        exact ⟨⟨ps, hps, beq_iff_eq.1 hkind, hfirst⟩, by simpa using hp⟩
  · rintro ⟨⟨ps, hps, hkind, hfirst⟩, hp⟩
    rw [hps]
    simp [hkind, hfirst, hp]

/-- The members of the parameter's own type. -/
def inlineMembers (s : Source) (p : Node) : List PropFact :=
  ((parameterType? p).map (typeProps s)).getD []

/-- The members that the parameter's own type lists, if it does. -/
inductive OwnMembers (s : Source) (p : Node) : List PropFact → Prop
  | listed {type : Node} {facts : List PropFact} : (p.child? "type").bind annotated? = some type →
      type.kind ∈ bodyKinds → Lists (Member s) type.children facts → OwnMembers s p facts
  | none : (∀ type, (p.child? "type").bind annotated? = some type → type.kind ∉ bodyKinds) →
      OwnMembers s p []

theorem ownMembers_inlineMembers (s : Source) (p : Node) : OwnMembers s p (inlineMembers s p) := by
  unfold inlineMembers parameterType?
  cases htype : (p.child? "type").bind annotated? with
  | none => exact .none fun type h => nomatch htype.symm.trans h
  | some type =>
    rw [Option.map_some, Option.getD_some]
    by_cases hk : type.kind ∈ bodyKinds
    · exact .listed htype hk (lists_typeProps hk)
    · rw [typeProps_of_not_body hk]
      refine .none fun other h => ?_
      rw [htype, Option.some.injEq] at h
      rwa [← h]

/-- The member of the parameter's own type that a name stands for; of several the last one
counts. -/
def inlineMember? (s : Source) (p : Node) (name : String) : Option PropFact :=
  ((inlineMembers s p).filter fun q => q.name == name).getLast?

/-! ## Properties of patterns -/

/-- The default of a property that is written with its key. -/
def pairDefault? (n : Node) : Option Node :=
  (n.child? "value").bind fun v => if v.kind == "assignment_pattern" then v.child? "right" else none

/-- A property takes the prop of a name out of an object, with a default or without. -/
inductive Takes (s : Source) : Node → String → Option Node → Prop
  | shorthand {n : Node} : n.kind = "shorthand_property_identifier_pattern" →
      Takes s n (s.text n) none
  | defaulted {n left : Node} : n.kind = "object_assignment_pattern" →
      n.child? "left" = some left → left.kind = "shorthand_property_identifier_pattern" →
      Takes s n (s.text left) (n.child? "right")
  | pair {n key : Node} {name : String} : n.kind = "pair_pattern" → n.child? "key" = some key →
      KeyName s key name → Takes s n name (pairDefault? n)

/-- The entry of a prop that is taken out of the parameter `p` as `key`, with the default `value`.
It is required if nothing makes it optional: the parameter, a default of its own, or the parameter's
own type. -/
structure Taken (s : Source) (p : Node) (key : String) (value : Option Node) (fact : PropFact) :
    Prop where
  name : fact.name = key
  ne_empty : key ≠ ""
  required : fact.required = true ↔ p.kind ≠ "optional_parameter" ∧ p.child? "value" = none ∧
    value = none ∧ ∀ m, inlineMember? s p key = some m → m.required = true
  type : fact.type = (inlineMember? s p key).bind PropFact.type
  default : fact.default = value.map s.text
  description : fact.description = none

/-- The entry of a rest property that collects the other props under a name. -/
def restProp (name : String) : PropFact where
  name := name
  type := some "Record<string, unknown>"
  required := false
  default := none
  description := some "Rest props"

/-- The entry that a property of the pattern of `p` contributes. -/
inductive Entry (s : Source) (p : Node) : Node → PropFact → Prop
  | taken {n : Node} {key : String} {value : Option Node} {fact : PropFact} :
      Takes s n key value → Taken s p key value fact → Entry s p n fact
  | rest {n r : Node} : n.kind = "rest_pattern" → n.parts.head? = some r → r.kind = "identifier" →
      Entry s p n (restProp (s.text r))

/-- Whether the parameter may be left out. -/
def mayBeAbsent (p : Node) : Bool :=
  p.kind == "optional_parameter" || (p.child? "value").isSome

theorem taken_iff {value : Option Node} : Taken s p name value fact ↔ name ≠ "" ∧ fact =
    { name, type := (inlineMember? s p name).bind (·.type),
      required := !(mayBeAbsent p || (inlineMember? s p name).any fun q => !q.required) &&
        value.isNone,
      default := value.map s.text, description := none } := by
  have hrequired : (!(mayBeAbsent p || (inlineMember? s p name).any fun q => !q.required) &&
      value.isNone) = true ↔ p.kind ≠ "optional_parameter" ∧ p.child? "value" = none ∧
        value = none ∧ ∀ m, inlineMember? s p name = some m → m.required = true := by
    cases inlineMember? s p name <;> simp [mayBeAbsent] <;> tauto
  constructor
  · rintro ⟨hname, hne, hreq, htype, hdefault, hdescription⟩
    rw [← hrequired, ← Bool.eq_iff_iff] at hreq
    cases fact
    simp only at hname hreq htype hdefault hdescription
    rw [hname, hreq, htype, hdefault, hdescription]
    exact ⟨hne, rfl⟩
  · rintro ⟨hne, rfl⟩
    exact ⟨rfl, hne, hrequired, rfl, rfl, rfl⟩

theorem takenProp?_eq_some_iff {key : Option String} {value : Option Node} :
    takenProp? s (inlineMembers s p) (mayBeAbsent p) key value = some fact ↔
      ∃ name, key = some name ∧ Taken s p name value fact := by
  refine Option.bind_eq_some_iff.trans (exists_congr fun name => ?_)
  rw [nonempty?_eq_some_iff, taken_iff, and_assoc]
  exact and_congr_right fun _ => and_congr_right fun _ => Option.some_inj.trans eq_comm

theorem patternProp?_eq_some_iff :
    patternProp? s (inlineMembers s p) (mayBeAbsent p) n = some fact ↔ Entry s p n fact := by
  constructor
  · intro h
    unfold patternProp? at h
    split at h
    case isTrue hk =>
      obtain ⟨key, hkey, htaken⟩ := takenProp?_eq_some_iff.1 h
      cases hkey
      exact .taken (.shorthand (beq_iff_eq.1 hk)) htaken
    split at h
    case isTrue hk =>
      obtain ⟨left, hleft, h⟩ := Option.bind_eq_some_iff.1 h
      split at h
      case isFalse => cases h
      case isTrue hl =>
        obtain ⟨key, hkey, htaken⟩ := takenProp?_eq_some_iff.1 h
        cases hkey
        exact .taken (.defaulted (beq_iff_eq.1 hk) hleft (beq_iff_eq.1 hl)) htaken
    split at h
    case isTrue hk =>
      obtain ⟨name, hname, htaken⟩ := takenProp?_eq_some_iff.1 h
      obtain ⟨key, hkey, hname⟩ := Option.bind_eq_some_iff.1 hname
      exact .taken (.pair (beq_iff_eq.1 hk) hkey (keyName?_eq_some_iff.1 hname)) htaken
    split at h
    case isFalse => cases h
    case isTrue hk =>
      obtain ⟨r, hr, h⟩ := Option.bind_eq_some_iff.1 h
      split at h
      case isFalse => cases h
      case isTrue hid =>
        cases h
        exact .rest (beq_iff_eq.1 hk) hr (beq_iff_eq.1 hid)
  · unfold patternProp?
    rintro (⟨htakes, htaken⟩ | ⟨hk, hr, hid⟩)
    · cases htakes with
      | shorthand hk =>
        rw [if_pos (beq_iff_eq.2 hk)]
        exact takenProp?_eq_some_iff.2 ⟨_, rfl, htaken⟩
      | defaulted hk hleft hl =>
        rw [hk, hleft]
        dsimp only [Option.bind_eq_bind, Option.bind_some]
        rw [if_neg (by decide), if_pos (by decide), if_pos (beq_iff_eq.2 hl)]
        exact takenProp?_eq_some_iff.2 ⟨_, rfl, htaken⟩
      | pair hk hkey hname =>
        rw [hk, hkey, if_neg (by decide), if_neg (by decide), if_pos (by decide), Option.bind_some]
        exact takenProp?_eq_some_iff.2 ⟨_, keyName?_eq_some_iff.2 hname, htaken⟩
    · rw [hk, hr]
      dsimp only [Option.bind_eq_bind, Option.bind_some]
      rw [if_neg (by decide), if_neg (by decide), if_neg (by decide), if_pos (by decide),
        if_pos (beq_iff_eq.2 hid)]
      rfl

/-- What a function contributes: one entry for each property of the pattern that its first parameter
is taken apart with, in order, and nothing if there is no such pattern. -/
inductive Contributes (s : Source) (f : Node) : List PropFact → Prop
  | pattern {p pattern : Node} {facts : List PropFact} : FirstParameter f p →
      p.child? "pattern" = some pattern → pattern.kind = "object_pattern" →
      OwnMembers s p (inlineMembers s p) → Lists (Entry s p) pattern.parts facts →
      Contributes s f facts
  | nothing : (∀ p pattern, FirstParameter f p → p.child? "pattern" = some pattern →
      pattern.kind ≠ "object_pattern") → Contributes s f []

theorem contributes_parameterProps (s : Source) (f : Node) :
    Contributes s f (parameterProps s f) := by
  unfold parameterProps
  cases hp : firstParameter? f with
  | none =>
    refine .nothing fun p pattern hfirst => ?_
    rw [firstParameter?_eq_some_iff.2 hfirst] at hp
    cases hp
  | some p =>
    have hfirst := firstParameter?_eq_some_iff.1 hp
    have hnothing : (∀ q, p.child? "pattern" = some q → q.kind ≠ "object_pattern") →
        Contributes s f [] := fun h => .nothing fun p' q hp' hq => by
      rw [firstParameter?_eq_some_iff.2 hp', Option.some.injEq] at hp
      exact h q (hp ▸ hq)
    dsimp only
    cases hpattern : p.child? "pattern" with
    | none => exact hnothing fun q hq => nomatch hpattern.symm.trans hq
    | some pattern =>
      dsimp only
      split
      case isTrue hk =>
        exact .pattern hfirst hpattern (beq_iff_eq.1 hk) (ownMembers_inlineMembers s p)
          (lists_filterMap (fun _ _ => patternProp?_eq_some_iff) _)
      case isFalse hk =>
        refine hnothing fun q hq => ?_
        rw [hpattern, Option.some.injEq] at hq
        rwa [← hq, ne_eq, ← beq_iff_eq]

end TestScribe.Component
