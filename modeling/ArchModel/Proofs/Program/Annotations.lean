import ArchModel.Proofs.Program.NameWalk

/-!
# What annotations stand for

An annotation stands for the classes of its members, each once. Unions list the members of their
parts, texts those of what they quote, and a subscript of another kind is a single member.

* `Expr.members_union`, `Expr.members_of_quoted`, `Expr.members_of_unionParts` and
  `Expr.members_of_other` list the members of each kind of annotation.
* `Program.SameAnswer` holds of annotations that stand for the same classes and are kept from being
  followed by the same fault.
* `Quotes` puts a text in the place of a part of an annotation, as deep as may be. What following an
  annotation sees of it (`Program.view`) is not changed by that (`Program.view_of_quotes`).
* **`Program.resolveAnnotation_laws`** puts this together. `Program.not_forall_optional`: a tuple in
  the brackets of `Optional` counts as several parts.
-/

namespace ArchModel

open Source

namespace Source.Expr

/-! ## Members -/

theorem membersAll_eq (es : List Expr) : membersAll es = es.flatMap members := by
  induction es with
  | nil => simp [membersAll]
  | cons e es ih => rw [membersAll, ih, List.flatMap_cons]

theorem members_def (e : Expr) :
    e.members =
      match e with
      | text s =>
        match quoted? s with
        | some e => e.members
        | none => if (textFault? s).isSome then [text s] else []
      | literal => []
      | union left right => left.members ++ right.members
      | subscript value index =>
        match unionParts? value index with
        | some parts => parts.flatMap members
        | none => [subscript value index]
      | e => [e] := by
  cases e with
  | text s => rw [members]; split <;> simp [*]
  | subscript value index => rw [members]; split <;> simp [*, membersAll_eq]
  | _ => rw [members] <;> simp

theorem members_union (left right : Expr) :
    (union left right).members = left.members ++ right.members := by
  rw [members_def]

theorem members_of_quoted {s : String} {e : Expr} (h : quoted? s = some e) :
    (text s).members = e.members := by
  simp only [members_def (text s), h]

theorem members_of_unionParts {value index : Expr} {parts : List Expr}
    (h : unionParts? value index = some parts) :
    (subscript value index).members = parts.flatMap members := by
  simp only [members_def (subscript value index), h]

theorem members_of_other {value index : Expr} (h : unionParts? value index = none) :
    (subscript value index).members = [subscript value index] := by
  simp only [members_def (subscript value index), h]

theorem members_of_dotted {e : Expr} {dotted : String} (h : e.dotted? = some dotted) :
    e.members = [e] := by
  cases e with
  | name id => rw [members_def]
  | member value attr => rw [members_def]
  | _ => cases h

theorem members_tuple (items : List Expr) : (tuple items).members = [tuple items] := by
  rw [members_def]

theorem indices_of_ne_tuple {e : Expr} (h : ∀ items, e ≠ tuple items) : e.indices = [e] := by
  unfold indices
  split
  · next items => exact absurd rfl (h items)
  · rfl

/-- What stands in front of the brackets of a subscript is a dotted name with a last part. -/
def Heads (last : String) (value : Expr) : Prop :=
  ∃ dotted, value.dotted? = some dotted ∧ lastName dotted = last

theorem unionParts?_of_heads {last : String} {value : Expr} (h : Heads last value)
    (index : Expr) :
    unionParts? value index =
      if last ∈ unionNames then
        some (if last = "Annotated" then index.indices.take 1 else index.indices)
      else none := by
  obtain ⟨dotted, named, rfl⟩ := h
  by_cases known : lastName dotted ∈ unionNames <;> simp [unionParts?, named, known]

theorem unionParts?_eq_none_iff {value index : Expr} :
    unionParts? value index = none ↔ ∀ last ∈ unionNames, ¬Heads last value := by
  constructor
  · intro none last known heads
    rw [unionParts?_of_heads heads, if_pos known] at none
    cases none
  · intro other
    cases named : value.dotted? with
    | none => simp [unionParts?, named]
    | some dotted =>
      have unknown : lastName dotted ∉ unionNames := fun known =>
        other _ known ⟨dotted, named, rfl⟩
      simp [unionParts?, named, unknown]

end Source.Expr

/-- A text in the place of a part of an annotation that it quotes: of the annotation itself, of a
member of a union, of what stands between the brackets of a subscript or of what a text quotes. -/
inductive Quotes : Expr → Expr → Prop
  | whole {s : String} {e : Expr} (quoted : Expr.quoted? s = some e) : Quotes e (.text s)
  | left {e e' : Expr} (right : Expr) (h : Quotes e e') : Quotes (.union e right) (.union e' right)
  | right {e e' : Expr} (left : Expr) (h : Quotes e e') : Quotes (.union left e) (.union left e')
  | argument {e e' index index' : Expr} (value : Expr) (before after : List Expr)
      (place : index.indices = before ++ e :: after)
      (place' : index'.indices = before ++ e' :: after) (h : Quotes e e') :
      Quotes (.subscript value index) (.subscript value index')
  | inside {s s' : String} {e e' : Expr} (quoted : Expr.quoted? s = some e)
      (quoted' : Expr.quoted? s' = some e') (h : Quotes e e') : Quotes (.text s) (.text s')

namespace Program

variable {p : Program} {m : SourceModule}

/-! ## Texts -/

/-- Only texts are looked into. -/
theorem exprFault?_def (e : Expr) :
    exprFault? e =
      match e with
      | .text s =>
        match Expr.quoted? s with
        | some e => exprFault? e
        | none => Expr.textFault? s
      | _ => none := by
  cases e with
  | text s => rw [exprFault?.eq_1]; split <;> simp [*]
  | _ => rw [exprFault?.eq_2 _ (by simp)]

theorem exprFault?_of_ne_text {e : Expr} (h : ∀ s, e ≠ .text s) : exprFault? e = none := by
  rw [exprFault?_def]
  cases e with
  | text s => exact absurd rfl (h s)
  | _ => rfl

theorem exprFault?_of_unquoted {s : String} (h : Expr.quoted? s = none) :
    exprFault? (.text s) = Expr.textFault? s := by
  simp only [exprFault?_def (.text s), h]

theorem resolveExpr?_of_unquoted {s : String} (h : Expr.quoted? s = none) :
    p.resolveExpr? m (.text s) = none := by
  simp [resolveExpr?_def p m (.text s), h]

/-! ## Answers -/

/-- Two annotations stand for the same classes, and the same fault keeps them from being
followed. -/
structure SameAnswer (p : Program) (m : SourceModule) (e e' : Expr) : Prop where
  classes : p.resolveAnnotation m e = p.resolveAnnotation m e'
  fault : p.annotationFault? m e = p.annotationFault? m e'

theorem sameAnswer_of_members_eq {e e' : Expr} (h : e.members = e'.members) :
    p.SameAnswer m e e' where
  classes := by
    unfold resolveAnnotation
    rw [h]
  fault := by rw [annotationFault?, h, annotationFault?]

theorem resolveAnnotation_of_members {e : Expr} {parts : List Expr}
    (h : e.members = parts.flatMap Expr.members) :
    p.resolveAnnotation m e = dedupe (parts.flatMap fun part => p.resolveAnnotation m part) := by
  unfold resolveAnnotation
  rw [h, List.flatMap_assoc]
  exact (dedupe_flatMap_dedupe parts _).symm

theorem isSome_annotationFault? {e : Expr} : (p.annotationFault? m e).isSome ↔
    ∃ part ∈ e.members, (exprFault? part).isSome ∨ (p.memberFault? m part).isSome := by
  rw [annotationFault?, Option.isSome_or, Bool.or_eq_true, List.findSome?_isSome_iff,
    List.findSome?_isSome_iff, ← exists_or]
  simp only [← and_or_left]

/-- An annotation cannot be followed if one of its parts cannot. -/
theorem isSome_annotationFault?_of_members {e : Expr} {parts : List Expr}
    (h : e.members = parts.flatMap Expr.members) :
    (p.annotationFault? m e).isSome ↔
      ∃ part ∈ parts, (p.annotationFault? m part).isSome := by
  simp only [isSome_annotationFault?, h, List.mem_flatMap]
  constructor
  · rintro ⟨x, ⟨part, hpart, hx⟩, fault⟩
    exact ⟨part, hpart, x, hx, fault⟩
  · rintro ⟨part, hpart, x, hx, fault⟩
    exact ⟨x, ⟨part, hpart, hx⟩, fault⟩

/-! ## Subscripts -/

theorem resolveExpr?_subscript (value index : Expr) :
    p.resolveExpr? m (.subscript value index) = none := by
  rw [resolveExpr?_def]
  rfl

section generic

variable {value : Expr} (other : ∀ last ∈ Expr.unionNames, ¬Expr.Heads last value)
  (unknown : p.resolveExpr? m value = none) (index : Expr)

include other unknown

/-- A subscript that stands for no union and has no class in front of its brackets stands for what
is between them. -/
theorem resolveAnnotation_generic :
    p.resolveAnnotation m (.subscript value index) =
      dedupe (((index.indices.flatMap Expr.members).filter (!isSubscript ·)).filterMap
        (p.resolveExpr? m)) := by
  unfold resolveAnnotation
  rw [Expr.members_of_other (Expr.unionParts?_eq_none_iff.2 other), List.flatMap_singleton,
    resolveMember, resolveExpr?_subscript]
  simp only [unknown]

/-- It cannot be followed if what is in front of the brackets or between them cannot. -/
theorem annotationFault?_generic :
    p.annotationFault? m (.subscript value index) =
      (exprFault? value).or ((index.indices.flatMap Expr.members).findSome? exprFault?) := by
  have unread : exprFault? (.subscript value index) = none := exprFault?_of_ne_text (by simp)
  unfold annotationFault?
  rw [Expr.members_of_other (Expr.unionParts?_eq_none_iff.2 other)]
  simp only [List.findSome?_singleton, unread, Option.none_or, memberFault?, unknown]
  cases exprFault? value <;> rfl

end generic

/-- A dotted name stands for its class. -/
theorem resolveAnnotation_of_dotted {e : Expr} {dotted : String} (h : e.dotted? = some dotted) :
    p.resolveAnnotation m e = (p.resolveExpr? m e).toList := by
  unfold resolveAnnotation resolveMember
  rw [Expr.members_of_dotted h, List.flatMap_singleton]
  cases p.resolveExpr? m e with
  | some c => rfl
  | none =>
    cases e with
    | subscript value index => cases h
    | _ => rfl

theorem resolveAnnotation_tuple (items : List Expr) :
    p.resolveAnnotation m (.tuple items) = [] := by
  have none : p.resolveExpr? m (.tuple items) = none := by
    rw [resolveExpr?_def]
    rfl
  unfold resolveAnnotation resolveMember
  rw [Expr.members_tuple, List.flatMap_singleton, none]
  rfl

/-! ## Texts in the place of parts -/

/-- What following an annotation sees of one of its members. -/
structure MemberView where
  classes : List ClassId
  class? : Option ClassId
  isSubscript : Bool
  fault : Option SourceFault
  textFault : Option SourceFault

def memberView (p : Program) (m : SourceModule) (e : Expr) : MemberView where
  classes := p.resolveMember m e
  class? := p.resolveExpr? m e
  isSubscript := isSubscript e
  fault := p.memberFault? m e
  textFault := exprFault? e

/-- What following an annotation sees of it. -/
def view (p : Program) (m : SourceModule) (e : Expr) : List MemberView :=
  e.members.map (p.memberView m)

theorem view_union (e e' : Expr) : p.view m (.union e e') = p.view m e ++ p.view m e' := by
  rw [view, Expr.members_union, List.map_append]
  rfl

theorem view_of_quoted {s : String} {e : Expr} (h : Expr.quoted? s = some e) :
    p.view m (.text s) = p.view m e := by
  rw [view, Expr.members_of_quoted h]
  rfl

theorem flatMap_view (es : List Expr) :
    es.flatMap (p.view m) = (es.flatMap Expr.members).map (p.memberView m) :=
  List.map_flatMap.symm

theorem sameAnswer_of_view_eq {e e' : Expr} (h : p.view m e = p.view m e') :
    p.SameAnswer m e e' where
  classes := by
    have seen (e : Expr) : p.resolveAnnotation m e =
        dedupe ((p.view m e).flatMap MemberView.classes) := by
      rw [view, List.flatMap_map]
      rfl
    rw [seen, seen, h]
  fault := by
    have seen (e : Expr) : p.annotationFault? m e =
        ((p.view m e).findSome? MemberView.textFault).or
          ((p.view m e).findSome? MemberView.fault) := by
      rw [view, List.findSome?_map, List.findSome?_map]
      rfl
    rw [seen, seen, h]

/-- What is seen of a subscript, apart from a union, is what is seen of the parts between its
brackets. -/
theorem memberView_subscript {value index index' : Expr}
    (h : index.indices.flatMap (p.view m) = index'.indices.flatMap (p.view m)) :
    p.memberView m (.subscript value index) = p.memberView m (.subscript value index') := by
  have inner (index : Expr) : ((index.indices.flatMap Expr.members).filter
      (!isSubscript ·)).filterMap (p.resolveExpr? m) =
      ((index.indices.flatMap (p.view m)).filter (!·.isSubscript)).filterMap (·.class?) := by
    rw [flatMap_view, List.filter_map, List.filterMap_map]
    rfl
  have innerFault (index : Expr) : (index.indices.flatMap Expr.members).findSome? exprFault? =
      (index.indices.flatMap (p.view m)).findSome? (·.textFault) := by
    rw [flatMap_view, List.findSome?_map]
    rfl
  have classes : p.resolveMember m (.subscript value index) =
      p.resolveMember m (.subscript value index') := by
    unfold resolveMember
    rw [resolveExpr?_subscript, resolveExpr?_subscript]
    dsimp only
    rw [inner, inner, h]
  have fault : p.memberFault? m (.subscript value index) =
      p.memberFault? m (.subscript value index') := by
    unfold memberFault?
    dsimp only
    rw [innerFault, innerFault, h]
  have unread (index : Expr) : exprFault? (.subscript value index) = none :=
    exprFault?_of_ne_text (by simp)
  unfold memberView
  rw [classes, fault, resolveExpr?_subscript, resolveExpr?_subscript, unread, unread]
  rfl

theorem view_subscript {value index index' : Expr} {before after : List Expr} {e e' : Expr}
    (place : index.indices = before ++ e :: after)
    (place' : index'.indices = before ++ e' :: after) (h : p.view m e = p.view m e') :
    p.view m (.subscript value index) = p.view m (.subscript value index') := by
  have whole : index.indices.flatMap (p.view m) = index'.indices.flatMap (p.view m) := by
    simp [place, place', h]
  by_cases other : ∀ last ∈ Expr.unionNames, ¬Expr.Heads last value
  · have single (index : Expr) : p.view m (.subscript value index) =
        [p.memberView m (.subscript value index)] := by
      rw [view, Expr.members_of_other (Expr.unionParts?_eq_none_iff.2 other)]
      rfl
    rw [single, single, memberView_subscript whole]
  · obtain ⟨last, known, heads⟩ : ∃ last ∈ Expr.unionNames, Expr.Heads last value := by
      simpa using other
    have listed (index : Expr) : p.view m (.subscript value index) =
        (if last = "Annotated" then index.indices.take 1 else index.indices).flatMap
          (p.view m) := by
      have parts := Expr.unionParts?_of_heads heads index
      rw [if_pos known] at parts
      rw [view, Expr.members_of_unionParts parts, flatMap_view]
    rw [listed, listed]
    split
    · rw [place, place']
      cases before <;> simp [h]
    · exact whole

/-- A text in the place of a part does not show. -/
theorem view_of_quotes {e e' : Expr} (h : Quotes e e') : p.view m e = p.view m e' := by
  induction h with
  | whole quoted => rw [view_of_quoted quoted]
  | left right _ ih => rw [view_union, view_union, ih]
  | right left _ ih => rw [view_union, view_union, ih]
  | argument value before after place place' _ ih => exact view_subscript place place' ih
  | inside quoted quoted' _ ih => rw [view_of_quoted quoted, view_of_quoted quoted', ih]

/-! ## Laws -/

/-- The classes of several annotations, each once; they cannot be followed if one of them cannot. -/
structure Joins (p : Program) (m : SourceModule) (e : Expr) (parts : List Expr) : Prop where
  classes : p.resolveAnnotation m e = dedupe (parts.flatMap fun part => p.resolveAnnotation m part)
  fault : (p.annotationFault? m e).isSome ↔ ∃ part ∈ parts, (p.annotationFault? m part).isSome

theorem joins_of_members {e : Expr} {parts : List Expr}
    (h : e.members = parts.flatMap Expr.members) : p.Joins m e parts :=
  ⟨resolveAnnotation_of_members h, isSome_annotationFault?_of_members h⟩

theorem joins_union (e e' : Expr) : p.Joins m (.union e e') [e, e'] :=
  joins_of_members (by simp [Expr.members_union])

/-- The parts of a union are what stands between the brackets. -/
theorem joins_subscript {value : Expr} (h : Expr.Heads "Union" value ∨ Expr.Heads "Optional" value)
    (index : Expr) : p.Joins m (.subscript value index) index.indices := by
  refine joins_of_members (Expr.members_of_unionParts ?_)
  rcases h with h | h <;> simp [Expr.unionParts?_of_heads h, Expr.unionNames]

/-- An annotated type is the first part. -/
theorem sameAnswer_annotated {value : Expr} (h : Expr.Heads "Annotated" value) (e : Expr)
    (rest : List Expr) : p.SameAnswer m (.subscript value (.tuple (e :: rest))) e := by
  have parts : Expr.unionParts? value (.tuple (e :: rest)) = some [e] := by
    simp [Expr.unionParts?_of_heads h, Expr.unionNames, Expr.indices]
  refine sameAnswer_of_members_eq ?_
  rw [Expr.members_of_unionParts parts, List.flatMap_singleton]

theorem sameAnswer_optional {value : Expr} (h : Expr.Heads "Optional" value) {e : Expr}
    (single : ∀ items, e ≠ .tuple items) : p.SameAnswer m (.subscript value e) e := by
  have parts : Expr.unionParts? value e = some [e] := by
    simp [Expr.unionParts?_of_heads h, Expr.unionNames, Expr.indices_of_ne_tuple single]
  refine sameAnswer_of_members_eq ?_
  rw [Expr.members_of_unionParts parts, List.flatMap_singleton]

/-- **What annotations stand for.** A union stands for the classes of its members, each once and in
order; an optional type for those of the type, unless a tuple stands between its brackets, and an
annotated type for those of its first part. A text in the place of what it quotes changes nothing. A
subscript of another kind that names no class in front of its brackets stands for what its parts
name, apart from those that are subscripts themselves. -/
theorem resolveAnnotation_laws (p : Program) (m : SourceModule) :
    let classes := p.resolveAnnotation m
    (∀ e e', classes (.union e e') = dedupe (classes e ++ classes e')) ∧
    (∀ value e e', Expr.Heads "Union" value →
      classes (.subscript value (.tuple [e, e'])) = dedupe (classes e ++ classes e')) ∧
    (∀ value e, Expr.Heads "Optional" value → (∀ items, e ≠ .tuple items) →
      p.SameAnswer m (.subscript value e) e) ∧
    (∀ value e rest, Expr.Heads "Annotated" value →
      p.SameAnswer m (.subscript value (.tuple (e :: rest))) e) ∧
    (∀ e, (classes e).Nodup) ∧
    (∀ e e', Quotes e e' → p.SameAnswer m e e') ∧
    (∀ value index, (∀ last ∈ Expr.unionNames, ¬Expr.Heads last value) →
      p.resolveExpr? m value = none →
      classes (.subscript value index) =
        dedupe (((index.indices.flatMap Expr.members).filter (!isSubscript ·)).filterMap
          (p.resolveExpr? m)) ∧
      p.annotationFault? m (.subscript value index) =
        (exprFault? value).or ((index.indices.flatMap Expr.members).findSome? exprFault?)) ∧
    (∀ e e', p.Joins m (.union e e') [e, e']) ∧
    ∀ value index, Expr.Heads "Union" value ∨ Expr.Heads "Optional" value →
      p.Joins m (.subscript value index) index.indices := by
  intro classes
  refine ⟨fun e e' => ?_, fun value e e' h => ?_, fun value e h => sameAnswer_optional h,
    fun value e rest h => sameAnswer_annotated h e rest, fun e => nodup_dedupe _,
    fun e e' h => sameAnswer_of_view_eq (view_of_quotes h),
    fun value index other unknown => ⟨resolveAnnotation_generic other unknown index,
      annotationFault?_generic other unknown index⟩, joins_union,
    fun value index h => joins_subscript h index⟩
  · simpa using (joins_union e e').classes
  · simpa [Expr.indices] using (joins_subscript (.inl h) (.tuple [e, e'])).classes

/-! ## A quoted name and a tuple in brackets -/

namespace Roundabout

theorem quoted?_kit : ∃ e, Expr.quoted? "Kit" = some e ∧ e.dotted? = some "Kit" := by
  have read : ((Expr.quoted? "Kit").bind Expr.dotted?) = some "Kit" := by decide +kernel
  simpa [Option.bind_eq_some_iff] using read

theorem resolveExpr?_kit {e : Expr} (h : e.dotted? = some "Kit") :
    program.resolveExpr? app e = some ⟨"lib", "Kit"⟩ := by
  rw [resolveExpr?_of_dotted program app h]
  decide +kernel

end Roundabout

/-- A union in which a name is quoted, and the parts of a subscript of another kind. -/
theorem resolveAnnotation_laws_kit : ∃ e, Expr.quoted? "Kit" = some e ∧ e.dotted? = some "Kit" ∧
    Expr.Heads "Union" (.name "Union") ∧ Expr.Heads "Optional" (.name "Optional") ∧
    Expr.Heads "Annotated" (.member (.name "typing") "Annotated") ∧
    (∀ last ∈ Expr.unionNames, ¬Expr.Heads last (.name "list")) ∧
    Roundabout.program.resolveAnnotation Roundabout.app
      (.subscript (.name "Union") (.tuple [.text "Kit", .literal])) = [⟨"lib", "Kit"⟩] ∧
    Roundabout.program.SameAnswer Roundabout.app (.subscript (.name "Optional") (.text "Kit"))
      (.text "Kit") ∧
    Roundabout.program.SameAnswer Roundabout.app
      (.subscript (.member (.name "typing") "Annotated") (.tuple [e, .literal])) e ∧
    Roundabout.program.SameAnswer Roundabout.app (.subscript (.name "list") e)
      (.subscript (.name "list") (.text "Kit")) ∧
    Roundabout.program.resolveAnnotation Roundabout.app (.subscript (.name "list") e) =
      [⟨"lib", "Kit"⟩] := by
  obtain ⟨e, quoted, dotted⟩ := Roundabout.quoted?_kit
  have union : Expr.Heads "Union" (.name "Union") := ⟨"Union", rfl, by decide⟩
  have optional : Expr.Heads "Optional" (.name "Optional") := ⟨"Optional", rfl, by decide⟩
  have annotated : Expr.Heads "Annotated" (.member (.name "typing") "Annotated") :=
    ⟨"typing.Annotated", rfl, by decide⟩
  have other : ∀ last ∈ Expr.unionNames, ¬Expr.Heads last (.name "list") := by
    rintro last known ⟨dotted, named, rfl⟩
    obtain rfl := Option.some.inj named
    revert known
    decide
  have single : ∀ items, e ≠ .tuple items := by
    rintro items rfl
    cases dotted
  have unknown : Roundabout.program.resolveExpr? Roundabout.app (.name "list") = none := by
    rw [resolveExpr?_of_dotted Roundabout.program Roundabout.app rfl]
    decide +kernel
  obtain ⟨-, unions, optionals, annotateds, -, quotes, generics, -⟩ :=
    resolveAnnotation_laws Roundabout.program Roundabout.app
  have kit : Roundabout.program.resolveAnnotation Roundabout.app (.text "Kit") =
      [⟨"lib", "Kit"⟩] := by
    rw [← (quotes e _ (.whole quoted)).classes, resolveAnnotation_of_dotted dotted,
      Roundabout.resolveExpr?_kit dotted]
    rfl
  have literal : Roundabout.program.resolveAnnotation Roundabout.app .literal = [] := by
    unfold resolveAnnotation
    rw [Expr.members_def]
    rfl
  refine ⟨e, quoted, dotted, union, optional, annotated, other, ?_,
    optionals _ _ optional (by simp), annotateds _ e [.literal] annotated,
    quotes _ _ (.argument _ [] [] (Expr.indices_of_ne_tuple single) rfl (.whole quoted)), ?_⟩
  · rw [unions _ _ _ union, kit, literal]
    rfl
  · have plain : isSubscript e = false := by
      cases e with
      | subscript value index => cases dotted
      | _ => rfl
    rw [(generics _ _ other unknown).1, Expr.indices_of_ne_tuple single]
    simp [Expr.members_of_dotted dotted, plain, Roundabout.resolveExpr?_kit dotted, dedupe]

/-- A tuple between the brackets of an optional type counts as several types. -/
theorem not_forall_optional :
    ¬∀ (p : Program) (m : SourceModule) (value e : Expr), p.Indexed → m ∈ p.modules.values →
      Expr.Heads "Optional" value →
      p.resolveAnnotation m (.subscript value e) = p.resolveAnnotation m e := by
  intro all
  have optional : Expr.Heads "Optional" (.name "Optional") := ⟨"Optional", rfl, by decide⟩
  have same := all Roundabout.program Roundabout.app (.name "Optional")
    (.tuple [.name "Kit", .name "Kit"]) Roundabout.indexed Roundabout.app_mem optional
  have kit : Roundabout.program.resolveAnnotation Roundabout.app (.name "Kit") =
      [⟨"lib", "Kit"⟩] := by
    rw [resolveAnnotation_of_dotted rfl, Roundabout.resolveExpr?_kit rfl]
    rfl
  rw [resolveAnnotation_tuple, (joins_subscript (.inr optional) _).classes] at same
  simp [Expr.indices, kit, dedupe] at same

end Program

end ArchModel
