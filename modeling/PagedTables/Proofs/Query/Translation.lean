import PagedTables.Proofs.Filter.FirstOffence
import PagedTables.Proofs.Query.Chain
import PagedTables.Query.Request

/-!
# Failures of translations

Where the items of a query have a schema, its query string exists, or else a part of the query is
refused. Two kinds of refusal are translation errors, which say that a construct is not supported
or that a field is unknown.

The others come from a conversion: of a point in time that leaves the calendar on its way to UTC, a
decimal whose negation signals, an integer of too many digits, or a member without a name. The main
result says which queries meet with them. It is those in which such a part stands with nothing wrong
in front of it. Writing the components one after the other cannot fail, because texts hold no
surrogates here.
-/
namespace PagedTables

/-- The refusal is reported as a construct that is not supported, or as an unknown field. -/
def Refusal.IsTranslationError (refusal : Refusal) : Prop :=
  ∃ report, refusal.report? = some report ∧
    (report.kind.name = "UnsupportedExpressionError" ∨ report.kind.name = "UnknownFieldError")

/-- A part of a query that is translated by itself. -/
inductive QueryPart where
  /-- An expression that is visited for the filter. -/
  | condition (e : Expr)
  /-- A sort key or a column, which has to be a field. -/
  | reference (clause : Clause) (e : Expr)
  /-- A number of items, with its text if it has one. -/
  | count (text : Option String)

namespace QueryPart

/-- What is wrong with a part of a query. -/
def offence? (schema : Schema) : QueryPart → Option Refusal
  | condition e => e.offence? schema Clause.filter
  | reference clause (.field path) => (Expr.field path).offence? schema clause
  | reference clause e => some (.unsupported e.display clause .notAField)
  | count _ => none

/-- How the translation of a part of a query fails with nothing reported, if it does. -/
def breakdown? (schema : Schema) : QueryPart → Option Refusal
  | condition e => e.breakdown? schema Clause.filter
  | reference _ e => if e.isShowable then none else some .tooLong
  | count text => if text.isSome then none else some .tooLong

/-- What stops the translation at a part of a query. -/
def obstacle? (schema : Schema) (part : QueryPart) : Option Refusal :=
  (part.breakdown? schema).or (part.offence? schema)

/-- The part of the query can be converted and shown. -/
def Convertible : QueryPart → Prop
  | condition e => e.Convertible
  | reference _ e => e.isShowable = true
  | count text => text.isSome = true

end QueryPart

namespace QuerySpec

/-- The parts of a query in the order in which they are translated. -/
def parts (spec : QuerySpec) : List QueryPart :=
  (spec.filter.toList.flatMap Expr.visited).map .condition ++
    (spec.ordering.map (fun key => .reference Clause.orderBy key.member) ++
      (spec.selection.toList.flatten.map (fun column => .reference Clause.select column.2) ++
        ((if 0 < spec.skip then [.count (countText? spec.skip)] else []) ++
          spec.take.toList.map (.count ·.written))))

/-- The first part of the query that cannot be translated is one whose conversion fails. -/
def BreaksDown (spec : QuerySpec) (schema : Schema) (refusal : Refusal) : Prop :=
  ∃ before part after, spec.parts = before ++ part :: after ∧
    (∀ p ∈ before, p.obstacle? schema = none) ∧ part.breakdown? schema = some refusal

end QuerySpec

/-! ## Refusals -/

namespace Refusal

theorem isTranslationError_unsupported (construct : String) (clause : Clause) (reason : Reason) :
    (unsupported construct clause reason).IsTranslationError :=
  ⟨_, rfl, Or.inl rfl⟩

theorem isTranslationError_unknownField (name : String) (owner : Option String) (clause : Clause) :
    (unknownField name owner clause).IsTranslationError :=
  ⟨_, rfl, Or.inr rfl⟩

theorem not_isTranslationError {refusal : Refusal} (h : refusal.report? = none) :
    ¬ refusal.IsTranslationError := by
  rintro ⟨report, hreport, -⟩
  rw [h] at hreport
  cases hreport

end Refusal

theorem Value.report?_of_breakdown {v : Value} {refusal : Refusal}
    (h : v.breakdown? = some refusal) : refusal.report? = none := by
  unfold breakdown? at h
  split at h
  · split at h
    · cases h
    · cases h
      rfl
  · split at h
    · cases h
    · cases h
      rfl
  · obtain ⟨offset, -, hutc⟩ := Option.bind_eq_some_iff.mp h
    split at hutc
    · cases hutc
      rfl
    · cases hutc
  · cases h

section Parts

variable {schema : Schema} {clause : Clause} {spec : QuerySpec}

theorem Expr.report?_of_breakdown {e : Expr} {refusal : Refusal}
    (h : e.breakdown? schema clause = some refusal) : refusal.report? = none := by
  unfold breakdown? at h
  split at h
  · exact Value.report?_of_breakdown h
  · exact Value.report?_of_breakdown h
  · split at h
    · cases h
    · cases h
      rfl
  · split at h
    · cases h
      rfl
    · cases h

theorem Expr.isTranslationError_of_offence {e : Expr} {refusal : Refusal}
    (h : e.offence? schema clause = some refusal) : refusal.IsTranslationError := by
  rcases Expr.unsupported_or_unknownField h with ⟨shown, reason, rfl⟩ | ⟨name, owner, rfl⟩
  · exact Refusal.isTranslationError_unsupported shown clause reason
  · exact Refusal.isTranslationError_unknownField name owner clause

/-! ## The parts of a query -/

namespace QueryPart

variable {part : QueryPart} {refusal : Refusal}

/-- What breaks down is not reported. -/
theorem report?_of_breakdown (h : part.breakdown? schema = some refusal) :
    refusal.report? = none := by
  cases part with
  | condition e => exact Expr.report?_of_breakdown h
  | reference clause e =>
      rw [breakdown?] at h
      split at h
      · cases h
      · cases h
        rfl
  | count text =>
      rw [breakdown?] at h
      split at h
      · cases h
      · cases h
        rfl

theorem isTranslationError_of_offence (h : part.offence? schema = some refusal) :
    refusal.IsTranslationError := by
  unfold offence? at h
  split at h
  · exact Expr.isTranslationError_of_offence h
  · exact Expr.isTranslationError_of_offence h
  · cases h
    exact Refusal.isTranslationError_unsupported _ _ _
  · cases h

theorem breakdown?_of_convertible (h : part.Convertible) : part.breakdown? schema = none := by
  cases part with
  | condition e => exact Expr.breakdown?_of_convertible h
  | reference clause e => exact if_pos h
  | count text => exact if_pos h

end QueryPart

/-- Of an expression that is refused, the refusal depends on whether it can be shown. -/
theorem Expr.settles_refused (e : Expr) (reason : Reason) :
    Settles ((if e.isShowable then none else some .tooLong).or
        (some (.unsupported e.display clause reason)))
      (.error (e.refusal clause reason) : Except Refusal String) := by
  rw [refusal]
  cases e.isShowable <;> rfl

theorem Expr.settles_fieldText (e : Expr) :
    Settles ((QueryPart.reference clause e).obstacle? schema) (e.fieldText schema clause) := by
  cases e with
  | field path => exact schema.settles_resolve path
  | foreign text => rfl
  | _ => exact settles_refused _ _

variable (schema) in
theorem settles_writtenText (text? : Option String) :
    Settles ((QueryPart.count text?).obstacle? schema) (QuerySpec.writtenText text?) := by
  cases text? with
  | none => rfl
  | some text => exact ⟨text, rfl⟩

/-- A list of steps is settled by the first reason of a step. -/
theorem Settles.mapM {α β : Type} {reason? : α → Option Refusal} {f : α → Except Refusal β}
    (h : ∀ a, Settles (reason? a) (f a)) (as : List α) :
    Settles (as.findSome? reason?) (as.mapM f) := by
  induction as with
  | nil => exact ⟨[], rfl⟩
  | cons a as ih =>
      have hfirst : (a :: as).findSome? reason? = (reason? a).or (as.findSome? reason?) := by
        rw [List.findSome?_cons]
        cases reason? a <;> rfl
      rw [List.mapM_cons, hfirst]
      exact (h a).bind fun b => ih.bind_made fun bs => ⟨b :: bs, rfl⟩

variable (schema) in
theorem settles_orderingText (keys : List SortKey) :
    Settles
      ((keys.map fun key => .reference Clause.orderBy key.member).findSome?
        (QueryPart.obstacle? schema))
      (orderingText schema keys) := by
  rw [List.findSome?_map]
  exact (Settles.mapM (fun key => key.member.settles_fieldText.map _) keys).map _

variable (schema) in
theorem settles_selectionText (selection : Selection) :
    Settles
      ((selection.map fun column => .reference Clause.select column.2).findSome?
        (QueryPart.obstacle? schema))
      (selectionText schema selection) := by
  rw [List.findSome?_map]
  exact (Settles.mapM (fun column => column.2.settles_fieldText.map _) selection).map _

namespace QuerySpec

section Settling

variable (schema) (spec : QuerySpec)

theorem settles_filterTexts :
    Settles
      (((spec.filter.toList.flatMap Expr.visited).map .condition).findSome?
        (QueryPart.obstacle? schema))
      (spec.filter.toList.mapM (Expr.filterText schema)) := by
  have hvisited (e : Expr) :
      Settles (e.visited.findSome? (Expr.obstacle? schema Clause.filter)) (e.filterText schema) :=
    (e.settles_visited schema Clause.filter).map FilterTerm.toText
  cases spec.filter with
  | none => exact ⟨[], rfl⟩
  | some e =>
      have hpart : QueryPart.obstacle? schema ∘ .condition =
          Expr.obstacle? schema Clause.filter := rfl
      have hone := Settles.mapM hvisited [e]
      simpa [List.findSome?_map, hpart] using hone

theorem settles_orderingTexts :
    Settles
      ((spec.ordering.map fun key => .reference Clause.orderBy key.member).findSome?
        (QueryPart.obstacle? schema))
      ((if spec.ordering.isEmpty then [] else [spec.ordering]).mapM (orderingText schema)) := by
  cases spec.ordering with
  | nil => exact ⟨[], rfl⟩
  | cons key rest =>
      have hone := Settles.mapM (settles_orderingText schema) [key :: rest]
      simpa using hone

theorem settles_selectionTexts :
    Settles
      ((spec.selection.toList.flatten.map fun column =>
        .reference Clause.select column.2).findSome? (QueryPart.obstacle? schema))
      ((spec.selection.toList.filter (!·.isEmpty)).mapM (selectionText schema)) := by
  cases spec.selection with
  | none => exact ⟨[], rfl⟩
  | some selection =>
      cases selection with
      | nil => exact ⟨[], rfl⟩
      | cons column rest =>
          have hone := Settles.mapM (settles_selectionText schema) [column :: rest]
          simpa using hone

theorem settles_skipTexts :
    Settles
      ((if 0 < spec.skip then [.count (countText? spec.skip)] else []).findSome?
        (QueryPart.obstacle? schema))
      ((if 0 < spec.skip then [spec.skip] else []).mapM fun n => writtenText (countText? n)) := by
  have hcount := Settles.mapM fun n => settles_writtenText schema (countText? n)
  split
  · exact hcount [spec.skip]
  · exact ⟨[], rfl⟩

theorem settles_takeTexts :
    Settles ((spec.take.toList.map (.count ·.written)).findSome? (QueryPart.obstacle? schema))
      (spec.take.toList.mapM fun limit => writtenText limit.written) := by
  rw [List.findSome?_map]
  exact Settles.mapM (fun limit => settles_writtenText schema limit.written) spec.take.toList

/-- The first obstacle in a query decides what becomes of its components. -/
theorem settles_ownComponents :
    Settles (spec.parts.findSome? (QueryPart.obstacle? schema)) (spec.ownComponents schema) := by
  rw [parts, List.findSome?_append, List.findSome?_append, List.findSome?_append,
    List.findSome?_append, ownComponents]
  refine (spec.settles_filterTexts schema).bind fun filter => ?_
  refine (spec.settles_orderingTexts schema).bind fun ordering => ?_
  refine (spec.settles_selectionTexts schema).bind fun selection => ?_
  refine (spec.settles_skipTexts schema).bind fun skip => ?_
  exact (spec.settles_takeTexts schema).bind_made fun take => ⟨_, rfl⟩

end Settling

/-- A query without obstacles has its components, and else the first one is its refusal. -/
theorem ownComponents_eq_error_iff {refusal : Refusal} :
    spec.ownComponents schema = .error refusal ↔
      ∃ before part after, spec.parts = before ++ part :: after ∧
        (∀ p ∈ before, p.obstacle? schema = none) ∧ part.obstacle? schema = some refusal := by
  have hsettles := spec.settles_ownComponents schema
  have hfirst : (∃ before part after, spec.parts = before ++ part :: after ∧
      (∀ p ∈ before, p.obstacle? schema = none) ∧ part.obstacle? schema = some refusal) ↔
      spec.parts.findSome? (QueryPart.obstacle? schema) = some refusal := by
    rw [List.findSome?_eq_some_iff]
    simp only [and_comm]
  rw [hfirst]
  cases hobstacle : spec.parts.findSome? (QueryPart.obstacle? schema) with
  | none =>
      rw [hobstacle] at hsettles
      obtain ⟨own, hown⟩ := hsettles
      simp [hown]
  | some first =>
      rw [hobstacle] at hsettles
      have herror : spec.ownComponents schema = .error first := hsettles
      simp [herror]

/-- The refusal of a query is a translation error, or that of a part that breaks down. -/
theorem isTranslationError_or_breaksDown {refusal : Refusal}
    (h : spec.ownComponents schema = .error refusal) :
    refusal.IsTranslationError ∨ spec.BreaksDown schema refusal := by
  obtain ⟨before, part, after, hparts, hbefore, hpart⟩ := ownComponents_eq_error_iff.mp h
  rcases Option.or_eq_some_iff.mp hpart with hbreakdown | ⟨-, hoffence⟩
  · exact Or.inr ⟨before, part, after, hparts, hbefore, hbreakdown⟩
  · exact Or.inl (QueryPart.isTranslationError_of_offence hoffence)

theorem BreaksDown.ownComponents_eq {refusal : Refusal} (h : spec.BreaksDown schema refusal) :
    spec.ownComponents schema = .error refusal := by
  obtain ⟨before, part, after, hparts, hbefore, hbreakdown⟩ := h
  refine ownComponents_eq_error_iff.mpr ⟨before, part, after, hparts, hbefore, ?_⟩
  rw [QueryPart.obstacle?, hbreakdown, Option.some_or]

end QuerySpec

end Parts

/-! ## Whole queries -/

namespace TableQuery

variable {q : TableQuery} {schema : Schema}

/-- With a schema, a query string is made of the components or else shares their refusal. -/
theorem queryString_eq (hschema : q.schema = .ok schema) (withParameters : Bool) :
    q.queryString withParameters =
      ((q.spec.components schema withParameters).mapError Fault.refused).map queryStringOf := by
  rw [queryString, components, hschema]
  rfl

/-- A condition on the negation of a signalling NaN. -/
def signallingCondition : Expr :=
  .binary .ge (.field ⟨"rating", []⟩)
    (.unary .negate (.constant (.decimal (.nan false true 0 0))))

/-- A condition with a function that filters do not have. -/
def medianCondition : Expr :=
  .call "median" [.field ⟨"rating", []⟩]

/-- Two conditions, of which the first breaks down and the second is not supported. -/
def signallingQuery : TableQuery :=
  (all .untyped .camelCase (some "movies")).chain
    [.filter (.operand (.node signallingCondition)), .filter (.operand (.node medianCondition))]

/-- A condition on the first midnight of the calendar, as it is an hour east of UTC. -/
def firstMidnightQuery : TableQuery :=
  (all .untyped .camelCase (some "movies")).chain
    [.filter (.operand (.node (.binary .lt (.field ⟨"released", []⟩)
      (.constant (.datetime
        ⟨⟨1, 1, 1⟩, ⟨0, 0, 0, 0⟩, some (.fixed (.ofSeconds 3600)), false⟩)))))]

end TableQuery

end PagedTables
