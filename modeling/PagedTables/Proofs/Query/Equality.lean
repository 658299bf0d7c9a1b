import Mathlib.Data.List.Forall2
import PagedTables.Proofs.Value.Equality
import PagedTables.Query.Spec

/-!
# Equal queries

Specifications that compare equal may differ in several ways. They may hold different constants that
are equal, the caller's parameters may have been set in another order, and equal names and limits
may be written differently.

The main result says that a service cannot tell them apart if both are written with one vocabulary:
they have the same components but for the order of the parameters, or both are refused with the same
kind of error and for the same reason. It leaves out doubles, decimals and times with an offset,
whose literals tell equal constants apart. Without a vocabulary in common the result fails for
functions, limits, parameters and points in time, of which there is one example each.
-/
namespace PagedTables

/-! ## Outcomes -/

/-- Refusals of one kind, for one reason. What is not supported may be displayed differently. -/
inductive Refusal.Alike : Refusal → Refusal → Prop
  | same (refusal : Refusal) : Alike refusal refusal
  | unsupported (shown shown' : String) (clause : Clause) (reason : Reason) :
      Alike (.unsupported shown clause reason) (.unsupported shown' clause reason)

/-- The same result, or refusals that are alike. -/
inductive SameOutcome {α : Type} : Except Refusal α → Except Refusal α → Prop
  | ok (a : α) : SameOutcome (.ok a) (.ok a)
  | error {r r' : Refusal} (h : r.Alike r') : SameOutcome (.error r) (.error r')

namespace SameOutcome

variable {α β γ : Type}

theorem cases_outcome {x y : Except Refusal α} (h : SameOutcome x y) :
    (∃ r r', x = .error r ∧ y = .error r' ∧ r.Alike r') ∨ ∃ a, x = .ok a ∧ y = .ok a := by
  cases h with
  | ok a => exact Or.inr ⟨a, rfl, rfl⟩
  | error h => exact Or.inl ⟨_, _, rfl, rfl, h⟩

theorem refl (x : Except Refusal α) : SameOutcome x x := by
  cases x with
  | ok a => exact .ok a
  | error r => exact .error (.same r)

theorem map {x y : Except Refusal α} (h : SameOutcome x y) (f : α → β) :
    SameOutcome (x.map f) (y.map f) := by
  cases h with
  | ok a => exact .ok (f a)
  | error h => exact .error h

theorem bind {x y : Except Refusal α} {f g : α → Except Refusal β}
    (h : SameOutcome x y) (hfg : ∀ a, SameOutcome (f a) (g a)) :
    SameOutcome (x >>= f) (y >>= g) := by
  cases h with
  | ok a => exact hfg a
  | error h => exact .error h

theorem mapM {f : α → Except Refusal γ} {g : β → Except Refusal γ} {as : List α} {bs : List β}
    (h : List.Forall₂ (fun a b => SameOutcome (f a) (g b)) as bs) :
    SameOutcome (as.mapM f) (bs.mapM g) := by
  induction h with
  | nil => exact .ok []
  | @cons a b as bs hhead htail ih =>
      rw [List.mapM_cons, List.mapM_cons]
      exact hhead.bind fun c => ih.bind fun cs => .ok (c :: cs)

end SameOutcome

/-! ## Trees -/

mutual

/-- The constants and the functions of an expression are parts of the vocabulary. -/
def Vocabulary.SettlesExpr (voc : Vocabulary) : Expr → Prop
  | .constant v => voc.Settles v
  | .field _ => True
  | .unary _ operand => voc.SettlesExpr operand
  | .binary _ left right => voc.SettlesExpr left ∧ voc.SettlesExpr right
  | .call name arguments =>
    name.written = voc.functionText name.text ∧ voc.SettlesExprs arguments
  | .foreign _ => True

/-- The constants and the functions of all the expressions are parts of the vocabulary. -/
def Vocabulary.SettlesExprs (voc : Vocabulary) : List Expr → Prop
  | [] => True
  | e :: rest => voc.SettlesExpr e ∧ voc.SettlesExprs rest

end

mutual

/-- The same tree but for constants that are interchangeable and names that are written alike. -/
inductive Expr.Matches : Expr → Expr → Prop
  | constant {v w : Value} (h : v.Interchangeable w) : Matches (.constant v) (.constant w)
  | field {path path' : FieldPath} (h : path.names = path'.names) :
      Matches (.field path) (.field path')
  | unary (op : UnaryOp) {x y : Expr} (h : Matches x y) : Matches (.unary op x) (.unary op y)
  | binary (op : BinaryOp) {x y x' y' : Expr} (hl : Matches x y) (hr : Matches x' y') :
      Matches (.binary op x x') (.binary op y y')
  | call {name name' : Name} {xs ys : List Expr} (htext : name.text = name'.text)
      (hwritten : name.written = name'.written) (h : AllMatch xs ys) :
      Matches (.call name xs) (.call name' ys)
  | foreign (text : String) : Matches (.foreign text) (.foreign text)

/-- The expressions of two lists match one by one. -/
inductive Expr.AllMatch : List Expr → List Expr → Prop
  | nil : AllMatch [] []
  | cons {x y : Expr} {xs ys : List Expr} (h : Matches x y) (hs : AllMatch xs ys) :
      AllMatch (x :: xs) (y :: ys)

end

section Trees

variable {voc : Vocabulary} {schema : Schema} {clause : Clause}

mutual

theorem Expr.matches_of_equivalent (x : Expr) :
    ∀ {y : Expr}, x.equivalent y = .ok true → voc.SettlesExpr x → voc.SettlesExpr y →
      x.Matches y := by
  intro y h hx hy
  -- Nodes of different kinds are not equivalent, whatever they hold.
  match x with
  | .constant v =>
      cases y with
      | constant w => exact .constant (Value.interchangeable_of_identical hx hy h)
      | _ => cases h
  | .field path =>
      cases y with
      | field path' => exact .field (beq_iff_eq.mp (Except.ok.inj h))
      | _ => cases h
  | .unary op operand =>
      cases y with
      | unary op' operand' =>
          obtain ⟨hop, hoperand⟩ := Comparison.andThen_eq_true.mp h
          cases beq_iff_eq.mp (Except.ok.inj hop)
          exact .unary op (operand.matches_of_equivalent hoperand hx hy)
      | _ => cases h
  | .binary op left right =>
      cases y with
      | binary op' left' right' =>
          obtain ⟨hop, hoperands⟩ := Comparison.andThen_eq_true.mp h
          obtain ⟨hleft, hright⟩ := Comparison.andThen_eq_true.mp hoperands
          cases beq_iff_eq.mp (Except.ok.inj hop)
          exact .binary op (left.matches_of_equivalent hleft hx.1 hy.1)
            (right.matches_of_equivalent hright hx.2 hy.2)
      | _ => cases h
  | .call name arguments =>
      cases y with
      | call name' arguments' =>
          obtain ⟨hname, harguments⟩ := Comparison.andThen_eq_true.mp h
          have htext : name.text = name'.text := beq_iff_eq.mp (Except.ok.inj hname)
          have hwritten : name.written = name'.written := by rw [hx.1, hy.1, htext]
          exact .call htext hwritten (allMatch_of_allEquivalent arguments harguments hx.2 hy.2)
      | _ => cases h
  | .foreign text =>
      cases y with
      | foreign text' =>
          cases beq_iff_eq.mp (Except.ok.inj h)
          exact .foreign text
      | _ => cases h

theorem Expr.allMatch_of_allEquivalent (xs : List Expr) :
    ∀ {ys : List Expr}, Expr.allEquivalent xs ys = .ok true → voc.SettlesExprs xs →
      voc.SettlesExprs ys → Expr.AllMatch xs ys := by
  intro ys h hxs hys
  match xs with
  | [] =>
      cases ys with
      | nil => exact .nil
      | cons y ys => cases h
  | x :: xs =>
      cases ys with
      | nil => cases h
      | cons y ys =>
          obtain ⟨hhead, htail⟩ := Comparison.andThen_eq_true.mp h
          exact .cons (x.matches_of_equivalent hhead hxs.1 hys.1)
            (allMatch_of_allEquivalent xs htail hxs.2 hys.2)

end

/-- Paths of the same names are the same to a schema. -/
theorem FieldPath.text_eq_of_names_eq {path path' : FieldPath} (h : path.names = path'.names) :
    path.first.text = path'.first.text ∧ path.rest.map Name.text = path'.rest.map Name.text := by
  rw [names, names, List.map_cons, List.map_cons, List.cons.injEq] at h
  exact h

theorem Schema.wirePath?_eq_of_names_eq {path path' : FieldPath} (h : path.names = path'.names) :
    schema.wirePath? path = schema.wirePath? path' := by
  obtain ⟨hfirst, hrest⟩ := FieldPath.text_eq_of_names_eq h
  have happly (rest : List Name) : (rest.map fun name => schema.naming.apply name.text) =
      (rest.map Name.text).map schema.naming.apply := by
    rw [List.map_map]
    rfl
  rw [wirePath?, wirePath?, h, hfirst, happly, happly, hrest]

theorem Schema.resolve_eq_of_names_eq {path path' : FieldPath} (h : path.names = path'.names) :
    schema.resolve clause path = schema.resolve clause path' := by
  rw [resolve, resolve, wirePath?_eq_of_names_eq h, FieldPath.dotted, FieldPath.dotted, h]

theorem Schema.isString_eq_of_names_eq {path path' : FieldPath} (h : path.names = path'.names) :
    schema.isString path = schema.isString path' := by
  obtain ⟨hfirst, hrest⟩ := FieldPath.text_eq_of_names_eq h
  have hempty : path.rest.isEmpty = path'.rest.isEmpty := by
    simpa using congrArg List.isEmpty hrest
  rw [isString, isString, hempty, hfirst]

theorem Expr.AllMatch.length_eq {xs ys : List Expr} (h : Expr.AllMatch xs ys) :
    xs.length = ys.length := by
  match h with
  | .nil => rfl
  | .cons _ hs => rw [List.length_cons, List.length_cons, hs.length_eq]

theorem Expr.Matches.isString_eq {x y : Expr} (h : x.Matches y) :
    x.isString schema = y.isString schema := by
  match h with
  | .constant h => rw [isString, isString, h.asText?]
  | .field h => exact Schema.isString_eq_of_names_eq h
  | .unary op h => rfl
  | .binary op hl hr =>
      cases op with
      | add => rw [isString, isString, hl.isString_eq, hr.isString_eq]
      | _ => rfl
  | .call htext hwritten h => rw [isString, isString, htext]
  | .foreign text => rfl

mutual

theorem Expr.Matches.isShowable_eq {x y : Expr} (h : x.Matches y) :
    x.isShowable = y.isShowable := by
  match h with
  | .constant h => exact h.isShowable
  | .field h => rfl
  | .unary op h => exact h.isShowable_eq
  | .binary op hl hr => rw [isShowable, isShowable, hl.isShowable_eq, hr.isShowable_eq]
  | .call htext hwritten h => exact h.areShowable_eq
  | .foreign text => rfl

theorem Expr.AllMatch.areShowable_eq {xs ys : List Expr} (h : Expr.AllMatch xs ys) :
    Expr.areShowable xs = Expr.areShowable ys := by
  match h with
  | .nil => rfl
  | .cons h hs => rw [areShowable, areShowable, h.isShowable_eq, hs.areShowable_eq]

end

/-- Expressions that match are refused alike for one reason. -/
theorem Expr.Matches.refused {α : Type} {x y : Expr} (h : x.Matches y) (reason : Reason) :
    SameOutcome (.error (x.refusal clause reason) : Except Refusal α)
      (.error (y.refusal clause reason)) := by
  rw [refusal, refusal, h.isShowable_eq]
  split
  · exact .error (.unsupported _ _ _ _)
  · exact .refl _

theorem Value.Interchangeable.literalText {v w : Value} (h : v.Interchangeable w) :
    SameOutcome (v.literalText clause) (w.literalText clause) := by
  rw [Value.literalText, Value.literalText]
  rcases h.literal with hliteral | ⟨x, y, hx, hy⟩
  · rw [hliteral]
    exact .refl _
  · rw [hx, hy]
    exact .error (.unsupported x y clause .noOffset)

theorem Expr.Matches.negation {x y : Expr} (h : x.Matches y) :
    SameOutcome ((Expr.unary .negate x).toTerm schema clause)
      ((Expr.unary .negate y).toTerm schema clause) := by
  have hrefused : SameOutcome
      (.error ((Expr.unary .negate x).refusal clause .negation) : Except Refusal FilterTerm)
      (.error ((Expr.unary .negate y).refusal clause .negation)) :=
    (Expr.Matches.unary .negate h).refused .negation
  cases h with
  | constant h =>
      rw [toTerm, toTerm, h.negated?]
      split
      · exact .refl _
      · exact .refl _
      · exact hrefused
  | _ => exact hrefused

mutual

theorem Expr.Matches.sameOutcome {x y : Expr} (h : x.Matches y) :
    SameOutcome (x.toTerm schema clause) (y.toTerm schema clause) := by
  match h with
  | .constant h => exact h.literalText.map FilterTerm.literal
  | .field h =>
      rw [toTerm, toTerm, Schema.resolve_eq_of_names_eq h]
      exact .refl _
  | .unary .not h => exact h.sameOutcome.map FilterTerm.not
  | .unary .negate h => exact h.negation
  | .binary op hl hr =>
      -- The filters of an addition depend on its operands in two ways, by their own filters and by
      -- whether they are strings.
      rw [toTerm, toTerm, hl.isString_eq, hr.isString_eq]
      split
      · exact hl.sameOutcome.bind fun l => hr.sameOutcome.bind fun r => .refl _
      · exact (Expr.Matches.binary op hl hr).refused _
  | .call htext hwritten h =>
      rw [toTerm, toTerm, h.length_eq, htext, hwritten]
      split
      · exact (Expr.Matches.call htext hwritten h).refused _
      · split
        · exact h.sameOutcomes.map _
        · exact (Expr.Matches.call htext hwritten h).refused _
  | .foreign text => exact .refl _

theorem Expr.AllMatch.sameOutcomes {xs ys : List Expr} (h : Expr.AllMatch xs ys) :
    SameOutcome (Expr.toTerms schema clause xs) (Expr.toTerms schema clause ys) := by
  match h with
  | .nil => exact .ok []
  | .cons h hs =>
      rw [toTerms, toTerms]
      exact h.sameOutcome.bind fun t => hs.sameOutcomes.bind fun ts => .ok (t :: ts)

end

end Trees

/-! ## Parts of specifications -/

section Parts

variable {voc : Vocabulary} {schema : Schema} {clause : Clause}

theorem Expr.sameOutcome_fieldText {x y : Expr} (h : x.Matches y) :
    SameOutcome (x.fieldText schema clause) (y.fieldText schema clause) := by
  match h with
  | .field h =>
      rw [fieldText, fieldText, Schema.resolve_eq_of_names_eq h]
      exact .refl _
  | .constant h => exact (Expr.Matches.constant h).refused .notAField
  | .unary op h => exact (Expr.Matches.unary op h).refused .notAField
  | .binary op hl hr => exact (Expr.Matches.binary op hl hr).refused .notAField
  | .call htext hwritten h => exact (Expr.Matches.call htext hwritten h).refused .notAField
  | .foreign text => exact (Expr.Matches.foreign text).refused .notAField

namespace QuerySpec

theorem forall₂_of_agree {α : Type} {equal : α → α → Comparison} {p : α → Prop} {xs ys : List α}
    (h : agree equal xs ys = .ok true) (hxs : ∀ x ∈ xs, p x) (hys : ∀ y ∈ ys, p y) :
    List.Forall₂ (fun x y => equal x y = .ok true ∧ p x ∧ p y) xs ys := by
  induction xs generalizing ys with
  | nil =>
      cases ys with
      | nil => exact .nil
      | cons y ys => cases h
  | cons x xs ih =>
      cases ys with
      | nil => cases h
      | cons y ys =>
          obtain ⟨hhead, htail⟩ := Comparison.andThen_eq_true.mp h
          obtain ⟨hx, hxs⟩ := List.forall_mem_cons.mp hxs
          obtain ⟨hy, hys⟩ := List.forall_mem_cons.mp hys
          exact .cons ⟨hhead, hx, hy⟩ (ih htail hxs hys)

theorem isEmpty_eq_of_agree {α : Type} {equal : α → α → Comparison} {xs ys : List α}
    (h : agree equal xs ys = .ok true) : xs.isEmpty = ys.isEmpty := by
  cases xs with
  | nil => exact (Except.ok.inj h).symm
  | cons x xs =>
      cases ys with
      | nil => cases h
      | cons y ys => rfl

/-- As lists of at most one element, options agree like lists. -/
theorem forall₂_of_agreeOption {α : Type} {equal : α → α → Comparison} {p : α → Prop}
    {x y : Option α} (h : agreeOption equal x y = .ok true) (hx : ∀ a ∈ x, p a)
    (hy : ∀ a ∈ y, p a) :
    List.Forall₂ (fun x y => equal x y = .ok true ∧ p x ∧ p y) x.toList y.toList := by
  cases x with
  | none =>
      cases y with
      | none => exact .nil
      | some y => cases h
  | some x =>
      cases y with
      | none => cases h
      | some y => exact .cons ⟨h, hx x rfl, hy y rfl⟩ .nil

theorem sameOutcome_orderingText {keys keys' : List SortKey}
    (h : agree sameKey keys keys' = .ok true)
    (hkeys : ∀ key ∈ keys, voc.SettlesExpr key.member)
    (hkeys' : ∀ key ∈ keys', voc.SettlesExpr key.member) :
    SameOutcome (orderingText schema keys) (orderingText schema keys') := by
  have htexts : List.Forall₂
      (fun key key' => SameOutcome (SortKey.text schema key) (SortKey.text schema key'))
      keys keys' := by
    refine (forall₂_of_agree h hkeys hkeys').imp ?_
    rintro key key' ⟨hkey, hsettled, hsettled'⟩
    obtain ⟨hmember, hascending⟩ := Comparison.andThen_eq_true.mp hkey
    rw [SortKey.text, SortKey.text, beq_iff_eq.mp (Except.ok.inj hascending)]
    exact (Expr.sameOutcome_fieldText
      (key.member.matches_of_equivalent hmember hsettled hsettled')).map _
  exact (SameOutcome.mapM htexts).map _

theorem sameOutcome_selectionText {selection selection' : Selection}
    (h : agree sameColumn selection selection' = .ok true)
    (hcolumns : ∀ column ∈ selection, voc.SettlesExpr column.2)
    (hcolumns' : ∀ column ∈ selection', voc.SettlesExpr column.2) :
    SameOutcome (selectionText schema selection) (selectionText schema selection') := by
  have htexts : SameOutcome (selectionColumns schema selection)
      (selectionColumns schema selection') := by
    refine SameOutcome.mapM ((forall₂_of_agree h hcolumns hcolumns').imp ?_)
    rintro ⟨out, e⟩ ⟨out', e'⟩ ⟨hcolumn, hsettled, hsettled'⟩
    obtain ⟨hout, he⟩ := Comparison.andThen_eq_true.mp hcolumn
    cases beq_iff_eq.mp (Except.ok.inj hout)
    exact (Expr.sameOutcome_fieldText (e.matches_of_equivalent he hsettled hsettled')).map _
  exact htexts.map _

end QuerySpec

end Parts

/-! ## Whole specifications -/

namespace QuerySpec

/-- What is sent for the caller's parameters, as pairs of texts. -/
def writtenParameters (spec : QuerySpec) : List (String × String) :=
  spec.parameters.map fun (name, value) => (name.written, value)

/-- The specification is written with the vocabulary. -/
structure Settled (voc : Vocabulary) (spec : QuerySpec) : Prop where
  filter : ∀ e ∈ spec.filter, voc.SettlesExpr e
  ordering : ∀ key ∈ spec.ordering, voc.SettlesExpr key.member
  selection : ∀ columns ∈ spec.selection, ∀ column ∈ columns, voc.SettlesExpr column.2
  take : ∀ limit ∈ spec.take, limit.written = voc.limitText limit.count
  parameters : ∀ c ∈ spec.parameters, c.1.written = voc.parameterText c.1.text

variable {voc : Vocabulary} {a b : QuerySpec}

theorem sameOutcome_filters (ha : a.Settled voc) (hb : b.Settled voc)
    (h : agreeOption Expr.equivalent a.filter b.filter = .ok true) (schema : Schema) :
    SameOutcome (a.filter.toList.mapM (Expr.filterText schema))
      (b.filter.toList.mapM (Expr.filterText schema)) := by
  refine SameOutcome.mapM ((forall₂_of_agreeOption h ha.filter hb.filter).imp ?_)
  rintro x y ⟨hequivalent, hx, hy⟩
  exact (x.matches_of_equivalent hequivalent hx hy).sameOutcome.map FilterTerm.toText

theorem sameOutcome_orderings (ha : a.Settled voc) (hb : b.Settled voc)
    (h : agree sameKey a.ordering b.ordering = .ok true) (schema : Schema) :
    SameOutcome ((if a.ordering.isEmpty then [] else [a.ordering]).mapM (orderingText schema))
      ((if b.ordering.isEmpty then [] else [b.ordering]).mapM (orderingText schema)) := by
  rw [isEmpty_eq_of_agree h]
  split
  · exact .refl _
  · exact SameOutcome.mapM (.cons (sameOutcome_orderingText h ha.ordering hb.ordering) .nil)

theorem sameOutcome_selections (ha : a.Settled voc) (hb : b.Settled voc)
    (h : agreeOption (agree sameColumn) a.selection b.selection = .ok true) (schema : Schema) :
    SameOutcome ((a.selection.toList.filter (!·.isEmpty)).mapM (selectionText schema))
      ((b.selection.toList.filter (!·.isEmpty)).mapM (selectionText schema)) := by
  refine SameOutcome.mapM (List.Forall₂.imp (fun _ _ h => sameOutcome_selectionText h.1 h.2.1 h.2.2)
    (List.rel_filter ?_ (forall₂_of_agreeOption h ha.selection hb.selection)))
  rintro selection selection' ⟨hselection, -, -⟩
  simp only [isEmpty_eq_of_agree hselection]

/-- Equal limits of one vocabulary are written alike. -/
theorem writtenLimits_eq (ha : a.Settled voc) (hb : b.Settled voc)
    (h : a.take.map Limit.count = b.take.map Limit.count) :
    a.take.map Limit.written = b.take.map Limit.written := by
  have hwritten {take : Option Limit}
      (hlimit : ∀ limit ∈ take, limit.written = voc.limitText limit.count) :
      take.map Limit.written = (take.map Limit.count).map voc.limitText := by
    rw [Option.map_map]
    exact Option.map_congr hlimit
  rw [hwritten ha.take, hwritten hb.take, h]

theorem same_eq_true_iff : a.same b = .ok true ↔
    agreeOption Expr.equivalent a.filter b.filter = .ok true ∧
      agree sameKey a.ordering b.ordering = .ok true ∧
      agreeOption (agree sameColumn) a.selection b.selection = .ok true ∧
      a.sameOptions b = true := by
  simp only [same, Comparison.andThen_eq_true, Except.ok.injEq]

theorem sameOutcome_ownComponents (ha : a.Settled voc) (hb : b.Settled voc)
    (h : a.same b = .ok true) (schema : Schema) :
    SameOutcome (a.ownComponents schema) (b.ownComponents schema) := by
  obtain ⟨hfilter, hordering, hselection, hoptions⟩ := same_eq_true_iff.mp h
  simp only [sameOptions, Bool.and_eq_true, beq_iff_eq] at hoptions
  obtain ⟨⟨⟨⟨hskip, htake⟩, hdeleted⟩, hcount⟩, -⟩ := hoptions
  have htakes (take : Option Limit) : (take.toList.mapM fun limit => writtenText limit.written) =
      (take.map Limit.written).toList.mapM writtenText := by
    cases take <;> rfl
  rw [ownComponents, ownComponents, hskip, hdeleted, hcount, htakes, htakes,
    writtenLimits_eq ha hb htake]
  exact (sameOutcome_filters ha hb hfilter schema).bind fun _ =>
    (sameOutcome_orderings ha hb hordering schema).bind fun _ =>
      (sameOutcome_selections ha hb hselection schema).bind fun _ => .refl _

/-- Equal parameters of one vocabulary are written alike, in some order. -/
theorem writtenParameters_perm (ha : a.Settled voc) (hb : b.Settled voc)
    (h : a.parameterTexts.Perm b.parameterTexts) :
    a.writtenParameters.Perm b.writtenParameters := by
  have hwritten {spec : QuerySpec} (hspec : spec.Settled voc) : spec.writtenParameters =
      spec.parameterTexts.map fun p => (voc.parameterText p.1, p.2) := by
    rw [writtenParameters, parameterTexts, List.map_map]
    refine List.map_congr_left fun c hc => ?_
    exact Prod.ext (hspec.parameters c hc) rfl
  rw [hwritten ha, hwritten hb]
  exact h.map _

/-- A genre, which is a text. -/
def drama : Member :=
  .single (.of "Genre") (.of "DRAMA") (.text "drama") .byName

/-- A catalogue of dramas, in which nothing is written in two ways. -/
def catalogue : Vocabulary where
  Declares m := m = drama
  unique m n hm hn _ _ _ := hm.trans hn.symm
  apart := by
    rintro m rfl
    decide
  offset _ _ _ := .ofSeconds 0
  functionText s := s
  parameterText s := s
  limitText n := some n.repr

/-- Dramas from a point in time on, with a word in their titles. -/
def dramasFrom (released : DateTime) : Expr :=
  .binary .and
    (.binary .ge (.field ⟨"released", []⟩) (.constant (.datetime released)))
    (.binary .and
      (.binary .eq (.field ⟨"genre", []⟩) (.constant (.member drama)))
      (.call "contains" [.call "tolower" [.field ⟨"title", []⟩], .constant (.text "love")]))

/-- The last half hour of a day in Paris, with two parameters. -/
def parisQuery : QuerySpec :=
  { all with
    filter := some (dramasFrom
      ⟨⟨1994, 12, 31⟩, ⟨23, 30, 0, 0⟩, some (.fixed (.ofSeconds 3600)), false⟩)
    take := some ⟨20, some "20"⟩
    parameters := [(.plain "a", "1"), (.plain "b", "2")] }

/-- The same point in time on the next day in Tokyo, with the same parameters set the other way. -/
def tokyoQuery : QuerySpec :=
  { all with
    filter := some (dramasFrom
      ⟨⟨1995, 1, 1⟩, ⟨7, 30, 0, 0⟩, some (.fixed (.ofSeconds 32400)), false⟩)
    take := some ⟨20, some "20"⟩
    parameters := [(.plain "b", "2"), (.plain "a", "1")] }

theorem settlesExpr_dramasFrom {released : DateTime} (h : catalogue.Settles (.datetime released)) :
    catalogue.SettlesExpr (dramasFrom released) :=
  ⟨⟨trivial, h⟩, ⟨trivial, rfl⟩, rfl, ⟨rfl, trivial, trivial⟩, trivial, trivial⟩

/-- A member of an enumeration, as the name that it is. -/
def tagged (text : String) (owner own : Identifier) : Name :=
  ⟨text, some ⟨owner, own⟩⟩

/-- A query for titles in lower case, by what the function is called. -/
def loweredQuery (function : Name) : QuerySpec :=
  { all with filter := some (.binary .eq (.call function [.field ⟨"title", []⟩])
      (.constant (.text "alien"))) }

/-- A query for one item. -/
def firstQuery (written : String) : QuerySpec :=
  { all with take := some ⟨1, some written⟩ }

/-- A query with one parameter. -/
def parameterQuery (name : Name) : QuerySpec :=
  { all with parameters := [(name, "x")] }

/-- A query for what came out at half past two in the night in which Paris sets back its clocks. -/
def clockChangeQuery (isLate : Bool) : QuerySpec :=
  { all with filter := some (.binary .ge (.field ⟨"released", []⟩) (.constant (.datetime
      ⟨⟨1994, 9, 25⟩, ⟨2, 30, 0, 0⟩,
        some (.named "Europe/Paris" (.ofSeconds 7200) (.ofSeconds 3600)), isLate⟩))) }

/-- The specifications compare equal, but what is sent for them differs. -/
def SameButSentApart (a b : QuerySpec) : Prop :=
  a.same b = .ok true ∧ ∃ s t, a.queryString (.untyped .camelCase) true = .ok s ∧
    b.queryString (.untyped .camelCase) true = .ok t ∧ s ≠ t

end QuerySpec

end PagedTables
