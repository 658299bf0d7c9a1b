import PagedTables.Proofs.Filter.LiteralText
import PagedTables.Proofs.Filter.Reader
import PagedTables.Proofs.Result

/-!
# Skeletons of expressions

What is left of an expression in its filter: the operators, the names of functions as they are
written, the order of operands and arguments, the text of a literal in place of each constant, and
the path at the service in place of each field. A negated number is the literal of its opposite, and
an addition of strings is a call of `concat`.

The main result says that filter texts can be read back. As long as fields resolve to paths, the
grammar reads the text of a filter in one way only, which is the skeleton of the expression that
it was made of. So expressions with different skeletons never have the same text.
-/
namespace PagedTables

mutual

/-- The tree is what is left of the expression in a filter. -/
inductive Expr.Skeleton (schema : Schema) : Expr → FilterTerm → Prop
  | constant {v : Value} {l : Literal} (h : v.literal = .ok l) :
      Skeleton schema (.constant v) (.literal l.toText)
  | field {path : FieldPath} {name : String} (h : schema.wirePath? path = some name) :
      Skeleton schema (.field path) (.field name)
  | not {e : Expr} {t : FilterTerm} (h : Skeleton schema e t) :
      Skeleton schema (.unary .not e) (.not t)
  | negation {v n : Value} {l : Literal} (hn : v.negated? = some (.ok n)) (h : n.literal = .ok l) :
      Skeleton schema (.unary .negate (.constant v)) (.literal l.toText)
  | concat {e f : Expr} {t u : FilterTerm} (hs : e.isString schema || f.isString schema)
      (hl : Skeleton schema e t) (hr : Skeleton schema f u) :
      Skeleton schema (.binary .add e f) (.call "concat" [t, u])
  | binary {op : BinaryOp} {e f : Expr} {t u : FilterTerm} (hop : op.isSupported)
      (hs : (decide (op = .add) && (e.isString schema || f.isString schema)) = false)
      (hl : Skeleton schema e t) (hr : Skeleton schema f u) :
      Skeleton schema (.binary op e f) (.binary op t u)
  | call {name : Name} {arities : List Nat} {es : List Expr} {ts : List FilterTerm}
      (hname : functionArities.lookup name.text = some arities) (hcount : es.length ∈ arities)
      (h : Skeletons schema es ts) : Skeleton schema (.call name es) (.call name.written ts)

/-- The trees are what is left of the expressions. -/
inductive Expr.Skeletons (schema : Schema) : List Expr → List FilterTerm → Prop
  | nil : Skeletons schema [] []
  | cons {e : Expr} {t : FilterTerm} {es : List Expr} {ts : List FilterTerm}
      (h : Skeleton schema e t) (hs : Skeletons schema es ts) :
      Skeletons schema (e :: es) (t :: ts)

end

mutual

/-- The paths of the fields that an expression refers to, from left to right. -/
def Expr.references : Expr → List FieldPath
  | .constant _ => []
  | .field path => [path]
  | .unary _ operand => operand.references
  | .binary _ left right => left.references ++ right.references
  | .call _ arguments => Expr.allReferences arguments
  | .foreign _ => []

/-- The paths of the fields that the expressions of a list refer to. -/
def Expr.allReferences : List Expr → List FieldPath
  | [] => []
  | e :: rest => e.references ++ Expr.allReferences rest

end

/-- The names at the service are paths that filter texts can hold. -/
def Schema.ResolvesToPaths (schema : Schema) (paths : List FieldPath) : Prop :=
  ∀ path ∈ paths, ∀ name, schema.wirePath? path = some name → IsFieldPath name.toList

theorem Schema.resolvesToPaths_append
    {schema : Schema} {paths others : List FieldPath} :
    schema.ResolvesToPaths (paths ++ others) ↔
      schema.ResolvesToPaths paths ∧ schema.ResolvesToPaths others :=
  List.forall_mem_append

/-! ## Filters and skeletons -/

section Filters

variable {schema : Schema} {clause : Clause}

theorem Value.literal_of_literalText
    {v : Value} {text : String} (h : v.literalText clause = .ok text) :
    ∃ l, v.literal = .ok l ∧ l.toText = text := by
  unfold Value.literalText at h
  split at h
  · next l hl => exact ⟨l, hl, by simpa using h⟩
  · cases h

theorem Schema.wirePath?_of_resolve
    {path : FieldPath} {name : String} (h : schema.resolve clause path = .ok name) :
    schema.wirePath? path = some name := by
  unfold Schema.resolve at h
  split at h
  · next wire hwire =>
      cases h
      exact hwire
  · cases h

mutual

/-- The filter of an expression is its skeleton. -/
theorem Expr.skeleton_of_toTerm (e : Expr) :
    ∀ {t : FilterTerm}, e.toTerm schema clause = .ok t → e.Skeleton schema t := by
  intro t h
  match e with
  | .constant v =>
      obtain ⟨text, htext, rfl⟩ := map_eq_ok.mp h
      obtain ⟨l, hl, rfl⟩ := Value.literal_of_literalText htext
      exact .constant hl
  | .field path =>
      obtain ⟨name, hname, rfl⟩ := map_eq_ok.mp h
      exact .field (Schema.wirePath?_of_resolve hname)
  | .unary .not operand =>
      obtain ⟨u, hu, rfl⟩ := map_eq_ok.mp h
      exact .not (operand.skeleton_of_toTerm hu)
  | .unary .negate operand =>
      cases operand with
      | constant v =>
          rw [Expr.toTerm] at h
          split at h
          · next n hn =>
              obtain ⟨text, htext, rfl⟩ := map_eq_ok.mp h
              obtain ⟨l, hl, rfl⟩ := Value.literal_of_literalText htext
              exact .negation hn hl
          · cases h
          · cases h
      | _ => cases h
  | .binary op left right =>
      rw [Expr.toTerm] at h
      split at h
      · next hop =>
          obtain ⟨l, hl, hrest⟩ := bind_eq_ok.mp h
          obtain ⟨r, hr, hmade⟩ := bind_eq_ok.mp hrest
          have hleft := left.skeleton_of_toTerm hl
          have hright := right.skeleton_of_toTerm hr
          clear h hrest
          split at hmade
          · next hs =>
              rw [Bool.and_eq_true, decide_eq_true_eq] at hs
              obtain ⟨rfl, hs⟩ := hs
              cases hmade
              exact .concat hs hleft hright
          · next hs =>
              cases hmade
              exact .binary hop (by simpa using hs) hleft hright
      · cases h
  | .call name arguments =>
      rw [Expr.toTerm] at h
      split at h
      · cases h
      · next arities harities =>
          split at h
          · next hcount =>
              obtain ⟨ts, hts, rfl⟩ := map_eq_ok.mp h
              exact .call harities (by simpa using hcount)
                (Expr.skeletons_of_toTerms arguments hts)
          · cases h
  | .foreign text => cases h

theorem Expr.skeletons_of_toTerms (es : List Expr) :
    ∀ {ts : List FilterTerm}, Expr.toTerms schema clause es = .ok ts →
      Expr.Skeletons schema es ts := by
  intro ts h
  match es with
  | [] =>
      cases h
      exact .nil
  | e :: rest =>
      rw [Expr.toTerms] at h
      obtain ⟨u, hu, hrest⟩ := bind_eq_ok.mp h
      obtain ⟨us, hus, hmade⟩ := bind_eq_ok.mp hrest
      cases hmade
      exact .cons (e.skeleton_of_toTerm hu) (Expr.skeletons_of_toTerms rest hus)

end

end Filters

/-! ## One skeleton for each expression -/

section Uniqueness

variable {schema : Schema}

mutual

/-- An expression has one skeleton at most. -/
theorem Expr.Skeleton.unique
    {e : Expr} {t u : FilterTerm} (ht : e.Skeleton schema t) (hu : e.Skeleton schema u) :
    t = u := by
  cases ht with
  | constant h =>
      cases hu with
      | constant h' => rw [Except.ok.inj (h.symm.trans h')]
  | field h =>
      cases hu with
      | field h' => rw [Option.some.inj (h.symm.trans h')]
  | not h =>
      cases hu with
      | not h' => rw [h.unique h']
  | negation hn h =>
      cases hu with
      | negation hn' h' =>
          cases hn.symm.trans hn'
          rw [Except.ok.inj (h.symm.trans h')]
  | concat hs hl hr =>
      cases hu with
      | concat _ hl' hr' => rw [hl.unique hl', hr.unique hr']
      | binary _ hs' _ _ => simp [hs] at hs'
  | binary _ hs hl hr =>
      cases hu with
      | concat hs' _ _ => simp [hs'] at hs
      | binary _ _ hl' hr' => rw [hl.unique hl', hr.unique hr']
  | call _ _ h =>
      cases hu with
      | call _ _ h' => rw [h.unique h']

theorem Expr.Skeletons.unique
    {es : List Expr} {ts us : List FilterTerm} (ht : Expr.Skeletons schema es ts)
    (hu : Expr.Skeletons schema es us) : ts = us := by
  cases ht with
  | nil =>
      cases hu
      rfl
  | cons h hs =>
      cases hu with
      | cons h' hs' => rw [h.unique h', hs.unique hs']

end

/-! ## Reading back -/

theorem reads_literal {s : String} (h : IsLiteral s.toList) : Reads s.toList (.literal s) := by
  simpa using Reads.literal h

theorem reads_field {s : String} (h : IsFieldPath s.toList) : Reads s.toList (.field s) := by
  simpa using Reads.field h

theorem reads_not {t : FilterTerm} (h : Reads t.toText.toList t) :
    Reads (FilterTerm.not t).toText.toList (.not t) := by
  simpa [FilterTerm.toText] using Reads.not h

theorem reads_binary
    {op : BinaryOp} {t u : FilterTerm} (hop : op.isSupported) (ht : Reads t.toText.toList t)
    (hu : Reads u.toText.toList u) :
    Reads (FilterTerm.binary op t u).toText.toList (.binary op t u) := by
  simpa [FilterTerm.toText] using Reads.binary hop ht hu

/-- A supported function is written by its own name, or as the member that its name is. -/
theorem isFunctionName_written {name : Name} (h : (functionArities.lookup name.text).isSome) :
    IsFunctionName name.written.toList := by
  obtain ⟨text, label⟩ := name
  cases label with
  | none => exact .supported h
  | some l => exact .label l

theorem reads_call
    {name : String} {ts : List FilterTerm} (hname : IsFunctionName name.toList)
    (h : ReadsAll (",".intercalate (FilterTerm.toTexts ts)).toList ts) :
    Reads (FilterTerm.call name ts).toText.toList (.call name ts) := by
  simpa [FilterTerm.toText] using Reads.call hname h

theorem readsAll_cons
    {t : FilterTerm} {ts : List FilterTerm} (ht : Reads t.toText.toList t)
    (hts : ts ≠ [] → ReadsAll (",".intercalate (FilterTerm.toTexts ts)).toList ts) :
    ReadsAll (",".intercalate (FilterTerm.toTexts (t :: ts))).toList (t :: ts) := by
  cases ts with
  | nil => simpa [FilterTerm.toTexts] using ReadsAll.one ht
  | cons u us =>
      simpa [FilterTerm.toTexts] using ReadsAll.more ht (hts (List.cons_ne_nil u us))

/-- Every function takes arguments. -/
theorem ne_nil_of_arity
    {name : String} {arities : List Nat} {es : List Expr}
    (hname : functionArities.lookup name = some arities) (hcount : es.length ∈ arities) :
    es ≠ [] := by
  have hall : ∀ entry ∈ functionArities, 0 ∉ entry.2 := by decide
  obtain ⟨before, after, hsplit, -⟩ := List.lookup_eq_some_iff.mp hname
  rintro rfl
  exact hall (name, arities) (by simp [hsplit]) hcount

mutual

/-- The grammar reads a skeleton from its text. -/
theorem Expr.Skeleton.reads
    {e : Expr} {t : FilterTerm} (h : e.Skeleton schema t)
    (hpaths : schema.ResolvesToPaths e.references) : Reads t.toText.toList t := by
  cases h with
  | @constant _ l h => exact reads_literal l.isLiteral_toText
  | field h => exact reads_field (hpaths _ (by simp [Expr.references]) _ h)
  | not h => exact reads_not (h.reads (by simpa [Expr.references] using hpaths))
  | @negation _ _ l hn h => exact reads_literal l.isLiteral_toText
  | concat hs hl hr =>
      rw [Expr.references, Schema.resolvesToPaths_append] at hpaths
      exact reads_call (.supported (by decide))
        (readsAll_cons (hl.reads hpaths.1) fun _ =>
          readsAll_cons (hr.reads hpaths.2) fun hne => absurd rfl hne)
  | binary hop hs hl hr =>
      rw [Expr.references, Schema.resolvesToPaths_append] at hpaths
      exact reads_binary hop (hl.reads hpaths.1) (hr.reads hpaths.2)
  | call hname hcount h =>
      exact reads_call (isFunctionName_written (by rw [hname]; rfl))
        (h.readsAll (by simpa [Expr.references] using hpaths) (ne_nil_of_arity hname hcount))

theorem Expr.Skeletons.readsAll
    {es : List Expr} {ts : List FilterTerm} (h : Expr.Skeletons schema es ts)
    (hpaths : schema.ResolvesToPaths (Expr.allReferences es)) (hne : es ≠ []) :
    ReadsAll (",".intercalate (FilterTerm.toTexts ts)).toList ts := by
  cases h with
  | nil => exact absurd rfl hne
  | cons h hs =>
      rw [Expr.allReferences, Schema.resolvesToPaths_append] at hpaths
      refine readsAll_cons (h.reads hpaths.1) fun hts => hs.readsAll hpaths.2 ?_
      rintro rfl
      cases hs
      exact hts rfl

end

/-- The filter of an expression is read as its skeleton. -/
theorem reads_filterText
    {e : Expr} {text : String} (htext : e.filterText schema = .ok text)
    (hpaths : schema.ResolvesToPaths e.references) :
    ∃ t, e.Skeleton schema t ∧ Reads text.toList t := by
  obtain ⟨t, ht, rfl⟩ := map_eq_ok.mp htext
  have hskeleton := e.skeleton_of_toTerm ht
  exact ⟨t, hskeleton, hskeleton.reads hpaths⟩

end Uniqueness

/--
A condition on fields named like operators, with a text that looks like a part of a filter and a
function whose name is a member of an enumeration.
-/
def lookalikeCondition : Expr :=
  .binary .and
    (.binary .eq (.field ⟨"or", []⟩) (.constant (.text "x') or (not eq 'y")))
    (.unary .not (.call "startswith" [
      .call ⟨"toupper", some ⟨.of "Fn", .of "UPPER"⟩⟩ [.field ⟨"not", ["eq"]⟩],
      .binary .add (.constant (.text ",")) (.unary .negate (.constant (.int 5)))]))

/-- The filter text of the condition. -/
def lookalikeText : String :=
  "((or eq 'x'') or (not eq ''y') and not(startswith(Fn.UPPER(not/eq),concat(',',-5))))"

end PagedTables
