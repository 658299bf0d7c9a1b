import Mathlib.Data.List.Basic
import PagedTables.Fault
import PagedTables.Filter.Basic
import PagedTables.Proofs.Text.Integers

/-!
# First offences

Which expressions have a filter, and which refusal the others meet with. An expression can be wrong
by itself, whatever its operands and arguments are: it is of no known kind, its constant cannot be
written, its field is unknown, it cannot be negated, or its operator or function is not supported.
What is negated is no expression of its own here, because it only ever is a part of a literal.

Beside what is reported as wrong there are breakdowns, of which nothing is reported: a point in time
outside of the calendar of UTC, a decimal whose negation signals, an integer with more digits than
are ever written, a member of an enumeration without a name, and an expression that would be shown
as wrong but holds such an integer.

The main result says that a filter is made exactly when nothing that is visited is wrong or breaks
down. Otherwise the refusal is the one of the first such expression in the order of the visit, and
the same as if that expression were all there is.
-/
namespace PagedTables

/-! ## Offences -/

/-- The operators that filters have. -/
def filterOperators : List BinaryOp :=
  [.eq, .ne, .gt, .ge, .lt, .le, .and, .or, .add, .sub, .mul, .div, .mod]

/-- How a value that cannot be written in a filter is shown, and why it cannot. -/
def Value.unwritable? : Value → Option (String × Reason)
  | null | bool _ | int _ | member _ | text _ | uuid _ | date _ | time _ => none
  | float x => if x.isFinite then none else some (x.toText, .notFinite)
  | decimal d => if d.isFinite then none else some (d.toText, .notFinite)
  | datetime t => if t.offset.isSome then none else some (t.display, .noOffset)
  | v => some ("constant of type " ++ v.typeName, .noLiteral)

/-- The opposite of a constant that is a number. -/
def Expr.opposite? : Expr → Option Value
  | constant (.int n) => some (.int (-n))
  | constant (.float x) => some (.float x.negate)
  | constant (.decimal d) => d.negate.toOption.map .decimal
  | _ => none

/-- What is wrong with an expression by itself. -/
def Expr.offence? (schema : Schema) (clause : Clause) : Expr → Option Refusal
  | constant v => v.unwritable?.map fun (shown, reason) => .unsupported shown clause reason
  | field path =>
    match schema.record with
    | none => none
    | some t =>
      if path.first.text ∈ t.fields.map Field.name then none
      else some (.unknownField path.dotted (some t.name) clause)
  | unary .not _ => none
  | unary .negate operand =>
    match operand.opposite? with
    | some v => v.unwritable?.map fun (shown, reason) => .unsupported shown clause reason
    | none => some (.unsupported ("-" ++ operand.display) clause .negation)
  | binary op left right =>
    if op ∈ filterOperators then none
    else some (.unsupported (binary op left right).display clause (.operator op.symbol))
  | call name arguments =>
    match functionArities.lookup name.text with
    | none =>
      some (.unsupported (call name arguments).display clause (.unknownFunction name.written))
    | some arities =>
      if arguments.length ∈ arities then none
      else some (.unsupported (call name arguments).display clause
        (.argumentCount name.written arities arguments.length))
  | foreign text => some (.unsupported ("CustomNode <" ++ text ++ ">") clause .notAnExpression)

mutual

/-- The expressions that are visited for a filter, each before its operands or arguments. -/
def Expr.visited : Expr → List Expr
  | unary .not operand => unary .not operand :: operand.visited
  | binary op left right => binary op left right :: (left.visited ++ right.visited)
  | call name arguments => call name arguments :: Expr.allVisited arguments
  | e => [e]

/-- The expressions that are visited for a list of expressions, from left to right. -/
def Expr.allVisited : List Expr → List Expr
  | [] => []
  | e :: rest => e.visited ++ Expr.allVisited rest

end

/-- How the writing of a constant fails with nothing reported, if it does. -/
def Value.breakdown? : Value → Option Refusal
  | int n => if Text.isWritable n then none else some .tooLong
  | member m => if m.name?.isSome then none else some .noName
  | datetime t =>
    t.offset.bind fun offset => if (t.utc? offset).isNone then some .beyondCalendar else none
  | _ => none

/--
How the translation of an expression fails with nothing reported, if it does: a constant, or its
opposite, cannot be converted, or the expression is wrong and cannot be shown.
-/
def Expr.breakdown? (schema : Schema) (clause : Clause) : Expr → Option Refusal
  | constant v => v.breakdown?
  | unary .negate (constant (.int n)) => (Value.int (-n)).breakdown?
  | unary .negate (constant (.decimal d)) =>
    match d.negate with
    | .ok _ => none
    | .error signal => some (.arithmetic signal)
  | e => if (e.offence? schema clause).isSome && !e.isShowable then some .tooLong else none

/-- What stops the translation at an expression: a breakdown, or what is wrong with it. -/
def Expr.obstacle? (schema : Schema) (clause : Clause) (e : Expr) : Option Refusal :=
  (e.breakdown? schema clause).or (e.offence? schema clause)

/--
The expression can be converted and shown: a point in time lies within the calendar of UTC, a member
has a name, integers have no more digits than are written, and the negation of a decimal neither is
an invalid operation nor overflows.
-/
def Expr.Convertible : Expr → Prop
  | constant v => v.breakdown? = none
  | unary .negate (constant (.int n)) => Text.isWritable (-n) = true
  | unary .negate (constant (.decimal d)) => ∀ signal, d.negate ≠ .error signal
  | e => e.isShowable = true

namespace Operand

/-- What is wrong with an operand by itself; a plain value is no expression. -/
def offence? (schema : Schema) : Operand → Option Refusal
  | node e => e.offence? schema Clause.filter
  | plain v =>
    some (.unsupported (v.typeName ++ " " ++ v.display) Clause.filter .notAnExpression)

/-- How the translation of an operand fails with nothing reported, if it does. -/
def breakdown? (schema : Schema) : Operand → Option Refusal
  | node e => e.breakdown? schema Clause.filter
  | plain v => if v.isShowable then none else some .tooLong

/-- What stops the translation at an operand. -/
def obstacle? (schema : Schema) (o : Operand) : Option Refusal :=
  (o.breakdown? schema).or (o.offence? schema)

/-- The operands that are visited for a filter. -/
def visited : Operand → List Operand
  | node e => e.visited.map node
  | plain v => [plain v]

/-- The operand can be converted and shown. -/
def Convertible : Operand → Prop
  | node e => e.Convertible
  | plain v => v.isShowable = true

end Operand

/-- What is reported of a refusal in a filter: kind, message and details of the error. -/
def Refusal.Reported : Refusal → Prop
  | unsupported construct clause reason =>
    ∃ report, (unsupported construct clause reason).report? = some report ∧
      report.kind.name = "UnsupportedExpressionError" ∧
      report.message = .text
        ("'" ++ construct ++ "' is not supported in a 'filter' clause: " ++ reason.text) ∧
      report.details = .dict
        [(.text "construct", .text construct), (.text "clause", .text "filter")]
  | unknownField name owner clause =>
    ∃ report, (unknownField name owner clause).report? = some report ∧
      report.kind.name = "UnknownFieldError" ∧
      report.message = .text
        ("Unknown field '" ++ name ++ "'" ++ ((Text.filled owner).elim "" fun owner =>
          " on '" ++ owner ++ "'")) ∧
      report.details = .dict
        (((Text.filled owner).toList.map fun owner => (.text "element_type", .text owner)) ++
          [(.text "construct", .text name), (.text "clause", .text "filter")])
  | _ => False

/-! ## One expression -/

section One

variable {schema : Schema} {clause : Clause}

/-- A result is refused for a reason if there is one, and else it exists. -/
def Settles {α : Type} (reason? : Option Refusal) (result : Except Refusal α) : Prop :=
  match reason? with
  | none => ∃ a, result = .ok a
  | some refusal => result = .error refusal

theorem Settles.of_error {α : Type} {reason? : Option Refusal} {refusal : Refusal}
    (h : reason? = some refusal) : Settles reason? (.error refusal : Except Refusal α) := by
  rw [h]
  rfl

theorem Settles.map {α β : Type} {reason? : Option Refusal} {result : Except Refusal α}
    (h : Settles reason? result) (f : α → β) : Settles reason? (result.map f) := by
  cases reason? with
  | none =>
      obtain ⟨a, rfl⟩ := h
      exact ⟨f a, rfl⟩
  | some refusal =>
      have herror : result = .error refusal := h
      rw [herror]
      rfl

/-- Of two steps, the first reason counts. -/
theorem Settles.bind {α β : Type} {first? second? : Option Refusal} {x : Except Refusal α}
    {f : α → Except Refusal β} (hx : Settles first? x) (hf : ∀ a, Settles second? (f a)) :
    Settles (first?.or second?) (x >>= f) := by
  cases first? with
  | none =>
      obtain ⟨a, rfl⟩ := hx
      exact hf a
  | some refusal =>
      have herror : x = .error refusal := hx
      rw [herror]
      rfl

/-- A second step that never fails has no say. -/
theorem Settles.bind_made {α β : Type} {reason? : Option Refusal} {x : Except Refusal α}
    {f : α → Except Refusal β} (hx : Settles reason? x) (hf : ∀ a, ∃ b, f a = .ok b) :
    Settles reason? (x >>= f) := by
  have hboth : Settles (reason?.or none) (x >>= f) := hx.bind hf
  rwa [Option.or_none] at hboth

/-- What a constant comes to is decided by its breakdown, and else by what is wrong with it. -/
theorem Value.settles_literalText (v : Value) :
    Settles (v.breakdown?.or
        (v.unwritable?.map fun (shown, reason) => .unsupported shown clause reason))
      (v.literalText clause) := by
  cases v with
  | int n =>
      rw [breakdown?, literalText, literal]
      cases Text.isWritable n with
      | true => exact ⟨_, rfl⟩
      | false => rfl
  | float x =>
      cases x with
      | finite negative rank => exact ⟨_, rfl⟩
      | infinite negative => rfl
      | nan origin => rfl
  | decimal d =>
      cases d with
      | finite negative coefficient exponent => exact ⟨_, rfl⟩
      | infinite negative => rfl
      | nan negative signaling payload origin => rfl
  | datetime t =>
      cases hoffset : t.offset with
      | none =>
          simp [breakdown?, unwritable?, literalText, literal, hoffset, Settles,
            LiteralFault.refusal]
      | some offset =>
          cases hutc : t.utc? offset with
          | none =>
              simp [breakdown?, literalText, literal, hoffset, hutc, Settles,
                LiteralFault.refusal]
          | some reading =>
              simp [breakdown?, unwritable?, literalText, literal, hoffset, hutc, Settles]
  | member m =>
      rw [breakdown?, literalText, literal]
      cases m.name? with
      | none => rfl
      | some name => exact ⟨_, rfl⟩
  | duration d => rfl
  | bytes bs => rfl
  | list xs => rfl
  | tuple xs => rfl
  | dict entries => rfl
  | _ => exact ⟨_, rfl⟩

theorem Schema.settles_resolve (path : FieldPath) :
    Settles ((Expr.field path).offence? schema clause) (schema.resolve clause path) := by
  rw [Expr.offence?, resolve, wirePath?, typeName?]
  cases schema.record with
  | none => exact ⟨_, rfl⟩
  | some t =>
      dsimp only
      rw [RecordType.field?]
      cases hfield : t.fields.find? fun f => f.name = path.first.text with
      | none =>
          have hunknown : path.first.text ∉ t.fields.map Field.name := by
            intro hmem
            obtain ⟨f, hf, hname⟩ := List.mem_map.mp hmem
            simpa [hname] using List.find?_eq_none.mp hfield f hf
          rw [if_neg hunknown]
          rfl
      | some f =>
          have hname : f.name = path.first.text := by simpa using List.find?_some hfield
          have hknown : path.first.text ∈ t.fields.map Field.name :=
            List.mem_map.mpr ⟨f, List.mem_of_find?_eq_some hfield, hname⟩
          rw [if_pos hknown]
          exact ⟨_, rfl⟩

/-- Where a wrong expression would be shown, its refusal or the failed showing stops. -/
theorem Expr.obstacle?_eq_refusal {e : Expr} {reason : Reason}
    (hoffence : e.offence? schema clause = some (.unsupported e.display clause reason))
    (hbreakdown : e.breakdown? schema clause =
      if (e.offence? schema clause).isSome && !e.isShowable then some .tooLong else none) :
    e.obstacle? schema clause = some (e.refusal clause reason) := by
  rw [obstacle?, hbreakdown, hoffence, refusal]
  cases e.isShowable <;> rfl

/-- What can be shown does not break down for being shown. -/
theorem Expr.breakdown?_of_isShowable {e : Expr} (hshown : e.isShowable = true)
    (hbreakdown : e.breakdown? schema clause =
      if (e.offence? schema clause).isSome && !e.isShowable then some .tooLong else none) :
    e.breakdown? schema clause = none := by
  rw [hbreakdown, hshown, Bool.not_true, Bool.and_false, if_neg Bool.false_ne_true]

/-- An expression with nothing wrong by itself does not stop the translation. -/
theorem Expr.obstacle?_eq_none {e : Expr} (hoffence : e.offence? schema clause = none)
    (hbreakdown : e.breakdown? schema clause =
      if (e.offence? schema clause).isSome && !e.isShowable then some .tooLong else none) :
    e.obstacle? schema clause = none := by
  rw [obstacle?, hbreakdown, hoffence]
  rfl

theorem Expr.settles_negation (operand : Expr) :
    Settles ((unary .negate operand).obstacle? schema clause)
      ((unary .negate operand).toTerm schema clause) := by
  cases operand with
  | constant v =>
      cases v with
      | int n => exact (Value.settles_literalText (.int (-n))).map FilterTerm.literal
      | float x =>
          have hself : (unary .negate (constant (.float x))).breakdown? schema clause = none :=
            breakdown?_of_isShowable rfl rfl
          rw [obstacle?, hself]
          exact (Value.settles_literalText (.float x.negate)).map FilterTerm.literal
      | decimal d =>
          rw [obstacle?, breakdown?, offence?, opposite?, toTerm, Value.negated?]
          cases d.negate with
          | ok n => exact (Value.settles_literalText (.decimal n)).map FilterTerm.literal
          | error signal => rfl
      | _ => exact .of_error (obstacle?_eq_refusal rfl rfl)
  | _ => exact .of_error (obstacle?_eq_refusal rfl rfl)

theorem Expr.breakdown?_of_convertible {e : Expr} (h : e.Convertible) :
    e.breakdown? schema clause = none := by
  unfold Convertible at h
  split at h
  · exact h
  · rw [breakdown?, Value.breakdown?, if_pos h]
  · next d =>
      rw [breakdown?]
      cases hnegate : d.negate with
      | ok n => rfl
      | error signal => exact absurd hnegate (h signal)
  · next hconstant hint hdecimal =>
      rw [breakdown?.eq_def]
      split
      · exact absurd rfl (hconstant _)
      · exact absurd rfl (hint _)
      · exact absurd rfl (hdecimal _)
      · rw [h, Bool.not_true, Bool.and_false, if_neg Bool.false_ne_true]

theorem BinaryOp.isSupported_iff (op : BinaryOp) :
    op.isSupported = true ↔ op ∈ filterOperators := by
  cases op <;> decide

end One

/-! ## Whole expressions -/

section Whole

variable (schema : Schema) (clause : Clause)

mutual

/-- The first obstacle decides what becomes of a filter. -/
theorem Expr.settles_visited (e : Expr) :
    Settles (e.visited.findSome? (obstacle? schema clause)) (e.toTerm schema clause) := by
  match e with
  | .constant v =>
      have hself : Settles ((constant v).obstacle? schema clause)
          ((constant v).toTerm schema clause) :=
        v.settles_literalText.map FilterTerm.literal
      simpa [visited] using hself
  | .field path =>
      have hself : (field path).obstacle? schema clause = (field path).offence? schema clause := by
        have hshown : (field path).breakdown? schema clause = none :=
          breakdown?_of_isShowable rfl rfl
        rw [obstacle?, hshown, Option.none_or]
      have hresolved : Settles ((field path).obstacle? schema clause)
          ((field path).toTerm schema clause) :=
        hself ▸ (schema.settles_resolve path).map FilterTerm.field
      simpa [visited] using hresolved
  | .unary .not operand =>
      have hself : (unary .not operand).obstacle? schema clause = none := obstacle?_eq_none rfl rfl
      rw [visited, List.findSome?_cons, hself]
      exact operand.settles_visited.map FilterTerm.not
  | .unary .negate operand =>
      simpa [visited] using operand.settles_negation
  | .binary op left right =>
      by_cases hop : op ∈ filterOperators
      · have hself : (binary op left right).obstacle? schema clause = none :=
          obstacle?_eq_none (if_pos hop) rfl
        rw [visited, List.findSome?_cons, hself, List.findSome?_append, toTerm,
          if_pos (op.isSupported_iff.mpr hop)]
        refine left.settles_visited.bind fun l => right.settles_visited.bind_made fun r => ?_
        split
        · exact ⟨_, rfl⟩
        · exact ⟨_, rfl⟩
      · have hunsupported : ¬ op.isSupported = true := by rwa [op.isSupported_iff]
        have hself : (binary op left right).obstacle? schema clause =
            some ((binary op left right).refusal clause (.operator op.symbol)) :=
          obstacle?_eq_refusal (if_neg hop) rfl
        rw [visited, List.findSome?_cons, hself, toTerm, if_neg hunsupported]
        rfl
  | .call name arguments =>
      rw [visited, List.findSome?_cons, toTerm]
      cases hknown : functionArities.lookup name.text with
      | none =>
          have hself : (call name arguments).obstacle? schema clause =
              some ((call name arguments).refusal clause (.unknownFunction name.written)) :=
            obstacle?_eq_refusal (by rw [offence?, hknown]) rfl
          rw [hself]
          rfl
      | some arities =>
          by_cases hcount : arguments.length ∈ arities
          · have hself : (call name arguments).obstacle? schema clause = none :=
              obstacle?_eq_none (by simp only [offence?, hknown, if_pos hcount]) rfl
            rw [hself]
            simpa [hcount] using (settles_allVisited arguments).map (FilterTerm.call name.written)
          · have hself : (call name arguments).obstacle? schema clause =
                some ((call name arguments).refusal clause
                  (.argumentCount name.written arities arguments.length)) :=
              obstacle?_eq_refusal (by simp only [offence?, hknown, if_neg hcount]) rfl
            rw [hself]
            simp [hcount, Settles]
  | .foreign text => rfl

theorem Expr.settles_allVisited (es : List Expr) :
    Settles ((Expr.allVisited es).findSome? (obstacle? schema clause))
      (Expr.toTerms schema clause es) := by
  match es with
  | [] => exact ⟨[], rfl⟩
  | e :: rest =>
      rw [allVisited, List.findSome?_append, toTerms]
      exact e.settles_visited.bind fun t => (settles_allVisited rest).bind_made fun ts =>
        ⟨t :: ts, rfl⟩

end

end Whole

/-! ## Reports -/

theorem Reason.text_ne_empty (reason : Reason) : reason.text ≠ "" := by
  cases reason with
  | operator symbol => simp [text, String.append_assoc]
  | unknownFunction name => simp [text, String.append_assoc]
  | argumentCount name expected got => simp [text, String.append_assoc]
  | _ => decide

theorem Refusal.reported_unsupported (construct : String) (reason : Reason) :
    (unsupported construct Clause.filter reason).Reported := by
  have hreason : (Value.text reason.text).isTruthy = true := by
    simp [Value.isTruthy, reason.text_ne_empty]
  have hwords : "' is not supported" ++ (" in a '" ++ "filter" ++ "' clause") ++ ": " =
      "' is not supported in a 'filter' clause: " := by
    decide
  refine ⟨_, rfl, rfl, ?_, rfl⟩
  change Value.text ("'" ++ construct ++ "' is not supported" ++
    (" in a '" ++ "filter" ++ "' clause") ++
    (if (Value.text reason.text).isTruthy then ": " ++ reason.text else "")) = _
  rw [if_pos hreason, ← hwords]
  simp only [String.append_assoc]

theorem Refusal.reported_unknownField (name : String) (owner : Option String) :
    (unknownField name owner Clause.filter).Reported := by
  cases owner with
  | none => exact ⟨_, rfl, rfl, rfl, rfl⟩
  | some owner =>
      by_cases howner : owner = ""
      · subst howner
        exact ⟨_, rfl, rfl, rfl, rfl⟩
      · have htruthy : (Value.text owner).isTruthy = true := by
          simp [Value.isTruthy, howner]
        have hfilled : Text.filled (some owner) = some owner := by
          simp [Text.filled, howner]
        refine ⟨_, rfl, rfl, ?_, ?_⟩
        · change Value.text ("Unknown field '" ++ name ++ "'" ++
            (if (Value.text owner).isTruthy then " on '" ++ owner ++ "'" else "")) = _
          rw [if_pos htruthy, hfilled]
          rfl
        · change Value.dict (Report.detail "clause" (.text "filter")
            (Report.detail "construct" (.text name)
              (if (Value.text owner).isTruthy then
                Report.detail "element_type" (.text owner) [] else []))) = _
          rw [if_pos htruthy, hfilled]
          rfl

/-- What is wrong with an expression is not supported or is an unknown field. -/
theorem Expr.unsupported_or_unknownField
    {schema : Schema} {clause : Clause} {e : Expr} {refusal : Refusal}
    (h : e.offence? schema clause = some refusal) :
    (∃ shown reason, refusal = .unsupported shown clause reason) ∨
      ∃ name owner, refusal = .unknownField name owner clause := by
  have hshown : ∀ shown? : Option (String × Reason),
      shown?.map (fun (shown, reason) => Refusal.unsupported shown clause reason) = some refusal →
        ∃ shown reason, refusal = .unsupported shown clause reason := by
    intro shown? hmap
    obtain ⟨⟨shown, reason⟩, -, rfl⟩ := Option.map_eq_some_iff.mp hmap
    exact ⟨shown, reason, rfl⟩
  unfold offence? at h
  split at h
  · exact Or.inl (hshown _ h)
  · split at h
    · cases h
    · split at h
      · cases h
      · cases h
        exact Or.inr ⟨_, _, rfl⟩
  · cases h
  · split at h
    · exact Or.inl (hshown _ h)
    · cases h
      exact Or.inl ⟨_, _, rfl⟩
  · split at h
    · cases h
    · cases h
      exact Or.inl ⟨_, _, rfl⟩
  · split at h
    · cases h
      exact Or.inl ⟨_, _, rfl⟩
    · split at h
      · cases h
      · cases h
        exact Or.inl ⟨_, _, rfl⟩
  · cases h
    exact Or.inl ⟨_, _, rfl⟩

theorem Expr.reported_of_offence
    {schema : Schema} {e : Expr} {refusal : Refusal}
    (h : e.offence? schema Clause.filter = some refusal) : refusal.Reported := by
  rcases Expr.unsupported_or_unknownField h with ⟨shown, reason, rfl⟩ | ⟨name, owner, rfl⟩
  · exact Refusal.reported_unsupported shown reason
  · exact Refusal.reported_unknownField name owner

/-! ## Visits -/

theorem Expr.visited_eq_cons (e : Expr) : ∃ rest, e.visited = e :: rest := by
  match e with
  | .unary .not operand => exact ⟨_, rfl⟩
  | .unary .negate operand => exact ⟨_, rfl⟩
  | .binary op left right => exact ⟨_, rfl⟩
  | .call name arguments => exact ⟨_, rfl⟩
  | .constant v => exact ⟨_, rfl⟩
  | .field path => exact ⟨_, rfl⟩
  | .foreign text => exact ⟨_, rfl⟩

namespace Operand

theorem visited_eq_cons (o : Operand) : ∃ rest, o.visited = o :: rest := by
  cases o with
  | node e =>
      obtain ⟨rest, hrest⟩ := e.visited_eq_cons
      exact ⟨rest.map node, by rw [visited, hrest, List.map_cons]⟩
  | plain v => exact ⟨[], rfl⟩

variable {schema : Schema}

theorem settles_filterText (o : Operand) :
    Settles (o.visited.findSome? (obstacle? schema)) (o.filterText schema) := by
  cases o with
  | node e =>
      rw [visited, List.findSome?_map]
      exact (e.settles_visited schema Clause.filter).map FilterTerm.toText
  | plain v =>
      rw [visited, List.findSome?_cons, obstacle?, breakdown?, offence?, filterText]
      cases v.isShowable <;> rfl

theorem breakdown?_of_convertible {o : Operand} (h : o.Convertible) :
    o.breakdown? schema = none := by
  cases o with
  | node e => exact Expr.breakdown?_of_convertible h
  | plain v => exact if_pos h

theorem obstacle?_eq_none_iff {o : Operand} :
    o.obstacle? schema = none ↔ o.breakdown? schema = none ∧ o.offence? schema = none := by
  rw [obstacle?, Option.or_eq_none_iff]

theorem obstacle?_eq_some_iff {o : Operand} {refusal : Refusal} :
    o.obstacle? schema = some refusal ↔ o.breakdown? schema = some refusal ∨
      o.breakdown? schema = none ∧ o.offence? schema = some refusal := by
  rw [obstacle?, Option.or_eq_some_iff]

theorem reported_of_offence {o : Operand} {refusal : Refusal}
    (h : o.offence? schema = some refusal) : refusal.Reported := by
  cases o with
  | node e => exact Expr.reported_of_offence h
  | plain v =>
      cases h
      exact Refusal.reported_unsupported _ _

/-- An operand with an obstacle is refused for it. -/
theorem filterText_of_obstacle {o : Operand} {refusal : Refusal}
    (h : o.obstacle? schema = some refusal) : o.filterText schema = .error refusal := by
  obtain ⟨rest, hrest⟩ := o.visited_eq_cons
  have hsettles : Settles (o.visited.findSome? (obstacle? schema)) (o.filterText schema) :=
    o.settles_filterText
  rw [hrest, List.findSome?_cons, h] at hsettles
  exact hsettles

/-- The refusals of a filter are its first obstacles. -/
theorem filterText_eq_error_iff {o : Operand} {refusal : Refusal} :
    o.filterText schema = .error refusal ↔
      o.visited.findSome? (obstacle? schema) = some refusal := by
  have hsettles : Settles (o.visited.findSome? (obstacle? schema)) (o.filterText schema) :=
    o.settles_filterText
  cases hfirst : o.visited.findSome? (obstacle? schema) with
  | none =>
      rw [hfirst] at hsettles
      obtain ⟨text, htext⟩ := hsettles
      simp [htext]
  | some first =>
      rw [hfirst] at hsettles
      have herror : o.filterText schema = .error first := hsettles
      simp [herror]

/--
A filter is made exactly when nothing that is visited is wrong or breaks down. Otherwise the refusal
is the one that the first such operand meets with by itself, and it is reported unless it is a
breakdown. Nothing breaks down where everything can be converted and shown.
-/
theorem filterText_first_offence (schema : Schema) (o : Operand) :
    ((∃ text, o.filterText schema = .ok text) ↔
        ∀ n ∈ o.visited, n.breakdown? schema = none ∧ n.offence? schema = none) ∧
      (∀ refusal, o.filterText schema = .error refusal ↔
        ∃ before n after, o.visited = before ++ n :: after ∧
          (∀ m ∈ before, m.breakdown? schema = none ∧ m.offence? schema = none) ∧
          n.filterText schema = .error refusal ∧
          (n.breakdown? schema = some refusal ∨
            n.breakdown? schema = none ∧ n.offence? schema = some refusal ∧ refusal.Reported)) ∧
      ((∀ n ∈ o.visited, n.Convertible) → ∀ n ∈ o.visited, n.breakdown? schema = none) := by
  refine ⟨?_, fun refusal => ?_, fun h n hn => breakdown?_of_convertible (h n hn)⟩
  · simp only [← obstacle?_eq_none_iff]
    rw [← List.findSome?_eq_none_iff]
    have hsettles : Settles (o.visited.findSome? (obstacle? schema)) (o.filterText schema) :=
      o.settles_filterText
    cases hfirst : o.visited.findSome? (obstacle? schema) with
    | none =>
        rw [hfirst] at hsettles
        exact iff_of_true hsettles rfl
    | some first =>
        have herror := filterText_eq_error_iff.mpr hfirst
        simp [herror]
  · rw [filterText_eq_error_iff, List.findSome?_eq_some_iff]
    simp only [← obstacle?_eq_none_iff]
    constructor
    · rintro ⟨before, n, after, hsplit, hn, hbefore⟩
      refine ⟨before, n, after, hsplit, hbefore, filterText_of_obstacle hn, ?_⟩
      exact (obstacle?_eq_some_iff.mp hn).imp_right fun ⟨hclear, hoffence⟩ =>
        ⟨hclear, hoffence, reported_of_offence hoffence⟩
    · rintro ⟨before, n, after, hsplit, hbefore, -, hn⟩
      have hobstacle : n.obstacle? schema = some refusal :=
        obstacle?_eq_some_iff.mpr (hn.imp_right fun h => ⟨h.1, h.2.1⟩)
      exact ⟨before, n, after, hsplit, hobstacle, hbefore⟩

/-- Movies with their year and title. -/
def movies : Schema :=
  ⟨some ⟨"Movie", [⟨"year", .text "int", none, none, true⟩,
    ⟨"title", .text "str", none, none, true⟩], [], []⟩, .camelCase, ["title"]⟩

/-- A condition with a misspelt field in front of an operator that filters do not have. -/
def misspeltCondition : Expr :=
  .binary .and
    (.binary .ge (.field ⟨"year", []⟩) (.unary .negate (.constant (.decimal (.finite true 5 0)))))
    (.call "contains" [.unary .not (.field ⟨"titel", ["text"]⟩),
      .binary .xor (.field ⟨"year", []⟩)
        (.constant (.datetime ⟨⟨1994, 10, 14⟩, ⟨0, 0, 0, 0⟩, none, false⟩))])

theorem filterText_first_offence_misspelt :
    (∀ n ∈ (node misspeltCondition).visited, n.Convertible) ∧
      (∀ n ∈ (node misspeltCondition).visited, n.breakdown? movies = none) ∧
      (node misspeltCondition).filterText movies =
        .error (.unknownField "titel.text" (some "Movie") Clause.filter) ∧
      ¬ ∀ n ∈ (node misspeltCondition).visited,
        n.breakdown? movies = none ∧ n.offence? movies = none := by
  have hnegate : Decimal.negate (.finite true 5 0) = .ok (.finite false 5 0) := rfl
  have hconvertible : ∀ n ∈ (node misspeltCondition).visited, n.Convertible := by
    intro n hn
    obtain ⟨e, he, rfl⟩ := List.mem_map.mp hn
    simp only [misspeltCondition, Expr.visited, Expr.allVisited, List.mem_cons, List.mem_append,
      List.not_mem_nil, or_false] at he
    rcases he with rfl | (rfl | rfl | rfl) | rfl | (rfl | rfl) | rfl | rfl | rfl
    · rfl
    · rfl
    · rfl
    · intro signal hsignal
      rw [hnegate] at hsignal
      cases hsignal
    · rfl
    · rfl
    · rfl
    · rfl
    · rfl
    · rfl
  have herror : (node misspeltCondition).filterText movies =
      .error (.unknownField "titel.text" (some "Movie") Clause.filter) := rfl
  obtain ⟨hmade, -, hclear⟩ := filterText_first_offence movies (node misspeltCondition)
  refine ⟨hconvertible, hclear hconvertible, herror, fun hnone => ?_⟩
  obtain ⟨text, htext⟩ := hmade.mpr hnone
  rw [herror] at htext
  cases htext

/-- A condition that compares a field with a constant. -/
def noteCondition (v : Value) : Expr :=
  .binary .eq (.field ⟨"note", []⟩) (.constant v)

/-- The empty combination of flags. -/
def noAccess : Value :=
  .member ⟨.of "Access", [], .shown "0", .byName, nofun⟩

/-- The constant of a condition that breaks down does so with nothing wrong in the condition. -/
theorem filterText_noteCondition {v : Value} {refusal : Refusal}
    (hbreakdown : v.breakdown? = some refusal) (hwritable : v.unwritable? = none) :
    (node (noteCondition v)).filterText (.untyped .camelCase) = .error refusal ∧
      ∀ n ∈ (node (noteCondition v)).visited, n.offence? (.untyped .camelCase) = none := by
  have hoffence : ∀ n ∈ (node (noteCondition v)).visited,
      n.offence? (.untyped .camelCase) = none := by
    intro n hn
    obtain ⟨e, he, rfl⟩ := List.mem_map.mp hn
    simp only [noteCondition, Expr.visited, List.mem_cons, List.mem_append, List.not_mem_nil,
      or_false] at he
    rcases he with rfl | rfl | rfl
    · rfl
    · rfl
    · rw [offence?, Expr.offence?, hwritable]
      rfl
  have hconstant : (node (.constant v)).obstacle? (.untyped .camelCase) = some refusal :=
    obstacle?_eq_some_iff.mpr (.inl hbreakdown)
  have hbefore : ∀ m ∈ [node (noteCondition v), node (.field ⟨"note", []⟩)],
      m.obstacle? (.untyped .camelCase) = none := by
    have hcomparison : (noteCondition v).obstacle? (.untyped .camelCase) Clause.filter = none :=
      Expr.obstacle?_eq_none rfl rfl
    rw [List.forall_mem_cons, List.forall_mem_singleton]
    exact ⟨hcomparison, rfl⟩
  have hfirst : (node (noteCondition v)).visited.findSome? (obstacle? (.untyped .camelCase)) =
      some refusal :=
    List.findSome?_eq_some_iff.mpr ⟨_, _, [], rfl, hconstant, hbefore⟩
  exact ⟨filterText_eq_error_iff.mpr hfirst, hoffence⟩

/-- Nothing is wrong with a condition on an integer of too many digits, but it has no filter. -/
theorem filterText_longCount :
    ¬ ((∃ text, (node (noteCondition (.int (10 ^ Text.maxIntegerDigits)))).filterText
          (.untyped .camelCase) = .ok text) ↔
        ∀ n ∈ (node (noteCondition (.int (10 ^ Text.maxIntegerDigits)))).visited,
          n.offence? (.untyped .camelCase) = none) ∧
      ¬ ((∃ text, (node (noteCondition noAccess)).filterText (.untyped .camelCase) = .ok text) ↔
        ∀ n ∈ (node (noteCondition noAccess)).visited,
          n.offence? (.untyped .camelCase) = none) := by
  have hcount : (Value.int (10 ^ Text.maxIntegerDigits)).breakdown? = some .tooLong := by
    rw [Value.breakdown?, Text.isWritable_ten_pow, if_neg Bool.false_ne_true]
  have hrefuted {v : Value} {refusal : Refusal} (hbreakdown : v.breakdown? = some refusal)
      (hwritable : v.unwritable? = none) :
      ¬ ((∃ text, (node (noteCondition v)).filterText (.untyped .camelCase) = .ok text) ↔
        ∀ n ∈ (node (noteCondition v)).visited, n.offence? (.untyped .camelCase) = none) := by
    obtain ⟨herror, hoffence⟩ := filterText_noteCondition hbreakdown hwritable
    intro hiff
    obtain ⟨text, htext⟩ := hiff.mpr hoffence
    rw [herror] at htext
    cases htext
  exact ⟨hrefuted hcount rfl, hrefuted rfl rfl⟩

end Operand

end PagedTables
