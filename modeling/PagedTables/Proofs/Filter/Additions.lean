import Mathlib.Data.List.Forall2
import PagedTables.Proofs.Filter.FirstOffence
import PagedTables.Proofs.Filter.Skeleton
import PagedTables.Proofs.Schema.Declarations

/-!
# Additions in filters

Which additions a filter has as calls of `concat`. An expression denotes a string if its literal is
quoted, if it is a field that is declared as a text, if its function gives strings, or if it is an
addition with an operand that denotes one. What the translation goes by looks at two of these in
another way. Of constants it asks for texts, and members of enumerations are written between quotes
without being texts. Of fields it asks what the schema takes them for, which is not what they are
declared as if another declaration has no meaning or binds a name.

The main result goes through the expressions that are visited for a filter and the parts of the
filter that they become, one by one. An addition is a call of `concat` exactly if it denotes a
string, but for these constants and fields.
-/
namespace PagedTables

/-! ## Expressions that denote strings -/

/-- What is known of the expression is enough to see that it denotes a string. -/
inductive Expr.DenotesString (row : RowType) : Expr → Prop
  | constant {v : Value} {s : String}
      (h : v.literalText Clause.filter = .ok (Literal.quote s)) : DenotesString row (.constant v)
  | field {t : RecordType} {name : Name} (hrow : row = .record t) (h : t.DeclaresText name.text) :
      DenotesString row (.field ⟨name, []⟩)
  | call {name : Name} {arguments : List Expr}
      (h : name.text ∈ ["tolower", "toupper", "trim", "concat", "substring", "replace"]) :
      DenotesString row (.call name arguments)
  | left {l r : Expr} (h : DenotesString row l) : DenotesString row (.binary .add l r)
  | right {l r : Expr} (h : DenotesString row r) : DenotesString row (.binary .add l r)

/-- What is added up in an expression, which is the expression itself unless it is an addition. -/
def Expr.addends : Expr → List Expr
  | binary .add l r => l.addends ++ r.addends
  | e => [e]

/-- The expression is a member of an enumeration that is no text at the same time. -/
def Expr.IsMuteMember (e : Expr) : Prop :=
  ∃ m : Member, e = .constant (.member m) ∧ (Value.member m).asText? = none

/-- The expression is a field of the type and is taken for a text. -/
def Expr.IsTextField (row : RowType) (e : Expr) : Prop :=
  ∃ (t : RecordType) (name : Name), row = .record t ∧ e = .field ⟨name, []⟩ ∧
    t.TakesForText name.text

/-- The expression denotes a string and is not taken for one: a member, or a field. -/
def Expr.IsMissed (row : RowType) (e : Expr) : Prop :=
  e.DenotesString row ∧ (e.IsMuteMember ∨ (∃ path, e = .field path) ∧ ¬ e.IsTextField row)

/-- Something that is added up denotes a string, but all that does is missed. -/
def Expr.IsOverlooked (row : RowType) (e : Expr) : Prop :=
  e.DenotesString row ∧ ∀ a ∈ e.addends, a.DenotesString row → a.IsMissed row

/-- Something that is added up is a field that is taken for a text and is not declared as one. -/
def Expr.IsMistaken (row : RowType) (e : Expr) : Prop :=
  ∃ a ∈ e.addends, a.IsTextField row ∧ ¬ a.DenotesString row

theorem Literal.eq_text_of_toText_eq_quote
    {l : Literal} {s : String} (h : l.toText = quote s) : ∃ s', l = .text s' := by
  -- Every other literal begins with a letter, a digit or a sign.
  have hhead : l.toText.toList.head? = some '\'' := by
    rw [h, quote, String.toList_ofList]
    rfl
  have hnumber : ¬ IsNumber l.toText.toList := by
    intro hl
    have hword := hl.isWord '\'' (List.mem_of_mem_head? hhead)
    exact absurd hword (by decide)
  have hcast (plain typeName : String) : (cast plain typeName).toList.head? = some 'c' := by
    simp [cast]
  cases l with
  | null => exact absurd hhead (by decide)
  | bool b => cases b <;> exact absurd hhead (by decide)
  | int n => exact absurd (isNumber_ofInt n) hnumber
  | float negative rank => exact absurd (isNumber_floatText negative rank) hnumber
  | decimal negative coefficient exponent =>
      exact absurd (isNumber_decimal negative coefficient exponent) hnumber
  | text s' => exact ⟨s', rfl⟩
  | uuid u =>
      rw [toText, hcast] at hhead
      cases hhead
  | instant d c =>
      rw [toText, hcast] at hhead
      cases hhead
  | date d =>
      rw [toText, hcast] at hhead
      cases hhead
  | time c =>
      rw [toText, hcast] at hhead
      cases hhead

theorem Value.asText?_or_member_of_literal
    {v : Value} {s : String} (h : v.literal = .ok (.text s)) :
    v.asText?.isSome = true ∨ ∃ m, v = .member m ∧ m.name?.isSome = true := by
  cases v with
  | text s' => exact .inl rfl
  | member m =>
      rw [literal] at h
      cases hname : m.name? with
      | none =>
          rw [hname] at h
          cases h
      | some name => exact .inr ⟨m, rfl, by rw [hname]; rfl⟩
  | int n =>
      rw [literal] at h
      split at h
      · cases h
      · cases h
  | float x => cases x <;> cases h
  | decimal d => cases d <;> cases h
  | datetime t =>
      rw [literal] at h
      split at h
      · cases h
      · split at h
        · cases h
        · cases h
  | _ => cases h

theorem Member.name?_isSome_of_asText? {m : Member} (h : (Value.member m).asText?.isSome = true) :
    m.name?.isSome = true := by
  obtain ⟨typeName, names, content, style, hnamed⟩ := m
  cases content with
  | text s =>
      obtain ⟨name, rfl⟩ := List.length_eq_one_iff.mp (hnamed rfl)
      rfl
  | _ => cases h

/-- Constants with a quoted literal are the texts and the members with a name. -/
theorem Expr.denotesString_constant_iff (row : RowType) (v : Value) :
    (constant v).DenotesString row ↔
      v.asText?.isSome = true ∨ ∃ m, v = .member m ∧ m.name?.isSome = true := by
  have hmember {m : Member} (hname : m.name?.isSome = true) :
      (constant (.member m)).DenotesString row := by
    obtain ⟨name, hname⟩ := Option.isSome_iff_exists.mp hname
    refine .constant (s := name) ?_
    rw [Value.literalText, Value.literal, hname]
    rfl
  constructor
  · intro h
    cases h with
    | constant h =>
        obtain ⟨l, hl, hquote⟩ := Value.literal_of_literalText h
        obtain ⟨s, rfl⟩ := Literal.eq_text_of_toText_eq_quote hquote
        exact Value.asText?_or_member_of_literal hl
  · rintro (h | ⟨m, rfl, hname⟩)
    · cases v with
      | text s => exact .constant (s := s) rfl
      | member m => exact hmember (Member.name?_isSome_of_asText? h)
      | _ => cases h
    · exact hmember hname

theorem Expr.ne_add_of_mem_addends {e a : Expr} (h : a ∈ e.addends) (l r : Expr) :
    a ≠ .binary .add l r := by
  fun_induction addends e with
  | case1 e f ihl ihr =>
      rcases List.mem_append.mp h with h | h
      · exact ihl h
      · exact ihr h
  | case2 e hother =>
      rw [List.mem_singleton.mp h]
      exact hother l r

theorem Expr.denotesString_add_iff (row : RowType) (l r : Expr) :
    (binary .add l r).DenotesString row ↔ l.DenotesString row ∨ r.DenotesString row := by
  constructor
  · intro h
    cases h with
    | left h => exact .inl h
    | right h => exact .inr h
  · rintro (h | h)
    · exact .left h
    · exact .right h

theorem Expr.denotesString_iff_addends (row : RowType) (e : Expr) :
    e.DenotesString row ↔ ∃ a ∈ e.addends, a.DenotesString row := by
  fun_induction addends e with
  | case1 l r ihl ihr =>
      simp only [denotesString_add_iff, ihl, ihr, List.mem_append, or_and_right, exists_or]
  | case2 e hother => simp

section

variable {row : RowType} {naming : Naming} {schema : Schema}
  (hschema : Schema.ofRow row naming = .ok schema)

theorem Expr.isString_iff_addends (schema : Schema) (e : Expr) :
    e.isString schema = true ↔ ∃ a ∈ e.addends, a.isString schema = true := by
  fun_induction addends e with
  | case1 l r ihl ihr =>
      simp only [isString, Bool.or_eq_true, ihl, ihr, List.mem_append, or_and_right, exists_or]
  | case2 e hother => simp

theorem Expr.not_isMuteMember {a : Expr} (h : ∀ v, a ≠ .constant v) : ¬ a.IsMuteMember := by
  rintro ⟨m, hm, -⟩
  exact h _ hm

/-- Apart from constants and fields, nothing is missed or mistaken. -/
theorem Expr.taken_iff_denotesString {a : Expr} (hconstant : ∀ v, a ≠ .constant v)
    (hfield : ∀ path, a ≠ .field path) :
    (a.DenotesString row ∧ ¬ a.IsMissed row ∨ a.IsTextField row ∧ ¬ a.DenotesString row) ↔
      a.DenotesString row := by
  have hnoField : ¬ a.IsTextField row := fun ⟨t, name, _, ha, _⟩ => hfield _ ha
  have hseen : ¬ a.IsMissed row := by
    rintro ⟨-, hmember | ⟨⟨path, hpath⟩, -⟩⟩
    · exact not_isMuteMember hconstant hmember
    · exact hfield path hpath
  simp [hnoField, hseen]

theorem Expr.isString_constant_iff (v : Value) :
    (constant v).isString schema = true ↔
      (constant v).DenotesString row ∧ ¬ (constant v).IsMissed row ∨
        (constant v).IsTextField row ∧ ¬ (constant v).DenotesString row := by
  have hnoField : ¬ (constant v).IsTextField row := by
    rintro ⟨t, name, -, ha, -⟩
    cases ha
  rw [isString]
  constructor
  · intro htext
    refine .inl ⟨(denotesString_constant_iff row v).mpr (.inl htext), ?_⟩
    rintro ⟨-, ⟨m, hm, hmute⟩ | ⟨⟨path, hpath⟩, -⟩⟩
    · cases hm
      rw [hmute] at htext
      cases htext
    · cases hpath
  · rintro (⟨hdenotes, hseen⟩ | ⟨hfield, -⟩)
    · rcases (denotesString_constant_iff row v).mp hdenotes with htext | ⟨m, rfl, -⟩
      · exact htext
      · by_contra hmute
        exact hseen ⟨hdenotes, .inl ⟨m, rfl, by simpa using hmute⟩⟩
    · exact absurd hfield hnoField

include hschema

theorem Expr.isString_field_iff (path : FieldPath) :
    (field path).isString schema = true ↔
      (field path).DenotesString row ∧ ¬ (field path).IsMissed row ∨
        (field path).IsTextField row ∧ ¬ (field path).DenotesString row := by
  have htaken : (field path).isString schema = true ↔ (field path).IsTextField row := by
    rw [isString, Schema.isString_iff hschema]
    constructor
    · obtain ⟨first, rest⟩ := path
      rintro ⟨rfl, t, hrow, htaken⟩
      exact ⟨t, first, hrow, rfl, htaken⟩
    · rintro ⟨t, name, hrow, hpath, htaken⟩
      cases hpath
      exact ⟨rfl, t, hrow, htaken⟩
  have hmissed : (field path).IsMissed row ↔
      (field path).DenotesString row ∧ ¬ (field path).IsTextField row := by
    refine and_congr_right fun _ => ?_
    rw [or_iff_right (not_isMuteMember fun v => by simp)]
    exact and_iff_right ⟨path, rfl⟩
  rw [htaken, hmissed]
  tauto

/--
Apart from additions, what is taken for a string is one that is not missed, or a text field that is
mistaken for one.
-/
theorem Expr.isString_addend_iff {e a : Expr} (h : a ∈ e.addends) :
    a.isString schema = true ↔
      a.DenotesString row ∧ ¬ a.IsMissed row ∨ a.IsTextField row ∧ ¬ a.DenotesString row := by
  cases a with
  | constant v => exact isString_constant_iff v
  | field path => exact isString_field_iff hschema path
  | unary op operand =>
      rw [taken_iff_denotesString (fun v => by simp) fun path => by simp]
      refine iff_of_false (by simp [isString]) fun hdenotes => ?_
      cases hdenotes
  | binary op l r =>
      have hop : op ≠ .add := by
        rintro rfl
        exact ne_add_of_mem_addends h l r rfl
      have hnone : (binary op l r).isString schema = false := by
        cases op <;> first | rfl | exact absurd rfl hop
      rw [taken_iff_denotesString (fun v => by simp) fun path => by simp]
      refine iff_of_false (by simp [hnone]) fun hdenotes => ?_
      cases hdenotes with
      | left _ => exact hop rfl
      | right _ => exact hop rfl
  | call name arguments =>
      rw [taken_iff_denotesString (fun v => by simp) fun path => by simp, isString,
        stringFunctions, List.contains_iff_mem]
      constructor
      · exact .call
      · intro hdenotes
        cases hdenotes with
        | call hname => exact hname
  | foreign text =>
      rw [taken_iff_denotesString (fun v => by simp) fun path => by simp]
      refine iff_of_false (by simp [isString]) fun hdenotes => ?_
      cases hdenotes

/-- What is taken for a string denotes one and is not overlooked, or is mistaken for one. -/
theorem Expr.isString_iff (e : Expr) :
    e.isString schema = true ↔
      e.DenotesString row ∧ ¬ e.IsOverlooked row ∨ e.IsMistaken row := by
  rw [isString_iff_addends]
  constructor
  · rintro ⟨a, ha, hstring⟩
    rcases (isString_addend_iff hschema ha).mp hstring with ⟨hdenotes, hseen⟩ | hmistaken
    · exact .inl ⟨(denotesString_iff_addends row e).mpr ⟨a, ha, hdenotes⟩,
        fun hoverlooked => hseen (hoverlooked.2 a ha hdenotes)⟩
    · exact .inr ⟨a, ha, hmistaken⟩
  · rintro (⟨hdenotes, hseen⟩ | ⟨a, ha, hmistaken⟩)
    · have hfound : ∃ a ∈ e.addends, a.DenotesString row ∧ ¬ a.IsMissed row := by
        by_contra hnone
        refine hseen ⟨hdenotes, fun a ha hstring => ?_⟩
        by_contra hmissed
        exact hnone ⟨a, ha, hstring, hmissed⟩
      obtain ⟨a, ha, hfound⟩ := hfound
      exact ⟨a, ha, (isString_addend_iff hschema ha).mpr (.inl hfound)⟩
    · exact ⟨a, ha, (isString_addend_iff hschema ha).mpr (.inr hmistaken)⟩

/-- An operand is taken for a string exactly if the sum is. -/
theorem Expr.isString_or_iff (l r : Expr) :
    (l.isString schema = true ∨ r.isString schema = true) ↔
      (l.DenotesString row ∨ r.DenotesString row) ∧ ¬ (binary .add l r).IsOverlooked row ∨
        (binary .add l r).IsMistaken row := by
  have hsum : (binary .add l r).isString schema = true ↔
      l.isString schema = true ∨ r.isString schema = true := by
    rw [isString, Bool.or_eq_true]
  rw [← hsum, isString_iff hschema, denotesString_add_iff]

end

/-! ## The parts of a filter -/

mutual

/-- An expression and all that it is made of. -/
def Expr.nodes : Expr → List Expr
  | unary op operand => unary op operand :: operand.nodes
  | binary op left right => binary op left right :: (left.nodes ++ right.nodes)
  | call name arguments => call name arguments :: Expr.allNodes arguments
  | e => [e]

def Expr.allNodes : List Expr → List Expr
  | [] => []
  | e :: rest => e.nodes ++ Expr.allNodes rest

end

mutual

/-- The parts of a filter, each before its operands or arguments. -/
def FilterTerm.parts : FilterTerm → List FilterTerm
  | literal text => [literal text]
  | field path => [field path]
  | not operand => not operand :: operand.parts
  | binary op left right => binary op left right :: (left.parts ++ right.parts)
  | call name arguments => call name arguments :: FilterTerm.allParts arguments

def FilterTerm.allParts : List FilterTerm → List FilterTerm
  | [] => []
  | t :: rest => t.parts ++ FilterTerm.allParts rest

end

section

variable {schema : Schema} {clause : Clause}

theorem Expr.toTerm_binary_eq_ok
    {op : BinaryOp} {l r : Expr} {t : FilterTerm}
    (h : (binary op l r).toTerm schema clause = .ok t) :
    ∃ u v, l.toTerm schema clause = .ok u ∧ r.toTerm schema clause = .ok v ∧
      t = if op = .add ∧ (l.isString schema = true ∨ r.isString schema = true) then
        .call "concat" [u, v] else .binary op u v := by
  rw [toTerm] at h
  split at h
  · obtain ⟨u, hu, h⟩ := bind_eq_ok.mp h
    obtain ⟨v, hv, h⟩ := bind_eq_ok.mp h
    refine ⟨u, v, hu, hv, ?_⟩
    split at h
    · next hstring =>
        cases h
        rw [if_pos (by simpa using hstring)]
    · next hother =>
        cases h
        rw [if_neg (by simpa using hother)]
  · cases h

theorem Expr.toTerm_call_eq_ok
    {name : Name} {arguments : List Expr} {t : FilterTerm}
    (h : (call name arguments).toTerm schema clause = .ok t) :
    ∃ ts, Expr.toTerms schema clause arguments = .ok ts ∧ t = .call name.written ts := by
  rw [toTerm] at h
  split at h
  · cases h
  · split at h
    · obtain ⟨ts, hts, rfl⟩ := map_eq_ok.mp h
      exact ⟨ts, hts, rfl⟩
    · cases h

/-- Only constants can be negated, and they become literals. -/
theorem Expr.toTerm_negate_eq_ok
    {operand : Expr} {t : FilterTerm}
    (h : (unary .negate operand).toTerm schema clause = .ok t) :
    ∃ v text, operand = .constant v ∧ t = .literal text := by
  cases operand with
  | constant v =>
      rw [toTerm] at h
      split at h
      · obtain ⟨text, -, rfl⟩ := map_eq_ok.mp h
        exact ⟨v, text, rfl, rfl⟩
      · cases h
      · cases h
  | _ => cases h

theorem Expr.visited_negate (operand : Expr) :
    (unary .negate operand).visited = [unary .negate operand] := by
  rw [visited]
  all_goals simp

mutual

/-- Everything in an expression that has a filter is visited, but for constants that are negated. -/
theorem Expr.mem_visited_of_mem_nodes
    (e : Expr) {t : FilterTerm} (h : e.toTerm schema clause = .ok t) {a : Expr} (ha : a ∈ e.nodes) :
    a ∈ e.visited ∨ ∃ v, a = .constant v := by
  match e with
  | .constant v => exact .inl ha
  | .field path => exact .inl ha
  | .unary .not operand =>
      obtain ⟨u, hu, -⟩ := map_eq_ok.mp h
      rcases List.mem_cons.mp ha with rfl | ha
      · exact .inl List.mem_cons_self
      · exact (operand.mem_visited_of_mem_nodes hu ha).imp_left (List.mem_cons_of_mem _)
  | .unary .negate operand =>
      obtain ⟨v, text, rfl, -⟩ := Expr.toTerm_negate_eq_ok h
      rcases List.mem_cons.mp ha with rfl | ha
      · rw [Expr.visited_negate]
        exact .inl List.mem_cons_self
      · exact .inr ⟨v, List.mem_singleton.mp ha⟩
  | .binary op left right =>
      obtain ⟨u, v, hu, hv, -⟩ := Expr.toTerm_binary_eq_ok h
      rcases List.mem_cons.mp ha with rfl | ha
      · exact .inl List.mem_cons_self
      · rcases List.mem_append.mp ha with ha | ha
        · refine (left.mem_visited_of_mem_nodes hu ha).imp_left fun hleft => ?_
          exact List.mem_cons_of_mem _ (List.mem_append_left _ hleft)
        · refine (right.mem_visited_of_mem_nodes hv ha).imp_left fun hright => ?_
          exact List.mem_cons_of_mem _ (List.mem_append_right _ hright)
  | .call name arguments =>
      obtain ⟨ts, hts, -⟩ := Expr.toTerm_call_eq_ok h
      rcases List.mem_cons.mp ha with rfl | ha
      · exact .inl List.mem_cons_self
      · refine (Expr.mem_allVisited_of_mem_allNodes arguments hts ha).imp_left ?_
        exact List.mem_cons_of_mem _
  | .foreign text => cases h

theorem Expr.mem_allVisited_of_mem_allNodes
    (es : List Expr) {ts : List FilterTerm} (h : Expr.toTerms schema clause es = .ok ts) {a : Expr}
    (ha : a ∈ Expr.allNodes es) : a ∈ Expr.allVisited es ∨ ∃ v, a = .constant v := by
  match es with
  | [] => cases ha
  | e :: rest =>
      rw [Expr.toTerms] at h
      obtain ⟨u, hu, h⟩ := bind_eq_ok.mp h
      obtain ⟨us, hus, -⟩ := bind_eq_ok.mp h
      rcases List.mem_append.mp ha with ha | ha
      · exact (e.mem_visited_of_mem_nodes hu ha).imp_left (List.mem_append_left _)
      · refine (Expr.mem_allVisited_of_mem_allNodes rest hus ha).imp_left ?_
        exact List.mem_append_right _

end

mutual

/-- Every expression that is visited becomes a part of the filter, in the same order. -/
theorem Expr.forall₂_parts (e : Expr) {t : FilterTerm} (h : e.toTerm schema clause = .ok t) :
    List.Forall₂ (fun a u => a.toTerm schema clause = .ok u) e.visited t.parts := by
  match e with
  | .constant v =>
      obtain ⟨text, -, rfl⟩ := map_eq_ok.mp h
      exact .cons h .nil
  | .field path =>
      obtain ⟨name, -, rfl⟩ := map_eq_ok.mp h
      exact .cons h .nil
  | .unary .not operand =>
      obtain ⟨u, hu, rfl⟩ := map_eq_ok.mp h
      exact .cons h (operand.forall₂_parts hu)
  | .unary .negate operand =>
      obtain ⟨v, text, -, rfl⟩ := Expr.toTerm_negate_eq_ok h
      rw [Expr.visited_negate]
      exact .cons h .nil
  | .binary op left right =>
      obtain ⟨u, v, hu, hv, rfl⟩ := Expr.toTerm_binary_eq_ok h
      have hboth := List.rel_append (left.forall₂_parts hu) (right.forall₂_parts hv)
      split at h
      · -- The arguments of the call are the operands, so that it has the parts of an addition.
        rw [if_pos ‹_›, FilterTerm.parts, FilterTerm.allParts, FilterTerm.allParts,
          FilterTerm.allParts, List.append_nil]
        exact .cons h hboth
      · rw [if_neg ‹_›]
        exact .cons h hboth
  | .call name arguments =>
      obtain ⟨ts, hts, rfl⟩ := Expr.toTerm_call_eq_ok h
      exact .cons h (Expr.forall₂_allParts arguments hts)
  | .foreign text => cases h

theorem Expr.forall₂_allParts (es : List Expr) {ts : List FilterTerm}
    (h : Expr.toTerms schema clause es = .ok ts) :
    List.Forall₂ (fun a u => a.toTerm schema clause = .ok u) (Expr.allVisited es)
      (FilterTerm.allParts ts) := by
  match es with
  | [] =>
      cases h
      exact .nil
  | e :: rest =>
      rw [Expr.toTerms] at h
      obtain ⟨u, hu, h⟩ := bind_eq_ok.mp h
      obtain ⟨us, hus, h⟩ := bind_eq_ok.mp h
      cases h
      exact List.rel_append (e.forall₂_parts hu) (Expr.forall₂_allParts rest hus)

end

theorem Expr.eq_add_of_toTerm
    {a : Expr} {u v : FilterTerm} (h : a.toTerm schema clause = .ok (.binary .add u v)) :
    ∃ l r, a = .binary .add l r := by
  cases a with
  | binary op l r =>
      obtain ⟨u', v', -, -, hmade⟩ := toTerm_binary_eq_ok h
      split at hmade
      · cases hmade
      · cases hmade
        exact ⟨l, r, rfl⟩
  | _ =>
      have hskeleton := skeleton_of_toTerm _ h
      cases hskeleton

end

/-! ## Additions -/

/--
Every addition in an expression becomes one part of its filter: a call of `concat` if one of its
operands denotes a string, and else an addition. There are two exceptions. It is an addition too
where all that denotes a string is missed, which are members of enumerations that are no texts and
fields that the schema does not take for texts; and it is a call of `concat` where a field that is
none is taken for a text. Nothing else becomes an addition. So no operand of an addition in a filter
denotes a string, apart from those that are overlooked.

Fields are taken for what they are declared as if every declaration has a meaning and binds nothing,
and by how they are written if one of them has no meaning.
-/
theorem Expr.additions_of_filterText
    {row : RowType} {naming : Naming} {schema : Schema}
    (hschema : Schema.ofRow row naming = .ok schema) {e : Expr} {text : String}
    (htext : e.filterText schema = .ok text) :
    (∃ t : FilterTerm, text = t.toText ∧
      (∀ l r, binary .add l r ∈ e.nodes → binary .add l r ∈ e.visited) ∧
      List.Forall₂ (fun a u => a.toTerm schema Clause.filter = .ok u) e.visited t.parts ∧
      (∀ l r u, (binary .add l r, u) ∈ e.visited.zip t.parts →
        ∃ v w, l.toTerm schema Clause.filter = .ok v ∧ r.toTerm schema Clause.filter = .ok w ∧
          ((l.DenotesString row ∨ r.DenotesString row) ∧ ¬ (binary .add l r).IsOverlooked row ∨
              (binary .add l r).IsMistaken row →
            u = .call "concat" [v, w]) ∧
          ((¬ (l.DenotesString row ∨ r.DenotesString row) ∨ (binary .add l r).IsOverlooked row) ∧
              ¬ (binary .add l r).IsMistaken row →
            u = .binary .add v w)) ∧
      ∀ a v w, (a, FilterTerm.binary .add v w) ∈ e.visited.zip t.parts →
        ∃ l r, a = .binary .add l r ∧ l.toTerm schema Clause.filter = .ok v ∧
          r.toTerm schema Clause.filter = .ok w ∧
          (¬ l.DenotesString row ∧ ¬ r.DenotesString row ∨
            (binary .add l r).IsOverlooked row)) ∧
      ∀ t, row = .record t →
        (t.IsReadable → ∀ name, t.TakesForText name ↔ t.DeclaresText name) ∧
        (t.meanings = .error .senseless → ∀ name, t.TakesForText name ↔
          ∃ f ∈ t.fields, f.name = name ∧ f.annotation.isStringAsWritten = true) := by
  obtain ⟨t, ht, rfl⟩ := map_eq_ok.mp htext
  have hparts := e.forall₂_parts ht
  have hpair {a : Expr} {u : FilterTerm} (h : (a, u) ∈ e.visited.zip t.parts) :
      a.toTerm schema Clause.filter = .ok u :=
    List.forall₂_iff_zip.mp hparts |>.2 h
  refine ⟨⟨t, rfl, ?_, hparts, ?_, ?_⟩, fun t _ =>
    ⟨RecordType.takesForText_iff_declaresText, RecordType.takesForText_iff_written⟩⟩
  · intro l r hmem
    rcases e.mem_visited_of_mem_nodes ht hmem with hvisited | ⟨v, hconstant⟩
    · exact hvisited
    · cases hconstant
  · intro l r u hmem
    obtain ⟨v, w, hv, hw, hu⟩ := toTerm_binary_eq_ok (hpair hmem)
    refine ⟨v, w, hv, hw, ?_, ?_⟩
    · intro hseen
      rw [hu, if_pos ⟨rfl, (isString_or_iff hschema l r).mpr hseen⟩]
    · rintro ⟨hunseen, hright⟩
      rw [hu, if_neg]
      rintro ⟨-, hstring⟩
      rcases (isString_or_iff hschema l r).mp hstring with ⟨hdenotes, hseen⟩ | hmistaken
      · exact hunseen.elim (fun h => h hdenotes) hseen
      · exact hright hmistaken
  · intro a v w hmem
    obtain ⟨l, r, rfl⟩ := eq_add_of_toTerm (hpair hmem)
    obtain ⟨v', w', hv, hw, hmade⟩ := toTerm_binary_eq_ok (hpair hmem)
    split at hmade
    · cases hmade
    · next hnone =>
        cases hmade
        refine ⟨l, r, rfl, hv, hw, ?_⟩
        by_cases hoverlooked : (binary .add l r).IsOverlooked row
        · exact .inr hoverlooked
        · left
          refine not_or.mp fun hdenotes => hnone ⟨rfl, ?_⟩
          exact (isString_or_iff hschema l r).mpr (.inl ⟨hdenotes, hoverlooked⟩)

/-- Paintings with a title, a color that may be missing, and their year. -/
def paintings : RecordType :=
  ⟨"Painting", [⟨"title", .term (.named "str"), none, none, true⟩,
    ⟨"color", .term (.anyOf [.named "str", .nullType]), none, none, true⟩,
    ⟨"year", .term (.named "int"), none, none, true⟩], [], []⟩

/-- Paintings whose year, counted from 1, ends a text of their title and color. -/
def paintingCondition : Expr :=
  .call "endswith" [.binary .add (.field ⟨"color", []⟩) (.field ⟨"title", []⟩),
    .binary .add (.binary .add (.field ⟨"year", []⟩) (.constant (.int 1))) (.constant (.text "!"))]

set_option maxRecDepth 100000 in
theorem ofRow_paintings :
    Schema.ofRow (.record paintings) .verbatim =
      .ok ⟨some paintings, .verbatim, ["title", "color"]⟩ :=
  Schema.ofRow_of_stringNames (by decide +kernel)

theorem Expr.additions_of_filterText_paintings :
    Schema.ofRow (.record paintings) .verbatim =
        .ok ⟨some paintings, .verbatim, ["title", "color"]⟩ ∧
      paintingCondition.filterText ⟨some paintings, .verbatim, ["title", "color"]⟩ =
        .ok "endswith(concat(color,title),concat((year add 1),'!'))" ∧
      ∃ t : FilterTerm, "endswith(concat(color,title),concat((year add 1),'!'))" = t.toText ∧
        List.Forall₂ (fun a u => a.toTerm ⟨some paintings, .verbatim, ["title", "color"]⟩
          Clause.filter = .ok u) paintingCondition.visited t.parts := by
  have htext : paintingCondition.filterText ⟨some paintings, .verbatim, ["title", "color"]⟩ =
      .ok "endswith(concat(color,title),concat((year add 1),'!'))" := rfl
  obtain ⟨⟨t, ht, -, hparts, -⟩, -⟩ := additions_of_filterText ofRow_paintings htext
  exact ⟨ofRow_paintings, htext, t, ht, hparts⟩

/-- A color, which is neither a number nor a text. -/
def red : Value :=
  .member (.single (.of "Color") (.of "RED") (.shown "1") .byName)

/-- A field with a member of an enumeration behind it. -/
def memberSum : Expr :=
  .binary .add (.field ⟨"color", []⟩) (.constant red)

/-- The member is written between quotes, and yet it is not joined to the field. -/
theorem filterText_memberSum :
    Schema.ofRow .untyped .verbatim = .ok (.untyped .verbatim) ∧
      Expr.DenotesString .untyped (.constant red) ∧
      memberSum.filterText (.untyped .verbatim) = .ok "(color add 'RED')" ∧
      memberSum.filterText (.untyped .verbatim) ≠ .ok "concat(color,'RED')" := by
  have htext : memberSum.filterText (.untyped .verbatim) = .ok "(color add 'RED')" := rfl
  refine ⟨rfl, .constant (s := "RED") rfl, htext, ?_⟩
  rw [htext]
  intro h
  exact absurd (Except.ok.inj h) (by decide)

end PagedTables
