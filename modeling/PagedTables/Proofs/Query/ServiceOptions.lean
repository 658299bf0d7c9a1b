import PagedTables.Proofs.Query.QueryString

/-!
# Options of the service in query strings

A service takes a query string apart at its ampersands, and every piece whose name begins with a
dollar sign or two underscores is an option to it. The options of a query are its own components.

Names of parameters are checked as a whole when they are set, and are written as they are. So a
parameter comes to one piece, and to no option, exactly when its written name holds no ampersand and
is not reserved. A name that is a text cannot be reserved; one that is a member of an enumeration is
written with its enumeration, which nothing checks.
-/
namespace PagedTables

/-- The pieces of a query string between ampersands; there are none in an empty one. -/
def queryPieces (s : String) : List String :=
  if s = "" then [] else Text.split '&' s

/-- The name before the first equals sign of a piece. -/
def pieceName (piece : String) : String :=
  String.ofList (piece.toList.takeWhile (· ≠ '='))

/-- The piece is an option to the service. -/
def isOption (piece : String) : Bool :=
  TableQuery.isReserved (pieceName piece)

/-- The pieces that a component comes to. -/
def Component.pieces (c : Component) : List String :=
  Text.split '&' (componentText c)

/-- The component comes to one piece, which is no option to the service. -/
def Component.IsPlain (c : Component) : Prop :=
  '&' ∉ c.1.written.toList ∧ TableQuery.isReserved c.1.written = false

/-! ## Pieces -/

theorem queryPieces_queryStringOf (components : List Component) :
    queryPieces (queryStringOf components) = components.flatMap Component.pieces := by
  by_cases hnone : components = []
  · subst hnone
    rfl
  · have hne : (components.map componentText).map String.toList ≠ [] := by simpa using hnone
    rw [queryPieces, if_neg ((queryStringOf_eq_empty_iff components).not.mpr hnone), Text.split,
      queryStringOf, String.toList_intercalate, show "&".toList = ['&'] from rfl,
      Text.splitAt_intercalate_eq_flatMap hne]
    simp only [List.map_map, List.flatMap_map, List.map_flatMap]
    rfl

namespace Component

theorem length_pieces_pos (c : Component) : 0 < c.pieces.length := by
  rw [pieces, Text.split, List.length_map]
  exact List.length_pos_iff.mpr (Text.splitAt_ne_nil '&' _)

theorem length_pieces_eq_one_iff (c : Component) :
    c.pieces.length = 1 ↔ '&' ∉ c.1.written.toList := by
  have hvalue := notMem_percentEncode_of_not_isPlain (c := '&') (by decide) (by decide) c.2
  rw [pieces, Text.split, List.length_map, Text.length_splitAt_eq_one_iff, toList_componentText]
  simp [hvalue]

theorem pieces_eq_singleton {c : Component} (h : '&' ∉ c.1.written.toList) :
    c.pieces = [componentText c] := by
  have hvalue := notMem_percentEncode_of_not_isPlain (c := '&') (by decide) (by decide) c.2
  have hfree : '&' ∉ (componentText c).toList := by simp [toList_componentText, h, hvalue]
  rw [pieces, Text.split, Text.splitAt_of_notMem hfree, List.map_singleton, String.ofList_toList]

end Component

/-- Whether a name is reserved shows before its first equals sign. -/
theorem isReserved_pieceName (name : String) :
    TableQuery.isReserved (pieceName name) = TableQuery.isReserved name := by
  rw [TableQuery.isReserved, TableQuery.isReserved, pieceName, String.toList_ofList]
  rcases name.toList with _ | ⟨first, rest⟩
  · rfl
  · by_cases hequals : first = '='
    · subst hequals
      rfl
    · rw [List.takeWhile_cons_of_pos (by simpa using hequals)]
      rcases rest with _ | ⟨second, rest⟩
      · rfl
      · by_cases hequals : second = '='
        · subst hequals
          simp only [List.takeWhile_cons, ne_eq, not_true_eq_false, decide_false]
          split <;> simp_all
        · rw [List.takeWhile_cons_of_pos (by simpa using hequals)]
          split <;> simp_all

theorem pieceName_componentText {c : Component} (h : '=' ∉ c.1.written.toList) :
    pieceName (componentText c) = c.1.written := by
  have hname : ∀ char ∈ c.1.written.toList, (char ≠ '=' : Bool) = true := by
    intro char hchar
    simpa using fun hequals : char = '=' => h (hequals ▸ hchar)
  rw [pieceName, toList_componentText, List.takeWhile_append_of_pos hname]
  simp

theorem isOption_componentText (c : Component) :
    isOption (componentText c) = TableQuery.isReserved c.1.written := by
  have hname : pieceName (componentText c) = pieceName c.1.written := by
    rw [pieceName, pieceName, toList_componentText]
    induction c.1.written.toList with
    | nil => rfl
    | cons char rest ih =>
        by_cases hequals : char = '='
        · subst hequals
          rfl
        · simpa [List.takeWhile_cons, hequals] using ih
  rw [isOption, hname, isReserved_pieceName]

theorem length_flatMap_eq_length_iff
    {α β : Type} {f : α → List β} (hpos : ∀ a, 0 < (f a).length) (as : List α) :
    (as.flatMap f).length = as.length ↔ ∀ a ∈ as, (f a).length = 1 := by
  have hle (as : List α) : as.length ≤ (as.flatMap f).length := by
    induction as with
    | nil => exact Nat.zero_le _
    | cons a as ih =>
        have := hpos a
        rw [List.flatMap_cons, List.length_append, List.length_cons]
        omega
  induction as with
  | nil => simp
  | cons a as ih =>
      have hfirst := hpos a
      have hrest := hle as
      rw [List.flatMap_cons, List.length_append, List.length_cons,
        List.forall_mem_cons]
      constructor
      · intro hlength
        exact ⟨by omega, ih.mp (by omega)⟩
      · rintro ⟨hone, hothers⟩
        have := ih.mpr hothers
        omega

/-! ## Parameters -/

theorem flatMap_pieces_of_isPlain {parameters : List Component} (h : ∀ p ∈ parameters, p.IsPlain) :
    parameters.flatMap Component.pieces = parameters.map componentText := by
  induction parameters with
  | nil => rfl
  | cons p rest ih =>
      obtain ⟨hp, hrest⟩ := List.forall_mem_cons.mp h
      rw [List.flatMap_cons, Component.pieces_eq_singleton hp.1, ih hrest]
      rfl

theorem filter_isOption_of_isPlain {parameters : List Component} (h : ∀ p ∈ parameters, p.IsPlain) :
    (parameters.map componentText).filter isOption = [] ∧
      (parameters.map componentText).filter (!isOption ·) = parameters.map componentText := by
  have hnone : ∀ piece ∈ parameters.map componentText, isOption piece = false := by
    intro piece hpiece
    obtain ⟨p, hp, rfl⟩ := List.mem_map.mp hpiece
    rw [isOption_componentText]
    exact (h p hp).2
  constructor
  · simpa using hnone
  · exact List.filter_eq_self.mpr fun piece hpiece => by simp [hnone piece hpiece]

/-- Parameters come to one piece each, none of them an option, exactly when each is plain. -/
theorem pieces_parameters_iff (parameters : List Component) :
    ((parameters.flatMap Component.pieces).filter isOption = [] ∧
        ((parameters.flatMap Component.pieces).filter (!isOption ·)).length = parameters.length) ↔
      ∀ p ∈ parameters, p.IsPlain := by
  have hcount := length_flatMap_eq_length_iff Component.length_pieces_pos parameters
  constructor
  · rintro ⟨hoptions, hothers⟩ p hp
    have hnone : ∀ piece ∈ parameters.flatMap Component.pieces, isOption piece = false := by
      simpa using hoptions
    have hall : (parameters.flatMap Component.pieces).filter (!isOption ·) =
        parameters.flatMap Component.pieces :=
      List.filter_eq_self.mpr fun piece hpiece => by simp [hnone piece hpiece]
    rw [hall] at hothers
    have hfree := p.length_pieces_eq_one_iff.mp (hcount.mp hothers p hp)
    refine ⟨hfree, ?_⟩
    have hpiece : componentText p ∈ parameters.flatMap Component.pieces :=
      List.mem_flatMap.mpr ⟨p, hp, by rw [Component.pieces_eq_singleton hfree]; simp⟩
    rw [← isOption_componentText, hnone _ hpiece]
  · intro hplain
    have hpieces := flatMap_pieces_of_isPlain hplain
    obtain ⟨hnone, hall⟩ := filter_isOption_of_isPlain hplain
    rw [hpieces]
    constructor
    · exact hnone
    · rw [hall, List.length_map]

/-! ## Query strings -/

namespace TableQuery

theorem queryString_false_eq_ok {q : TableQuery} {own : List Component}
    (h : q.components false = .ok own) : q.queryString false = .ok (queryStringOf own) := by
  rw [queryString, h]
  rfl

/-- The pieces of a query's own components are options, each under the name of its part. -/
theorem queryPieces_own
    {spec : QuerySpec} (hspec : spec.Sendable) {schema : Schema} {own : List Component}
    (hown : spec.ownComponents schema = .ok own) :
    queryPieces (queryStringOf own) = own.map componentText ∧
      (∀ piece ∈ own.map componentText, isOption piece = true) ∧
      (own.map componentText).map pieceName = spec.builtInNames := by
  have hnames := QuerySpec.map_fst_ownComponents hspec.selected hown
  have hwritten : ∀ c ∈ own, c.1.IsSeparable ∧ isReserved c.1.written = true := by
    intro c hc
    obtain ⟨name, hname, hplain⟩ := hspec.exists_name_of_mem hown hc
    rw [← hplain]
    exact ⟨isSeparable_of_mem_builtInNames hname, isReserved_of_mem_builtInNames hname⟩
  refine ⟨?_, ?_, ?_⟩
  · rw [queryPieces_queryStringOf]
    clear hnames hown
    induction own with
    | nil => rfl
    | cons c rest ih =>
        obtain ⟨hc, hrest⟩ := List.forall_mem_cons.mp hwritten
        rw [List.flatMap_cons, Component.pieces_eq_singleton hc.1.1, ih hrest]
        rfl
  · intro piece hpiece
    obtain ⟨c, hc, rfl⟩ := List.mem_map.mp hpiece
    rw [isOption_componentText]
    exact (hwritten c hc).2
  · have hpieceName : ∀ c ∈ own, (pieceName ∘ componentText) c = (Name.text ∘ Prod.fst) c := by
      intro c hc
      obtain ⟨name, -, hplain⟩ := hspec.exists_name_of_mem hown hc
      rw [Function.comp_apply, pieceName_componentText (hwritten c hc).1.2, Function.comp_apply,
        ← hplain]
      rfl
    rw [List.map_map, List.map_congr_left hpieceName, ← List.map_map, hnames, List.map_map]
    exact List.map_id _

/--
What the pieces of a query string are to a service. Those of the query's own components are
options, each under the name of its part, and the pieces of the caller's parameters follow. No
parameter adds an option, and each comes to one piece, exactly when no written name holds an
ampersand or is reserved; names that are written as they are checked are not reserved.
-/
theorem options_of_queryString
    (row : RowType) (naming : Naming) (table : Option String) (calls : List BuilderCall)
    {q : TableQuery} (hq : q = (all row naming table).chain calls)
    {s : String} (hs : q.queryString true = .ok s) :
    ∃ own,
      q.queryString false = .ok own ∧
      (queryPieces own).map pieceName = q.spec.builtInNames ∧
      queryPieces s = queryPieces own ++ q.spec.parameters.flatMap Component.pieces ∧
      ((queryPieces s).filter isOption = queryPieces own ∧
          ((queryPieces s).filter (!isOption ·)).length = q.spec.parameters.length ↔
        ∀ p ∈ q.spec.parameters, p.IsPlain) ∧
      ((∀ p ∈ q.spec.parameters, p.IsPlain) →
        (queryPieces s).filter (!isOption ·) = q.spec.parameters.map componentText) ∧
      ∀ p ∈ q.spec.parameters, p.1.written = p.1.text → isReserved p.1.written = false := by
  have hsendable : q.spec.Sendable := hq ▸ sendable_chain row naming table calls
  obtain ⟨schema, own, -, hown, hwithout, -, rfl⟩ := queryString_eq_ok hs
  obtain ⟨hpieces, hoptions, hnames⟩ := queryPieces_own hsendable hown
  have hall : queryPieces (queryStringOf (own ++ q.spec.parameters)) =
      own.map componentText ++ q.spec.parameters.flatMap Component.pieces := by
    rw [queryPieces_queryStringOf, List.flatMap_append, ← queryPieces_queryStringOf, hpieces]
  have hfilter : (own.map componentText).filter isOption = own.map componentText :=
    List.filter_eq_self.mpr hoptions
  have hothers : (own.map componentText).filter (!isOption ·) = [] := by
    rw [List.filter_eq_nil_iff]
    intro piece hpiece
    simp [hoptions piece hpiece]
  refine ⟨queryStringOf own, queryString_false_eq_ok hwithout, ?_, ?_, ?_, ?_, ?_⟩
  · rw [hpieces, hnames]
  · rw [hall, hpieces]
  · rw [hall, hpieces, List.filter_append, List.filter_append, hfilter, hothers, List.nil_append,
      List.append_right_eq_self]
    exact pieces_parameters_iff q.spec.parameters
  · intro hplain
    rw [hall, List.filter_append, hothers, List.nil_append, flatMap_pieces_of_isPlain hplain]
    exact (filter_isOption_of_isPlain hplain).2
  · intro p hp hwritten
    rw [hwritten]
    exact hsendable.unreserved p hp

/-- A limit, and a parameter with separators in its value and an equals sign in its name. -/
def limitedCalls : List BuilderCall :=
  [.take (.int 5), .withParameter (.text "a=$top") (.text "1&$skip=2")]

theorem options_of_queryString_limitedCalls :
    ((all .untyped .camelCase none).chain limitedCalls).queryString true =
        .ok "$top=5&a=$top=1%26%24skip%3D2" ∧
      (queryPieces "$top=5&a=$top=1%26%24skip%3D2").filter isOption = ["$top=5"] ∧
      (queryPieces "$top=5&a=$top=1%26%24skip%3D2").filter (!isOption ·) =
        ["a=$top=1%26%24skip%3D2"] := by
  have hlimit : componentText (.plain "$top", "5") = "$top=5" := by decide +kernel
  have hparameter : componentText (.plain "a=$top", "1&$skip=2") = "a=$top=1%26%24skip%3D2" := by
    decide +kernel
  have hs : ((all .untyped .camelCase none).chain limitedCalls).queryString true =
      .ok "$top=5&a=$top=1%26%24skip%3D2" := by
    have hcomponents : ((all .untyped .camelCase none).chain limitedCalls).components true =
        .ok [(.plain "$top", "5"), (.plain "a=$top", "1&$skip=2")] := rfl
    rw [queryString, hcomponents, Except.map, queryStringOf, List.map_cons, List.map_singleton,
      hlimit, hparameter]
    rfl
  have hparameters : ((all .untyped .camelCase none).chain limitedCalls).spec.parameters =
      [(.plain "a=$top", "1&$skip=2")] := rfl
  have hplain : ∀ p ∈ ((all .untyped .camelCase none).chain limitedCalls).spec.parameters,
      p.IsPlain := by
    simp only [hparameters, List.forall_mem_singleton, Component.IsPlain]
    decide
  obtain ⟨own, hown, -, -, hclaim, hothers, -⟩ :=
    options_of_queryString .untyped .camelCase none limitedCalls rfl hs
  have hstring : ((all .untyped .camelCase none).chain limitedCalls).queryString false =
      .ok "$top=5" := by
    have hcomponents : ((all .untyped .camelCase none).chain limitedCalls).components false =
        .ok [(.plain "$top", "5")] := rfl
    rw [queryString, hcomponents, Except.map, queryStringOf, List.map_singleton, hlimit]
    rfl
  cases Except.ok.inj (hown.symm.trans hstring)
  refine ⟨hs, (hclaim.mpr hplain).1, ?_⟩
  rw [hothers hplain, hparameters, List.map_singleton, hparameter]

/-- A limit, and a parameter with an ampersand in its name. -/
def smuggledQuery : TableQuery :=
  (all .untyped .camelCase none).chain
    [.take (.int 5), .withParameter (.text "a&$top") (.text "1")]

/-- A parameter whose name holds an ampersand adds an option to those of the query. -/
theorem options_smuggledQuery :
    smuggledQuery.queryString true = .ok "$top=5&a&$top=1" ∧
      smuggledQuery.queryString false = .ok "$top=5" ∧
      (queryPieces "$top=5&a&$top=1").filter isOption = ["$top=5", "$top=1"] ∧
      queryPieces "$top=5" = ["$top=5"] := by
  have htext : queryStringOf [(.plain "$top", "5"), (.plain "a&$top", "1")] =
      "$top=5&a&$top=1" := by
    decide +kernel
  have hown : queryStringOf [(.plain "$top", "5")] = "$top=5" := by decide +kernel
  exact ⟨congrArg Except.ok htext, congrArg Except.ok hown, by decide, by decide⟩

end TableQuery

end PagedTables
