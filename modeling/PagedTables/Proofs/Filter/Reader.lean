import PagedTables.Proofs.Filter.Grammar
import PagedTables.Proofs.Text.Integers

/-!
# Reading filter texts

A reader that goes through a filter text once, from left to right. The leading word of a text and
the character behind it tell which rule of the grammar applies, so the reader never looks back.

Whatever the grammar reads a text as, this reader reads it as the same tree, also when something
else follows that starts with a delimiter. So the grammar is unambiguous, and nothing inside of a
quoted text can be taken for a part of the tree around it.
-/
namespace PagedTables

/-- What follows a tree: nothing, or something that starts with a delimiter. -/
def IsDelimited (rest : List Char) : Prop :=
  ∀ c ∈ rest.head?, c = ' ' ∨ c = ')' ∨ c = ','

theorem isDelimited_cons {c : Char} {rest : List Char} (h : c = ' ' ∨ c = ')' ∨ c = ',') :
    IsDelimited (c :: rest) := by
  simpa [IsDelimited] using h

theorem isDelimited_nil : IsDelimited [] := by
  simp [IsDelimited]

/-! ## The reader -/

/-- The text up to the first quote that is not doubled, and what follows that quote. -/
def readQuoted : List Char → Option (List Char × List Char)
  | '\'' :: '\'' :: rest => (readQuoted rest).map fun p => ('\'' :: '\'' :: p.1, p.2)
  | '\'' :: rest => some ([], rest)
  | c :: rest => (readQuoted rest).map fun p => (c :: p.1, p.2)
  | [] => none

/-- The leaf that a word is: a path, if it starts like a name and is no literal. -/
def FilterTerm.ofWord (cs : List Char) : FilterTerm :=
  if cs.head?.any isNameStart && !literalWords.contains cs then .field (String.ofList cs)
  else .literal (String.ofList cs)

mutual

/-- The tree that a text starts with, and what follows it. -/
def readTerm : Nat → List Char → Option (FilterTerm × List Char)
  | 0, _ => none
  | n + 1, cs =>
    let word := cs.takeWhile isWordChar
    match cs.dropWhile isWordChar with
    | '\'' :: rest =>
      (readQuoted rest).map fun p => (.literal (String.ofList ('\'' :: p.1 ++ ['\''])), p.2)
    | '(' :: rest =>
      if word = [] then do
        let (l, rest) ← readTerm n rest
        let behind := rest.drop 1
        let op ← BinaryOp.ofToken? (String.ofList (behind.takeWhile (· != ' ')))
        let (r, rest) ← readTerm n ((behind.dropWhile (· != ' ')).drop 1)
        return (.binary op l r, rest.drop 1)
      else if word = "not".toList then
        (readTerm n rest).map fun p => (.not p.1, p.2.drop 1)
      else if word = "cast".toList then
        let inner := rest.takeWhile (· != ')')
        some (.literal (String.ofList ("cast(".toList ++ inner ++ [')'])),
          (rest.dropWhile (· != ')')).drop 1)
      else (readTerms n rest).map fun p => (.call (String.ofList word) p.1, p.2.drop 1)
    | rest => some (.ofWord word, rest)

/-- The trees between commas that a text starts with, and what follows them. -/
def readTerms : Nat → List Char → Option (List FilterTerm × List Char)
  | 0, _ => none
  | n + 1, cs => do
    let (t, rest) ← readTerm n cs
    match rest with
    | ',' :: rest => (readTerms n rest).map fun p => (t :: p.1, p.2)
    | rest => return ([t], rest)

end

/-! ## Tokens -/

theorem readQuoted_append
    {body rest : List Char} (h : QuotesDoubled body) (hrest : rest.head? ≠ some '\'') :
    readQuoted (body ++ '\'' :: rest) = some (body, rest) := by
  induction h with
  | nil =>
      cases rest with
      | nil => rfl
      | cons c rest =>
          have hc : c ≠ '\'' := by simpa using hrest
          simp [readQuoted, hc]
  | char plain _ ih => simp [readQuoted, plain, ih]
  | quote _ ih => simp [readQuoted, ih]

/-- A word that is a literal is read as one. -/
theorem FilterTerm.ofWord_of_isLiteral
    {cs : List Char} (h : cs ∈ literalWords ∨ IsNumber cs) :
    FilterTerm.ofWord cs = .literal (String.ofList cs) := by
  rcases h with h | h
  · simp [FilterTerm.ofWord, h]
  · obtain ⟨c, rest, rfl, hc⟩ := h.head
    simp [FilterTerm.ofWord, hc]

/-- A path is read as one. -/
theorem FilterTerm.ofWord_of_isFieldPath {cs : List Char} (h : IsFieldPath cs) :
    FilterTerm.ofWord cs = .field (String.ofList cs) := by
  obtain ⟨c, rest, rfl, hc⟩ := h.head
  simp [FilterTerm.ofWord, hc, h.1]

/-- An opening parenthesis ends the word before it. -/
theorem takeWhile_dropWhile_paren (word rest : List Char) (hword : IsWord word) :
    (word ++ '(' :: rest).takeWhile isWordChar = word ∧
      (word ++ '(' :: rest).dropWhile isWordChar = '(' :: rest := by
  apply takeWhile_dropWhile_append isWordChar word ('(' :: rest) hword
  intro c hc
  obtain rfl : '(' = c := by simpa using hc
  rfl

theorem BinaryOp.space_notMem_token (op : BinaryOp) : ∀ c ∈ op.token.toList, c != ' ' := by
  have hall : op.token.toList.all (· != ' ') = true := by cases op <;> rfl
  exact List.all_eq_true.mp hall

theorem isWord_identifier (name : Identifier) : IsWord name.text.toList :=
  fun _ hc => isWordChar_of_isIdentifierPart (Text.isIdentifierPart_of_mem name.isIdentifier hc)

/-- The names of functions are words, and other ones than those with rules of their own. -/
theorem IsFunctionName.spec {cs : List Char} (h : IsFunctionName cs) :
    IsWord cs ∧ cs ≠ [] ∧ cs ≠ "not".toList ∧ cs ≠ "cast".toList := by
  cases h with
  | @supported name h =>
      have hall : ∀ entry ∈ functionArities,
          IsWord entry.1.toList ∧ entry.1.toList ≠ [] ∧ entry.1.toList ≠ "not".toList ∧
            entry.1.toList ≠ "cast".toList := by decide
      obtain ⟨entry, hentry, hname⟩ := List.lookup_isSome_iff.mp h
      rw [eq_of_beq hname]
      exact hall entry hentry
  | label l =>
      have htext : l.text.toList = l.owner.text.toList ++ '.' :: l.own.text.toList := by
        simp [Label.text]
      have hpoint : '.' ∈ l.text.toList := by simp [htext]
      refine ⟨?_, List.ne_nil_of_mem hpoint, ?_, ?_⟩
      · rw [htext]
        exact (isWord_identifier l.owner).append ((isWord_identifier l.own).cons rfl)
      · exact fun hnot => absurd (hnot ▸ hpoint) (by decide)
      · exact fun hcast => absurd (hcast ▸ hpoint) (by decide)

/-! ## One rule after the other -/

section Rules

variable {n : Nat} {cs ds rest : List Char} {t u : FilterTerm} {ts : List FilterTerm}

theorem readTerm_word (hcs : IsWord cs) (hrest : IsDelimited rest) :
    readTerm (n + 1) (cs ++ rest) = some (.ofWord cs, rest) := by
  have hstop : ∀ c ∈ rest.head?, isWordChar c = false := by
    intro c hc
    rcases hrest c hc with rfl | rfl | rfl <;> rfl
  obtain ⟨htake, hdrop⟩ := takeWhile_dropWhile_append isWordChar cs rest hcs hstop
  rw [readTerm, htake, hdrop]
  split
  · rename_i c
    exact absurd (hrest '\'' (by simp)) (by decide)
  · exact absurd (hrest '(' (by simp)) (by decide)
  · rfl

theorem readTerm_quoted (hcs : QuotesDoubled cs) (hrest : IsDelimited rest) :
    readTerm (n + 1) ('\'' :: cs ++ ['\''] ++ rest) =
      some (.literal (String.ofList ('\'' :: cs ++ ['\''])), rest) := by
  have hend : rest.head? ≠ some '\'' := by
    intro h
    exact absurd (hrest '\'' h) (by decide)
  have hbody := readQuoted_append hcs hend
  have hchar : isWordChar '\'' = false := rfl
  rw [readTerm]
  simp [hchar, hbody]

theorem readTerm_cast (hcs : ∀ c ∈ cs, c != ')') :
    readTerm (n + 1) ("cast(".toList ++ cs ++ [')'] ++ rest) =
      some (.literal (String.ofList ("cast(".toList ++ cs ++ [')'])), rest) := by
  have hshape : "cast(".toList ++ cs ++ [')'] ++ rest =
      "cast".toList ++ '(' :: (cs ++ ')' :: rest) := by simp
  obtain ⟨htake, hdrop⟩ :=
    takeWhile_dropWhile_paren "cast".toList (cs ++ ')' :: rest) (by decide)
  obtain ⟨hinner, hbehind⟩ :=
    takeWhile_dropWhile_append (· != ')') cs (')' :: rest) hcs (by simp)
  rw [hshape, readTerm, htake, hdrop]
  simp [hinner, hbehind]

theorem readTerm_not (h : readTerm n (cs ++ ')' :: rest) = some (t, ')' :: rest)) :
    readTerm (n + 1) ("not(".toList ++ cs ++ [')'] ++ rest) = some (.not t, rest) := by
  have hshape : "not(".toList ++ cs ++ [')'] ++ rest =
      "not".toList ++ '(' :: (cs ++ ')' :: rest) := by simp
  obtain ⟨htake, hdrop⟩ :=
    takeWhile_dropWhile_paren "not".toList (cs ++ ')' :: rest) (by decide)
  rw [hshape, readTerm, htake, hdrop]
  simp [h]

theorem readTerm_binary {op : BinaryOp}
    (hl : ∀ behind, readTerm n (cs ++ ' ' :: behind) = some (t, ' ' :: behind))
    (hr : readTerm n (ds ++ ')' :: rest) = some (u, ')' :: rest)) :
    readTerm (n + 1) ('(' :: cs ++ ' ' :: op.token.toList ++ ' ' :: ds ++ [')'] ++ rest) =
      some (.binary op t u, rest) := by
  have hshape : '(' :: cs ++ ' ' :: op.token.toList ++ ' ' :: ds ++ [')'] ++ rest =
      [] ++ '(' :: (cs ++ ' ' :: (op.token.toList ++ ' ' :: (ds ++ ')' :: rest))) := by simp
  obtain ⟨htake, hdrop⟩ := takeWhile_dropWhile_paren []
    (cs ++ ' ' :: (op.token.toList ++ ' ' :: (ds ++ ')' :: rest))) (by decide)
  obtain ⟨htoken, hbehind⟩ := takeWhile_dropWhile_append (· != ' ') op.token.toList
    (' ' :: (ds ++ ')' :: rest)) op.space_notMem_token (by simp)
  rw [hshape, readTerm, htake, hdrop]
  simp [hl, htoken, hbehind, BinaryOp.ofToken?_token, hr]

theorem readTerm_call {name : String} (hname : IsFunctionName name.toList)
    (h : readTerms n (cs ++ ')' :: rest) = some (ts, ')' :: rest)) :
    readTerm (n + 1) (name.toList ++ '(' :: cs ++ [')'] ++ rest) =
      some (.call name ts, rest) := by
  have hshape : name.toList ++ '(' :: cs ++ [')'] ++ rest =
      name.toList ++ '(' :: (cs ++ ')' :: rest) := by simp
  obtain ⟨hword, hne, hnot, hcast⟩ := hname.spec
  obtain ⟨htake, hdrop⟩ := takeWhile_dropWhile_paren name.toList (cs ++ ')' :: rest) hword
  rw [hshape, readTerm, htake, hdrop]
  simp only [hne, hnot, hcast, if_false, h]
  simp

theorem readTerms_one (h : readTerm n (cs ++ ')' :: rest) = some (t, ')' :: rest)) :
    readTerms (n + 1) (cs ++ ')' :: rest) = some ([t], ')' :: rest) := by
  rw [readTerms]
  simp [h]

theorem readTerms_more (h : readTerm n (cs ++ ',' :: rest) = some (t, ',' :: rest)) :
    readTerms (n + 1) (cs ++ ',' :: rest) =
      (readTerms n rest).map fun p => (t :: p.1, p.2) := by
  rw [readTerms]
  simp [h]

end Rules

/-! ## Unambiguity -/

/-- The texts inside of a cast end where its parenthesis is closed. -/
theorem cast_inner_ne_paren
    {plain type : List Char} (hplain : IsPlain plain) (htype : ∀ c ∈ type, c.isAlpha) :
    ∀ c ∈ plain ++ ",Edm.".toList ++ type, c != ')' := by
  intro c hc
  rw [bne_iff_ne]
  rintro rfl
  simp only [List.mem_append] at hc
  rcases hc with (hc | hc) | hc
  · exact absurd (hplain ')' hc) (by decide)
  · exact absurd hc (by decide)
  · exact absurd (htype ')' hc) (by decide)

theorem IsLiteral.readTerm_append
    {cs rest : List Char} (h : IsLiteral cs) (n : Nat) (hrest : IsDelimited rest) :
    readTerm (n + 1) (cs ++ rest) = some (.literal (String.ofList cs), rest) := by
  cases h with
  | word h =>
      rw [readTerm_word (isWord_of_mem_literalWords h) hrest,
        FilterTerm.ofWord_of_isLiteral (Or.inl h)]
  | number h =>
      rw [readTerm_word h.isWord hrest, FilterTerm.ofWord_of_isLiteral (Or.inr h)]
  | text h => exact readTerm_quoted h hrest
  | cast hplain htype => exact readTerm_cast (cast_inner_ne_paren hplain htype)

mutual

/-- What the grammar reads is read by the reader as the same tree. -/
theorem Reads.readTerm_append {cs : List Char} {t : FilterTerm} (h : Reads cs t) :
    ∀ {n : Nat} {rest : List Char}, cs.length < n → IsDelimited rest →
      readTerm n (cs ++ rest) = some (t, rest) := by
  intro n rest hn hrest
  obtain ⟨n, rfl⟩ := Nat.exists_eq_succ_of_ne_zero (Nat.ne_zero_of_lt hn)
  cases h with
  | literal h => exact h.readTerm_append n hrest
  | field h => rw [readTerm_word h.isWord hrest, FilterTerm.ofWord_of_isFieldPath h]
  | not h =>
      have hopen : 0 < "not(".toList.length := by decide
      simp only [List.length_append] at hn
      exact readTerm_not (h.readTerm_append (by omega) (isDelimited_cons (by simp)))
  | binary hop hl hr =>
      simp only [List.length_append, List.length_cons] at hn
      exact readTerm_binary
        (fun behind => hl.readTerm_append (by omega) (isDelimited_cons (by simp)))
        (hr.readTerm_append (by omega) (isDelimited_cons (by simp)))
  | call hname h =>
      simp only [List.length_append, List.length_cons, List.length_nil] at hn
      exact readTerm_call hname (h.readTerms_append (by omega))

theorem ReadsAll.readTerms_append {cs : List Char} {ts : List FilterTerm} (h : ReadsAll cs ts) :
    ∀ {n : Nat} {rest : List Char}, cs.length + 1 < n →
      readTerms n (cs ++ ')' :: rest) = some (ts, ')' :: rest) := by
  intro n rest hn
  obtain ⟨n, rfl⟩ := Nat.exists_eq_succ_of_ne_zero (Nat.ne_zero_of_lt hn)
  cases h with
  | one h => exact readTerms_one (h.readTerm_append (by omega) (isDelimited_cons (by simp)))
  | more h hs =>
      simp only [List.length_append, List.length_cons] at hn
      rw [List.append_assoc, List.cons_append,
        readTerms_more (h.readTerm_append (by omega) (isDelimited_cons (by simp))),
        hs.readTerms_append (by omega)]
      rfl

end

/-- The grammar is unambiguous. -/
theorem Reads.unique {cs : List Char} {t u : FilterTerm} (ht : Reads cs t) (hu : Reads cs u) :
    t = u := by
  have hread := ht.readTerm_append (Nat.lt_succ_self _) isDelimited_nil
  rw [hu.readTerm_append (Nat.lt_succ_self _) isDelimited_nil] at hread
  simpa using hread.symm

end PagedTables
