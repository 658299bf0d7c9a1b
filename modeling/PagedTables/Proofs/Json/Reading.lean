import Mathlib.Algebra.Group.Int.Defs
import Mathlib.Algebra.Group.Nat.Defs
import PagedTables.Json.Parser
import PagedTables.Json.Printer
import PagedTables.Proofs.Json.Members
import PagedTables.Proofs.Result

/-!
# What JSON texts spell

In no object of a value that is read from a text a name occurs twice, at whatever depth the object
stands. The reader sets the members of an object one after the other, which keeps their names apart.

A text that is read spells its value if every surrogate in it is one of a pair, so that no character
had to be replaced. Not every text of the grammar is read: an integer of too many digits is refused.
-/
namespace PagedTables.Json

/-- No object of the value has a name twice. -/
inductive IsNamedOnce : Json → Prop
  | null : IsNamedOnce .null
  | bool (b : Bool) : IsNamedOnce (.bool b)
  | int (n : Int) : IsNamedOnce (.int n)
  | float (x : Binary64) : IsNamedOnce (.float x)
  | text (s : String) : IsNamedOnce (.text s)
  | array {items : List Json} (hitems : ∀ item ∈ items, IsNamedOnce item) :
      IsNamedOnce (.array items)
  | object {members : JsonObject} (hnames : (members.map Prod.fst).Nodup)
      (hmembers : ∀ member ∈ members, IsNamedOnce member.2) : IsNamedOnce (.object members)

theorem IsNamedOnce.nodup {members : JsonObject} (h : (Json.object members).IsNamedOnce) :
    (members.map Prod.fst).Nodup := by
  cases h with
  | object hnames _ => exact hnames

/-- The values of an array or an object have no name twice either. -/
theorem IsNamedOnce.item {items : List Json} (h : (Json.array items).IsNamedOnce) :
    ∀ item ∈ items, item.IsNamedOnce := by
  cases h with
  | array hitems => exact hitems

theorem IsNamedOnce.member {members : JsonObject} (h : (Json.object members).IsNamedOnce) :
    ∀ member ∈ members, member.2.IsNamedOnce := by
  cases h with
  | object _ hmembers => exact hmembers

theorem IsNamedOnce.get? {members : JsonObject} (h : (Json.object members).IsNamedOnce)
    {name : String} {value : Json} (hvalue : Json.get? members name = some value) :
    value.IsNamedOnce :=
  h.member _ ((lookup_eq_some_iff_mem h.nodup).mp hvalue)

/-- A member that is set is a name more at most. -/
theorem IsNamedOnce.setMember {members : JsonObject} (h : (Json.object members).IsNamedOnce)
    (name : String) {value : Json} (hvalue : value.IsNamedOnce) :
    (Json.object (Json.setMember name value members)).IsNamedOnce := by
  have hnames : ((Json.setMember name value members).map Prod.fst).Nodup := by
    rw [map_fst_setMember]
    by_cases hname : name ∈ members.map Prod.fst
    · rw [if_pos hname, List.append_nil]
      exact h.nodup
    · rw [if_neg hname, List.nodup_append]
      refine ⟨h.nodup, List.nodup_singleton name, fun other hother added hadded heq => ?_⟩
      rw [heq, List.mem_singleton.mp hadded] at hother
      exact hname hother
  refine .object hnames fun member hmember => ?_
  have hlookup := (lookup_eq_some_iff_mem hnames).mpr hmember
  rw [lookup_setMember] at hlookup
  split at hlookup
  · obtain rfl := Option.some.inj hlookup
    exact hvalue
  · exact h.get? hlookup

/-! ## The reader -/

theorem isNamedOnce_of_readNumber {cs rest : List Char} {j : Json}
    (h : readNumber cs = .ok (j, rest)) : j.IsNamedOnce := by
  simp only [readNumber] at h
  grind [IsNamedOnce.int, IsNamedOnce.float]

theorem isNamedOnce_of_mem_wordValues {word : String} {j : Json} (h : (word, j) ∈ wordValues) :
    j.IsNamedOnce := by
  simp only [wordValues, List.mem_cons, Prod.mk.injEq, List.not_mem_nil, or_false] at h
  rcases h with ⟨-, rfl⟩ | ⟨-, rfl⟩ | ⟨-, rfl⟩ | ⟨-, rfl⟩ | ⟨-, rfl⟩ | ⟨-, rfl⟩
  · exact .null
  · exact .bool true
  · exact .bool false
  · exact .float _
  · exact .float _
  · exact .float _

/--
What is read with some bound for the nesting: a value, the items of an array, and the members of an
object after those that are there.
-/
structure ReadsNamedOnce (fuel : Nat) : Prop where
  value : ∀ {cs rest : List Char} {j : Json}, readValue fuel cs = .ok (j, rest) → j.IsNamedOnce
  items : ∀ {cs rest : List Char} {items : List Json}, readItems fuel cs = .ok (items, rest) →
    ∀ item ∈ items, item.IsNamedOnce
  members : ∀ {cs rest : List Char} {before members : JsonObject},
    (Json.object before).IsNamedOnce → readMembers fuel cs before = .ok (members, rest) →
    (Json.object members).IsNamedOnce

section Step

variable {fuel : Nat} (h : ReadsNamedOnce fuel)

include h

theorem isNamedOnce_of_readValue_succ {cs rest : List Char} {j : Json}
    (hread : readValue (fuel + 1) cs = .ok (j, rest)) : j.IsNamedOnce := by
  unfold readValue at hread
  split at hread
  · obtain ⟨⟨s, after⟩, -, heq⟩ := map_eq_ok.mp hread
    cases heq
    exact .text _
  · split at hread
    · cases hread
      exact .array (by simp)
    · obtain ⟨⟨items, after⟩, hitems, heq⟩ := map_eq_ok.mp hread
      cases heq
      exact .array (h.items hitems)
  · split at hread
    · cases hread
      exact .object (by simp) (by simp)
    · obtain ⟨⟨members, after⟩, hmembers, heq⟩ := map_eq_ok.mp hread
      cases heq
      exact h.members (.object (by simp) (by simp)) hmembers
  · split at hread
    · next hword =>
        cases hread
        obtain ⟨⟨word, value⟩, hmem, hvalue⟩ := List.exists_of_findSome?_eq_some hword
        obtain ⟨after, -, heq⟩ := Option.map_eq_some_iff.mp hvalue
        cases heq
        exact isNamedOnce_of_mem_wordValues hmem
    · exact isNamedOnce_of_readNumber hread

theorem isNamedOnce_of_readItems_succ {cs rest : List Char} {items : List Json}
    (hread : readItems (fuel + 1) cs = .ok (items, rest)) : ∀ item ∈ items, item.IsNamedOnce := by
  unfold readItems at hread
  obtain ⟨⟨first, after⟩, hfirst, hread⟩ := bind_eq_ok.mp hread
  have hfirst := h.value hfirst
  dsimp only at hread
  split at hread
  · obtain ⟨⟨others, after⟩, hothers, hread⟩ := bind_eq_ok.mp hread
    cases hread
    exact List.forall_mem_cons.mpr ⟨hfirst, h.items hothers⟩
  · cases hread
    exact List.forall_mem_singleton.mpr hfirst
  · cases hread

theorem isNamedOnce_of_readMembers_succ {cs rest : List Char} {before members : JsonObject}
    (hbefore : (Json.object before).IsNamedOnce)
    (hread : readMembers (fuel + 1) cs before = .ok (members, rest)) :
    (Json.object members).IsNamedOnce := by
  unfold readMembers at hread
  split at hread
  · obtain ⟨⟨name, after⟩, -, hread⟩ := bind_eq_ok.mp hread
    dsimp only at hread
    split at hread
    · obtain ⟨⟨value, after⟩, hvalue, hread⟩ := bind_eq_ok.mp hread
      have hset := hbefore.setMember name (h.value hvalue)
      dsimp only at hread
      split at hread
      · exact h.members hset hread
      · cases hread
        exact hset
      · cases hread
    · cases hread
  · cases hread

end Step

/-- The induction is on the bound for the nesting, for values, items and members at once. -/
theorem readsNamedOnce (fuel : Nat) : ReadsNamedOnce fuel := by
  induction fuel with
  | zero =>
      refine ⟨fun hread => ?_, fun hread => ?_, fun _ hread => ?_⟩
      · cases hread
      · cases hread
      · cases hread
  | succ fuel ih =>
      exact ⟨isNamedOnce_of_readValue_succ ih, isNamedOnce_of_readItems_succ ih,
        isNamedOnce_of_readMembers_succ ih⟩

/-- No value with a name twice in an object is read. -/
theorem isNamedOnce_of_read {s : String} {j : Json} (h : read s = .ok j) : j.IsNamedOnce := by
  rw [read] at h
  obtain ⟨⟨value, rest⟩, hread, h⟩ := bind_eq_ok.mp h
  dsimp only at h
  split at h
  · cases h
    exact (readsNamedOnce _).value hread
  · cases h

/-! ## Surrogates -/

/-- The unit is one of a pair for a character beyond the basic plane. -/
def isSurrogate (n : Nat) : Bool :=
  0xD800 ≤ n && n ≤ 0xDFFF

/-- Every surrogate that an escape spells has the other one of its pair next to it. -/
def hasPairedSurrogates : List Char → Bool
  | '\\' :: 'u' :: a :: b :: c :: d :: '\\' :: 'u' :: e :: f :: g :: h :: rest =>
    match readUnit? a b c d, readUnit? e f g h with
    | some high, some low =>
      if 0xD800 ≤ high && high ≤ 0xDBFF && 0xDC00 ≤ low && low ≤ 0xDFFF then
        hasPairedSurrogates rest
      else !isSurrogate high && hasPairedSurrogates ('\\' :: 'u' :: e :: f :: g :: h :: rest)
    | _, _ => false
  | '\\' :: 'u' :: a :: b :: c :: d :: rest =>
    (readUnit? a b c d).any (!isSurrogate ·) && hasPairedSurrogates rest
  | '\\' :: _ :: rest => hasPairedSurrogates rest
  | _ :: rest => hasPairedSurrogates rest
  | [] => true

/-- The text is read as the value, and no character of it was replaced. -/
structure Spells (s : String) (j : Json) : Prop where
  read : Json.read s = .ok j
  paired : hasPairedSurrogates s.toList = true

theorem Spells.parse? {s : String} {j : Json} (h : Spells s j) : parse? s = some j := by
  rw [Json.parse?, h.read]
  rfl

theorem Spells.isNamedOnce {s : String} {j : Json} (h : Spells s j) : j.IsNamedOnce :=
  isNamedOnce_of_read h.read

/-! ## Integers that are refused -/

/-- The digits of a number begin with a zero only if the number is zero. -/
theorem head?_toDigits {n : Nat} (hn : n ≠ 0) : (Nat.toDigits 10 n).head? ≠ some '0' := by
  induction n using Nat.strongRecOn with
  | ind n ih =>
      by_cases hsmall : n < 10
      · rw [Nat.toDigits_of_lt_base hsmall]
        have hdigits : ∀ k < 10, k ≠ 0 → [Nat.digitChar k].head? ≠ some '0' := by decide
        exact hdigits n hsmall hn
      · have hquotient : n / 10 ≠ 0 := by omega
        have hne : Nat.toDigits 10 (n / 10) ≠ [] :=
          List.ne_nil_of_length_pos Nat.length_toDigits_pos
        rw [Nat.toDigits_of_base_le (by decide) (by omega), List.head?_append_of_ne_nil _ hne]
        exact ih (n / 10) (by omega) hquotient

theorem lt_length_toDigits {n k : Nat} (hlong : 10 ^ k ≤ n) :
    k < (Nat.toDigits 10 n).length := by
  have hpos : 0 < (Nat.toDigits 10 n).length := Nat.length_toDigits_pos
  by_contra hfew
  have hlt := (Nat.length_toDigits_le_iff (b := 10) (n := n) (by decide) (by omega)).mp
    (Nat.le_of_not_lt hfew)
  omega

section Digits

variable {d : Char} (hd : d.isDigit = true)

include hd

theorem ne_of_isDigit {c : Char} (hc : c.isDigit = false) : d ≠ c := by
  rintro rfl
  rw [hd] at hc
  cases hc

/-- A digit is none of some characters that are no digits. -/
theorem forall_ne_of_isDigit {cs : List Char} (hcs : cs.any Char.isDigit = false) :
    ∀ c ∈ cs, d ≠ c := fun c hc =>
  ne_of_isDigit hd (Bool.eq_false_iff.mpr (List.any_eq_false.mp hcs c hc))

theorem takeMinus_of_isDigit (cs : List Char) : takeMinus (d :: cs) = (false, d :: cs) := by
  rw [takeMinus]
  rintro rest h
  exact ne_of_isDigit hd (c := '-') (by decide) (List.cons.inj h).1

/-- No word begins with a digit. -/
theorem afterWord?_of_isDigit (cs : List Char) :
    (wordValues.findSome? fun (word, value) => (afterWord? word (d :: cs)).map (value, ·)) =
      none := by
  have hfirst : ∀ c ∈ ['n', 't', 'f', 'N', 'I', '-'], d ≠ c := forall_ne_of_isDigit hd (by decide)
  simp only [List.forall_mem_cons] at hfirst
  obtain ⟨hnull, htrue, hfalse, hnan, hinfinity, hminus, -⟩ := hfirst
  simp [wordValues, afterWord?, hnull.symm, htrue.symm, hfalse.symm, hnan.symm, hinfinity.symm,
    hminus.symm]

/-- What begins with a digit is read as a number. -/
theorem readValue_of_isDigit (fuel : Nat) (cs : List Char) :
    readValue (fuel + 1) (d :: cs) = readNumber (d :: cs) := by
  rw [readValue, afterWord?_of_isDigit hd]
  · rintro rest h
    exact ne_of_isDigit hd (c := '"') (by decide) (List.cons.inj h).1
  · rintro rest h
    exact ne_of_isDigit hd (c := '[') (by decide) (List.cons.inj h).1
  · rintro rest h
    exact ne_of_isDigit hd (c := '\x7b') (by decide) (List.cons.inj h).1

end Digits

theorem skipSpace_of_isDigit {d : Char} (hd : d.isDigit = true) (cs : List Char) :
    skipSpace (d :: cs) = d :: cs := by
  have hspace : isSpace d = false := by
    have hfirst : ∀ c ∈ [' ', '\t', '\n', '\r'], d ≠ c := forall_ne_of_isDigit hd (by decide)
    simp only [List.forall_mem_cons] at hfirst
    obtain ⟨hblank, htab, hline, hreturn, -⟩ := hfirst
    simp [isSpace, hblank, htab, hline, hreturn]
  rw [skipSpace, List.dropWhile_cons_of_neg (by simp [hspace])]

theorem skipSpace_toDigits (n : Nat) (rest : List Char) :
    skipSpace (Nat.toDigits 10 n ++ rest) = Nat.toDigits 10 n ++ rest := by
  have hdigits : ∀ c ∈ Nat.toDigits 10 n, c.isDigit = true :=
    fun c hc => Nat.isDigit_of_mem_toDigits (by decide) (by decide) hc
  cases hds : Nat.toDigits 10 n with
  | nil => exact absurd hds (List.ne_nil_of_length_pos Nat.length_toDigits_pos)
  | cons d ds => exact skipSpace_of_isDigit (hdigits d (hds ▸ List.mem_cons_self)) _

/-- An integer of too many digits is refused where it stands. -/
theorem readValue_of_long {n : Nat} (hlong : 10 ^ Text.maxIntegerDigits ≤ n) (fuel : Nat)
    (rest : List Char) :
    readValue (fuel + 1) (Nat.toDigits 10 n ++ ',' :: rest) = .error .longInteger := by
  have hne : n ≠ 0 := by
    have : 0 < 10 ^ Text.maxIntegerDigits := Nat.pow_pos (by decide)
    omega
  have hdigits : ∀ c ∈ Nat.toDigits 10 n, c.isDigit = true :=
    fun c hc => Nat.isDigit_of_mem_toDigits (by decide) (by decide) hc
  have hlength := lt_length_toDigits hlong
  have hhead := head?_toDigits hne
  cases hds : Nat.toDigits 10 n with
  | nil =>
      rw [hds] at hlength
      exact absurd hlength (Nat.not_lt_zero _)
  | cons d ds =>
      rw [hds] at hdigits hlength hhead
      have hd := hdigits d List.mem_cons_self
      have htake : (d :: ds ++ ',' :: rest).takeWhile Char.isDigit = d :: ds := by
        rw [List.takeWhile_append_of_pos hdigits, List.takeWhile_cons_of_neg (by decide),
          List.append_nil]
      have hdrop : (d :: ds ++ ',' :: rest).drop (d :: ds).length = ',' :: rest :=
        List.drop_left
      rw [List.cons_append] at htake hdrop ⊢
      rw [readValue_of_isDigit hd, readNumber, takeMinus_of_isDigit hd]
      have hfraction : takeFraction (',' :: rest) = ([], ',' :: rest) := by simp [takeFraction]
      have hpower : takeExponent (',' :: rest) = (none, ',' :: rest) := by simp [takeExponent]
      simp only [htake, if_neg hhead, hdrop, hfraction, hpower]
      simpa using hlength

/-- A member whose value is refused makes an object be refused. -/
theorem readMembers_of_error {fuel : Nat} {cs after : List Char} {name : String} {flaw : Flaw}
    (hname : readText cs = .ok (name, ':' :: after))
    (hvalue : readValue fuel (skipSpace after) = .error flaw) (before : JsonObject) :
    readMembers (fuel + 1) ('"' :: cs) before = .error flaw := by
  have hcolon : skipSpace (':' :: after) = ':' :: after := rfl
  simp only [readMembers, hname, bind, Except.bind, hcolon, hvalue]

/-- An object is refused if its members are. -/
theorem readValue_of_error {fuel : Nat} {cs : List Char} {flaw : Flaw}
    (hmembers : readMembers fuel ('"' :: cs) [] = .error flaw) :
    readValue (fuel + 1) ('\x7b' :: '"' :: cs) = .error flaw := by
  have hquote : skipSpace ('"' :: cs) = '"' :: cs := rfl
  rw [readValue, hquote]
  exact congrArg (Except.map _) hmembers

/-- A page whose count has too many digits is not read, although it is a value. -/
theorem read_longCount {n : Nat} (hlong : 10 ^ Text.maxIntegerDigits ≤ n) :
    read (print (object [("count", int n), ("items", array [])])) = .error .longInteger := by
  have hcount : printText "count" = "\"count\"" := by decide +kernel
  have hitems : printText "items" = "\"items\"" := by decide +kernel
  let digits := Nat.toDigits 10 n ++ ", \"items\": []\x7d".toList
  let cs := "count\": ".toList ++ digits
  have hprint : (print (object [("count", int n), ("items", array [])])).toList =
      '\x7b' :: '"' :: cs := by
    simp [print, printMembers, printItems, hcount, hitems, Text.ofInt, cs, digits]
  have hname : readText cs = .ok ("count", ':' :: ' ' :: digits) := by
    simp [readText, readChars?, cs]
  have hspace : skipSpace (' ' :: digits) = digits := skipSpace_toDigits n _
  have hmembers (fuel : Nat) : readMembers (fuel + 2) ('"' :: cs) [] = .error .longInteger :=
    readMembers_of_error hname (by rw [hspace]; exact readValue_of_long hlong fuel _) []
  have hopen : skipSpace ('\x7b' :: '"' :: cs) = '\x7b' :: '"' :: cs := rfl
  have hfuel : 2 * ('\x7b' :: '"' :: cs).length + 2 = 2 * cs.length + 3 + 2 + 1 := by
    simp only [List.length_cons]
    omega
  rw [read, hprint, hopen, hfuel, readValue_of_error (hmembers _)]
  rfl

end PagedTables.Json
