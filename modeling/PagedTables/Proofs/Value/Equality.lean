import PagedTables.Expr.Equivalence
import PagedTables.Filter.Basic
import PagedTables.Proofs.Time.Calendar

/-!
# Equal constants

Values of one type that are equal need not be the same value. Points in time are equal at different
offsets, containers are equal when their elements are, a double equals its negative if it is zero,
decimals keep zeros at their end, and times of day are compared by their readings in UTC.

What equality leaves out is told by a vocabulary: how a name and a limit are written, which member
of an enumeration holds a value, and which one of two readings of a zone's clocks is meant. The main
result says what equality then comes to for filters, doubles, decimals and times with an offset
aside. Equal values of one type have the same literal, the same opposite and the same text.
-/
namespace PagedTables

/--
What a program writes its queries with. Members of one enumeration are the same if they are the same
number or text, and no enumeration is named like a type that its members could be taken for.
-/
structure Vocabulary where
  /-- The members of enumerations that there are. -/
  Declares : Member → Prop
  unique : ∀ m n, Declares m → Declares n → m.typeName = n.typeName → m.content = n.content →
    (∀ display, m.content ≠ .shown display) → m = n
  apart : ∀ m, Declares m → m.typeName.text ∉ ["bool", "int", "str"]
  /-- The offset of a reading in a named zone. -/
  offset : String → Date → Clock → Duration
  /-- What is written for a function. -/
  functionText : String → String
  /-- What is written for a parameter. -/
  parameterText : String → String
  /-- What is written for a limit, unless it has too many digits. -/
  limitText : Nat → Option String

/--
The value is no double, no decimal and no time with an offset, it can be made, and it is a part of
the vocabulary. A container can be shown.
-/
def Vocabulary.Settles (voc : Vocabulary) : Value → Prop
  | .float _ => False
  | .decimal _ => False
  | .time t => t.offset = none
  | .datetime t => t.Valid ∧ ∀ key early late, t.zone = some (.named key early late) →
      t.offset = some (voc.offset key t.date t.clock)
  | .member m => voc.Declares m
  | .list xs => (Value.list xs).isShowable = true
  | .tuple xs => (Value.tuple xs).isShowable = true
  | .dict entries => (Value.dict entries).isShowable = true
  | _ => True

/-- All that filters know of the values is the same, but for how points in time are shown. -/
structure Value.Interchangeable (v w : Value) : Prop where
  literal : v.literal = w.literal ∨
    ∃ x y, v.literal = .error (.noOffset x) ∧ w.literal = .error (.noOffset y)
  negated? : v.negated? = w.negated?
  asText? : v.asText? = w.asText?
  isShowable : v.isShowable = w.isShowable

theorem Comparison.andThen_eq_true {first second : Comparison} :
    first.andThen second = .ok true ↔ first = .ok true ∧ second = .ok true := by
  rcases first with signal | _ | _
  · simp [andThen]
  · simp [andThen]
  · simp [andThen]

/-! ## Integers by their numbers -/

namespace NumberKey

/-- Zeros at the end of a coefficient count in the power. -/
theorem reduce_eq (coefficient : Nat) (power : Int) :
    ∃ zeros : Nat, (reduce coefficient power).2 = power + zeros ∧
      (reduce coefficient power).1 * Nat.pow 10 zeros = coefficient := by
  induction coefficient, power using reduce.induct with
  | case1 c p hzero ih =>
      rw [reduce, if_pos hzero]
      obtain ⟨zeros, hpower, hproduct⟩ := ih
      refine ⟨zeros + 1, by omega, ?_⟩
      calc
        (reduce (c / 10) (p + 1)).1 * (Nat.pow 10 zeros * 10) = c / 10 * 10 := by
          rw [← Nat.mul_assoc, hproduct]
        _ = c := Nat.div_mul_cancel (Nat.dvd_of_mod_eq_zero hzero.2)
  | case2 c p hlast =>
      rw [reduce, if_neg hlast]
      exact ⟨0, by simp, by simp⟩

theorem eq_of_reduce_eq {c d : Nat} (h : reduce c 0 = reduce d 0) : c = d := by
  obtain ⟨zeros, hpower, hproduct⟩ := reduce_eq c 0
  obtain ⟨zeros', hpower', hproduct'⟩ := reduce_eq d 0
  have hzeros : zeros = zeros' := by
    rw [h, hpower'] at hpower
    omega
  rw [← hproduct, ← hproduct', h, hzeros]

theorem ofDecimal_of_ne_zero (negative : Bool) {c : Nat} (hc : c ≠ 0) :
    ∃ d power, ofDecimal negative c 0 = finite negative d power ∧ d ≠ 0 ∧
      reduce c 0 = (d, power) := by
  refine ⟨(reduce c 0).1, (reduce c 0).2, ?_, ?_, rfl⟩
  · rw [ofDecimal, if_neg hc]
  · intro hzero
    obtain ⟨zeros, -, hproduct⟩ := reduce_eq c 0
    rw [hzero, Nat.zero_mul] at hproduct
    exact hc hproduct.symm

theorem ofDecimal_zero (negative : Bool) : ofDecimal negative 0 0 = finite false 0 0 :=
  if_pos rfl

theorem ofInt_injective {n m : Int} (h : ofInt n = ofInt m) : n = m := by
  rw [ofInt, ofInt] at h
  by_cases hn : n.natAbs = 0
  · by_cases hm : m.natAbs = 0
    · omega
    · obtain ⟨d, power, hd, hne, -⟩ := ofDecimal_of_ne_zero (m < 0) hm
      rw [hn, ofDecimal_zero, hd] at h
      exact absurd (finite.inj h).2.1.symm hne
  · obtain ⟨d, power, hd, hne, hreduce⟩ := ofDecimal_of_ne_zero (n < 0) hn
    by_cases hm : m.natAbs = 0
    · rw [hm, ofDecimal_zero, hd] at h
      exact absurd (finite.inj h).2.1 hne
    · obtain ⟨d', power', hd', -, hreduce'⟩ := ofDecimal_of_ne_zero (m < 0) hm
      rw [hd, hd'] at h
      obtain ⟨hsign, rfl, rfl⟩ := finite.inj h
      have hnatAbs : n.natAbs = m.natAbs := eq_of_reduce_eq (hreduce.trans hreduce'.symm)
      rw [decide_eq_decide] at hsign
      omega

end NumberKey

/-! ## Values by their kinds -/

namespace Value

variable {voc : Vocabulary} {v w : Value}

theorem Interchangeable.refl (v : Value) : v.Interchangeable v :=
  ⟨Or.inl rfl, rfl, rfl, rfl⟩

/-- What a number that is whole, a text or a member of an enumeration holds. -/
def content? : Value → Option MemberContent
  | bool b => some (.number (if b then 1 else 0))
  | int n => some (.number n)
  | text s => some (.text s)
  | member m => some m.content
  | _ => none

theorem content?_of_numberKey? {key? : Option NumberKey}
    (hv : voc.Settles v) (h : v.numberKey? = some key?) :
    ∃ n, v.content? = some (.number n) ∧ key? = some (.ofInt n) := by
  cases v with
  | bool b =>
      cases h
      exact ⟨_, rfl, rfl⟩
  | int n =>
      cases h
      exact ⟨n, rfl, rfl⟩
  | member m =>
      rcases m with ⟨typeName, names, content, style, hnamed⟩
      cases content with
      | number n =>
          cases h
          exact ⟨n, rfl, rfl⟩
      | shown display => cases h
      | text s => cases h
  | float x => exact absurd hv id
  | decimal d => exact absurd hv id
  | _ => cases h

theorem content?_of_asText? {s : String} (h : v.asText? = some s) :
    v.content? = some (.text s) := by
  cases v with
  | text s' =>
      cases h
      rfl
  | member m =>
      rcases m with ⟨typeName, names, content, style, hnamed⟩
      cases content with
      | text s' =>
          cases h
          rfl
      | shown display => cases h
      | number n => cases h
  | _ => cases h

/-- A member is never taken for a value of another type. -/
theorem not_declares_of_typeName {m : Member} (htype : v.typeName = m.typeName.text)
    (hv : v.typeName ∈ ["bool", "int", "str"]) : ¬ voc.Declares m := by
  intro hm
  exact voc.apart m hm (htype ▸ hv)

/-- Values of one type that hold the same number or text are the same. -/
theorem eq_of_content? {content : MemberContent} (hplain : ∀ display, content ≠ .shown display)
    (hv : voc.Settles v) (hw : voc.Settles w)
    (htype : v.typeName = w.typeName) (hcontent : v.content? = some content)
    (hcontent' : w.content? = some content) : v = w := by
  -- Types other than enumerations are known by their names, and no enumeration has one of these.
  cases v with
  | bool b =>
      cases w with
      | bool b' =>
          cases hcontent
          cases b <;> cases b' <;> first | rfl | cases hcontent'
      | member m => exact absurd hw (not_declares_of_typeName htype (by simp [typeName]))
      | _ => simp [typeName] at htype
  | int n =>
      cases w with
      | int m =>
          cases hcontent
          cases hcontent'
          rfl
      | member m => exact absurd hw (not_declares_of_typeName htype (by simp [typeName]))
      | _ => simp [typeName] at htype
  | text s =>
      cases w with
      | text t =>
          cases hcontent
          cases hcontent'
          rfl
      | member m => exact absurd hw (not_declares_of_typeName htype (by simp [typeName]))
      | _ => simp [typeName] at htype
  | member m =>
      cases w with
      | member m' =>
          cases hcontent
          have hsame : m.content = m'.content := (Option.some.inj hcontent').symm
          rw [voc.unique m m' hv hw (Identifier.text_injective htype) hsame hplain]
      | bool b => exact absurd hv (not_declares_of_typeName htype.symm (by simp [typeName]))
      | int n => exact absurd hv (not_declares_of_typeName htype.symm (by simp [typeName]))
      | text s => exact absurd hv (not_declares_of_typeName htype.symm (by simp [typeName]))
      | _ => cases hcontent'
  | _ => cases hcontent

/-! ## Equal values -/

theorem interchangeable_of_same_time {s t : TimeOfDay} (hs : s.offset = none)
    (ht : t.offset = none) (h : s.same t = true) : (time s).Interchangeable (time t) := by
  rw [TimeOfDay.same, hs, ht] at h
  have heq : s = t := by
    cases s
    cases t
    simp_all
  rw [heq]
  exact .refl _

/-- The literal of a point in time is that of its reading in UTC. -/
theorem literal_datetime_of_offset {t : DateTime} {offset : Duration}
    (hoffset : t.offset = some offset) :
    (datetime t).literal = match t.utc? offset with
      | some (day, reading) => .ok (.instant day reading)
      | none => .error .beyondCalendar := by
  cases hutc : t.utc? offset with
  | none => simp [literal, hoffset, hutc]
  | some found => simp [literal, hoffset, hutc]

theorem interchangeable_of_same_datetime {s t : DateTime} (hs : voc.Settles (datetime s))
    (ht : voc.Settles (datetime t)) (h : s.same t = true) :
    (datetime s).Interchangeable (datetime t) := by
  refine ⟨?_, rfl, rfl, rfl⟩
  obtain ⟨hvalid, hnamed⟩ := hs
  obtain ⟨hvalid', hnamed'⟩ := ht
  have hsettled {x y : Duration} (hx : s.offset = some x) (hy : t.offset = some y)
      (hutc : s.utc? x = t.utc? y) : (datetime s).literal = (datetime t).literal := by
    rw [literal_datetime_of_offset hx, literal_datetime_of_offset hy, hutc]
  unfold DateTime.same at h
  split at h
  · next hx hy =>
      refine Or.inr ⟨s.display, t.display, ?_, ?_⟩
      · rw [literal, DateTime.offset, hx]
        rfl
      · rw [literal, DateTime.offset, hy]
        rfl
  · next x y hx hy =>
      refine Or.inl ?_
      split at h
      · next hplace =>
          -- Both zones are named alike, so that the vocabulary has the same offset for both.
          rw [Bool.and_eq_true, beq_iff_eq, beq_iff_eq] at h
          cases x with
          | fixed offset => cases hplace
          | named key early late =>
              cases y with
              | fixed offset => cases hplace
              | named key' early' late' =>
                  have hkey : key = key' := of_decide_eq_true hplace
                  have hoffset := hnamed key early late hx
                  have hoffset' := hnamed' key' early' late' hy
                  rw [hkey, h.1, h.2] at hoffset
                  refine hsettled hoffset hoffset' ?_
                  rw [DateTime.utc?, DateTime.utc?, h.1, h.2]
      · rw [Bool.and_eq_true, beq_iff_eq] at h
        have hoffset : s.offset = some (x.offset s.isLate) := by rw [DateTime.offset, hx]; rfl
        have hoffset' : t.offset = some (y.offset t.isLate) := by rw [DateTime.offset, hy]; rfl
        exact hsettled hoffset hoffset'
          (DateTime.utc?_eq_of_instant_eq hvalid hvalid' hoffset hoffset' h.2)
  · cases h

theorem interchangeable_of_sameAtom (hv : voc.Settles v) (hw : voc.Settles w)
    (htype : v.typeName = w.typeName) (h : sameAtom v w = true) : v.Interchangeable w := by
  unfold sameAtom at h
  split at h
  · next s t hs ht =>
      cases beq_iff_eq.mp h
      rw [eq_of_content? (by nofun) hv hw htype (content?_of_asText? hs) (content?_of_asText? ht)]
      exact .refl w
  · cases h
  · cases h
  · split at h
    · exact .refl _
    · rw [beq_iff_eq.mp h]
      exact .refl _
    · exact interchangeable_of_same_datetime hv hw h
    · rw [beq_iff_eq.mp h]
      exact .refl _
    · exact interchangeable_of_same_time hv hw h
    · rw [beq_iff_eq.mp h]
      exact .refl _
    · rw [beq_iff_eq.mp h]
      exact .refl _
    · rw [beq_iff_eq.mp h]
      exact .refl _
    · cases h

theorem isSameNaN_of_settles (hv : voc.Settles v) (w : Value) : v.isSameNaN w = false := by
  cases v with
  | float x => exact absurd hv id
  | decimal d => exact absurd hv id
  | _ => rfl

theorem isSignaling_of_settles (hv : voc.Settles v) : v.isSignaling = false := by
  cases v with
  | decimal d => exact absurd hv id
  | _ => rfl

theorem interchangeable_of_equalAtoms (hv : voc.Settles v) (hw : voc.Settles w)
    (htype : v.typeName = w.typeName) (h : equalAtoms v w = .ok true) : v.Interchangeable w := by
  simp only [equalAtoms, isSameNaN_of_settles hv, isSignaling_of_settles hv,
    isSignaling_of_settles hw, Bool.or_self, Bool.false_eq_true, if_false] at h
  split at h
  · next x y hx hy =>
      obtain ⟨n, hcontent, rfl⟩ := content?_of_numberKey? hv hx
      obtain ⟨m, hcontent', rfl⟩ := content?_of_numberKey? hw hy
      have hkeys : NumberKey.ofInt n = NumberKey.ofInt m := by simpa using h
      rw [NumberKey.ofInt_injective hkeys] at hcontent
      rw [eq_of_content? (by nofun) hv hw htype hcontent hcontent']
      exact .refl w
  · cases h
  · cases h
  · exact interchangeable_of_sameAtom hv hw htype (Except.ok.inj h)

/-- Equal values of one type are interchangeable. -/
theorem interchangeable_of_identical (hv : voc.Settles v) (hw : voc.Settles w)
    (h : v.identical w = .ok true) : v.Interchangeable w := by
  obtain ⟨htypes, hequal⟩ := Comparison.andThen_eq_true.mp h
  have htype : v.typeName = w.typeName := beq_iff_eq.mp (Except.ok.inj htypes)
  cases v with
  | list xs =>
      cases w with
      | list ys => exact ⟨Or.inl rfl, rfl, rfl, hv.trans hw.symm⟩
      | _ => cases hequal
  | tuple xs =>
      cases w with
      | tuple ys => exact ⟨Or.inl rfl, rfl, rfl, hv.trans hw.symm⟩
      | _ => cases hequal
  | dict xs =>
      cases w with
      | dict ys => exact ⟨Or.inl rfl, rfl, rfl, hv.trans hw.symm⟩
      | _ => cases hequal
  | _ => exact interchangeable_of_equalAtoms hv hw htype hequal

end Value

end PagedTables
