import Mathlib.Tactic.IntervalCases
import PagedTables.Proofs.Number.Scaling
import PagedTables.Proofs.Service.Attempts
import PagedTables.Proofs.Service.Waits
import PagedTables.Proofs.Text.LowerCase

/-!
# Attempts and the waits between them

A request is sent until something else becomes of it than a loss, or as often as its method and the
settings allow. What becomes of it the last time is the result, as it is. Between two attempts there
is one wait, and each wait is the base delay times the next power of two, in the arithmetic of the
type of the delay. For integers that is exact. Doubles have an end, beyond which a wait is infinite,
and decimals are rounded to their working precision.

A wait that the surroundings refuse is the end of the attempts, and what goes wrong with it is the
result. The system can wait for whole numbers and doubles of seconds, but neither for very long nor
for a decimal.
-/
namespace PagedTables

/-! ## Products with powers of two -/

namespace Value

/-- A number times `2 ^ i`, in the arithmetic of its type. -/
inductive IsDoubling (i : ℕ) : Value → Value → Prop
  | whole {v : Value} {m : ℤ} (hv : v.wholeNumber? = some m) : IsDoubling i v (.int (m * 2 ^ i))
  | double {x y : Binary64} {q : ℚ} (hx : x.toRat? = some q) (hsmall : q * 2 ^ i < Binary64.bound)
      (hy : y.toRat? = some (q * 2 ^ i)) : IsDoubling i (.float x) (.float y)
  /-- The product is beyond the doubles. -/
  | beyond {x : Binary64} {q : ℚ} (hx : x.toRat? = some q) (hlarge : Binary64.bound ≤ q * 2 ^ i) :
      IsDoubling i (.float x) (.float (.infinite false))
  | decimal {d p : Decimal} {q rounded : ℚ} (hd : d.toRat? = some q)
      (hrounded : Decimal.IsRounding (q * 2 ^ i) rounded) (hp : p.toRat? = some rounded) :
      IsDoubling i (.decimal d) (.decimal p)
  | infinite : IsDoubling i (.float (.infinite false)) (.float (.infinite false))
  | infiniteDecimal : IsDoubling i (.decimal (.infinite false)) (.decimal (.infinite false))

/--
A number that is not negative, as a delay for a number of attempts: an integer for any number of
them, and a double or a decimal for fewer than a thousand. The products of a decimal have to stay
within the exponents of decimals.
-/
inductive IsDelay (attempts : ℕ) : Value → Prop
  | whole {v : Value} {m : ℤ} (hv : v.wholeNumber? = some m) (hm : 0 ≤ m) : IsDelay attempts v
  | double {x : Binary64} {q : ℚ} (hx : x.toRat? = some q) (hq : 0 ≤ q) (hfew : attempts < 1000) :
      IsDelay attempts (.float x)
  | decimal {d : Decimal} {q : ℚ} (hd : d.toRat? = some q) (hq : 0 ≤ q) (hfew : attempts < 1000)
      (hrange : ∀ i rounded, i + 1 < attempts → Decimal.IsRounding (q * 2 ^ i) rounded →
        |rounded| < 10 ^ (Decimal.maxExponent + 1)) : IsDelay attempts (.decimal d)
  | infinite (hfew : attempts < 1000) : IsDelay attempts (.float (.infinite false))
  | infiniteDecimal (hfew : attempts < 1000) : IsDelay attempts (.decimal (.infinite false))

theorem IsDoubling.eq_int {i : ℕ} {v w : Value} {m : ℤ} (h : IsDoubling i v w)
    (hv : v.wholeNumber? = some m) : w = .int (m * 2 ^ i) := by
  cases h with
  | whole hv' =>
      rw [hv] at hv'
      cases hv'
      rfl
  | _ => cases hv

theorem doubled_float (x : Binary64) {i : ℕ} (hi : i < 1000) :
    (float x).doubled i = .ok (.float (x.scale i)) := by
  have hlimit : i < doublingLimit := by
    rw [doublingLimit]
    omega
  simp [doubled, wholeNumber?, asInt?, hlimit]

theorem doubled_decimal (d : Decimal) (i : ℕ) : (decimal d).doubled i =
    ((d.times (Nat.pow 2 i)).mapError OperationFault.signal).map decimal :=
  rfl

theorem exists_times_of_isRounding {d : Decimal} {q : ℚ} (hd : d.toRat? = some q) (i : ℕ)
    (hrange : ∀ rounded, Decimal.IsRounding (q * 2 ^ i) rounded →
      |rounded| < 10 ^ (Decimal.maxExponent + 1)) :
    ∃ p rounded, d.times (Nat.pow 2 i) = .ok p ∧ Decimal.IsRounding (q * 2 ^ i) rounded ∧
      p.toRat? = some rounded := by
  cases d with
  | infinite negative => cases hd
  | nan negative signaling payload origin => cases hd
  | finite negative c e =>
      obtain rfl := Option.some.inj hd
      obtain ⟨rounded, hrounded, hfits, -⟩ := Decimal.round_spec negative (c * Nat.pow 2 i) e
      have hproduct : signFactor negative * (((c * Nat.pow 2 i : ℕ) : ℚ) * 10 ^ e) =
          signFactor negative * (c * 10 ^ e) * 2 ^ i := by
        have hpower : ((Nat.pow 2 i : ℕ) : ℚ) = 2 ^ i := by exact_mod_cast rfl
        rw [Nat.cast_mul, hpower]
        ring
      rw [hproduct] at hrounded
      obtain ⟨p, hp, hvalue⟩ := hfits (hrange rounded hrounded)
      exact ⟨p, rounded, hp, hrounded, hvalue⟩

/-- A delay has all the products that its attempts may ask for. -/
theorem exists_doubled {v : Value} {attempts : ℕ} (hv : v.IsDelay attempts) {i : ℕ}
    (hi : i + 1 < attempts) : ∃ w, v.doubled i = .ok w ∧ IsDoubling i v w := by
  cases hv with
  | whole hv hm =>
      refine ⟨_, ?_, .whole hv⟩
      simp only [doubled, hv]
      exact congrArg (fun n : ℤ => Except.ok (int (_ * n))) (by exact_mod_cast rfl)
  | double hx hq hfew =>
      refine ⟨_, doubled_float _ (by omega), ?_⟩
      obtain ⟨hexact, hinfinite⟩ := Binary64.scale_spec hx i
      rw [abs_of_nonneg hq] at hexact hinfinite
      rcases lt_or_ge (_ * 2 ^ i) Binary64.bound with hsmall | hlarge
      · exact .double hx hsmall (hexact hsmall)
      · rw [hinfinite hlarge, decide_eq_false (not_lt.mpr hq)]
        exact .beyond hx hlarge
  | decimal hd hq hfew hrange =>
      obtain ⟨p, rounded, hp, hrounded, hvalue⟩ :=
        exists_times_of_isRounding hd i fun rounded => hrange i rounded hi
      refine ⟨.decimal p, ?_, .decimal hd hrounded hvalue⟩
      rw [doubled_decimal, hp]
      rfl
  | infinite hfew => exact ⟨_, doubled_float _ (by omega), .infinite⟩
  | infiniteDecimal hfew => exact ⟨_, rfl, .infiniteDecimal⟩

end Value

/-! ## Attempts one after the other -/

/-- The request again and again, with a wait before each attempt but the first. -/
def Request.attempts (r : Request) (waits : ℕ → Value) (first again : ℕ) : List Event :=
  .request r :: (List.range' first again).flatMap fun i => [.wait (waits i), .request r]

namespace Exchange

variable {e : Exchange} {r : Request}

/-- What becomes of a request that is sent after some others. -/
def outcome (e : Exchange) (r : Request) (before : ℕ) : Sent :=
  ⟨r, e.replies[before]?⟩

/-- The exchange after a request has been sent, and then again for a number of times. -/
def afterAttempts (e : Exchange) (r : Request) (waits : ℕ → Value) (first again : ℕ) : Exchange :=
  { e with
    replies := e.replies.drop (again + 1)
    events := e.events ++ r.attempts waits first again }

theorem send_eq_outcome (e : Exchange) (r : Request) (waits : ℕ → Value) (first : ℕ) :
    e.send r = ((e.outcome r 0).result, e.afterAttempts r waits first 0) := by
  cases hreplies : e.replies with
  | nil => simp [send, record, outcome, afterAttempts, hreplies, Sent.result, Request.attempts]
  | cons reply rest =>
      cases reply <;>
        simp [send, record, outcome, afterAttempts, hreplies, Sent.result, Request.attempts]

/--
What the attempts of a request come to, of which there have been `again` after the first and `left`
were allowed: what becomes of the last one if it is not lost or no other is allowed, and else what
is wrong with the wait that would have been next.
-/
inductive Concludes (e : Exchange) (r : Request) (waits : ℕ → Value) (left again : ℕ) :
    Except Fault Response → Prop
  | settled (hlast : again < left → (e.outcome r again).isLost = false) :
      Concludes e r waits left again (e.outcome r again).result
  | refused {fault : Fault} (hleft : again < left) (hlost : (e.outcome r again).isLost = true)
      (hsleep : e.sleep (waits again) = .error fault) :
      Concludes e r waits left again (.error fault)

/-- Later attempts are answered by the replies that the first one has left. -/
theorem outcome_after_wait (waits : ℕ → Value) (first : ℕ) (time : Value) (before : ℕ) :
    ((e.afterAttempts r waits first 0).record (.wait time)).outcome r before =
      e.outcome r (before + 1) := by
  simp [outcome, record, afterAttempts]

theorem afterAttempts_after_wait (waits : ℕ → Value) (first again : ℕ) :
    ((e.afterAttempts r waits first 0).record (.wait (waits first))).afterAttempts r waits
      (first + 1) again = e.afterAttempts r waits first (again + 1) := by
  simp [afterAttempts, record, Request.attempts, List.range'_succ, Nat.add_comm]

/-- What the attempts after the first one and a wait come to, all of them come to. -/
theorem Concludes.of_after_wait (waits : ℕ → Value) (first : ℕ) (time : Value) {left again : ℕ}
    {result : Except Fault Response}
    (h : ((e.afterAttempts r waits first 0).record (.wait time)).Concludes r
      (fun i => waits (i + 1)) left again result) :
    e.Concludes r waits (left + 1) (again + 1) result := by
  cases h with
  | settled hlast =>
      rw [outcome_after_wait] at hlast ⊢
      exact .settled fun h => hlast (Nat.lt_of_succ_lt_succ h)
  | refused hleft hlost hsleep =>
      rw [outcome_after_wait] at hlost
      exact .refused (Nat.succ_lt_succ hleft) hlost hsleep

end Exchange

namespace Sender

section

variable {s : Sender} {r : Request} {e : Exchange} {waits : ℕ → Value} {first left : ℕ}

/-- Nothing is sent again after anything but a loss. -/
theorem sendWithin_of_outcome (hlost : (e.outcome r 0).isLost = false) :
    s.sendWithin r left first e = ((e.outcome r 0).result, e.afterAttempts r waits first 0) :=
  sendWithin_of_not_lost (e.send_eq_outcome r waits first) hlost left first

/-- Where no attempt is left, a loss is the result. -/
theorem sendWithin_zero (hmethod : ∃ shown, upperMethod r.method = .ok shown) :
    s.sendWithin r 0 first e = ((e.outcome r 0).result, e.afterAttempts r waits first 0) := by
  obtain ⟨shown, hshown⟩ := hmethod
  have hsend := e.send_eq_outcome r waits first
  cases hresult : (e.outcome r 0).result with
  | ok response =>
      rw [hresult] at hsend
      rw [sendWithin, hsend]
  | error fault =>
      rw [hresult] at hsend
      rw [sendWithin, hsend]
      cases fault <;> simp [lastFault, hshown]

/-- After a loss there is a wait and then the next attempt, unless the wait is refused. -/
theorem sendWithin_succ (hlost : (e.outcome r 0).isLost = true)
    (htime : s.baseDelay.doubled first = .ok (waits first)) :
    s.sendWithin r (left + 1) first e =
      match e.sleep (waits first) with
      | .ok _ => s.sendWithin r left (first + 1)
          ((e.afterAttempts r waits first 0).record (.wait (waits first)))
      | .error fault => (.error fault, e.afterAttempts r waits first 0) := by
  have hsend := e.send_eq_outcome r waits first
  cases hreply : (e.outcome r 0).reply with
  | none => simp [Sent.isLost, hreply] at hlost
  | some reply =>
      cases reply with
      | response response => simp [Sent.isLost, hreply] at hlost
      | failure kind message =>
          have hkind : kind.isNetwork = true := by simpa [Sent.isLost, hreply] using hlost
          have hresult : (e.outcome r 0).result = .error (.outside kind message) := by
            simp [Sent.result, hreply]
          have hsame : (e.afterAttempts r waits first 0).sleep = e.sleep := rfl
          rw [hresult] at hsend
          rw [sendWithin, hsend]
          simp only [hkind, htime, Exchange.wait, hsame, Bool.not_true, Bool.false_eq_true,
            if_false]
          cases e.sleep (waits first) <;> rfl

/--
The attempts end with the first that is not lost, with the last that is allowed, or with the first
wait that is refused.
-/
theorem sendWithin_eq (s : Sender) (r : Request) (e : Exchange) (waits : ℕ → Value)
    (first left : ℕ) (hmethod : ∃ shown, upperMethod r.method = .ok shown)
    (hwaits : ∀ i < left, s.baseDelay.doubled (first + i) = .ok (waits (first + i))) :
    ∃ again ≤ left, ∃ result,
      (∀ i < again, (e.outcome r i).isLost = true ∧ e.sleep (waits (first + i)) = .ok ()) ∧
      e.Concludes r (fun i => waits (first + i)) left again result ∧
      s.sendWithin r left first e = (result, e.afterAttempts r waits first again) := by
  induction left generalizing first e with
  | zero =>
      refine ⟨0, le_rfl, _, by simp, .settled (by simp), sendWithin_zero hmethod⟩
  | succ left ih =>
      cases hlost : (e.outcome r 0).isLost with
      | false =>
          exact ⟨0, Nat.zero_le _, _, by simp, .settled fun _ => hlost, sendWithin_of_outcome hlost⟩
      | true =>
          have htime : s.baseDelay.doubled first = .ok (waits first) := hwaits 0 (by omega)
          rw [sendWithin_succ hlost htime]
          cases hsleep : e.sleep (waits first) with
          | error fault =>
              exact ⟨0, Nat.zero_le _, _, by simp, .refused (Nat.succ_pos left) hlost hsleep, rfl⟩
          | ok _ =>
              have hshift (i : ℕ) : first + (i + 1) = first + 1 + i := by omega
              obtain ⟨again, hle, result, hbefore, hconcludes, hsent⟩ :=
                ih ((e.afterAttempts r waits first 0).record (.wait (waits first))) (first + 1)
                  fun i hi => by
                    rw [← hshift]
                    exact hwaits (i + 1) (by omega)
              refine ⟨again + 1, Nat.succ_le_succ hle, result, ?_, ?_, ?_⟩
              · intro i hi
                cases i with
                | zero => exact ⟨hlost, hsleep⟩
                | succ i =>
                    obtain ⟨hlostAgain, hpassed⟩ := hbefore i (by omega)
                    rw [Exchange.outcome_after_wait] at hlostAgain
                    exact ⟨hlostAgain, hshift i ▸ hpassed⟩
              · refine Exchange.Concludes.of_after_wait _ first (waits first) ?_
                have hwaits : (fun i => waits (first + (i + 1))) = fun i => waits (first + 1 + i) :=
                  funext fun i => congrArg waits (hshift i)
                rwa [hwaits]
              · rw [← Exchange.afterAttempts_after_wait]
                exact hsent

end

/-! ## Methods and settings -/

/-- A method that only reads, in whatever case its letters are. -/
def IsReading (name : String) : Prop :=
  ∃ method ∈ readingMethods, name.toList.map Char.toLower = method.toList

instance (name : String) : Decidable (IsReading name) :=
  inferInstanceAs (Decidable (∃ method ∈ readingMethods, _))

/-- How often a request of a method is sent at most, if a limit is set for those that read. -/
def allowance (limit : ℤ) (name : String) : ℕ :=
  if IsReading name then max 1 limit.toNat else 1

theorem contains_lower_iff (name : String) :
    readingMethods.contains (Text.lower name) = true ↔ IsReading name := by
  have hletters :
      (readingMethods.all fun method => method.toList.all Text.isPlainSmall) = true := by
    decide
  have hsmall : ∀ method ∈ readingMethods, ∀ c ∈ method.toList, Text.isPlainSmall c = true := by
    simpa only [List.all_eq_true] using hletters
  rw [List.contains_iff_mem, IsReading]
  constructor
  · intro hmem
    exact ⟨_, hmem, (Text.lower_eq_iff (hsmall _ hmem) name).mp rfl⟩
  · rintro ⟨method, hmem, hspelled⟩
    rwa [(Text.lower_eq_iff (hsmall method hmem) name).mpr hspelled]

/-- The limit that a setting makes, 5 if there is none, counts the attempts of reading requests. -/
theorem attemptLimit_eq_ok {setting : Value} {limit : ℤ}
    (h : setting.unlessNull.elim (some 5) Value.wholeNumber? = some limit) :
    ∃ v n, attemptLimit setting = .ok v ∧ v.asInt? = some n ∧ n.toNat = max 1 limit.toNat := by
  by_cases hnull : setting = .null
  · subst hnull
    cases h
    exact ⟨.int 5, 5, rfl, rfl, rfl⟩
  · have hwhole : setting.wholeNumber? = some limit := by
      cases setting <;> first | exact absurd rfl hnull | exact h
    have horder : setting.ordering 1 = .ok (some (compare limit 1)) := by
      simp only [Value.ordering, hwhole]
    have hlimit : attemptLimit setting =
        .ok (if some (compare limit 1) = some .gt then setting else .int 1) := by
      cases setting <;> first | exact absurd rfl hnull | simp only [attemptLimit, horder]
    by_cases hgreater : 1 < limit
    · rw [if_pos (congrArg some (Int.compare_eq_gt.mpr hgreater))] at hlimit
      refine ⟨setting, limit, hlimit, ?_, by omega⟩
      cases setting with
      | bool b =>
          cases hwhole
          cases b <;> simp at hgreater
      | _ => exact hwhole
    · rw [if_neg fun heq => hgreater (Int.compare_eq_gt.mp (Option.some.inj heq))] at hlimit
      exact ⟨.int 1, 1, hlimit, rfl, by omega⟩

/-- The delay before a request is sent a second time, half a second unless one is set. -/
def delay (backoff : Value) : Value :=
  backoff.unlessNull.getD (.float (.ofRatio false 1 2))

theorem foldMethod_of_asText? {method : Value} {name : String} (h : method.asText? = some name) :
    foldMethod method = .ok (Text.lower name) := by
  simp only [foldMethod, h]

theorem upperMethod_of_asText? {method : Value} {name : String} (h : method.asText? = some name) :
    upperMethod method = .ok (.text (Text.upper name)) := by
  simp only [upperMethod, h]

/-- A sender that is made with a limit sends each request as often as its method is allowed to. -/
theorem request_eq_sendWithin {s : Sender} {n limit : ℤ} (hn : s.attempts.asInt? = some n)
    (hlimit : n.toNat = max 1 limit.toNat) {method : Value} {name : String}
    (hmethod : method.asText? = some name) (url : String) (timeout : Option Value)
    (headers : Option Headers) (e : Exchange) :
    s.request method url timeout headers e =
      s.sendWithin ⟨s.session, method, url,
        timeout.getD (s.timeoutFor (Text.lower name)), headers⟩ (allowance limit name - 1) 0 e := by
  have hallowed : s.attemptsFor (Text.lower name) = .ok (allowance limit name) := by
    rw [attemptsFor, allowance, hn, ← hlimit]
    by_cases hreading : IsReading name
    · rw [if_pos ((contains_lower_iff name).mpr hreading), if_pos hreading]
    · rw [if_neg (mt (contains_lower_iff name).mp hreading), if_neg hreading]
  rw [request, foldMethod_of_asText? hmethod]
  dsimp only
  rw [hallowed]

/--
A request is sent `k` times: until it is not lost, as often as its method is allowed to, or until a
wait is refused. In the first two cases what becomes of it the last time is the result, and in the
last one what is wrong with the wait. Each time the request is the same, and between two attempts
there is one wait, which is the delay times the next power of two. The system refuses a wait exactly
if it is no time.
-/
theorem request_attempts {retries backoff timeout method : Value} {limit : ℤ} {name : String}
    (hretries : retries.unlessNull.elim (some 5) Value.wholeNumber? = some limit)
    (hmethod : method.asText? = some name)
    (hdelay : (delay backoff).IsDelay (allowance limit name)) (session : Option Session)
    (url : String) (given : Option Value) (headers : Option Headers) (e : Exchange) :
    ∃ (s : Sender) (r : Request) (waits : ℕ → Value) (k : ℕ) (result : Except Fault Response),
      make retries backoff timeout session = .ok s ∧
      (r.method = method ∧ r.url = url ∧ r.headers = headers ∧ r.session = session ∧
        ∀ time, given = some time → r.timeout = time) ∧
      (1 ≤ k ∧ k ≤ allowance limit name ∧
        ∀ i, i + 1 < k → (e.outcome r i).isLost = true ∧ e.sleep (waits i) = .ok ()) ∧
      e.Concludes r waits (allowance limit name - 1) (k - 1) result ∧
      (∀ i, i + 1 < allowance limit name → (delay backoff).IsDoubling i (waits i)) ∧
      (e.sleep = systemSleep → ∀ i, e.sleep (waits i) = .ok () ↔ (waits i).IsTime) ∧
      s.request method url given headers e =
        (result,
          { e with
            replies := e.replies.drop k
            events := e.events ++ .request r ::
              (List.range (k - 1)).flatMap fun i => [.wait (waits i), .request r] }) := by
  obtain ⟨attempts, n, hattempts, hn, hlimit⟩ := attemptLimit_eq_ok hretries
  have hmake : make retries backoff timeout session =
      .ok ⟨attempts, delay backoff, timeout, session⟩ := by
    rw [make, hattempts]
    rfl
  let s : Sender := ⟨attempts, delay backoff, timeout, session⟩
  let r : Request := ⟨session, method, url, given.getD (s.timeoutFor (Text.lower name)), headers⟩
  have hpos : 1 ≤ allowance limit name := by
    rw [allowance]
    split <;> omega
  have hproduct : ∀ i, ∃ w, i + 1 < allowance limit name →
      (delay backoff).doubled i = .ok w ∧ (delay backoff).IsDoubling i w := by
    intro i
    by_cases hi : i + 1 < allowance limit name
    · obtain ⟨w, hw⟩ := Value.exists_doubled hdelay hi
      exact ⟨w, fun _ => hw⟩
    · exact ⟨.null, fun h => absurd h hi⟩
  choose waits hwaits using hproduct
  obtain ⟨again, hle, result, hbefore, hconcludes, hsent⟩ :=
    s.sendWithin_eq r e waits 0 (allowance limit name - 1)
      ⟨_, upperMethod_of_asText? hmethod⟩ fun i hi => by
        rw [Nat.zero_add]
        exact (hwaits i (by omega)).1
  simp only [Nat.zero_add] at hbefore hconcludes
  refine ⟨s, r, waits, again + 1, result, hmake, ⟨rfl, rfl, rfl, rfl, ?_⟩,
    ⟨by omega, by omega, ?_⟩, hconcludes, ?_, ?_, ?_⟩
  · rintro time rfl
    rfl
  · exact fun i hi => hbefore i (by omega)
  · exact fun i hi => (hwaits i hi).2
  · intro hsystem i
    rw [hsystem]
    exact Value.systemSleep_eq_ok_iff _
  · rw [request_eq_sendWithin hn hlimit hmethod, hsent, List.range_eq_range']
    rfl

/-- A service that cannot be reached at first. -/
def unreachable : Exchange :=
  .start [.failure .timeout "slow", .failure .connection "down", .response ⟨503, [], ""⟩] []
    (.int 1000) systemSleep

theorem request_attempts_unreachable :
    ∃ (s : Sender) (r : Request) (e : Exchange),
      make (.int 3) (.int 2) .null none = .ok s ∧ r.method = .text "GeT" ∧
      s.request (.text "GeT") "https://ds.example.com" none none unreachable =
        (.ok ⟨503, [], ""⟩, e) ∧
      e.events = [.request r, .wait (.int 2), .request r, .wait (.int 4), .request r] := by
  have hallowed : allowance 3 "GeT" = 3 := by decide
  have hretries : (Value.int 3).unlessNull.elim (some 5) Value.wholeNumber? = some 3 := rfl
  have hmethod : (Value.text "GeT").asText? = some "GeT" := rfl
  have hdelay : (delay (.int 2)).IsDelay (allowance 3 "GeT") := .whole (m := 2) rfl (by decide)
  obtain ⟨s, r, waits, k, result, hmake, hr, ⟨hone, hle, hbefore⟩, hconcludes, hwaits, hsystem,
      hsent⟩ :=
    @request_attempts (.int 3) (.int 2) .null (.text "GeT") 3 "GeT" hretries hmethod hdelay
      none "https://ds.example.com" none none unreachable
  rw [hallowed] at hle hconcludes hwaits
  have hfirst : waits 0 = .int 2 := (hwaits 0 (by decide)).eq_int rfl
  have hsecond : waits 1 = .int 4 := (hwaits 1 (by decide)).eq_int rfl
  have hpassed : ∀ i < 2, unreachable.sleep (waits i) = .ok () := by
    intro i hi
    refine (hsystem rfl i).mpr ?_
    interval_cases i
    · rw [hfirst]
      exact .whole (n := 2) rfl (by decide) (by decide)
    · rw [hsecond]
      exact .whole (n := 4) rfl (by decide) (by decide)
  obtain ⟨rfl, rfl⟩ : k = 3 ∧ result = .ok ⟨503, [], ""⟩ := by
    cases hconcludes with
    | refused hleft hlost hsleep => cases (hpassed _ hleft).symm.trans hsleep
    | settled hlast =>
        have hlost : (unreachable.outcome r 0).isLost = true := rfl
        have hlostAgain : (unreachable.outcome r 1).isLost = true := rfl
        interval_cases k
        · cases hlost.symm.trans (hlast (by decide))
        · cases hlostAgain.symm.trans (hlast (by decide))
        · exact ⟨rfl, rfl⟩
  refine ⟨s, r, _, hmake, hr.1, hsent, ?_⟩
  simp [unreachable, Exchange.start, List.range_succ, hfirst, hsecond]

/-- The greatest power of two among the doubles. -/
def greatestPower : Binary64 :=
  .finite false ⟨2046 * Nat.pow 2 52, by decide⟩

theorem toRat?_greatestPower : (Value.float greatestPower).toRat? = some (2 ^ 1023) := by
  have hrank : 2046 * Nat.pow 2 52 = 2045 * Nat.pow 2 52 + Nat.pow 2 52 := rfl
  obtain ⟨hsignificand, hexponent⟩ :=
    Binary64.significand_place (a := 2045) (m := Nat.pow 2 52) (by decide) (.inr le_rfl)
  have hpower : ((Nat.pow 2 52 : ℕ) : ℚ) * 2 ^ (((2045 : ℕ) : ℤ) - 1074) = 2 ^ 1023 := by
    calc
      ((Nat.pow 2 52 : ℕ) : ℚ) * 2 ^ (((2045 : ℕ) : ℤ) - 1074) =
          2 ^ (52 : ℤ) * 2 ^ (971 : ℤ) := by norm_num
      _ = 2 ^ (1023 : ℤ) := (zpow_add₀ two_ne_zero 52 971).symm
      _ = 2 ^ 1023 := zpow_natCast 2 1023
  rw [greatestPower, Value.toRat?, Binary64.toRat?]
  dsimp only
  rw [hrank, hsignificand, hexponent, hpower, signFactor, if_neg (by decide), one_mul]

/-- The greatest power of two has no double that is a number. -/
theorem scale_greatestPower :
    greatestPower.scale 0 = greatestPower ∧ greatestPower.scale 1 = .infinite false := by
  decide +kernel

/-- The nanoseconds of so many seconds are no double that is a number either. -/
theorem systemSleep_greatestPower : systemSleep (.float greatestPower) = .error .overflow := by
  have hendless : (greatestPower.times nanosecondsPerSecond).truncate? = none := by decide +kernel
  simp only [systemSleep, Value.wholeNumber?, Value.asInt?, hendless]
  rfl

/-- A service that is not reached in three attempts. -/
def lost (sleep : Value → Except Fault Unit) : Exchange :=
  .start (.replicate 3 (.failure .timeout "slow")) [] (.int 1000) sleep

/--
The system refuses to wait as long as the greatest power of two, so that the request is not sent
again. Where every wait passes it is, but twice that time is a number, and the second wait has no
end.
-/
theorem request_greatestPower :
    ∃ (s : Sender) (r : Request) (e e' : Exchange),
      make (.int 3) (.float greatestPower) .null none = .ok s ∧
      s.request (.text "get") "https://ds.example.com" none none (lost systemSleep) =
        (.error .overflow, e) ∧
      e.events = [.request r] ∧
      s.request (.text "get") "https://ds.example.com" none none (lost fun _ => .ok ()) =
        (.error (.outside .timeout "slow"), e') ∧
      e'.events = [.request r, .wait (.float greatestPower), .request r,
        .wait (.float (.infinite false)), .request r] ∧
      (Value.float greatestPower).toRat? = some (2 ^ 1023) ∧
      (Value.float (.infinite false)).toRat? ≠ some (2 ^ 1023 * 2) := by
  let s : Sender := ⟨.int 3, .float greatestPower, .null, none⟩
  let r : Request := ⟨none, .text "get", "https://ds.example.com", .int 10, none⟩
  obtain ⟨honce, htwice⟩ := scale_greatestPower
  have hrequest (sleep : Value → Except Fault Unit) :
      s.request (.text "get") "https://ds.example.com" none none (lost sleep) =
        s.sendWithin r 2 0 (lost sleep) := rfl
  have hlost (sleep : Value → Except Fault Unit) (i : ℕ) (hi : i < 3) :
      ((lost sleep).outcome r i).isLost = true := by
    interval_cases i <;> rfl
  let waits : ℕ → Value := fun i => .float (greatestPower.scale i)
  have htimes (i : ℕ) (hi : i < 2) : s.baseDelay.doubled (0 + i) = .ok (waits (0 + i)) :=
    Value.doubled_float greatestPower (by omega)
  have hsleep : (lost systemSleep).sleep (waits 0) = .error .overflow := by
    have hfirst : waits 0 = .float greatestPower := congrArg Value.float honce
    have hsystem : (lost systemSleep).sleep = systemSleep := rfl
    rw [hfirst, hsystem, systemSleep_greatestPower]
  refine ⟨s, r, (lost systemSleep).afterAttempts r waits 0 0,
    (lost fun _ => .ok ()).afterAttempts r waits 0 2, rfl, ?_, rfl, ?_, ?_, toRat?_greatestPower,
    fun hendless => ?_⟩
  · rw [hrequest, @sendWithin_succ s r (lost systemSleep) waits 0 1
      (hlost systemSleep 0 (by decide)) (htimes 0 (by decide)), hsleep]
  · obtain ⟨again, hle, result, hbefore, hconcludes, hsent⟩ :=
      s.sendWithin_eq r (lost fun _ => .ok ()) waits 0 2 ⟨_, rfl⟩ htimes
    cases hconcludes with
    | refused hleft hlostLast hsleep => cases hsleep
    | settled hlast =>
        obtain rfl : again = 2 := by
          by_contra hne
          have hless : again < 2 := by omega
          cases (hlost _ again (by omega)).symm.trans (hlast hless)
        exact hsent
  · simp [lost, waits, Exchange.start, Exchange.afterAttempts, Request.attempts, List.range'_succ,
      honce, htwice]
  · cases hendless

end Sender

end PagedTables
