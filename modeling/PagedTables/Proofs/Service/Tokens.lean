import PagedTables.Proofs.Result
import PagedTables.Proofs.Value.Order
import PagedTables.Service.Token

/-!
# Tokens over time

A run of calls for tokens, for any texts as scopes and at any readings of the clock, forwards or
backwards. Each call is noted with the scopes that the credential was asked for and with its result,
and what is kept is tied to these notes: for every scope it is the token that the credential last
gave for it. A call that fails gives none, so that it leaves everything as it was.
-/
namespace PagedTables

/-- A call for a token of a scope, which is a text that is not empty, at a moment. -/
structure TokenCall where
  scope : Value
  name : String
  now : Value
  moment : ℚ
  isNamed : scope.asText? = some name
  filled : name ≠ ""
  isMoment : now.toRat? = some moment

/-- A call that was made, what the credential was asked for, and the result. -/
structure Acquisition where
  call : TokenCall
  asked : List Value
  result : Except Fault Token

def scopesAsked (events : List Event) : List Value :=
  events.filterMap fun
    | .askToken scope => some scope
    | _ => none

/-- What comes of the answer of a credential. -/
def TokenReply.outcome (scope : Value) : TokenReply → Except Fault Token
  | token text expiry => (Token.expiryOf expiry).map fun n => ⟨scope, text, n⟩
  | failure kind message => .error (.outside kind message)

/-- What comes of the next answer of the credential. -/
def Exchange.nextToken (e : Exchange) (scope : Value) : Except Fault Token :=
  (e.tokenReplies.head?.map (TokenReply.outcome scope)).getD (.error .noAnswer)

namespace TokenCall

/-- Makes a call. -/
def perform (call : TokenCall) (e : Exchange) : Acquisition × Exchange :=
  let answer := ({ e with now := call.now } : Exchange).acquireToken call.scope
  (⟨call, scopesAsked (answer.2.events.drop e.events.length), answer.1⟩, answer.2)

def performAll (e : Exchange) : List TokenCall → List Acquisition × Exchange
  | [] => ([], e)
  | call :: rest =>
    ((call.perform e).1 :: (performAll (call.perform e).2 rest).1,
      (performAll (call.perform e).2 rest).2)

end TokenCall

/-- The token that the credential gave for a scope, if it was asked and gave one. -/
def Acquisition.obtained? (a : Acquisition) (name : String) : Option Token :=
  if a.call.name = name ∧ a.asked ≠ [] then a.result.toOption else none

/-- The token that the credential last gave for a scope. -/
def lastObtained (history : List Acquisition) (name : String) : Option Token :=
  (history.filterMap fun a => a.obtained? name).getLast?

theorem lastObtained_concat (history : List Acquisition) (a : Acquisition) (name : String) :
    lastObtained (history ++ [a]) name = (a.obtained? name).or (lastObtained history name) := by
  rw [lastObtained, List.filterMap_append, List.getLast?_append, lastObtained]
  cases hobtained : a.obtained? name with
  | none => simp [hobtained]
  | some t => simp [hobtained]

/-! ## One call -/

/-- An expiry that is missing counts as 0, and an integer as itself. -/
theorem Token.expiryOf_eq {v : Value} {n : Int} (h : v = .null ∧ n = 0 ∨ v = .int n) :
    expiryOf v = .ok n := by
  rcases h with ⟨rfl, rfl⟩ | rfl
  · rfl
  · rw [expiryOf]
    split
    · rfl
    · next hzero =>
        have hn : n = 0 := by simpa [Value.isTruthy] using hzero
        rw [hn]

theorem Token.isFresh_eq (t : Token) {now : Value} {moment : ℚ} (h : now.toRat? = some moment) :
    t.isFresh now = .ok (decide (moment < (t.expiry : ℚ) - 300)) := by
  have hlimit : ((t.expiry - margin : Int) : ℚ) = (t.expiry : ℚ) - 300 := by
    rw [Int.cast_sub]
    rfl
  rw [isFresh, Value.ordering_eq_compare h, hlimit]
  by_cases hlt : moment < (t.expiry : ℚ) - 300
  · simp [hlt, compare_lt_iff_lt.mpr hlt]
  · have hne : compare moment ((t.expiry : ℚ) - 300) ≠ .lt := by
      rwa [Ne, compare_lt_iff_lt]
    simp [hlt, hne]

namespace Value

/-- Keys that are texts are the same if they are the same text. -/
theorem sameKey_of_asText? {v w : Value} {s t : String} (hv : v.asText? = some s)
    (hw : w.asText? = some t) : v.sameKey w = (s == t) := by
  have htext {u : Value} {r : String} (hu : u.asText? = some r) :
      u.numberKey? = none ∧ (∀ b, u.isSameNaN b = false) ∧ ∀ us, u ≠ .tuple us := by
    cases u with
    | text r => exact ⟨rfl, fun b => rfl, by simp⟩
    | member m =>
        obtain ⟨typeName, name, content⟩ := m
        cases content with
        | text r => exact ⟨rfl, fun b => rfl, by simp⟩
        | _ => cases hu
    | _ => cases hu
  obtain ⟨hvNumber, hvNaN, hvTuple⟩ := htext hv
  obtain ⟨hwNumber, -, -⟩ := htext hw
  rw [sameKey]
  · simp [equalAtoms, hvNaN, hvNumber, hwNumber, sameAtom, hv, hw]
  · exact hvTuple

theorem isKey_of_asText? {v : Value} {s : String} (h : v.asText? = some s) : v.isKey = true := by
  cases v with
  | text s => rfl
  | member m => rfl
  | _ => cases h

theorem isTruthy_of_asText? {v : Value} {s : String} (h : v.asText? = some s) (hs : s ≠ "") :
    v.isTruthy = true := by
  cases v with
  | text s' =>
      cases h
      simp [isTruthy, hs]
  | member m =>
      obtain ⟨typeName, name, content⟩ := m
      cases content with
      | text s' =>
          cases h
          simp [isTruthy, hs]
      | _ => cases h
  | _ => cases h

end Value

/-- Asking for a token uses up an answer of the credential, and keeps the token if it gave one. -/
theorem Exchange.renewToken_eq (e : Exchange) (scope : Value) :
    e.renewToken scope = (e.nextToken scope, { e with
      events := e.events ++ [.askToken scope]
      tokenReplies := e.tokenReplies.tail
      tokens := (e.nextToken scope).toOption.toList ++ e.tokens }) := by
  obtain ⟨replies, tokenReplies, now, tokens, sessions, events, sleep⟩ := e
  rcases tokenReplies with _ | ⟨⟨text, expiry⟩ | ⟨kind, message⟩, rest⟩
  · rfl
  · cases hexpiry : Token.expiryOf expiry with
    | error fault =>
        simp [renewToken, askToken, record, nextToken, TokenReply.outcome, hexpiry, Except.map,
          Except.toOption]
    | ok n =>
        simp [renewToken, askToken, record, nextToken, TokenReply.outcome, hexpiry, Except.map,
          Except.toOption]
  · rfl

theorem Exchange.scope_of_nextToken {e : Exchange} {scope : Value} {t : Token}
    (h : e.nextToken scope = .ok t) : t.scope = scope := by
  rw [nextToken] at h
  cases hreply : e.tokenReplies.head? with
  | none =>
      rw [hreply] at h
      cases h
  | some reply =>
      rw [hreply] at h
      cases reply with
      | token text expiry =>
          obtain ⟨n, -, rfl⟩ := map_eq_ok.mp h
          rfl
      | failure kind message => cases h

/--
What a call can come to: a kept token with time enough left is given without asking, and otherwise
the credential is asked once, and the token that it gives is kept.
-/
inductive TokenCall.Comes (call : TokenCall) (e : Exchange) : Acquisition → Exchange → Prop
  | kept {t : Token} (hkept : e.token? call.scope = some t)
      (hlong : call.moment < (t.expiry : ℚ) - 300) :
      Comes call e ⟨call, [], .ok t⟩ { e with now := call.now }
  | renewed (hdue : ∀ t, e.token? call.scope = some t → (t.expiry : ℚ) - 300 ≤ call.moment) :
      Comes call e ⟨call, [call.scope], e.nextToken call.scope⟩ { e with
        now := call.now
        events := e.events ++ [.askToken call.scope]
        tokenReplies := e.tokenReplies.tail
        tokens := (e.nextToken call.scope).toOption.toList ++ e.tokens }

theorem TokenCall.comes_perform (call : TokenCall) (e : Exchange) :
    call.Comes e (call.perform e).1 (call.perform e).2 := by
  -- Without a token that can be used again, the clock does not matter for what comes of asking.
  have hrenew : (({ e with now := call.now } : Exchange).acquireToken call.scope =
      ({ e with now := call.now } : Exchange).renewToken call.scope) →
        (∀ t, e.token? call.scope = some t → (t.expiry : ℚ) - 300 ≤ call.moment) →
        call.Comes e (call.perform e).1 (call.perform e).2 := by
    intro hacquire hdue
    rw [perform, hacquire, Exchange.renewToken_eq]
    dsimp only
    rw [List.drop_left]
    exact .renewed hdue
  have hfilled := Value.isTruthy_of_asText? call.isNamed call.filled
  have hkey := Value.isKey_of_asText? call.isNamed
  have hsame : ({ e with now := call.now } : Exchange).token? call.scope =
      e.token? call.scope := rfl
  cases hkept : e.token? call.scope with
  | none =>
      refine hrenew ?_ (by simp [hkept])
      simp [Exchange.acquireToken, hfilled, hkey, hsame, hkept]
  | some t =>
      have hfresh := t.isFresh_eq call.isMoment
      by_cases hlong : call.moment < (t.expiry : ℚ) - 300
      · have hacquire : ({ e with now := call.now } : Exchange).acquireToken call.scope =
            (.ok t, { e with now := call.now }) := by
          simp [Exchange.acquireToken, hfilled, hkey, hsame, hkept, hfresh, hlong]
        rw [perform, hacquire]
        simpa [scopesAsked] using Comes.kept hkept hlong
      · refine hrenew ?_ ?_
        · simp [Exchange.acquireToken, hfilled, hkey, hsame, hkept, hfresh, hlong]
        · rintro t' ht'
          cases hkept.symm.trans ht'
          exact not_lt.mp hlong

/-! ## Runs of calls -/

/-- For every scope the token is kept that the credential last gave. -/
def Exchange.Remembers (e : Exchange) (history : List Acquisition) : Prop :=
  ∀ v name, v.asText? = some name → e.token? v = lastObtained history name

theorem TokenCall.Comes.remembers
    {call : TokenCall} {e e' : Exchange} {history : List Acquisition} {a : Acquisition}
    (h : call.Comes e a e') (he : e.Remembers history) : e'.Remembers (history ++ [a]) := by
  intro v name hv
  rw [lastObtained_concat, ← he v name hv]
  cases h with
  | kept =>
      rw [Acquisition.obtained?, if_neg (by simp), Option.none_or]
      rfl
  | renewed hdue =>
      -- The new token stands in front of those that are kept, and it is found for its scope alone.
      rw [Acquisition.obtained?]
      cases hresult : e.nextToken call.scope with
      | error fault => simp [Exchange.token?, Except.toOption]
      | ok t =>
          have hscope := Exchange.scope_of_nextToken hresult
          have hsame := Value.sameKey_of_asText? (hscope ▸ call.isNamed) hv
          by_cases hname : call.name = name
          · simp [Exchange.token?, Except.toOption, hsame, hname]
          · simp [Exchange.token?, Except.toOption, hsame, hname]

theorem TokenCall.remembers_performAll
    (calls : List TokenCall) {e : Exchange} {history : List Acquisition} (h : e.Remembers history) :
    (performAll e calls).2.Remembers (history ++ (performAll e calls).1) := by
  induction calls generalizing e history with
  | nil => simpa [performAll] using h
  | cons call rest ih =>
      have hrest := ih ((call.comes_perform e).remembers h)
      rwa [List.append_assoc] at hrest

theorem Exchange.remembers_start (replies : List Reply) (tokenReplies : List TokenReply)
    (now : Value) (sleep : Value → Except Fault Unit) :
    (start replies tokenReplies now sleep).Remembers [] := by
  intro v name hv
  rfl

/--
After any calls, and whatever the credential answers, a call asks the credential exactly if it gave
no token for the scope so far, or if the one that it last gave has no more than 300 seconds left. It
is asked once, for this scope, and what it answers is what the call comes to. The token of a call is
the one last given for the scope, and has more than 300 seconds left unless it was given just now. A
call that fails leaves all that is kept as it is.
-/
theorem TokenCall.tokens_of_calls
    (replies : List Reply) (tokenReplies : List TokenReply) (now : Value)
    (sleep : Value → Except Fault Unit) (earlier : List TokenCall) (call : TokenCall)
    {history : List Acquisition} {e e' : Exchange} {a : Acquisition}
    (hearlier : performAll (.start replies tokenReplies now sleep) earlier = (history, e))
    (hcall : call.perform e = (a, e')) :
    (a.asked ≠ [] ↔ lastObtained history call.name = none ∨
        ∃ t, lastObtained history call.name = some t ∧ (t.expiry : ℚ) - 300 ≤ call.moment) ∧
      (a.asked ≠ [] → a.asked = [call.scope] ∧ a.result = e.nextToken call.scope ∧
        ∀ text expiry n, e.tokenReplies.head? = some (.token text expiry) →
          (expiry = .null ∧ n = 0 ∨ expiry = .int n) → a.result = .ok ⟨call.scope, text, n⟩) ∧
      (a.asked = [] → ∃ t, a.result = .ok t ∧ call.moment < (t.expiry : ℚ) - 300) ∧
      (∀ t, a.result = .ok t → lastObtained (history ++ [a]) call.name = some t) ∧
      (∀ fault, a.result = .error fault → e'.tokens = e.tokens) := by
  have hremembers : e.Remembers history := by
    have hrun := remembers_performAll earlier
      (Exchange.remembers_start replies tokenReplies now sleep)
    rwa [hearlier] at hrun
  have hlast : e.token? call.scope = lastObtained history call.name :=
    hremembers call.scope call.name call.isNamed
  have hcomes : call.Comes e a e' := by
    have hperform := call.comes_perform e
    rwa [hcall] at hperform
  have hafter : e'.token? call.scope = lastObtained (history ++ [a]) call.name :=
    hcomes.remembers hremembers call.scope call.name call.isNamed
  cases hcomes with
  | @kept t hkept hlong =>
      rw [hlast] at hkept
      refine ⟨iff_of_false (by simp) ?_, by simp, fun _ => ⟨t, rfl, hlong⟩, ?_, by simp⟩
      · rintro (hnone | ⟨t', ht', hdue⟩)
        · rw [hkept] at hnone
          cases hnone
        · cases hkept.symm.trans ht'
          exact absurd hlong (not_lt.mpr hdue)
      · rintro t' ht'
        cases ht'
        rw [← hafter, ← hkept, ← hlast]
        rfl
  | renewed hdue =>
      refine ⟨iff_of_true (by simp) ?_, fun _ => ⟨rfl, rfl, ?_⟩, by simp, ?_, ?_⟩
      · cases hkept : lastObtained history call.name with
        | none => exact .inl rfl
        | some t => exact .inr ⟨t, rfl, hdue t (hlast.trans hkept)⟩
      · intro text expiry n hreply hexpiry
        rw [Exchange.nextToken, hreply]
        change (Token.expiryOf expiry).map _ = _
        rw [Token.expiryOf_eq hexpiry]
        rfl
      · intro t ht
        rw [lastObtained_concat, Acquisition.obtained?, if_pos ⟨rfl, by simp⟩]
        rw [show e.nextToken call.scope = .ok t from ht]
        rfl
      · intro fault hfault
        rw [show e.nextToken call.scope = .error fault from hfault]
        rfl

namespace TokenCall

/-- A call for a token of one scope, at a time in seconds. -/
def atSecond (seconds : Int) : TokenCall where
  scope := .text "https://ds.example.com/.default"
  name := "https://ds.example.com/.default"
  now := .int seconds
  moment := seconds
  isNamed := rfl
  filled := by decide
  isMoment := rfl

/-- A token is given for an hour, and the next time there is none. -/
def onceRefused : Exchange :=
  .start [] [.token (.text "first") (.int 4600), .failure .runtime "refused"] (.int 0) systemSleep

/-- The call that is refused comes when 300 seconds are left, and the clock goes back after it. -/
theorem tokens_of_calls_onceRefused :
    ∃ history e a e', performAll onceRefused [atSecond 1000, atSecond 4300] = (history, e) ∧
      (atSecond 4299).perform e = (a, e') ∧
      history.map Acquisition.asked = [[(atSecond 1000).scope], [(atSecond 4300).scope]] ∧
      a.asked = [] ∧ a.result = .ok ⟨.text "https://ds.example.com/.default", .text "first", 4600⟩ ∧
      lastObtained (history ++ [a]) (atSecond 4299).name =
        some ⟨.text "https://ds.example.com/.default", .text "first", 4600⟩ := by
  refine ⟨_, _, _, _, rfl, rfl, rfl, rfl, rfl, ?_⟩
  obtain ⟨-, -, -, hgiven, -⟩ := tokens_of_calls [] [.token (.text "first") (.int 4600),
    .failure .runtime "refused"] (.int 0) systemSleep [atSecond 1000, atSecond 4300]
    (atSecond 4299) rfl rfl
  exact hgiven _ rfl

end TokenCall

end PagedTables
