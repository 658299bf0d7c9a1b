import PagedTables.Service.Exchange

/-!
# Tokens

A token is kept for the scope that it was given for and used again as long as more than five
minutes are left of its time. Otherwise the credential is asked for a new one.
-/
namespace PagedTables

namespace Token

/-- The seconds before its end in which a token is not used any more. -/
def margin : Int := 300

/-- Enough time is left. -/
def isFresh (t : Token) (now : Value) : Except Fault Bool :=
  match now.ordering (t.expiry - margin) with
  | .ok order => .ok (order == some .lt)
  | .error fault => .error fault.fault

/-- The end of a token's time, which is 0 if the credential does not say. -/
def expiryOf (v : Value) : Except Fault Int :=
  if v.isTruthy then v.toInteger.mapError .integer else .ok 0

end Token

namespace Exchange

/-- The token that was last given for a scope. -/
def token? (e : Exchange) (scope : Value) : Option Token :=
  e.tokens.find? fun t => t.scope.sameKey scope

/-- Asks for a token and keeps it. -/
def renewToken (e : Exchange) (scope : Value) : Except Fault Token × Exchange :=
  match e.askToken scope with
  | (.error fault, e) => (.error fault, e)
  | (.ok (text, expiry), e) =>
    match Token.expiryOf expiry with
    | .error fault => (.error fault, e)
    | .ok n =>
      let t : Token := ⟨scope, text, n⟩
      (.ok t, { e with tokens := t :: e.tokens })

/-- A token for a scope. -/
def acquireToken (e : Exchange) (scope : Value) : Except Fault Token × Exchange :=
  if !scope.isTruthy then (.error (.required .scope), e)
  else if !scope.isKey then (.error .wrongType, e)
  else
    match e.token? scope with
    | none => e.renewToken scope
    | some t =>
      match t.isFresh e.now with
      | .ok true => (.ok t, e)
      | .ok false => e.renewToken scope
      | .error fault => (.error fault, e)

/-- Renewing a token takes no reply to a request. -/
theorem replies_renewToken (e : Exchange) (scope : Value) :
    (e.renewToken scope).2.replies = e.replies := by
  have ask := e.replies_askToken scope
  unfold renewToken
  split
  · next h => simpa [h] using ask
  · next h =>
    rw [h] at ask
    split <;> exact ask

/-- Acquiring a token takes no reply to a request. -/
theorem replies_acquireToken (e : Exchange) (scope : Value) :
    (e.acquireToken scope).2.replies = e.replies := by
  unfold acquireToken
  split
  · rfl
  · split
    · rfl
    · split
      · exact e.replies_renewToken scope
      · split
        · rfl
        · exact e.replies_renewToken scope
        · rfl

end Exchange

end PagedTables
