/-
What an update makes of the session it finds.

The checkout of a session is its `Deal`; a session that is not there has the one of a new shopper.
-/
import FashionErp.Shopping.Answers
import FashionErp.Lib.Machine

namespace FashionErp

open Lib

namespace Shopping

def Deal.fresh : Deal := ⟨[], none, none, none, none, none, none, false⟩

def dealOf (shopper : Option Shopper) : Deal := (shopper.map Shopper.deal).getD .fresh

def viewOf (shopper : Option Shopper) (c : Context) : View :=
  ⟨dealOf shopper, shopper.bind Shopper.stage, c⟩

theorem view_touch (s : Shopper) (now : ℕ) (c : Context) :
    viewOf (some (s.touch now)) c = viewOf (some s) c := by
  unfold Shopper.touch
  dsimp only
  split
  · rfl
  · rfl

theorem view_kept (kept : Option Shopper) (companyId : String) (now : ℕ) (c : Context) :
    viewOf (some ((kept.getD (newShopper companyId now)).touch now)) c = viewOf kept c := by
  rw [view_touch]
  cases kept with
  | none => rfl
  | some s => rfl

theorem prepare_found {lang : Language} {found : Option Shopper} {companyId : String} {c : Context}
    {config : Config} {data : Option String} {now : ℕ} {t : Turn} (hrequest : c.request = none)
    (h : Turn.prepare lang { s := (found.getD (newShopper companyId now)).touch now, c := c } config
      data now = .ok t) :
    Prepared data (viewOf found c) (viewOf (some t.s) t.c) ∧
      ((dealOf found).submission.isSome →
        Quiet (viewOf found c) (viewOf (some t.s) t.c) ∧ t.c.request = none) := by
  have hview := view_kept found companyId now c
  have hdeal : ((found.getD (newShopper companyId now)).touch now).deal = dealOf found :=
    congrArg View.deal hview
  rw [← hview]
  refine ⟨prepare_spec lang h, fun hwaiting => prepare_waiting lang h ?_ hrequest⟩
  rw [← hdeal] at hwaiting
  exact hwaiting

theorem toOption_eq_some {α : Type} {x : Except Fault α} {a : α} :
    x.toOption = some a ↔ x = .ok a := by
  cases x with
  | error e => simp [Except.toOption]
  | ok b => simp [Except.toOption]

end Shopping

end FashionErp
