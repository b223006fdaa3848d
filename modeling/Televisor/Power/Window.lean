import Televisor.Media.State

namespace Televisor.Power

open Media

/-! The time after a power-off command during which the television counts as off.  Instants are
milliseconds; the window is only ever compared with an instant when asked, no timer stands
behind it. -/

/-- Time on top of one poll interval for the television to finish shutting down. -/
def slack : Nat := 5000

structure Window where
  deadline : Option Nat
deriving Repr, DecidableEq

namespace Window

def closed : Window := ⟨none⟩

/-- Opens the window anew at `now`, whatever it was. -/
def arm (_ : Window) (now interval : Nat) : Window :=
  ⟨some (now + interval + slack)⟩

def isOpen (window : Window) (now : Nat) : Bool :=
  window.deadline.any (now < ·)

def clearIfExpired (window : Window) (now : Nat) : Window :=
  if window.isOpen now then window else closed

theorem isOpen_eq_false {window : Window} {now : Nat} :
    window.isOpen now = false ↔ ∀ deadline, window.deadline = some deadline → deadline ≤ now := by
  cases found : window.deadline <;> simp [isOpen, found]

theorem isOpen_of_le {window : Window} {now deadline limit : Nat}
    (armed : window.deadline = some deadline) (later : limit ≤ deadline) (early : now < limit) :
    window.isOpen now = true := by
  simp only [isOpen, armed, Option.any_some, decide_eq_true_eq]
  omega

theorem closed_later {window : Window} {now later : Nat} (closed : window.isOpen now = false)
    (le : now ≤ later) : window.isOpen later = false := by
  rw [isOpen_eq_false] at closed ⊢
  intro deadline armed
  exact Nat.le_trans (closed deadline armed) le

theorem clearIfExpired_closed {window : Window} {now : Nat} (closed : window.isOpen now = false) :
    window.clearIfExpired now = .closed := by
  simp [clearIfExpired, closed]

def lifecycle (window : Window) (power : Power) (now : Nat) : Lifecycle :=
  if window.isOpen now then .poweringOff
  else
    match power with
    | .on => .on
    | .off => .off

end Window

end Televisor.Power
