import ApkAudit.Failure
import ApkAudit.Text.Lines

/-!
Levels of findings, from harmless to critical.
-/

namespace ApkAudit

inductive Level where
  | info
  | notice
  | warning
  | critical
deriving DecidableEq, Repr

namespace Level

def all : List Level := [info, notice, warning, critical]

def rank : Level → Nat
  | info => 0
  | notice => 1
  | warning => 2
  | critical => 3

instance : LE Level where
  le a b := a.rank ≤ b.rank

instance (a b : Level) : Decidable (a ≤ b) :=
  inferInstanceAs (Decidable (a.rank ≤ b.rank))

def text : Level → String
  | info => "info"
  | notice => "notice"
  | warning => "warning"
  | critical => "critical"

def read (name : String) : Except Fault Level :=
  match all.find? fun level => level.text == Text.lower name with
  | some level => .ok level
  | none => .error (.parse s!"unknown level `{name}`")

@[simp] theorem read_text (level : Level) : read level.text = .ok level := by
  cases level <;> rfl

end Level

end ApkAudit
