import Crontab.Text.Numeral

/-! # Fields

The six columns of an expression, their bounds, and rows with one entry for each.
-/
namespace Crontab

inductive Field
  | second
  | minute
  | hour
  | dayOfMonth
  | month
  | dayOfWeek
  deriving DecidableEq, Repr

structure Bounds where
  min : Int
  max : Int
  deriving DecidableEq, Repr

namespace Bounds

/-- The bounds as a range, however many digits they have. -/
def text (b : Bounds) : Text :=
  Text.ofInt b.min ++ '-' :: Text.ofInt b.max

def Contains (b : Bounds) (v : Int) : Prop :=
  b.min ≤ v ∧ v ≤ b.max

instance (b : Bounds) (v : Int) : Decidable (b.Contains v) :=
  inferInstanceAs (Decidable (_ ∧ _))

end Bounds

namespace Field

/-- The fields in the order in which an expression gives them. -/
def all : List Field :=
  [.second, .minute, .hour, .dayOfMonth, .month, .dayOfWeek]

def name : Field → String
  | .second => "second"
  | .minute => "minute"
  | .hour => "hour"
  | .dayOfMonth => "day_of_month"
  | .month => "month"
  | .dayOfWeek => "day_of_week"

/-- The bounds of a field. In a week, 7 is Sunday again. -/
def bounds : Field → Bounds
  | .second => ⟨0, 59⟩
  | .minute => ⟨0, 59⟩
  | .hour => ⟨0, 23⟩
  | .dayOfMonth => ⟨1, 31⟩
  | .month => ⟨1, 12⟩
  | .dayOfWeek => ⟨0, 7⟩

def named? (name : Text) : Option Field :=
  all.find? fun f => f.name.toList == name

theorem mem_all (f : Field) : f ∈ all := by
  cases f <;> decide

theorem named?_name (f : Field) : named? f.name.toList = some f := by
  cases f <;> decide

end Field

structure Row (α : Type) where
  second : α
  minute : α
  hour : α
  dayOfMonth : α
  month : α
  dayOfWeek : α
  deriving DecidableEq, Repr

namespace Row
variable {α β ε : Type}

def get (r : Row α) : Field → α
  | .second => r.second
  | .minute => r.minute
  | .hour => r.hour
  | .dayOfMonth => r.dayOfMonth
  | .month => r.month
  | .dayOfWeek => r.dayOfWeek

def ofFn (entry : Field → α) : Row α :=
  ⟨entry .second, entry .minute, entry .hour, entry .dayOfMonth, entry .month, entry .dayOfWeek⟩

def toList (r : Row α) : List α :=
  Field.all.map r.get

/-- Computes every entry, in the order of the fields; the first failure ends it. -/
def traverse (entry : Field → α → Except ε β) (r : Row α) : Except ε (Row β) := do
  let second ← entry .second r.second
  let minute ← entry .minute r.minute
  let hour ← entry .hour r.hour
  let dayOfMonth ← entry .dayOfMonth r.dayOfMonth
  let month ← entry .month r.month
  let dayOfWeek ← entry .dayOfWeek r.dayOfWeek
  return { second, minute, hour, dayOfMonth, month, dayOfWeek }

@[simp] theorem get_ofFn (entry : Field → α) (f : Field) : (ofFn entry).get f = entry f := by
  cases f <;> rfl

theorem ext_get {r s : Row α} (h : ∀ f, r.get f = s.get f) : r = s := by
  cases r
  cases s
  simp only [mk.injEq]
  exact ⟨h .second, h .minute, h .hour, h .dayOfMonth, h .month, h .dayOfWeek⟩

/-- A row is computed exactly when each of its entries is. -/
theorem traverse_eq_ok_iff {entry : Field → α → Except ε β} {r : Row α} {s : Row β} :
    r.traverse entry = .ok s ↔ ∀ f, entry f (r.get f) = .ok (s.get f) := by
  constructor
  · intro h f
    simp only [traverse, bind, Except.bind, pure, Except.pure] at h
    repeat' split at h
    all_goals cases h <;> cases f <;> assumption
  · intro h
    have := h .second
    have := h .minute
    have := h .hour
    have := h .dayOfMonth
    have := h .month
    have := h .dayOfWeek
    simp_all [traverse, get, bind, Except.bind, pure, Except.pure]

end Row
end Crontab
