import Overseer.Text.Blank

/-! ## Findings

A finding is a located fault: a row, a column if one was given, and what kind of fault it is. Rows
and columns are counted from one. Findings are ordered by row, column and kind; a finding without a
column comes before those of its row that have one. -/

namespace Overseer

-- ---------------------------------------------------------------------------
-- Kinds
-- ---------------------------------------------------------------------------

/-- What kind of memory fault a diagnostic reports. -/
inductive Kind where
  | invalidAccess
  | freeError
  | leak
deriving DecidableEq

namespace Kind

/-- The kinds in their order. -/
def all : List Kind := [.invalidAccess, .freeError, .leak]

/-- How a kind is written in logs. -/
def token : Kind → Text
  | .invalidAccess => "invalid".toList
  | .freeError => "free".toList
  | .leak => "leak".toList

/-- The kind with a given token. -/
def ofToken? (s : Text) : Option Kind := all.find? fun k => k.token = s

/-- The place of a kind among all. -/
def rank : Kind → Nat
  | .invalidAccess => 0
  | .freeError => 1
  | .leak => 2

theorem mem_all (k : Kind) : k ∈ all := by cases k <;> decide

theorem rank_inj {k l : Kind} : k.rank = l.rank ↔ k = l := by
  cases k <;> cases l <;> decide

theorem token_inj {k l : Kind} : k.token = l.token ↔ k = l := by
  cases k <;> cases l <;> decide

theorem ofToken?_eq_some {s : Text} {k : Kind} : ofToken? s = some k ↔ s = k.token := by
  constructor
  · intro h
    have := List.find?_some h
    simp only [decide_eq_true_eq] at this
    exact this.symm
  · rintro rfl
    cases k <;> decide

end Kind

-- ---------------------------------------------------------------------------
-- Coordinates
-- ---------------------------------------------------------------------------

/-- A row or column number: at least one and below 2³². -/
structure Coordinate where
  val : Nat
  pos : 0 < val := by decide
  bounded : val < 0x100000000 := by decide
deriving DecidableEq

namespace Coordinate

/-- The coordinate with a given number. -/
def ofNat? (n : Nat) : Option Coordinate :=
  if h : 0 < n ∧ n < 0x100000000 then some ⟨n, h.1, h.2⟩ else none

theorem ext_val {a b : Coordinate} (h : a.val = b.val) : a = b := by
  cases a; cases b; cases h; rfl

theorem ofNat?_eq_some {n : Nat} {c : Coordinate} : ofNat? n = some c ↔ n = c.val := by
  constructor
  · intro h
    unfold ofNat? at h
    split at h
    · cases h; rfl
    · cases h
  · rintro rfl
    exact dif_pos ⟨c.pos, c.bounded⟩

end Coordinate

-- ---------------------------------------------------------------------------
-- Findings
-- ---------------------------------------------------------------------------

structure Finding where
  row : Coordinate
  column : Option Coordinate
  kind : Kind
deriving DecidableEq

namespace Finding

/-- The finding with the given numbers, if both are coordinates. -/
def ofNumbers? (row : Nat) (column : Option Nat) (kind : Kind) : Option Finding :=
  match Coordinate.ofNat? row, column with
  | none, _ => none
  | some r, none => some ⟨r, none, kind⟩
  | some r, some n => (Coordinate.ofNat? n).map fun c => ⟨r, some c, kind⟩

/-- The column, and zero, which is no column, if there is none. -/
def columnNumber (f : Finding) : Nat :=
  match f.column with
  | none => 0
  | some c => c.val

/-- The order of findings. -/
def Before (f g : Finding) : Prop :=
  f.row.val < g.row.val ∨ f.row.val = g.row.val ∧
    (f.columnNumber < g.columnNumber ∨ f.columnNumber = g.columnNumber ∧
      f.kind.rank < g.kind.rank)

instance (f g : Finding) : Decidable (f.Before g) := by unfold Before; infer_instance

/-- How two findings compare. -/
def compare (f g : Finding) : Ordering :=
  if f.Before g then .lt else if f = g then .eq else .gt

theorem columnNumber_inj {f g : Finding} : f.columnNumber = g.columnNumber ↔ f.column = g.column := by
  unfold columnNumber
  cases hf : f.column with
  | none =>
    cases hg : g.column with
    | none => simp
    | some c => simpa using Nat.ne_of_lt c.pos
  | some c =>
    cases hg : g.column with
    | none => simpa using Nat.ne_of_gt c.pos
    | some d =>
      constructor
      · intro h
        rw [Coordinate.ext_val h]
      · intro h
        cases h; rfl

theorem before_irrefl (f : Finding) : ¬ f.Before f := by
  unfold Before; omega

theorem Before.trans {f g h : Finding} : f.Before g → g.Before h → f.Before h := by
  unfold Before; omega

theorem before_trichotomy (f g : Finding) : f.Before g ∨ f = g ∨ g.Before f := by
  by_cases hr : f.row.val = g.row.val
  · by_cases hc : f.columnNumber = g.columnNumber
    · by_cases hk : f.kind.rank = g.kind.rank
      · right; left
        cases f; cases g
        simp only [mk.injEq]
        exact ⟨Coordinate.ext_val hr, columnNumber_inj.1 hc, Kind.rank_inj.1 hk⟩
      · unfold Before; omega
    · unfold Before; omega
  · unfold Before; omega

end Finding

end Overseer
