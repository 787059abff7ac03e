import Overseer.Log.Entry

/-! ## Directives of log filters

A directive says for some entries up to which level they are shown. It may ask for what the target
of an entry begins with and for a field that the entry has. It may also ask for a span around the
entry, or for the value of a field of that span; the entries of this library stand in no span, so
that such a directive fits none of them. -/

namespace Overseer.Log

/-- A field by its name, and its value if that matters. -/
structure FieldCondition where
  name : Text
  value : Option Text
deriving DecidableEq

structure Directive where
  /-- What the target begins with. -/
  target : Option Text
  /-- The name of a span around the entry. -/
  span : Option Text
  field : Option FieldCondition
  /-- The rank of the last level that is shown; zero shows nothing. -/
  level : Nat
deriving DecidableEq

namespace Directive

/-- Shows everything up to a level. -/
def upTo (level : Nat) : Directive := ⟨none, none, none, level⟩

/-- Shows the targets that begin with a text up to a level. -/
def ofTarget (target : Text) (level : Nat) : Directive := ⟨some target, none, none, level⟩

-- ---------------------------------------------------------------------------
-- Fitting
-- ---------------------------------------------------------------------------

/-- Whether nothing is asked for but what an entry has by itself. -/
def isStatic (d : Directive) : Bool := d.span.isNone && d.field.all fun f => f.value.isNone

/-- Whether a directive is about an entry with a target and some fields. -/
def fits (d : Directive) (target : Text) (fields : List Text) : Bool :=
  d.isStatic && d.target.all (·.isPrefixOf target) && d.field.all fun f => fields.contains f.name

-- ---------------------------------------------------------------------------
-- Precedence
-- ---------------------------------------------------------------------------

/-- How much of the target is fixed; an empty target is more than none. -/
def reach (d : Directive) : Nat :=
  match d.target with
  | none => 0
  | some t => t.length + 1

/-- Whether the field of the first directive counts less: no field before all, then by name. -/
def fieldBelow (d e : Directive) : Bool :=
  match d.field, e.field with
  | _, none => false
  | none, some _ => true
  | some f, some g => decide (f.name < g.name)

/-- Whether the first directive counts less than the second: the longer target comes first, and of
    targets of one length the field. -/
def below (d e : Directive) : Bool :=
  d.reach < e.reach || (d.reach == e.reach && d.fieldBelow e)

end Directive

end Overseer.Log
