import Overseer.Log.Directive

/-! ## Log filters

A filter decides by the target, the fields and the level of an entry whether it is shown. Of the
directives that fit an entry the one counts that asks for most, and of equal ones the last. An entry
that no directive fits is not shown. -/

namespace Overseer.Log

/-- The directives of a filter in the order in which they are given. -/
structure Filter where
  directives : List Directive
deriving DecidableEq

namespace Filter

/-- Of two directives the one that counts more, and the second if they count the same. -/
def stronger (best : Option Directive) (d : Directive) : Option Directive :=
  match best with
  | none => some d
  | some b => if d.below b then some b else some d

/-- The directive that counts for a target and some fields. -/
def directiveFor (f : Filter) (target : Text) (fields : List Text) : Option Directive :=
  (f.directives.filter fun d => d.fits target fields).foldl stronger none

/-- Whether an entry of a target is shown. -/
def shows (f : Filter) (target : Text) (e : Entry) : Bool :=
  match f.directiveFor target e.fieldNames with
  | none => false
  | some d => e.level.rank ≤ d.level

end Filter

end Overseer.Log
