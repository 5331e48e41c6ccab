import AtomicCss.Reading.Record

/-!
# Scopes of conditions

A condition restricts the rules under it by a media query, a feature query and a selector,
each of which may be missing.
-/

set_option autoImplicit false

namespace AtomicCss

structure Scope where
  media : Option String := none
  supports : Option String := none
  selector : Option String := none
  deriving DecidableEq, Repr, Inhabited

namespace Scope

/-- Whether rules under the condition apply everywhere. -/
def isUnscoped (scope : Scope) : Bool :=
  scope.media.isNone && scope.supports.isNone && scope.selector.isNone

/-- The fields of a scope in a document. The queries may be given with or without their
at-sign. -/
def record {δ : Type} [Reading.Document δ] : Reading.Record δ Scope where
  name := "ConditionSpec"
  fields :=
    [.of "@media" (Reading.optional Reading.Document.text)
        (fun query scope => { scope with media := query }) false ["media"],
     .of "@supports" (Reading.optional Reading.Document.text)
        (fun query scope => { scope with supports := query }) false ["supports"],
     .of "selector" (Reading.optional Reading.Document.text)
        (fun selector scope => { scope with selector := selector }) false]

def read {δ : Type} [Reading.Document δ] : δ → Except Reading.Fault Scope :=
  record.read {}

def toJson (scope : Scope) : Json :=
  .object (Json.optionalMember "@media" .string scope.media ++
    Json.optionalMember "@supports" .string scope.supports ++
    Json.optionalMember "selector" .string scope.selector)

end Scope

end AtomicCss
