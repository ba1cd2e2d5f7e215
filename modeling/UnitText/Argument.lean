import UnitText.Value

/-!
# Checked arguments

An operation checks its arguments before it does anything else. A check that fails gives a
`Rejection`: the name of the argument and the cause, from which the error that a caller sees is made
(`InvalidArgumentError`). The causes found by the three checks of this module (`not_none`,
`non_negative`, `single_code_unit`) are also logged; a comparison that does not exist is only reported.
-/

namespace UnitText

/-- Why an argument is rejected. -/
inductive Rejection.Cause where
  | absent
  | negative (value : Int)
  | notSingleUnit (found : Value)
  | unknownComparison (found : Value)

/-- A rejected argument. -/
structure Rejection where
  argument : Text
  cause : Rejection.Cause

/-- The error that a caller sees. -/
structure ArgumentError where
  argument : Text
  message : Text
deriving DecidableEq, Repr

/-- The error for an argument, with a wording of its own unless a message is given. -/
def ArgumentError.of (argument : Text) (message : Option Text) : ArgumentError :=
  match message with
  | some (c :: rest) => ⟨argument, c :: rest⟩
  | _ => ⟨argument, text "Invalid argument: " ++ argument⟩

namespace Rejection

/-- What the check demands of the argument. -/
def demand : Cause → Text
  | .absent => text "must not be None"
  | .negative n => text "must be non-negative, got " ++ intText n
  | .notSingleUnit v => text "must be a single UTF-16 code unit, got " ++ v.quote
  | .unknownComparison _ => []

/-- The wording of a rejection. -/
def message (r : Rejection) : Text :=
  match r.cause with
  | .unknownComparison v => text "Unknown string comparison: " ++ v.quote
  | cause => text "Argument '" ++ r.argument ++ text "' " ++ demand cause

/-- Whether the wording can be written: it shows no integer that has too many digits. -/
def isWritable (r : Rejection) : Bool :=
  match r.cause with
  | .absent => true
  | .negative n => isWritableInt n
  | .notSingleUnit v | .unknownComparison v => v.isWritable

/-- Whether the rejection is also logged. -/
def isLogged (r : Rejection) : Bool :=
  match r.cause with
  | .unknownComparison _ => false
  | _ => true

/-- The error that reports the rejection. -/
def toError (r : Rejection) : ArgumentError := ArgumentError.of r.argument (some r.message)

end Rejection

/-- The value of an argument that must be there. -/
def required {α : Type} (argument : Text) (value : Option α) : Except Rejection α :=
  match value with
  | some a => .ok a
  | none => .error ⟨argument, .absent⟩

/-- The value of a number that must be there and not be negative. -/
def requiredNat (argument : Text) (value : Option Int) : Except Rejection Nat :=
  match value with
  | none => .error ⟨argument, .absent⟩
  | some n => if n < 0 then .error ⟨argument, .negative n⟩ else .ok n.toNat

/-- The unit of an argument that must be a text of one code unit. -/
def requiredUnit (argument : Text) (value : Value) : Except Rejection CodeUnit :=
  match value with
  | .null => .error ⟨argument, .absent⟩
  | .text [c] => if h : c.val < 0x10000 then .ok ⟨c.val, h⟩ else .error ⟨argument, .notSingleUnit value⟩
  | v => .error ⟨argument, .notSingleUnit v⟩

end UnitText
