import UnitText.Proofs.Stepwise

/-!
# Checks, affixes and escapes step by step

The operations that are built from the steps of `Stepwise`: reading truth values, matching parts of
texts, removing affixes and members, and escaping. Where an operation checks its arguments as it goes,
its steps reject what the operation rejects.
-/

namespace UnitText.Stepwise

/-! ## Checked arguments -/

section Checks

variable {α β : Type}

end Checks

/-- A value that must be a text of one code unit. Its number is read only once there is a text of one
    code point. -/
def singleUnit (argument : Text) (value : Value) : Except Stop CodeUnit :=
  let rejected := checked (.error ⟨argument, .notSingleUnit value⟩)
  match value with
  | .null => checked (.error ⟨argument, .absent⟩)
  | .text t =>
    if t.length ≠ 1 then rejected
    else do
      let n ← number value
      match Text.unitOfInt n with
      | .ok u => return u
      | .error _ => rejected
  | _ => rejected

/-- A value that must be a text of one code unit and is then used as a key. -/
def unitKey (argument : Text) (value : Value) : Except Stop CodeUnit := do
  let u ← singleUnit argument value
  asKey value
  return u

/-- Whether a text is absent or all whitespace. -/
def isBlank (t : Option Text) : Except Stop Bool := (t.getD []).units.allM fun u => whitespace u.val

/-- Whether a text spells a truth value. -/
def accepts (s : Spelling) (t : Option Text) : Except Stop Bool := do
  if ← isBlank t then return false
  let trimmed ← trim (t.getD [])
  if trimmed.unitLength = 1 then
    let n ← number (.text trimmed)
    let c ← point (← lower n)
    return s.letters.contains c.val
  else s.words.anyM fun word => equals .exactIgnoreCase (some trimmed) (some word)

theorem isBlank_eq (t : Option Text) : isBlank t = .ok (UnitText.isBlank t) :=
  allM_eq_ok fun u _ => whitespace_val u

theorem accepts_some (s : Spelling) (t : Text) (marked : UnitText.isBlank (some t) = false) :
    s.accepts (some t) =
      if t.trim.unitLength = 1 then
        t.trim.units.any fun u => s.letters.contains (simpleLower u.val)
      else s.words.any fun w => Comparison.exactIgnoreCase.equals (some t.trim) (some w) := by
  rw [Spelling.accepts, if_neg (by simp [marked]), ← Text.length_units]
  rcases t.trim.units with _ | ⟨u, _ | ⟨v, us⟩⟩
  · rfl
  · simp
  · simp

theorem accepts_eq (s : Spelling) (t : Option Text) : accepts s t = .ok (s.accepts t) := by
  rw [accepts, isBlank_eq, ok_bind]
  cases t with
  | none => rfl
  | some t =>
    cases blank : UnitText.isBlank (some t) with
    | true =>
      rw [Spelling.accepts, if_pos blank, if_pos rfl]
      rfl
    | false =>
      rw [accepts_some s t blank, if_neg (by simp), Option.getD_some, trim_eq, ok_bind]
      split
      · rename_i one
        obtain ⟨u, single, units⟩ := Text.exists_toCodePoint_of_unitLength one
        have read : number (.text t.trim) = .ok u.val := by
          rw [single]
          rfl
        have lowered : point (simpleLower u.val) = .ok u.lower.toCodePoint := point_val u.lower
        rw [read, ok_bind, lower_val, ok_bind, lowered, ok_bind, units, List.any_cons, List.any_nil,
          Bool.or_false]
        rfl
      · exact anyM_eq_ok fun w _ => equals_eq .exactIgnoreCase (some t.trim) (some w)

/-! ## Matching -/

/-- Whether `n` units from `i` on match those of another sequence from `j` on. -/
def matchFrom (m : Comparison) (as bs : List Int) (i j : Nat) : (n : Nat) → Except Stop Bool
  | 0 => .ok true
  | n + 1 => do
    let a ← entry as i
    let b ← entry bs j
    if ← unitsEqual m a b then matchFrom m as bs (i + 1) (j + 1) n else return false

/-- Whether part of a text matches part of another. -/
def matchesAt (value : Option Text) (offset : Option Int) (comparand : Option Text)
    (comparandOffset length : Option Int) (choice : Comparison.Choice) : Except Stop Bool := do
  let a ← checked (required (text "value") value)
  let b ← checked (required (text "comparand") comparand)
  let i ← checked (requiredNat (text "offset") offset)
  let j ← checked (requiredNat (text "comparand_offset") comparandOffset)
  let n ← checked (requiredNat (text "length") length)
  let m ← resolve choice
  if a.unitValues.length < i + n then return false
  else if b.unitValues.length < j + n then return false
  else matchFrom m a.unitValues b.unitValues i j n

/-- Whether a text has an affix. A suffix that is longer than the text is not looked for. -/
def hasAffix (side : Side) (value affix : Option Text) (m : Comparison) : Except Stop Bool :=
  match side with
  | .left => do
    let _ ← checked (required (text "value") value)
    let p ← checked (required (text "prefix") affix)
    matchesAt value (some 0) affix (some 0) (some p.unitLength) (.named m)
  | .right => do
    let s ← checked (required (text "suffix") affix)
    let t ← checked (required (text "value") value)
    let offset : Int := t.unitLength - s.unitLength
    if offset < 0 then return false
    else matchesAt value (some offset) affix (some 0) (some s.unitLength) (.named m)

theorem requiredNat_natCast (argument : Text) (n : Nat) :
    requiredNat argument (some (n : Int)) = .ok n := by
  rw [requiredNat, if_neg (by omega), Int.toNat_natCast]

/-- Trims one end. -/
def trimSide (side : Side) (t : Text) : Except Stop Text :=
  match side with
  | .left => dropLeft isTrimmed t
  | .right => dropRight isTrimmed t

/-- What is left of a text beside an affix at one end. -/
def besideAffix (side : Side) (t a : Text) : Except Stop Text :=
  match side with
  | .left => slice t (some a.unitLength) none
  | .right => slice t (some 0) (some ((t.unitLength : Int) - a.unitLength))

/-- Removes an affix, unless it is longer than the text. -/
def removeAffix (side : Side) (affix : Option Text) (m : Comparison) (t : Text) :
    Except Stop Text :=
  match affix with
  | none => .ok t
  | some a =>
    if a.isEmpty ∨ (t.unitLength : Int) - a.unitLength < 0 then .ok t
    else if (t.unitLength : Int) - a.unitLength = 0 then do
      return if ← equals m (some t) (some a) then [] else t
    else do
      if ← hasAffix side (some t) (some a) m then besideAffix side t a else return t

/-- Removes the run of members at one end. The members are collected in a set first. -/
def dropMembers (side : Side) (members : List Text) (t : Text) : Except Stop Text := do
  members.forM fun member => asKey (.text member)
  match side with
  | .left => dropLeft (isMember members) t
  | .right => dropRight (isMember members) t

theorem trimSide_eq (side : Side) (t : Text) : trimSide side t = .ok (side.trim t) := by
  cases side with
  | left => exact dropLeft_eq isTrimmed t
  | right => exact dropRight_eq isTrimmed t

theorem forM_asKey_text (members : List Text) :
    (members.forM fun member => asKey (.text member)) = .ok () := by
  induction members with
  | nil => rfl
  | cons member members ih => exact ih

theorem dropMembers_eq (side : Side) (members : List Text) (t : Text) :
    dropMembers side members t = .ok (side.dropMembers false t members) := by
  cases side with
  | left =>
    rw [dropMembers, forM_asKey_text, ok_bind]
    exact dropLeft_eq (isMember members) t
  | right =>
    rw [dropMembers, forM_asKey_text, ok_bind]
    exact dropRight_eq (isMember members) t

/-- A change at one end, or the same change between two trimmings. -/
def changeAt (side : Side) (trimming : Bool) (change : Text → Except Stop Text) (t : Text) :
    Except Stop Text :=
  if trimming then trimAround (trimSide side) change t else change t

theorem changeAt_dropMembers (side : Side) (trimming : Bool) (members : List Text) (t : Text) :
    changeAt side trimming (dropMembers side members) t =
      .ok (side.dropMembers trimming t members) := by
  cases trimming with
  | false => exact dropMembers_eq side members t
  | true =>
    have around := trimAround_eq (trimSide_eq side) (dropMembers_eq side members) t
    cases side <;> exact around

/-! ## Hashing and escaping -/

/-- The hash of a text that ignores case. -/
def hashIgnoreCase (t : Text) : Except Stop Int := do
  let ns ← t.units.mapM fun u => lower u.val
  return hashNumbers (ns.map Int.toNat)

/-- Whether a unit on its own is written as a number. -/
def needsNumber (n : Int) : Except Stop Bool :=
  if 0xC0 ≤ n ∨ isIsoControl n.toNat ∨ isSurrogate n.toNat then .ok true
  else do return (← whitespace n) && n != 0x20

/-- The escaped form of a unit on its own. -/
def escapeUnit (u : CodeUnit) (n : Int) : Except Stop Text :=
  match structuralEscape? u with
  | some t => .ok t
  | none =>
    if u.val = 0 then .ok (text "\\0")
    else do if ← needsNumber n then return unitNumber u else return [u.toCodePoint]

/-- The escaped form of a value that must be a text of one unit. It is looked up among the structural
    characters as a key. -/
def escapeSingle (value : Value) (quote : Bool) : Except Stop Text := do
  let u ← unitKey (text "ch") value
  let n ← number value
  return enclose 0x27 quote (← escapeUnit u n)

/-- The escaped form of a unit within a text. -/
def escapeUnitInText (u : CodeUnit) : Except Stop Text := do
  let c ← point u.val
  return match structuralEscape? u with
    | some t => t
    | none => if numberThreshold ≤ u.val then unitNumber u ++ text ";" else [c]

/-- The escaped form of a text. -/
def escape (quote : Bool) (t : Text) : Except Stop Text := do
  let parts ← t.units.mapM escapeUnitInText
  return enclose 0x22 quote parts.flatten

/-- The form of a log message on one line. -/
def escapeMessage (t : Text) : Except Stop Text := do
  let parts ← t.units.mapM fun u => do escapeSingle (.text [← point u.val]) false
  return parts.flatten

end UnitText.Stepwise
