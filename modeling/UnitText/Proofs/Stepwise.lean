import UnitText.Proofs.Hashing
import UnitText.Proofs.UnitView

/-!
# Operations step by step

The operations on texts are total functions. Here they are taken apart into steps, some of which make
sense for some arguments only: the entry of a list at a position, the text of a sequence of numbers,
the number of a text's only code point, the code point with a number, and the use of a value as a key.
Such a step ends in a `Fault` where it makes no sense.

Every operation gives the same answer when it is taken step by step, so no step of it ends in a fault:
units are always in range, the loops stay within the texts they walk along, and a value is a key only
after it has been checked.
-/

namespace UnitText

/-- Why a step makes no sense. -/
inductive Fault where
  /-- A number that is no unit was to be made part of a text. -/
  | notUnit (error : Text.UnitRangeError)
  /-- A list has no entry at a position. -/
  | noEntry (position : Int)
  /-- The number of a text's only code point was asked for, of a value that is no such text. -/
  | notOnePoint (found : Value)
  /-- No code point has a number. -/
  | noPoint (number : Int)
  /-- A value that is no key was to be used as one. -/
  | noKey (found : Value)

/-- Why an operation that is taken step by step gives no answer. -/
inductive Stop where
  | failure (failure : Request.Failure)
  | fault (fault : Fault)

namespace Stepwise

/-! ## Single steps -/

theorem ok_bind {ε α β : Type} (a : α) (f : α → Except ε β) : (Except.ok a >>= f) = f a := rfl

/-- A check of an argument. -/
def checked {α : Type} (r : Except Rejection α) : Except Stop α :=
  r.mapError fun rejection => .failure (.ofRejection rejection)

/-- The entry at a position, which may be given from the end as a negative number. -/
def entry {α : Type} (l : List α) (i : Int) : Except Stop α :=
  let position := if i < 0 then l.length + i else i
  if 0 ≤ position then
    match l[position.toNat]? with
    | some a => .ok a
    | none => .error (.fault (.noEntry i))
  else .error (.fault (.noEntry i))

/-- The text of a sequence of numbers. -/
def pack (ns : List Int) : Except Stop Text :=
  (Text.ofUnitValues ns).mapError fun e => .fault (.notUnit e)

/-- The number of the only code point of a text. -/
def number : Value → Except Stop Int
  | .text [c] => .ok c.val
  | v => .error (.fault (.notOnePoint v))

/-- The code point with a number. -/
def point (n : Int) : Except Stop CodePoint :=
  if h : 0 ≤ n ∧ n.toNat < 0x110000 then .ok ⟨n.toNat, h.2⟩ else .error (.fault (.noPoint n))

/-- Uses a value as a key. -/
def asKey : Value → Except Stop Unit
  | .list items => .error (.fault (.noKey (.list items)))
  | .dict entries => .error (.fault (.noKey (.dict entries)))
  | _ => .ok ()

theorem entry_of_getElem? {α : Type} {l : List α} {i : Nat} {a : α} (there : l[i]? = some a) :
    entry l i = .ok a := by
  have position : (if (i : Int) < 0 then l.length + (i : Int) else i) = i := if_neg (by omega)
  simp only [entry, position]
  rw [if_pos (by omega), Int.toNat_natCast, there]

theorem point_val (u : CodeUnit) : point u.val = .ok u.toCodePoint := by
  have bound := u.isLt
  rw [point, dif_pos ⟨by omega, by omega⟩]
  rfl

theorem pack_map_val (us : List CodeUnit) :
    pack (us.map fun u => (u.val : Int)) = .ok (Text.ofUnits us) := by
  rw [pack, Text.ofUnitValues_map_val]
  rfl

section Lists

variable {α β : Type} {f : α → Except Stop β} {g : α → β} {l : List α}

theorem allM_eq_ok {f : α → Except Stop Bool} {g : α → Bool} (each : ∀ a ∈ l, f a = .ok (g a)) :
    l.allM f = .ok (l.all g) := by
  induction l with
  | nil => rfl
  | cons a l ih =>
    obtain ⟨first, later⟩ := List.forall_mem_cons.mp each
    rw [List.allM, first, List.all_cons, ih later]
    cases g a <;> rfl

theorem anyM_eq_ok {f : α → Except Stop Bool} {g : α → Bool} (each : ∀ a ∈ l, f a = .ok (g a)) :
    l.anyM f = .ok (l.any g) := by
  induction l with
  | nil => rfl
  | cons a l ih =>
    obtain ⟨first, later⟩ := List.forall_mem_cons.mp each
    rw [List.anyM, first, List.any_cons, ih later]
    cases g a <;> rfl

end Lists

/-! ## Units

A unit is handled as a plain number here. -/

/-- The lower-case form of a unit. -/
def lower (n : Int) : Except Stop Int := do
  let c ← point n
  return simpleLower c.val

/-- The form under which a named comparison sees a unit. -/
def fold (m : Comparison) (n : Int) : Except Stop Int :=
  match m with
  | .exact => .ok n
  | .exactIgnoreCase => lower n

/-- Whether two units are equal or look the same to a named comparison. -/
def unitsEqual (m : Comparison) (a b : Int) : Except Stop Bool :=
  if a = b then .ok true
  else do
    let x ← fold m a
    let y ← fold m b
    return x == y

/-- Whether a unit is whitespace. Only what is in none of the ranges is looked up as a code point. -/
def whitespace (n : Int) : Except Stop Bool :=
  if (0x09 ≤ n ∧ n ≤ 0x0D) ∨ (0x1C ≤ n ∧ n ≤ 0x1F) then .ok true
  else if n = 0xA0 ∨ n = 0x2007 ∨ n = 0x202F then .ok false
  else do
    let c ← point n
    return isSeparator c.val

theorem lower_val (u : CodeUnit) : lower u.val = .ok (simpleLower u.val) := by
  rw [lower, point_val]
  rfl

theorem fold_val (m : Comparison) (u : CodeUnit) : fold m u.val = .ok (m.comparator.fold u.val) := by
  cases m with
  | exact => rfl
  | exactIgnoreCase => exact lower_val u

theorem whitespace_val (u : CodeUnit) : whitespace u.val = .ok (isWhitespace u.val) := by
  rw [whitespace, point_val, isWhitespace, inRanges, isNoBreakSpace]
  by_cases control : (0x09 ≤ u.val ∧ u.val ≤ 0x0D) ∨ (0x1C ≤ u.val ∧ u.val ≤ 0x1F)
  · rw [if_pos (by omega)]
    simp [control]
  · rw [if_neg (by omega)]
    by_cases noBreak : u.val = 0xA0 ∨ u.val = 0x2007 ∨ u.val = 0x202F
    · rw [if_pos (by omega)]
      rcases noBreak with h | h | h <;> rw [h] <;> rfl
    · rw [if_neg (by omega)]
      have breaking : (u.val == 0xA0 || u.val == 0x2007 || u.val == 0x202F) = false := by
        simp only [Bool.or_eq_false_iff, beq_eq_false_iff_ne]
        omega
      have plain : [(9, 13), (28, 31)].any
          (fun r => decide (r.1 ≤ u.val) && decide (u.val ≤ r.2)) = false := by
        simp only [List.any_cons, List.any_nil, Bool.or_eq_false_iff, Bool.and_eq_false_iff,
          decide_eq_false_iff_not, and_true]
        omega
      rw [breaking, plain, Bool.false_or, Bool.not_false, Bool.and_true]
      rfl

/-! ## Comparing -/

/-- The order of two sequences of units. -/
def compareUnits (m : Comparison) : List Int → List Int → Except Stop Int
  | a :: as, b :: bs =>
    if a = b then compareUnits m as bs
    else do
      let x ← fold m a
      let y ← fold m b
      if x = y then compareUnits m as bs else return x - y
  | as, bs => .ok ((as.length : Int) - (bs.length : Int))

/-- The order of two texts; an absent text comes first. -/
def compare (m : Comparison) : Option Text → Option Text → Except Stop Int
  | none, none => .ok 0
  | none, some _ => .ok (-1)
  | some _, none => .ok 1
  | some a, some b => compareUnits m a.unitValues b.unitValues

/-- Equality under a named comparison. -/
def equals (m : Comparison) : Option Text → Option Text → Except Stop Bool
  | some a, some b =>
    if m = .exact ∧ a = b then .ok true
    else if a.unitLength ≠ b.unitLength then .ok false
    else do return (← compare m (some a) (some b)) == 0
  | a, b => .ok (a.isNone && b.isNone)

/-- The comparison that a caller has chosen. The choice is looked up as a key; if it is none, that is
    noticed, and it is rejected like an unknown key. -/
def resolve : Comparison.Choice → Except Stop Comparison
  | .named m => .ok m
  | .absent => checked (Comparison.Choice.absent.resolve)
  | .unknown v =>
    match asKey v with
    | .ok _ | .error (.fault _) => checked (Comparison.Choice.unknown v).resolve
    | .error (.failure f) => .error (.failure f)

theorem compareUnits_map_val (m : Comparison) (as bs : List CodeUnit) :
    compareUnits m (as.map fun u => (u.val : Int)) (bs.map fun u => (u.val : Int)) =
      .ok (m.comparator.compareUnits as bs) := by
  induction as generalizing bs with
  | nil => cases bs <;> simp [compareUnits, Comparator.compareUnits]
  | cons a as ih =>
    cases bs with
    | nil => simp [compareUnits, Comparator.compareUnits]
    | cons b bs =>
      rw [List.map_cons, List.map_cons, compareUnits, ih, fold_val, fold_val,
        Comparator.compareUnits_cons]
      by_cases same : (a.val : Int) = b.val
      · have alike : a.val = b.val := by omega
        rw [if_pos same, if_pos (by rw [alike])]
      · rw [if_neg same]
        simp only [bind, Except.bind]
        split <;> rfl

theorem compare_eq (m : Comparison) (a b : Option Text) :
    compare m a b = .ok (m.comparator.compare a b) := by
  cases a with
  | none => cases b <;> rfl
  | some s =>
    cases b with
    | none => rfl
    | some t => exact compareUnits_map_val m s.units t.units

theorem equals_eq (m : Comparison) (a b : Option Text) : equals m a b = .ok (m.equals a b) := by
  cases a with
  | none => cases b <;> rfl
  | some s =>
    cases b with
    | none => rfl
    | some t =>
      rw [equals, Comparison.equals, compare_eq]
      split
      · rfl
      · split <;> rfl

/-- Cuts a text at code-unit positions. -/
def slice (t : Text) (start stop : Option Int) : Except Stop Text :=
  if t.hasSupplementary then pack (cut t.unitValues start stop) else .ok (cut t start stop)

theorem slice_eq (t : Text) (start stop : Option Int) :
    slice t start stop = .ok (t.sliceUnits start stop) := by
  rw [slice, Text.sliceUnits, Text.unitValues, cut_map, pack_map_val]
  split <;> rfl

/-! ## Walking along a text -/

/-- The first position from `start` on at which an entry does not satisfy `p`. -/
def scanLeft (p : CodePoint → Bool) (t : Text) (start : Nat) : Except Stop Nat :=
  if start < t.length then do
    let c ← entry t start
    if p c then scanLeft p t (start + 1) else return start
  else return start
termination_by t.length - start

/-- The position behind the last entry before `stop` that does not satisfy `p`. -/
def scanRight (p : CodePoint → Bool) (t : Text) : (stop : Nat) → Except Stop Nat
  | 0 => .ok 0
  | stop + 1 => do
    let c ← entry t stop
    if p c then scanRight p t stop else return stop + 1

/-- A text without the longest run at its start that satisfies `p`. -/
def dropLeft (p : CodePoint → Bool) (t : Text) : Except Stop Text := do
  let start ← scanLeft p t 0
  return if 0 < start then cut t (some start) none else t

/-- A text without the longest run at its end that satisfies `p`. -/
def dropRight (p : CodePoint → Bool) (t : Text) : Except Stop Text := do
  let stop ← scanRight p t t.length
  return if stop = t.length then t else cut t (some 0) (some stop)

theorem scanLeft_eq (p : CodePoint → Bool) (t : Text) (start : Nat) :
    scanLeft p t start = .ok (start + ((t.drop start).takeWhile p).length) := by
  induction h : t.length - start generalizing start with
  | zero =>
    rw [scanLeft, if_neg (by omega), List.drop_eq_nil_of_le (by omega)]
    rfl
  | succ n ih =>
    have inside : start < t.length := by omega
    have split : t.drop start = t[start] :: t.drop (start + 1) := List.drop_eq_getElem_cons inside
    rw [scanLeft, if_pos inside, entry_of_getElem? (List.getElem?_eq_getElem inside), split,
      List.takeWhile_cons]
    simp only [bind, Except.bind]
    split
    · rw [ih (start + 1) (by omega), List.length_cons, Nat.add_assoc, Nat.add_comm 1]
    · rfl

theorem dropLeft_eq (p : CodePoint → Bool) (t : Text) : dropLeft p t = .ok (t.dropWhile p) := by
  have rest : t.drop (t.takeWhile p).length = t.dropWhile p := by
    have whole : t.takeWhile p ++ t.dropWhile p = t := List.takeWhile_append_dropWhile
    calc t.drop (t.takeWhile p).length
        = (t.takeWhile p ++ t.dropWhile p).drop (t.takeWhile p).length := by rw [whole]
      _ = t.dropWhile p := List.drop_left
  rw [dropLeft, scanLeft_eq, List.drop_zero, Nat.zero_add]
  simp only [bind, Except.bind, cut_drop, rest]
  split
  · rfl
  · rename_i none
    rw [← rest, show (t.takeWhile p).length = 0 by omega]
    rfl

theorem dropWhileRight_append_singleton {α : Type} (p : α → Bool) (l : List α) (a : α) :
    dropWhileRight p (l ++ [a]) = if p a then dropWhileRight p l else l ++ [a] := by
  rw [dropWhileRight, List.reverse_append, List.reverse_singleton, List.singleton_append,
    List.dropWhile_cons]
  split
  · rfl
  · simp

theorem scanRight_eq (p : CodePoint → Bool) (t : Text) {stop : Nat} (inside : stop ≤ t.length) :
    scanRight p t stop = .ok (dropWhileRight p (t.take stop)).length := by
  induction stop with
  | zero => rfl
  | succ stop ih =>
    have last : t.take (stop + 1) = t.take stop ++ [t[stop]] := (List.take_append_getElem inside).symm
    rw [scanRight, entry_of_getElem? (List.getElem?_eq_getElem inside), last,
      dropWhileRight_append_singleton]
    simp only [bind, Except.bind]
    split
    · exact ih (by omega)
    · rw [← last, List.length_take, Nat.min_eq_left inside]
      rfl

theorem dropRight_eq (p : CodePoint → Bool) (t : Text) :
    dropRight p t = .ok (dropWhileRight p t) := by
  have front : dropWhileRight p t <+: t := by
    have back := List.dropWhile_suffix p (l := t.reverse)
    rw [dropWhileRight]
    exact List.reverse_suffix.mp (by rwa [List.reverse_reverse])
  rw [dropRight, scanRight_eq p t (Nat.le_refl _), List.take_length]
  simp only [bind, Except.bind, cut_take]
  split
  · rename_i whole
    rw [front.eq_of_length whole]
    rfl
  · rw [← List.prefix_iff_eq_take.mp front]
    rfl

/-- Removes the code points up to U+0020 at both ends. -/
def trim (t : Text) : Except Stop Text := do dropRight isTrimmed (← dropLeft isTrimmed t)

theorem trim_eq (t : Text) : trim t = .ok t.trim := by
  rw [trim, dropLeft_eq]
  exact dropRight_eq isTrimmed _

/-- Trims a text, changes it, and trims again with `again` if its length has changed. -/
def trimAround (again change : Text → Except Stop Text) (t : Text) : Except Stop Text := do
  let trimmed ← trim t
  let changed ← change trimmed
  if changed.length = trimmed.length then return trimmed else again changed

theorem trimAround_eq {again change : Text → Except Stop Text} {again' change' : Text → Text}
    (againOk : ∀ t, again t = .ok (again' t)) (changeOk : ∀ t, change t = .ok (change' t))
    (t : Text) : trimAround again change t = .ok (t.trimAround again' change') := by
  rw [trimAround, trim_eq]
  simp only [bind, Except.bind, changeOk, Text.trimAround]
  split
  · rfl
  · exact againOk _

end Stepwise

end UnitText
