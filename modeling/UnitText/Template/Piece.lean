import UnitText.Text.Numeral

/-!
# The pieces of a template

A template is text with directives. A directive begins with a percent sign and may have a key in
parentheses, flags, a width, a precision and a length letter before the conversion. `pieces` reads a
template one code point at a time; a directive that the end of the template cuts short is kept as it
is, since what it asks for before the cut still counts.
-/

namespace UnitText.Template

/-- The key of a directive. -/
inductive Key where
  | absent
  | named (key : Text)
  /-- A parenthesis that is not closed. -/
  | unclosed
deriving DecidableEq, Repr

/-- A width or a precision. -/
inductive Amount where
  | absent
  | fixed (n : Nat)
  | argument
deriving DecidableEq, Repr

/-- The flags of a directive. -/
structure Flags where
  left : Bool := false
  plus : Bool := false
  space : Bool := false
  alternate : Bool := false
  zero : Bool := false
deriving DecidableEq, Repr

/-- A directive. Without a conversion it is cut short. -/
structure Directive where
  key : Key := .absent
  flags : Flags := {}
  width : Amount := .absent
  precision : Amount := .absent
  /-- The conversion, and its place in the template. -/
  conversion : Option (CodePoint × Nat) := none
deriving DecidableEq, Repr

/-- A piece of a template. -/
inductive Piece where
  | literal (c : CodePoint)
  | directive (d : Directive)
deriving DecidableEq, Repr

/-- The part of a template that is being read. -/
inductive Scan where
  | outside
  | opened
  /-- Within a key: how many parentheses are open, and the key so far, last code point first. -/
  | key (depth : Nat) (reversed : Text)
  | flags (d : Directive)
  | width (d : Directive) (n : Nat)
  | afterWidth (d : Directive)
  | point (d : Directive)
  | precision (d : Directive) (n : Nat)
  | afterPrecision (d : Directive)
  | afterLength (d : Directive)

namespace Directive

/-- The conversion ends a directive. -/
def conclude (d : Directive) (c : CodePoint) (position : Nat) : Scan × List Piece :=
  (.outside, [.directive { d with conversion := some (c, position) }])

/-- A length letter, or else the conversion. -/
def readLength (d : Directive) (c : CodePoint) (position : Nat) : Scan × List Piece :=
  if c.val = 0x68 ∨ c.val = 0x6C ∨ c.val = 0x4C then (.afterLength d, [])
  else d.conclude c position

/-- The point before a precision, or else what may follow. -/
def readPoint (d : Directive) (c : CodePoint) (position : Nat) : Scan × List Piece :=
  if c.val = 0x2E then (.point { d with precision := .fixed 0 }, []) else d.readLength c position

/-- The first code point of a precision, or else what may follow. -/
def readPrecision (d : Directive) (c : CodePoint) (position : Nat) : Scan × List Piece :=
  if c.val = 0x2A then (.afterPrecision { d with precision := .argument }, [])
  else
    match asciiDigit? c with
    | some n => (.precision { d with precision := .fixed n } n, [])
    | none => d.readLength c position

/-- The first code point of a width, or else what may follow. -/
def readWidth (d : Directive) (c : CodePoint) (position : Nat) : Scan × List Piece :=
  if c.val = 0x2A then (.afterWidth { d with width := .argument }, [])
  else
    match asciiDigit? c with
    | some n => (.width { d with width := .fixed n } n, [])
    | none => d.readPoint c position

/-- A flag, or else what may follow. -/
def readFlag (d : Directive) (c : CodePoint) (position : Nat) : Scan × List Piece :=
  if c.val = 0x2D then (.flags { d with flags.left := true }, [])
  else if c.val = 0x2B then (.flags { d with flags.plus := true }, [])
  else if c.val = 0x20 then (.flags { d with flags.space := true }, [])
  else if c.val = 0x23 then (.flags { d with flags.alternate := true }, [])
  else if c.val = 0x30 then (.flags { d with flags.zero := true }, [])
  else d.readWidth c position

end Directive

/-- Reads one code point, at its place in the template. -/
def Scan.step (c : CodePoint) (position : Nat) : Scan → Scan × List Piece
  | .outside => if c.val = 0x25 then (.opened, []) else (.outside, [.literal c])
  | .opened =>
    if c.val = 0x25 then (.outside, [.literal c])
    else if c.val = 0x28 then (.key 1 [], [])
    else Directive.readFlag {} c position
  | .key depth reversed =>
    if c.val = 0x29 ∧ depth = 1 then (.flags { key := .named reversed.reverse }, [])
    else if c.val = 0x29 then (.key (depth - 1) (c :: reversed), [])
    else if c.val = 0x28 then (.key (depth + 1) (c :: reversed), [])
    else (.key depth (c :: reversed), [])
  | .flags d => d.readFlag c position
  | .width d n =>
    match asciiDigit? c with
    | some digit => (.width { d with width := .fixed (10 * n + digit) } (10 * n + digit), [])
    | none => d.readPoint c position
  | .afterWidth d => d.readPoint c position
  | .point d => d.readPrecision c position
  | .precision d n =>
    match asciiDigit? c with
    | some digit =>
      (.precision { d with precision := .fixed (10 * n + digit) } (10 * n + digit), [])
    | none => d.readLength c position
  | .afterPrecision d => d.readLength c position
  | .afterLength d => d.conclude c position

/-- The directive that the end of the template cuts short. -/
def Scan.finish : Scan → List Piece
  | .outside => []
  | .opened => [.directive {}]
  | .key _ _ => [.directive { key := .unclosed }]
  | .flags d | .width d _ | .afterWidth d | .point d | .precision d _ | .afterPrecision d
  | .afterLength d => [.directive d]

/-- The pieces of the rest of a template. -/
def piecesFrom (scan : Scan) (position : Nat) : Text → List Piece
  | [] => scan.finish
  | c :: rest =>
    let (next, made) := scan.step c position
    made ++ piecesFrom next (position + 1) rest

/-- The pieces of a template. -/
def pieces (template : Text) : List Piece := piecesFrom .outside 0 template

end UnitText.Template
