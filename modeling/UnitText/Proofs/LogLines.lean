import UnitText.Log.Line
import UnitText.Proofs.EscapeForms
import UnitText.Proofs.Segments

/-!
# Messages on log lines

A message is escaped before it is written, so nothing in it can end its line, and a log of such
lines is read back: cut at the newlines it gives the lines, and each line gives the units of its
message. The name of a rejected argument is put behind the message as it stands, and can break the
line.
-/

namespace UnitText

/-- The code points at which readers of a text may break it into lines. -/
def isLineBreak (n : Nat) : Bool :=
  inRanges [(0x0A, 0x0D), (0x1C, 0x1E), (0x85, 0x85), (0x2028, 0x2029)] n

/-- Whether a code point is a control or breaks a line. -/
def CodePoint.breaksLine (c : CodePoint) : Bool := isIsoControl c.val || isLineBreak c.val

theorem isLineBreak_iff (n : Nat) : isLineBreak n = true ↔
    (0x0A ≤ n ∧ n ≤ 0x0D) ∨ (0x1C ≤ n ∧ n ≤ 0x1E) ∨ n = 0x85 ∨ n = 0x2028 ∨ n = 0x2029 := by
  simp only [isLineBreak, inRanges_iff, List.exists_mem_cons_iff, List.not_mem_nil, false_and,
    exists_false, or_false]
  omega

theorem CodePoint.breaksLine_iff (c : CodePoint) : c.breaksLine = true ↔
    c.val ≤ 0x1F ∨ (0x7F ≤ c.val ∧ c.val ≤ 0x9F) ∨ c.val = 0x2028 ∨ c.val = 0x2029 := by
  simp only [breaksLine, Bool.or_eq_true, isIsoControl_iff, isLineBreak_iff]
  omega

/-- Whether a text has neither controls nor line breaks. -/
def Text.isUnbroken (t : Text) : Bool := t.all fun c => !c.breaksLine

@[simp] theorem Text.isUnbroken_append (s t : Text) :
    isUnbroken (s ++ t) = (s.isUnbroken && t.isUnbroken) := List.all_append

/-- Nothing that a message is written with breaks a line, or is a surrogate. -/
theorem Text.breaksLine_of_mem_escapeMessage {t : Text} {c : CodePoint}
    (member : c ∈ t.escapeMessage) : c.breaksLine = false ∧ isSurrogate c.val = false := by
  have range := range_of_mem_escapeMessage member
  constructor
  · rw [← Bool.not_eq_true, CodePoint.breaksLine_iff]
    omega
  · simp only [isSurrogate, Bool.and_eq_false_iff, decide_eq_false_iff_not]
    omega

theorem Text.isUnbroken_escapeMessage (t : Text) : t.escapeMessage.isUnbroken = true := by
  rw [isUnbroken, List.all_eq_true]
  intro c member
  rw [(breaksLine_of_mem_escapeMessage member).1]
  rfl

/-! ## Lines -/

/-- The text of a log, in which a newline ends every line. -/
def logText (lines : List Text) : Text := lines.flatMap fun line => line ++ [0x0A]

/-- Whether a code point is the one that ends the lines of a log. -/
def isNewline (c : CodePoint) : Bool := c == 0x0A

/-- Lines without a newline of their own are what lies between the newlines of the log; behind the
    last newline there is nothing. -/
theorem segments_logText {lines : List Text}
    (inside : ∀ line ∈ lines, ∀ c ∈ line, isNewline c = false) :
    segments isNewline (logText lines) = lines ++ [[]] := by
  induction lines with
  | nil => rfl
  | cons line lines ih =>
    have first := inside line (List.mem_cons_self ..)
    have rest := ih fun other member => inside other (List.mem_cons_of_mem line member)
    rw [logText, List.flatMap_cons, List.append_assoc, List.singleton_append,
      segments_append_cons first rfl]
    exact congrArg (line :: ·) rest

/-! ## Records without a trace -/

namespace Record

/-- A record that reports no exception, and comes with no text of one and no stack. -/
structure IsPlain (r : Record) : Prop where
  reported : r.reported = none
  exceptionText : r.exceptionText.getD [] = []
  stackText : r.stackText.getD [] = []

/-- Records without a trace, and the messages that their templates are filled to. -/
def Filled (rs : List Record) (ms : List Text) : Prop :=
  List.Forall₂ (fun r m => r.IsPlain ∧ r.text = .ok m) rs ms

/-- The lines of records that are written as their messages alone. -/
def bareLines (rs : List Record) : Except FormatError (List Text) := rs.mapM fun r => r.toLine .bare

/-- The text of the log that these lines make. -/
def bareLog (rs : List Record) : Except FormatError Text := (bareLines rs).map logText

theorem withLines_bare (r : Record) (message : Text) : r.withLines .bare message =
    addLines (addLines message r.exceptionLines) (r.stackText.getD []) := by
  rw [withLines, LineStyle.bare, List.flatMap_cons, List.flatMap_nil, List.append_nil]
  rfl

theorem exceptionLines_of_isPlain {r : Record} (plain : r.IsPlain) : r.exceptionLines = [] := by
  have absent := plain.exceptionText
  unfold exceptionLines
  split
  · rename_i c rest found
    rw [found] at absent
    cases absent
  · rw [plain.reported]
    rfl

/-- The copy is filled in again, without arguments: a percent sign in the message stays one. -/
theorem text_escaped (r : Record) (m : Text) : (r.escaped m).text = .ok (r.lineMessage m) := rfl

/-- A text line shows the escaped message as it was made, although the copy is filled in again. -/
theorem toLine_eq_ite {r : Record} {m : Text} (filled : r.text = .ok m) (style : LineStyle) :
    r.toLine style =
      if style.all r.canShow then .ok (r.withLines style (r.lineMessage m))
      else .error (.template .longNumeral) := by
  have shown : (r.escaped m).canShow = r.canShow := by
    funext part
    cases part <;> rfl
  have lines : (r.escaped m).withLines style = r.withLines style := by
    have parts (message : Text) : (r.escaped m).linePart message = r.linePart message := by
      funext part
      cases part <;> rfl
    funext message
    rw [withLines, withLines, parts]
    rfl
  rw [toLine, filled]
  simp only
  rw [format, text_escaped]
  simp only
  rw [shown, lines]

theorem toLine_bare {r : Record} {m : Text} (filled : r.text = .ok m) :
    r.toLine .bare = .ok (r.withLines .bare (r.lineMessage m)) := toLine_eq_ite filled .bare

/-- The line of a plain record is its message, filled in and then escaped. -/
theorem toLine_bare_of_isPlain {r : Record} {m : Text} (plain : r.IsPlain) (filled : r.text = .ok m) :
    r.toLine .bare = .ok m.escapeMessage := by
  have unnamed : r.argument? = none := by rw [argument?, plain.reported]; rfl
  have message : r.lineMessage m = m.escapeMessage := by simp only [lineMessage, unnamed]
  rw [toLine_bare filled, withLines_bare, exceptionLines_of_isPlain plain, plain.stackText, message]
  rfl

theorem bareLines_of_filled {rs : List Record} {ms : List Text} (filled : Filled rs ms) :
    bareLines rs = .ok (ms.map Text.escapeMessage) := by
  unfold bareLines
  induction filled with
  | nil => rfl
  | cons first rest ih =>
    rw [List.mapM_cons, toLine_bare_of_isPlain first.1 first.2, ih]
    rfl

theorem bareLog_of_filled {rs : List Record} {ms : List Text} (filled : Filled rs ms) :
    bareLog rs = .ok (logText (ms.map Text.escapeMessage)) := by
  rw [bareLog, bareLines_of_filled filled]
  rfl

end Record

theorem segments_logText_escapeMessage (ms : List Text) :
    segments isNewline (logText (ms.map Text.escapeMessage)) = ms.map Text.escapeMessage ++ [[]] := by
  apply segments_logText
  intro line member c inLine
  obtain ⟨m, _, rfl⟩ := List.mem_map.mp member
  have unbroken := (Text.breaksLine_of_mem_escapeMessage inLine).1
  rw [isNewline, beq_eq_false_iff_ne]
  rintro rfl
  cases unbroken

theorem map_escapeMessage_inj (ms ms' : List Text) :
    ms.map Text.escapeMessage = ms'.map Text.escapeMessage ↔
      ms.map Text.units = ms'.map Text.units := by
  induction ms generalizing ms' with
  | nil => cases ms' <;> simp
  | cons m ms ih =>
    cases ms' with
    | nil => simp
    | cons m' ms' => simp only [List.map_cons, List.cons.injEq, Text.escapeMessage_inj, ih]

namespace Record

/-- A log of messages can be read back. Every record without a trace whose template can be filled
    gives a line, its escaped message, in which nothing is a surrogate, a control or a line break.
    Cut at the newlines the log gives these lines again, and two logs are the same text exactly when
    they have equally many messages, which have the same units one by one. -/
theorem bareLog_decodable :
    (∀ (rs : List Record) (ms : List Text), Filled rs ms → ∃ lines : List Text,
      bareLines rs = .ok lines ∧ lines = ms.map Text.escapeMessage ∧
      (∀ line ∈ lines, ∀ c ∈ line, isSurrogate c.val = false ∧ isIsoControl c.val = false ∧
        isLineBreak c.val = false) ∧
      bareLog rs = .ok (logText lines) ∧ segments isNewline (logText lines) = lines ++ [[]]) ∧
    (∀ (rs rs' : List Record) (ms ms' : List Text), Filled rs ms → Filled rs' ms' →
      (bareLog rs = bareLog rs' ↔ ms.map Text.units = ms'.map Text.units)) := by
  constructor
  · intro rs ms filled
    refine ⟨_, bareLines_of_filled filled, rfl, ?_, bareLog_of_filled filled,
      segments_logText_escapeMessage ms⟩
    intro line member c inLine
    obtain ⟨m, _, rfl⟩ := List.mem_map.mp member
    obtain ⟨unbroken, single⟩ := Text.breaksLine_of_mem_escapeMessage inLine
    rw [CodePoint.breaksLine, Bool.or_eq_false_iff] at unbroken
    exact ⟨single, unbroken⟩
  · intro rs rs' ms ms' filled filled'
    rw [bareLog_of_filled filled, bareLog_of_filled filled', Except.ok.injEq,
      ← map_escapeMessage_inj]
    constructor
    · intro same
      have cut := congrArg (segments isNewline) same
      rw [segments_logText_escapeMessage, segments_logText_escapeMessage] at cut
      exact List.append_cancel_right cut
    · intro same
      rw [same]

/-- A warning that carries nothing but a message. -/
def warning (template : Text) (arguments : List Value) : Record where
  name := .text (UnitText.text "ordtext")
  levelName := .text (weightName Level.warning.weight)
  message := .text template
  arguments
  moment := .ofMicroseconds 0
  reported := none
  exceptionText := none
  stackText := none
  attributes := []

/-- A percent sign that an argument brings in, a line end, and a pair in both of its spellings. -/
theorem bareLog_decodable_percent :
    let filledIn := warning (UnitText.text "%s%%\n") [.text [0x1F600, 0x25]]
    let asItStands := warning [0xD83D, 0xDE00, 0x25, 0x25, 0x0A] []
    Filled [filledIn] [[0x1F600, 0x25, 0x25, 0x0A]] ∧
    Filled [asItStands] [[0xD83D, 0xDE00, 0x25, 0x25, 0x0A]] ∧
    bareLines [filledIn] = .ok [UnitText.text "\\ud83d\\ude00%%\\n"] ∧
    bareLog [filledIn] = bareLog [asItStands] := by
  intro filledIn asItStands
  have first : Filled [filledIn] [[0x1F600, 0x25, 0x25, 0x0A]] := .cons ⟨⟨rfl, rfl, rfl⟩, rfl⟩ .nil
  have second : Filled [asItStands] [[0xD83D, 0xDE00, 0x25, 0x25, 0x0A]] :=
    .cons ⟨⟨rfl, rfl, rfl⟩, rfl⟩ .nil
  have line : [[0x1F600, 0x25, 0x25, 0x0A]].map Text.escapeMessage =
      [UnitText.text "\\ud83d\\ude00%%\\n"] := by decide +kernel
  obtain ⟨lines, written, escaped, _⟩ := bareLog_decodable.1 _ _ first
  refine ⟨first, second, ?_, (bareLog_decodable.2 _ _ _ _ first second).mpr (by decide)⟩
  rw [written, escaped, line]

/-! ## Records that report a rejected argument -/

theorem addLines_of_ne_nil {line added : Text} (nonempty : added ≠ [])
    (unended : line.getLast? ≠ some 0x0A) : addLines line added = line ++ 0x0A :: added := by
  rw [addLines, if_neg (by simpa using nonempty), if_neg unended, List.append_assoc]
  rfl

theorem exists_addLines (line added : Text) : ∃ after, addLines line added = line ++ after := by
  unfold addLines
  split
  · exact ⟨[], (List.append_nil line).symm⟩
  · split
    · exact ⟨added, rfl⟩
    · exact ⟨0x0A :: added, by rw [List.append_assoc]; rfl⟩

section Argument

variable {r : Record} {m name : Text}

theorem exceptionLines_ne_nil (named : r.argument? = some name) : r.exceptionLines ≠ [] := by
  obtain ⟨e, reported, _⟩ := Option.bind_eq_some_iff.mp named
  unfold exceptionLines
  split
  · exact List.cons_ne_nil _ _
  · rw [reported]
    exact e.nonempty

theorem lineMessage_of_argument (named : r.argument? = some name) :
    r.lineMessage m = m.escapeMessage ++ UnitText.text " [argument=" ++ name
      ++ UnitText.text "]" := by
  simp only [lineMessage, named]

/-- The message part of a line ends before a newline, with which the text of the exception begins. -/
theorem toLine_bare_of_argument (filled : r.text = .ok m) (named : r.argument? = some name) :
    ∃ after, r.toLine .bare = .ok (r.lineMessage m ++ 0x0A :: (r.exceptionLines ++ after)) := by
  have bracket : (r.lineMessage m).getLast? ≠ some 0x0A := by
    have last : (UnitText.text "]").getLast? = some 0x5D := by decide
    rw [lineMessage_of_argument named, List.getLast?_append, last, Option.some_or]
    decide
  obtain ⟨after, stack⟩ := exists_addLines (r.lineMessage m ++ 0x0A :: r.exceptionLines)
    (r.stackText.getD [])
  refine ⟨after, ?_⟩
  rw [toLine_bare filled, withLines_bare,
    addLines_of_ne_nil (exceptionLines_ne_nil named) bracket, stack, List.append_assoc]
  rfl

/-- All that can break the message part is the name of the argument. -/
theorem isUnbroken_lineMessage (named : r.argument? = some name) :
    (r.lineMessage m).isUnbroken = name.isUnbroken := by
  have opening : (UnitText.text " [argument=").isUnbroken = true := by decide
  have closing : (UnitText.text "]").isUnbroken = true := by decide
  rw [lineMessage_of_argument named]
  simp only [Text.isUnbroken_append, Text.isUnbroken_escapeMessage, opening, closing, Bool.true_and,
    Bool.and_true]

end Argument

/-- The line of a record that reports a rejected argument, with whatever trace, begins with a message
    part, which a newline and the text of the exception follow. The message is escaped in it and the
    name of the argument is not, so the part is free of controls and line breaks exactly when the name
    is. -/
theorem isUnbroken_message_part (r : Record) (m name : Text) (filled : r.text = .ok m)
    (named : r.argument? = some name) :
    ∃ part after : Text, r.toLine .bare = .ok (part ++ 0x0A :: (r.exceptionLines ++ after)) ∧
      part = m.escapeMessage ++ UnitText.text " [argument=" ++ name ++ UnitText.text "]" ∧
      part.isUnbroken = name.isUnbroken := by
  obtain ⟨after, line⟩ := toLine_bare_of_argument filled named
  exact ⟨r.lineMessage m, after, line, lineMessage_of_argument named, isUnbroken_lineMessage named⟩

/-- A warning about a value, with a report of a rejected argument. -/
def rejecting (argument : Text) : Record :=
  { warning (UnitText.text "value %s") [.text (UnitText.text "x\n")] with
    reported := some (.argument (.of argument none)) }

/-- An argument whose name is a word leaves the message part on one line. -/
theorem message_part_unbroken_word :
    (rejecting (UnitText.text "prefix")).text = .ok (UnitText.text "value x\n") ∧
    ∃ part after : Text, (rejecting (UnitText.text "prefix")).toLine .bare =
        .ok (part ++ 0x0A :: ((rejecting (UnitText.text "prefix")).exceptionLines ++ after)) ∧
      part.isUnbroken = true := by
  have filled : (rejecting (UnitText.text "prefix")).text = .ok (UnitText.text "value x\n") := by rfl
  obtain ⟨part, after, line, _, unbroken⟩ := isUnbroken_message_part _ _ _ filled rfl
  exact ⟨filled, part, after, line, unbroken.trans (by decide)⟩

/-- A line end in the name of an argument breaks the message part. -/
theorem message_part_broken_by_name :
    (rejecting (UnitText.text "p\nq")).text = .ok (UnitText.text "value x\n") ∧
    (rejecting (UnitText.text "p\nq")).toLine .bare =
      .ok (UnitText.text "value x\\n [argument=p\nq]" ++ 0x0A ::
        (rejecting (UnitText.text "p\nq")).exceptionLines) ∧
    (UnitText.text "value x\\n [argument=p\nq]").isUnbroken = false := by
  have filled : (rejecting (UnitText.text "p\nq")).text = .ok (UnitText.text "value x\n") := by rfl
  exact ⟨filled, (toLine_bare filled).trans (congrArg Except.ok (by decide)), by decide⟩

end Record

end UnitText
