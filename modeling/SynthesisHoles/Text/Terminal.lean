/-!
# Visible text of a terminal

A terminal shows some characters and obeys others: a control has an effect of its own, and an escape
sequence is a run of characters that begins with the escape character and is obeyed as a whole.
This module keeps of a text what a terminal would show of it.

How far a sequence reaches depends on its kind, so the text is read from the left, with a mode that
says inside what kind of sequence the reader stands. Tabs, line feeds, form feeds and carriage
returns are shown even inside a sequence of the shorter kinds, and so is the plain text that follows
such a character without a break.

Nothing is added and nothing is moved, every shown character is plain, and a text of plain
characters is shown as it stands.
-/

namespace SynthesisHoles.Text

/-- Whether a character is one of the two given ones or stands between them. -/
def isBetween (low high character : Char) : Bool :=
  low ≤ character && character ≤ high

/-- The controls that move the cursor over blank space. -/
def isBlankControl (character : Char) : Bool :=
  character == '\t' || character == '\n' || character == '\x0c' || character == '\r'

/-- The characters outside the first 128, none of which is a control here. -/
def isBeyondAscii (character : Char) : Bool :=
  '\x80' ≤ character

/-- What a terminal shows outside every escape sequence. -/
def isPlain (character : Char) : Bool :=
  isBetween ' ' '~' character || isBlankControl character || isBeyondAscii character

/-- Whether the encoding of the character holds the one byte that closes a control string. -/
def closesControlString (character : Char) : Bool :=
  (String.utf8EncodeChar character).contains 0x9c

/-- Where the reader of a terminal stands. -/
inductive TerminalMode
  /-- Outside every sequence. -/
  | ground
  /-- Behind the escape character. -/
  | escape
  /-- In a sequence of the shortest kind, before its last character. -/
  | escapeIntermediate
  /-- In a control sequence, before its last character. -/
  | controlSequence
  /-- At the beginning of the head of a device control string. -/
  | deviceEntry
  /-- Among the parameters of a device control string. -/
  | deviceParameters
  /-- At the end of the head of a device control string. -/
  | deviceIntermediate
  /-- In a string that is swallowed whole. -/
  | controlString
  /-- In a command to the system that the terminal runs in. -/
  | systemCommand
  deriving DecidableEq

namespace TerminalMode

/-- The mode that the character behind an escape character leads to. -/
def afterEscape (character : Char) : TerminalMode :=
  if isBetween ' ' '/' character then .escapeIntermediate
  else if character == '[' then .controlSequence
  else if character == ']' then .systemCommand
  else if character == 'P' then .deviceEntry
  else if character == 'X' || character == '^' || character == '_' then .controlString
  else if isBetween '0' '~' character then .ground
  else .escape

/-- The mode that a character in the head of a device control string leads to. -/
def afterDevice (mode : TerminalMode) (character : Char) : TerminalMode :=
  if isBetween '@' '~' character then .controlString
  else if isBetween ' ' '/' character then .deviceIntermediate
  else if isBetween '0' '?' character then
    match mode with
    | .deviceEntry => .deviceParameters
    | .deviceParameters =>
        if isBetween '0' '9' character || character == ';' then .deviceParameters
        else .controlString
    | _ => .controlString
  else mode

/-- Two controls cancel every sequence, and the escape character begins one in every mode. -/
def next (mode : TerminalMode) (character : Char) : TerminalMode :=
  if character == '\x18' || character == '\x1a' then .ground
  else if character == '\x1b' then .escape
  else
    match mode with
    | .ground => .ground
    | .escape => afterEscape character
    | .escapeIntermediate => if isBetween '0' '~' character then .ground else mode
    | .controlSequence => if isBetween '@' '~' character then .ground else mode
    | .deviceEntry => afterDevice mode character
    | .deviceParameters => afterDevice mode character
    | .deviceIntermediate => afterDevice mode character
    | .controlString => if closesControlString character then .ground else mode
    | .systemCommand => if character == '\x07' then .ground else mode

/-- Whether the character is shown in the mode. -/
def shows (mode : TerminalMode) (character : Char) : Bool :=
  match mode with
  | .ground => isPlain character
  | .escape => isBlankControl character
  | .escapeIntermediate => isBlankControl character
  | .controlSequence => isBlankControl character
  | .deviceEntry => false
  | .deviceParameters => false
  | .deviceIntermediate => false
  | .controlString => false
  | .systemCommand => false

end TerminalMode

/-- The reader of a terminal. -/
structure TerminalReader where
  /-- Where it stands. -/
  mode : TerminalMode
  /-- Whether the last character was shown, so that plain text is shown whatever the mode. -/
  isShowing : Bool
  deriving DecidableEq

namespace TerminalReader

/-- A reader outside every sequence. -/
def start : TerminalReader :=
  ⟨.ground, false⟩

/-- Whether the character is shown. -/
def shows (reader : TerminalReader) (character : Char) : Bool :=
  (reader.isShowing && isPlain character) || reader.mode.shows character

/--
The reader behind a character. Plain text within a run of shown text leaves the mode alone, except
that a character beyond the first 128 leads out of every sequence.
-/
def next (reader : TerminalReader) (character : Char) : TerminalReader :=
  if reader.isShowing && isPlain character then
    ⟨if isBeyondAscii character then .ground else reader.mode, true⟩
  else
    ⟨reader.mode.next character, reader.mode.shows character⟩

/-- What the reader shows of a text. -/
def visible (reader : TerminalReader) : List Char → List Char
  | [] => []
  | character :: rest =>
      if reader.shows character then
        character :: (reader.next character).visible rest
      else
        (reader.next character).visible rest

end TerminalReader

/-- What a terminal shows of a text. -/
def visibleText (text : String) : String :=
  String.ofList (TerminalReader.start.visible text.toList)

theorem isPlain_of_isBlankControl
    {character : Char}
    (blank : isBlankControl character = true) :
    isPlain character = true := by
  simp [isPlain, blank]

theorem TerminalMode.isPlain_of_shows
    {mode : TerminalMode}
    {character : Char}
    (shown : mode.shows character = true) :
    isPlain character = true := by
  cases mode <;> simp [TerminalMode.shows] at shown
  · exact shown
  all_goals exact isPlain_of_isBlankControl shown

namespace TerminalReader

theorem isPlain_of_shows
    {reader : TerminalReader}
    {character : Char}
    (shown : reader.shows character = true) :
    isPlain character = true := by
  simp only [shows, Bool.or_eq_true, Bool.and_eq_true] at shown
  rcases shown with ⟨_, plain⟩ | shown
  · exact plain
  · exact TerminalMode.isPlain_of_shows shown

theorem visible_sublist
    (reader : TerminalReader)
    (text : List Char) :
    (reader.visible text).Sublist text := by
  induction text generalizing reader with
  | nil => exact List.Sublist.slnil
  | cons character rest ih =>
      unfold visible
      split
      · exact (ih _).cons_cons character
      · exact (ih _).cons character

theorem isPlain_of_mem_visible
    {reader : TerminalReader}
    {text : List Char}
    {character : Char}
    (member : character ∈ reader.visible text) :
    isPlain character = true := by
  induction text generalizing reader with
  | nil => simp [visible] at member
  | cons first rest ih =>
      unfold visible at member
      split at member
      next shown =>
        rcases List.mem_cons.1 member with rfl | later
        · exact isPlain_of_shows shown
        · exact ih later
      next => exact ih member

theorem next_mode_of_plain
    {reader : TerminalReader}
    {character : Char}
    (outside : reader.mode = .ground)
    (plain : isPlain character = true) :
    (reader.next character).mode = .ground := by
  have notEscape : character ≠ '\x1b' := by
    rintro rfl
    exact absurd plain (by decide)
  unfold next
  split
  · split
    · rfl
    · exact outside
  · simp [TerminalMode.next, outside, notEscape]

theorem visible_eq_of_plain
    {reader : TerminalReader}
    {text : List Char}
    (outside : reader.mode = .ground)
    (plain : ∀ character ∈ text, isPlain character = true) :
    reader.visible text = text := by
  induction text generalizing reader with
  | nil => rfl
  | cons first rest ih =>
      have firstPlain := plain first List.mem_cons_self
      have shown : reader.shows first = true := by
        simp [shows, outside, TerminalMode.shows, firstPlain]
      have restPlain : ∀ character ∈ rest, isPlain character = true :=
        fun character member => plain character (List.mem_cons_of_mem first member)
      simp [visible, shown, ih (next_mode_of_plain outside firstPlain) restPlain]

end TerminalReader

theorem visibleText_eq_of_plain
    {text : String}
    (plain : ∀ character ∈ text.toList, isPlain character = true) :
    visibleText text = text := by
  have outside : TerminalReader.start.mode = .ground := rfl
  simp [visibleText, TerminalReader.visible_eq_of_plain outside plain]

end SynthesisHoles.Text
