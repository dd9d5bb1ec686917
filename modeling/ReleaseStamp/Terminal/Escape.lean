import ReleaseStamp.Text.Basic
/-!
# Escape sequences

A terminal shows most characters and takes the others as orders: the control characters, and the
sequences that an escape character begins.  `strip` leaves of a text what would be shown.  It reads
the text as a terminal does, so a sequence that does not end takes along all that follows it, and
white space in the middle of a sequence breaks the sequence off.

`strip_eq_self` says that a text without orders stays as it is.
-/
namespace ReleaseStamp.Terminal

/-- What a terminal is in the middle of. -/
inductive Phase where
  | text
  /-- An escape character has been met, and what it begins is not yet known. -/
  | escape
  /-- An escape sequence, up to a letter or digit. -/
  | sequence
  /-- A control sequence, up to a letter. -/
  | control
  /-- The head of a device control string: nothing of it yet. -/
  | device
  /-- The head of a device control string: parameters. -/
  | parameters
  /-- The head of a device control string: what follows the parameters. -/
  | intermediates
  /-- A string that a string terminator ends. -/
  | string
  /-- An operating system command, which a bell ends too. -/
  | command
  deriving DecidableEq

/-- White space that moves the cursor. -/
def isLayout (c : Char) : Bool := c = '\t' || c = '\n' || c = '\x0c' || c = '\r'

/-- Whether a character is shown where no sequence is under way. -/
def isShown (c : Char) : Bool := isLayout c || ('\x20' ≤ c && c != '\x7f')

/-- The byte that ends a string where a character is a single byte. -/
def stringTerminator : UInt8 := 0x9c

def isBetween (first last c : Char) : Bool := first ≤ c && c ≤ last

namespace Phase

/-- What a character after an escape character begins. -/
def afterEscape (c : Char) : Phase :=
  if c = '[' then .control
  else if c = ']' then .command
  else if c = 'P' then .device
  else if c = 'X' || c = '^' || c = '_' then .string
  else if isBetween ' ' '/' c then .sequence
  else if isBetween '0' '~' c then .text
  else .escape

/-- What a character goes on with that neither begins an escape sequence nor cancels all. -/
def advance : Phase → Char → Phase
  | .text, _ => .text
  | .escape, c => if isLayout c then .text else afterEscape c
  | .sequence, c => if isLayout c || isBetween '0' '~' c then .text else .sequence
  | .control, c => if isLayout c || isBetween '@' '~' c then .text else .control
  | .device, c =>
    if isBetween ' ' '/' c then .intermediates
    else if isBetween '0' '?' c then .parameters
    else if isBetween '@' '~' c then .string
    else .device
  | .parameters, c =>
    if isBetween ' ' '/' c then .intermediates
    else if isBetween '<' '~' c then .string
    else .parameters
  | .intermediates, c => if isBetween '0' '~' c then .string else .intermediates
  | .string, c => if (String.utf8EncodeChar c).contains stringTerminator then .text else .string
  | .command, c => if c = '\x07' then .text else .command

/-- An escape character starts afresh wherever it stands; cancel and substitute end everything. -/
def next (p : Phase) (c : Char) : Phase :=
  if c = '\x1b' then .escape
  else if c = '\x18' || c = '\x1a' then .text
  else p.advance c

/-- Whether a character is shown in a phase. -/
def shows : Phase → Char → Bool
  | .text, c => isShown c
  | .escape, c | .sequence, c | .control, c => isLayout c
  | _, _ => false

end Phase

/-- What is shown of a text that is met in a phase. -/
def stripFrom (p : Phase) : Text → Text
  | [] => []
  | c :: t => if p.shows c then c :: stripFrom (p.next c) t else stripFrom (p.next c) t

/-- What a terminal shows of a text. -/
def strip (t : Text) : Text := stripFrom .text t

theorem Phase.next_text_of_isShown {c : Char} (h : isShown c = true) :
    Phase.next .text c = .text := by
  unfold next
  split
  · next he => subst he; revert h; decide
  · split <;> rfl

theorem strip_eq_self : ∀ {t : Text}, (∀ c ∈ t, isShown c = true) → strip t = t
  | [], _ => rfl
  | c :: t, h => by
    have hc := h c (List.mem_cons_self ..)
    have ih : strip t = t := strip_eq_self fun d hd => h d (List.mem_cons_of_mem c hd)
    unfold strip at ih
    simp only [strip, stripFrom, Phase.shows, hc, if_true, Phase.next_text_of_isShown hc, ih]

end ReleaseStamp.Terminal
