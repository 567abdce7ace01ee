import PacketLink.Text.Quoted

/-!
# Text for a terminal

* `steersTerminal`: the control characters that make a terminal do something besides moving on:
  the bell, backspace, form feed, escape and delete, and the controls above ASCII.
* `forTerminal`: text in which these characters are escaped, so that it cannot pass itself off as
  something else on a screen. Tabs, line ends and all other characters stay as they are.
-/

namespace PacketLink.Text

/-- Whether a terminal acts on a character. -/
def steersTerminal (c : Char) : Bool :=
  c = '\x07' || c = '\x08' || c = '\x0C' || c = '\x1B' || (0x7F ≤ c.toNat && c.toNat ≤ 0x9F)

/-- The escape of an ASCII character by two hexadecimal digits. -/
def byteEscape (c : Char) : List Char :=
  ['\\', 'x', Nat.digitChar (c.toNat / 16), Nat.digitChar (c.toNat % 16)]

/-- How one character is written for a terminal. -/
def terminalEscape (c : Char) : List Char :=
  if steersTerminal c then (if c.toNat < 0x80 then byteEscape c else codePointEscape c) else [c]

/-- The text with everything escaped that a terminal would act on. -/
def forTerminal (s : String) : String := String.ofList (s.toList.flatMap terminalEscape)

end PacketLink.Text
