import GridRobot.Text.Basic

/-! # Characters of settings files

Line ends are line feeds here, and three more characters end a line. The null character does not
occur in a text, so it stands for the end of the text. -/

namespace GridRobot.Yaml

/-- The character ends a line. -/
def isBreak (c : Char) : Bool :=
  c = '\n' || c = '\x85' || c = '\u2028' || c = '\u2029'

/-- The character ends a line or the text. -/
def isLineEnd (c : Char) : Bool :=
  c = '\x00' || isBreak c

/-- The character is a space or ends a line or the text. -/
def isSpaceOrEnd (c : Char) : Bool :=
  c = ' ' || isLineEnd c

/-- The character is a space or a tab. -/
def isSpaceOrTab (c : Char) : Bool :=
  c = ' ' || c = '\t'

/-- The character is blank or ends a line or the text. -/
def isBlankOrEnd (c : Char) : Bool :=
  c = '\t' || isSpaceOrEnd c

/-- The character may stand in the name of an anchor or of a tag handle. -/
def isNameChar (c : Char) : Bool :=
  c.isAlphanum || c = '-' || c = '_'

/-- The character may stand in the text of a tag. -/
def isTagChar (c : Char) : Bool :=
  c.isAlphanum || "-;/?:@&=+$,_.!~*'()[]%".toList.contains c

/-- The characters that a settings file may hold. -/
def printable : Text.CodeRanges :=
  [(0x09, 0x0A), (0x0D, 0x0D), (0x20, 0x7E), (0x85, 0x85), (0xA0, 0xD7FF), (0xE000, 0xFFFD),
    (0x10000, 0x10FFFF)]

/-- The first of a run of breaks is a space if no other follows, and is dropped otherwise. The two
separators of lines and of paragraphs are kept. -/
def joined (first more : Text) : Text :=
  if first ≠ ['\n'] then first ++ more
  else if more = [] then [' ']
  else more

end GridRobot.Yaml
