/-!
# Blanks and line ends of a script

Line ends matter to a script because a statement may end at one without a semicolon; blanks only
separate. The blanks are wider than ASCII: every space separator counts, and so do the next line
control, the Mongolian vowel separator, the zero width space and the byte order mark.
-/

namespace ClassRename.Text

/-- Line feed, carriage return, line separator and paragraph separator end a line. -/
def isLineEnd (c : Char) : Bool :=
  c == '\n' || c == '\r' || c == '\u2028' || c == '\u2029'

/-- A character that separates words without ending a line. -/
def isBlank (c : Char) : Bool :=
  c == ' ' || c == '\t' || c == '\x0b' || c == '\x0c' || c == '\u0085' || c == '\u00a0' ||
    c == '\u1680' || c == '\u180e' || (0x2000 ≤ c.toNat && c.toNat ≤ 0x200b) || c == '\u202f' ||
    c == '\u205f' || c == '\u3000' || c == '\ufeff'

end ClassRename.Text
