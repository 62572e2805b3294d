/-!
# Code points of the Japanese charset

Seven characters of the Japanese mail charset have two code points each, depending on who decoded
the mail. One of the two is chosen, so that both spellings of a line are the same line.
-/
namespace Whereabouts.Mail

/-- The dash, the wave dash, the double bar, the minus, the cent, pound and not signs. -/
def unifyChar : Char → Char
  | '\u2014' => '\u2015'
  | '\u301c' => '\uff5e'
  | '\u2016' => '\u2225'
  | '\u2212' => '\uff0d'
  | '\u00a2' => '\uffe0'
  | '\u00a3' => '\uffe1'
  | '\u00ac' => '\uffe2'
  | c => c

def unify (text : List Char) : List Char := text.map unifyChar

example : unify "9:00〜18:00".toList = "9:00～18:00".toList := by decide

end Whereabouts.Mail
