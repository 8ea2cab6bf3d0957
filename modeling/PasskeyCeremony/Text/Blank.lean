/-!
# Blank characters

The characters with the Unicode property `White_Space`, and the text left when they are removed
from both ends. Names and labels are compared after trimming, a settings file is split at blanks,
and a server's answer that is nothing but blanks counts as no answer at all, so one definition of
"blank" has to serve all three.
-/

namespace PasskeyCeremony.Text

def isBlank (c : Char) : Bool :=
  let n := c.toNat
  (0x09 ≤ n && n ≤ 0x0D) || n == 0x20 || n == 0x85 || n == 0xA0 || n == 0x1680 ||
  (0x2000 ≤ n && n ≤ 0x200A) || n == 0x2028 || n == 0x2029 || n == 0x202F || n == 0x205F ||
  n == 0x3000

namespace Chars

def trimStart (cs : List Char) : List Char := cs.dropWhile isBlank

def trimEnd (cs : List Char) : List Char := (cs.reverse.dropWhile isBlank).reverse

def trim (cs : List Char) : List Char := trimEnd (trimStart cs)

end Chars

def trim (s : String) : String := String.ofList (Chars.trim s.toList)

end PasskeyCeremony.Text
