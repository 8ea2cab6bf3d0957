/-!
# Markup

Text inside markup. The five characters that mean something to a reader of markup are written as
numeric character references, in running text and inside attributes alike; every other character
stands for itself. An escaped text therefore holds no quote and no angle bracket, and the text can
be read back from it.
-/

namespace PasskeyCeremony.Page.Markup

def escapeChar (c : Char) : List Char :=
  if c = '<' then ['&', '#', '6', '0', ';']
  else if c = '>' then ['&', '#', '6', '2', ';']
  else if c = '&' then ['&', '#', '3', '8', ';']
  else if c = '"' then ['&', '#', '3', '4', ';']
  else if c = '\x27' then ['&', '#', '3', '9', ';']
  else [c]

def escape (cs : List Char) : List Char := cs.flatMap escapeChar

def escapeText (s : String) : String := String.ofList (escape s.toList)

end PasskeyCeremony.Page.Markup
