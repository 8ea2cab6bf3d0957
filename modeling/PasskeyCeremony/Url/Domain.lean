import PasskeyCeremony.Text.Split
import PasskeyCeremony.Text.Utf8
import PasskeyCeremony.Url.Domain.Label
import PasskeyCeremony.Url.Domain.Punycode
import PasskeyCeremony.Url.Percent

/-!
# Domain names

The host of an address with a special scheme is a domain name. The text of the host is decoded from
percent encoding and then brought into the form in which names are looked up: mapped, divided into
labels, and each label with characters beyond ASCII written in ASCII behind a marker. A label that
comes with the marker has to stand for one that could have been written without it.

Some ASCII characters stand in no domain name of an address, because an address would be read
differently with them.
-/

namespace PasskeyCeremony.Url.Domain

open Text (Utf8.decode?)

/-- A character that no domain name of an address may hold. -/
def isForbidden (c : Char) : Bool :=
  c.toNat ≤ 0x20 || c.toNat == 0x7F ||
    c ∈ ['%', '#', '/', ':', '<', '>', '?', '@', '[', '\\', ']', '^', '|']

def isAscii (cs : List Char) : Bool := cs.all fun c ↦ c.toNat < 0x80

/-- A label, as it is written in ASCII and as it is meant. -/
structure Label where
  /-- In ASCII. -/
  ascii : List Char
  /-- As it is meant. -/
  meaning : List Char

/-- The label that a mapped text stands for. -/
def readLabel? (cs : List Char) : Option Label :=
  match cs with
  | 'x' :: 'n' :: '-' :: '-' :: rest => do
    let meaning ← Punycode.decode? rest
    if isAscii cs && !isAscii meaning && isLabel meaning then return ⟨cs, meaning⟩ else none
  | _ =>
    if isAscii cs then some ⟨cs, cs⟩
    else if isLabel cs then some ⟨'x' :: 'n' :: '-' :: '-' :: Punycode.encode cs, cs⟩
    else none

/-- The labels that a text stands for. -/
def readLabels? (cs : List Char) : Option (List Label) := do
  let labels ← (Text.splitAt (· == '.') (← map cs)).mapM readLabel?
  if labels.any (isBidirectional ·.meaning) && !labels.all (hasOneDirection ·.meaning) then none
  else return labels

/-- The domain name that the text of a host stands for. -/
def ofHost? (host : List Char) : Option (List Char) := do
  let labels ← readLabels? (← Utf8.decode? (Percent.decode host))
  if labels.any fun l ↦ l.ascii.any isForbidden || l.meaning.any isForbidden then none
  else return Text.joinWith ['.'] (labels.map (·.ascii))

end PasskeyCeremony.Url.Domain
