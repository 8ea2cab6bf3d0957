import PasskeyCeremony.Text.Split

/-!
# Tables of code points

Large tables of the standards are kept as lines of text. A line holds entries with spaces between
them, and numbers are hexadecimal. An entry is about one code point, `A`, about all of an interval,
`A-B`, or about every second one of it, `A~B`. After a colon it may give numbers with full stops
between them. Where the numbers are code points themselves, those of an interval count on from them.
-/

namespace PasskeyCeremony.Text.Ranges

def digitValue (c : Char) : Nat :=
  if '0' ≤ c ∧ c ≤ '9' then c.toNat - 0x30 else c.toNat - 0x41 + 10

def readNumber (cs : List Char) : Nat := cs.foldl (fun n c ↦ 16 * n + digitValue c) 0

/-- What a table says about some code points. -/
structure Entry where
  /-- The first code point. -/
  first : Nat
  /-- The last one. -/
  last : Nat
  /-- The distance from one to the next. -/
  step : Nat
  /-- The numbers given for them. -/
  numbers : List Nat
  deriving DecidableEq, Repr

/-- Read the part of an entry before the colon. -/
def readRange (cs : List Char) (numbers : List Nat) : Entry :=
  let first := cs.takeWhile fun c ↦ c != '-' && c != '~'
  match cs.drop first.length with
  | '~' :: last => ⟨readNumber first, readNumber last, 2, numbers⟩
  | _ :: last => ⟨readNumber first, readNumber last, 1, numbers⟩
  | [] => ⟨readNumber first, readNumber first, 1, numbers⟩

/-- Read an entry. -/
def readEntry (cs : List Char) : Entry :=
  match splitAt (· == ':') cs with
  | range :: numbers :: _ => readRange range ((splitAt (· == '.') numbers).map readNumber)
  | [range] => readRange range []
  | [] => ⟨0, 0, 1, []⟩

def read (lines : List String) : List Entry :=
  lines.flatMap fun line ↦ (splitAt (· == ' ') line.toList).map readEntry

def Entry.covers (e : Entry) (n : Nat) : Bool :=
  e.first ≤ n && n ≤ e.last && (n - e.first) % e.step == 0

/-- The entry about a code point. -/
def find? (table : List Entry) (n : Nat) : Option Entry := table.find? (·.covers n)

def contains (table : List Entry) (c : Char) : Bool := (find? table c.toNat).isSome

/-- The first number given for a character. -/
def number? (table : List Entry) (c : Char) : Option Nat :=
  (find? table c.toNat).bind (·.numbers.head?)

/-- The characters given for a character. -/
def image? (table : List Entry) (c : Char) : Option (List Char) :=
  (find? table c.toNat).map fun e ↦ e.numbers.map fun n ↦ Char.ofNat (n + (c.toNat - e.first))

end PasskeyCeremony.Text.Ranges
