import Lifeline.Text.Bytes

/-!
# Network addresses

A host is a number of thirty-two bits, a number of eight groups of sixteen bits,
or a name.  The first kind is written in one to four parts between dots, each
decimal, octal or hexadecimal, of which the last fills the bits that are left.
The second kind is written in hexadecimal groups between colons, where one run
of zero groups may be left out and the last two groups may be written in four
decimal parts.  Of the names only that of this machine is known.
-/

namespace Lifeline

inductive Address
  | four (bits : Nat)
  | six (groups : List Nat)
  deriving DecidableEq

inductive LookupError
  | holdsNul
  | unknown
  /-- Nobody can be asked. -/
  | unanswered
  deriving DecidableEq

def LookupError.message : LookupError → String
  | .holdsNul => "file name contained an unexpected NUL byte"
  | .unknown => "failed to lookup address information: Name or service not known"
  | .unanswered =>
      "failed to lookup address information: Temporary failure in name resolution"

namespace Address

/-! ## Numbers -/

def digitValue? (base : Nat) (c : Char) : Option Nat :=
  let value :=
    if c.isDigit then c.toNat - 0x30 else if c.isAlpha then c.toLower.toNat - 0x57 else base
  if value < base then some value else none

/-- The value of a text of digits, which is not empty. -/
def readDigits (base : Nat) (digits : List Char) : Option Nat :=
  if digits.isEmpty then none
  else digits.foldlM (fun total c => (digitValue? base c).map (total * base + ·)) 0

/-- A part of a dotted number: `0x` marks hexadecimal, and another `0` octal. -/
def readPart (part : String) : Option Nat :=
  match part.toList with
  | '0' :: 'x' :: rest => readDigits 16 rest
  | '0' :: 'X' :: rest => readDigits 16 rest
  | '0' :: rest => readDigits 8 ('0' :: rest)
  | digits => readDigits 10 digits

/-- How many numbers a row of bytes can hold. -/
def numbersIn : Nat → Nat
  | 0 => 1
  | bytes + 1 => 256 * numbersIn bytes

/-- The number that some parts denote in `room` bytes: each takes one byte, and
the last takes all that are left. -/
def joinParts : Nat → List Nat → Option Nat
  | 0, _ => none
  | _, [] => none
  | room + 1, [last] => if last < numbersIn (room + 1) then some last else none
  | room + 1, part :: rest =>
      if part < 256 then (joinParts room rest).map (part * numbersIn room + ·) else none

/-- A number of thirty-two bits in any of its spellings. -/
def readFour (text : String) : Option Nat := do
  joinParts 4 (← (text.splitOn ".").mapM readPart)

/-- Four decimal parts without idle zeros. -/
def readDotted (text : String) : Option Nat :=
  let parts := text.splitOn "."
  let isPlain (part : String) : Bool :=
    part.toList.all Char.isDigit && (part.length == 1 || !part.startsWith "0")
  if parts.length = 4 ∧ parts.all isPlain then readFour text else none

/-! ## Groups -/

def readGroup (text : String) : Option Nat :=
  if text.length ≤ 4 then readDigits 16 text.toList else none

/-- The groups of a text, of which the last may be dotted if `last` says so. -/
def readGroupList (last : Bool) : List String → Option (List Nat)
  | [] => some []
  | [text] => match readDotted text with
      | some bits => if last then some [bits / 65536, bits % 65536] else none
      | none => (readGroup text).map ([·])
  | text :: rest => do
      let group ← readGroup text
      let groups ← readGroupList last rest
      some (group :: groups)

def readRun (last : Bool) (text : String) : Option (List Nat) :=
  if text.isEmpty then some [] else readGroupList last (text.splitOn ":")

/-- Eight groups, or fewer with a double colon for those that are zero. -/
def readSix (text : String) : Option (List Nat) :=
  match text.splitOn "::" with
  | [whole] => do
      let groups ← readRun true whole
      if groups.length = 8 then some groups else none
  | [left, right] => do
      let before ← readRun false left
      let after ← readRun true right
      let written := before.length + after.length
      if written < 8 then some (before ++ List.replicate (8 - written) 0 ++ after) else none
  | _ => none

/-! ## Texts -/

def dotted (bits : Nat) : String :=
  ".".intercalate ([3, 2, 1, 0].map fun below => toString (bits / numbersIn below % 256))

def groupTexts (groups : List Nat) : String :=
  ":".intercalate (groups.map fun group => String.ofList (Nat.toDigits 16 group))

/-- How many zeros a list begins with. -/
def leadingZeros (groups : List Nat) : Nat := (groups.takeWhile (· == 0)).length

/-- Where the first of the longest runs of zeros begins, and its length. -/
def longestZeros (groups : List Nat) : Nat × Nat :=
  (List.range groups.length).foldl
    (fun best start =>
      let length := leadingZeros (groups.drop start)
      if length > best.2 then (start, length) else best)
    (0, 0)

/-- The bits of an address of four parts that is written as one of eight groups. -/
def mapped? : List Nat → Option Nat
  | [0, 0, 0, 0, 0, 0xffff, high, low] => some (high * 65536 + low)
  | _ => none

/-- The groups with their longest run of zeros, if it has two or more, left out. -/
def grouped (groups : List Nat) : String :=
  match mapped? groups with
  | some bits => "::ffff:" ++ dotted bits
  | none =>
      let (start, length) := longestZeros groups
      if length > 1 then
        groupTexts (groups.take start) ++ "::" ++ groupTexts (groups.drop (start + length))
      else groupTexts groups

def text : Address → String
  | .four bits => dotted bits
  | .six groups => grouped groups

/-- The address with a port. -/
def withPort (address : Address) (port : UInt16) : String :=
  match address with
  | .four bits => dotted bits ++ ":" ++ toString port.toNat
  | .six groups => "[" ++ grouped groups ++ "]:" ++ toString port.toNat

/-! ## Kinds -/

def anyFour : Address := .four 0

def anySix : Address := .six [0, 0, 0, 0, 0, 0, 0, 0]

/-- This machine. -/
def loopback : Address := .four 0x7f000001

/-- Groups that stand for many machines at once. -/
def isShared (groups : List Nat) : Bool := groups.head?.any fun group => group / 0x100 == 0xff

/-- Groups that name a machine only on one link. -/
def isLinkLocal (groups : List Nat) : Bool :=
  groups.head?.any fun group => group / 0x40 == 0xfe80 / 0x40

/-! ## Looking up -/

/-- How long a name and each of its labels may be. -/
def longestName : Nat := 253

def longestLabel : Nat := 63

/-- A name that can be asked for: labels between dots, none of them empty; a dot
may stand at the end, and nothing at all is a name too. -/
def isName (host : String) : Bool :=
  let labels := host.splitOn "."
  let labels := if labels.length > 1 ∧ labels.getLast? = some "" then labels.dropLast else labels
  host.isEmpty || (labels.all fun label =>
      !label.isEmpty && Text.byteLength label.toList ≤ longestLabel) &&
    Text.byteLength (".".intercalate labels).toList ≤ longestName

/-- The address of a host on a machine that knows its own name only. -/
def lookup (host : String) : Except LookupError Address :=
  if host.contains '\x00' then .error .holdsNul
  else match readFour host, readSix host with
    | some bits, _ => .ok (.four bits)
    | _, some groups => .ok (.six groups)
    | _, _ =>
        if host.map Char.toLower = "localhost" then .ok loopback
        else if host ≠ "*" ∧ isName host then .error .unanswered
        else .error .unknown

end Address

end Lifeline
