import Lifeline.Json.Fault

/-!
# Reading Json

A reader takes what is left of a text and returns a value with what is left
after it, or a fault.  Lists and objects are read by one loop each, which is
given the reader of an item or the step for a key; nesting is the recursion of
`readValue` on the number of levels that may still be opened.  The loops are
bounded by the length of the rest, which every round makes shorter.
-/

namespace Lifeline.Json

abbrev Reader (α : Type) := List Char → Except Fault (α × List Char)

/-- The blanks between tokens: space, tab, line feed and carriage return. -/
def isGap (c : Char) : Bool := c == ' ' || c == '\t' || c == '\n' || c == '\r'

def skipGap (text : List Char) : List Char := text.dropWhile isGap

/-- The rest of a word whose first letter has been read. -/
def readWord : List Char → List Char → Except Fault (List Char)
  | [], rest => .ok rest
  | _ :: _, [] => .error (.before .endInValue [])
  | letter :: letters, c :: rest =>
      if c = letter then readWord letters rest else .error (.on .expectedWord (c :: rest))

/-! ## Numbers -/

/-- Appends digits to a significand while it stays below two to the
sixty-fourth, and returns the digits that were left over. -/
def absorb (significand : Nat) : List Char → Nat × List Char
  | [] => (significand, [])
  | digit :: rest =>
      let next := significand * 10 + Decimal.digitValue digit
      if next < Decimal.beyond64 then absorb next rest else (significand, digit :: rest)

def signed (negative : Bool) (value : Binary64) : Number :=
  .float (if negative then value.negate else value)

/-- A literal without point and exponent: a whole number if it fits, else a
double; minus zero is a double. -/
def wholeNumber (negative : Bool) (significand : Nat) : Number :=
  let value : Int := if negative then -(significand : Int) else significand
  if fits : Fits value then
    if negative ∧ significand = 0 then signed true .zero else .whole value fits
  else signed negative (.ofNat significand)

def scaledNumber (negative : Bool) (significand : Nat) (exponent : Int) : Reader Number :=
  fun rest => match Binary64.scaled significand exponent with
    | some value => .ok (signed negative value, rest)
    | none => .error (.before .numberOutOfRange rest)

/-- The digits of an exponent, read up to the first that takes it beyond 2147483647. -/
def readExponentDigits (sofar : Nat) : List Char → Option Nat × List Char
  | [] => (some sofar, [])
  | c :: rest =>
      if Decimal.isDigit c then
        let next := sofar * 10 + Decimal.digitValue c
        if next ≤ 2147483647 then readExponentDigits next rest else (none, rest)
      else (some sofar, c :: rest)

/-- What follows the letter of an exponent. -/
def readExponent (negative : Bool) (significand : Nat) (start : Int) : Reader Number :=
  fun text =>
    let (down, rest) := match text with
      | '+' :: rest => (false, rest)
      | '-' :: rest => (true, rest)
      | rest => (false, rest)
    match rest with
    | [] => .error (.before .endInValue [])
    | c :: _ =>
        if Decimal.isDigit c then
          match readExponentDigits 0 rest with
          | (some size, rest) =>
              scaledNumber negative significand (if down then start - size else start + size) rest
          | (none, rest) =>
              if significand = 0 ∨ down then
                .ok (signed negative .zero, rest.dropWhile Decimal.isDigit)
              else .error (.before .numberOutOfRange rest)
        else .error (.on .invalidNumber rest)

/-- What follows the point of a number. -/
def readFraction (negative : Bool) (significand : Nat) (start : Int) : Reader Number :=
  fun text =>
    let digits := text.takeWhile Decimal.isDigit
    let rest := text.dropWhile Decimal.isDigit
    if digits.isEmpty then
      .error (match text with
        | [] => .on .endInValue []
        | text => .on .invalidNumber text)
    else
      let (total, dropped) := absorb significand digits
      let exponent := start - (digits.length - dropped.length : Nat)
      match rest with
      | 'e' :: rest => readExponent negative total exponent rest
      | 'E' :: rest => readExponent negative total exponent rest
      | rest => scaledNumber negative total exponent rest

/-- A number after its sign. -/
def readNumber (negative : Bool) : Reader Number :=
  fun text => match text with
    | [] => .error (.before .endInValue [])
    | c :: after =>
        if c = '0' ∧ (after.takeWhile Decimal.isDigit).isEmpty = false then
          .error (.on .invalidNumber after)
        else if Decimal.isDigit c then
          let (significand, dropped) := absorb 0 (text.takeWhile Decimal.isDigit)
          match text.dropWhile Decimal.isDigit with
          | '.' :: rest => readFraction negative significand dropped.length rest
          | 'e' :: rest => readExponent negative significand dropped.length rest
          | 'E' :: rest => readExponent negative significand dropped.length rest
          | rest =>
              if dropped.isEmpty then .ok (wholeNumber negative significand, rest)
              else scaledNumber negative significand dropped.length rest
        else .error (.on .invalidNumber text)

/-! ## Texts -/

def hexValue? (c : Char) : Option Nat :=
  if '0' ≤ c ∧ c ≤ '9' then some (c.toNat - 48)
  else if 'a' ≤ c ∧ c ≤ 'f' then some (c.toNat - 87)
  else if 'A' ≤ c ∧ c ≤ 'F' then some (c.toNat - 55)
  else none

/-- Four hexadecimal digits; four bytes are taken even if they are not digits. -/
def readHex : Reader Nat
  | text@(a :: b :: c :: d :: rest) =>
      match hexValue? a, hexValue? b, hexValue? c, hexValue? d with
      | some a, some b, some c, some d => .ok (((a * 16 + b) * 16 + c) * 16 + d, rest)
      | _, _, _, _ => .error ⟨.invalidEscape, Text.byteLength text - 4⟩
  | text =>
      if Text.byteLength text < 4 then .error ⟨.endInText, 0⟩
      else .error ⟨.invalidEscape, Text.byteLength text - 4⟩

def isHighSurrogate (unit : Nat) : Bool := 0xd800 ≤ unit && unit ≤ 0xdbff

def isLowSurrogate (unit : Nat) : Bool := 0xdc00 ≤ unit && unit ≤ 0xdfff

/-- The second half of a surrogate pair. -/
def readLowSurrogate (high : Nat) : Reader Char
  | [] => .error (.before .endInText [])
  | '\\' :: [] => .error (.before .endInText [])
  | '\\' :: 'u' :: rest => do
      let (low, rest) ← readHex rest
      if isLowSurrogate low then
        .ok (Char.ofNat (0x10000 + (high - 0xd800) * 0x400 + (low - 0xdc00)), rest)
      else .error (.before .loneSurrogate rest)
  | '\\' :: rest => .error (.on .unfinishedSurrogate rest)
  | rest => .error (.on .unfinishedSurrogate rest)

def readUnicode : Reader Char :=
  fun text => do
    let (unit, rest) ← readHex text
    if isLowSurrogate unit then .error (.before .loneSurrogate rest)
    else if isHighSurrogate unit then readLowSurrogate unit rest
    else .ok (Char.ofNat unit, rest)

/-- What follows a backslash. -/
def readEscape : Reader Char
  | [] => .error (.before .endInText [])
  | '"' :: rest => .ok ('"', rest)
  | '\\' :: rest => .ok ('\\', rest)
  | '/' :: rest => .ok ('/', rest)
  | 'b' :: rest => .ok ('\x08', rest)
  | 'f' :: rest => .ok ('\x0c', rest)
  | 'n' :: rest => .ok ('\n', rest)
  | 'r' :: rest => .ok ('\r', rest)
  | 't' :: rest => .ok ('\t', rest)
  | 'u' :: rest => readUnicode rest
  | rest => .error (.on .invalidEscape rest)

/-- The characters up to the closing quote, at most `fuel` of them. -/
def readChars (fuel : Nat) : Reader (List Char) :=
  match fuel with
  | 0 => fun text => .error (.before .endInText text)
  | fuel + 1 => fun text => match text with
      | [] => .error (.before .endInText [])
      | '"' :: rest => .ok ([], rest)
      | '\\' :: rest => do
          let (c, rest) ← readEscape rest
          let (cs, rest) ← readChars fuel rest
          .ok (c :: cs, rest)
      | c :: rest =>
          if c.toNat < 0x20 then .error (.on .controlCharacter text)
          else do
            let (cs, rest) ← readChars fuel rest
            .ok (c :: cs, rest)

/-- A text after its opening quote. -/
def readText : Reader String :=
  fun text => do
    let (cs, rest) ← readChars (text.length + 1) text
    .ok (String.ofList cs, rest)

/-! ## Lists and objects -/

/-- Moves to the next item of a list: true at its first character, false at the
closing bracket. -/
def nextItem (first : Bool) : Reader Bool :=
  fun text => match skipGap text with
    | [] => .error (.on .endInList [])
    | ']' :: rest => .ok (false, ']' :: rest)
    | c :: rest =>
        if first then .ok (true, c :: rest)
        else if c = ',' then
          match skipGap rest with
          | [] => .error (.on .endInValue [])
          | ']' :: rest => .error (.on .trailingComma (']' :: rest))
          | rest => .ok (true, rest)
        else .error (.on .expectedListSeparator (c :: rest))

def readItems {α : Type} (item : Reader α) (first : Bool) (fuel : Nat) : Reader (List α) :=
  match fuel with
  | 0 => fun text => .error (.before .endInList text)
  | fuel + 1 => fun text => do
      match ← nextItem first text with
      | (false, rest) => .ok ([], rest)
      | (true, rest) =>
          let (value, rest) ← item rest
          let (values, rest) ← readItems item false fuel rest
          .ok (value :: values, rest)

/-- The end of a list, where no item may follow. -/
def closeList (text : List Char) : Except Fault (List Char) :=
  match skipGap text with
  | [] => .error (.on .endInList [])
  | ']' :: rest => .ok rest
  | ',' :: rest => match skipGap rest with
      | ']' :: rest => .error (.on .trailingComma (']' :: rest))
      | rest => .error (.on .trailingCharacters rest)
  | rest => .error (.on .trailingCharacters rest)

/-- Moves to the next entry of an object and reads its key; nothing at the closing brace. -/
def nextKey (first : Bool) : Reader (Option String) :=
  fun text => match skipGap text with
    | [] => .error (.on .endInObject [])
    | '}' :: rest => .ok (none, '}' :: rest)
    | c :: rest =>
        if c = ',' ∧ first = false then
          match skipGap rest with
          | [] => .error (.on .endInValue [])
          | '"' :: rest => do
              let (key, rest) ← readText rest
              .ok (some key, rest)
          | '}' :: rest => .error (.on .trailingComma ('}' :: rest))
          | rest => .error (.on .keyNotText rest)
        else if first then
          if c = '"' then do
            let (key, rest) ← readText rest
            .ok (some key, rest)
          else .error (.on .keyNotText (c :: rest))
        else .error (.on .expectedObjectSeparator (c :: rest))

/-- The colon between a key and its value. -/
def readColon (text : List Char) : Except Fault (List Char) :=
  match skipGap text with
  | [] => .error (.on .endInObject [])
  | ':' :: rest => .ok rest
  | rest => .error (.on .expectedColon rest)

/-- Reads the entries of an object one after the other; the step sees what was
gathered so far and the key, and reads from the colon on. -/
def readEntries {σ : Type} (step : σ → String → Reader σ) (first : Bool) (fuel : Nat)
    (gathered : σ) : Reader σ :=
  match fuel with
  | 0 => fun text => .error (.before .endInObject text)
  | fuel + 1 => fun text => do
      match ← nextKey first text with
      | (none, rest) => .ok (gathered, rest)
      | (some key, rest) =>
          let (gathered, rest) ← step gathered key rest
          readEntries step false fuel gathered rest

/-- The end of an object, where no entry may follow. -/
def closeObject (text : List Char) : Except Fault (List Char) :=
  match skipGap text with
  | [] => .error (.on .endInObject [])
  | '}' :: rest => .ok rest
  | ',' :: rest => .error (.on .trailingComma (',' :: rest))
  | rest => .error (.on .trailingCharacters rest)

/-- Stores the value of a key; a later value replaces an earlier one. -/
def storeEntry (value : Reader Value) (entries : Object) (key : String) : Reader Object :=
  fun text => do
    let rest ← readColon text
    let (value, rest) ← value rest
    .ok (entries.insert key value, rest)

/-- How many lists and objects may be open at once. -/
def levelLimit : Nat := 127

def readValue (levels : Nat) : Reader Value :=
  fun text => match skipGap text with
    | [] => .error (.on .endInValue [])
    | 'n' :: rest => do .ok (.null, ← readWord "ull".toList rest)
    | 't' :: rest => do .ok (.boolean true, ← readWord "rue".toList rest)
    | 'f' :: rest => do .ok (.boolean false, ← readWord "alse".toList rest)
    | '"' :: rest => do
        let (value, rest) ← readText rest
        .ok (.text value, rest)
    | '-' :: rest => do
        let (value, rest) ← readNumber true rest
        .ok (.number value, rest)
    | '[' :: rest => match levels with
        | 0 => .error (.on .tooDeep ('[' :: rest))
        | levels + 1 => do
            let (items, rest) ← readItems (readValue levels) true (rest.length + 1) rest
            .ok (.array items, ← closeList rest)
    | '{' :: rest => match levels with
        | 0 => .error (.on .tooDeep ('{' :: rest))
        | levels + 1 => do
            let (entries, rest) ←
              readEntries (storeEntry (readValue levels)) true (rest.length + 1) [] rest
            .ok (.object entries, ← closeObject rest)
    | c :: rest =>
        if Decimal.isDigit c then do
          let (value, rest) ← readNumber false (c :: rest)
          .ok (.number value, rest)
        else .error (.on .expectedValue (c :: rest))

theorem readValue_quote (levels : Nat) {text after : List Char}
    (hquote : skipGap text = '"' :: after) :
    readValue levels text = readText after >>= fun read => .ok (.text read.1, read.2) := by
  rw [readValue, hquote]
  rfl

theorem readValue_bracket (levels : Nat) {text after : List Char}
    (hbracket : skipGap text = '[' :: after) :
    readValue (levels + 1) text =
      readItems (readValue levels) true (after.length + 1) after >>= fun read =>
        closeList read.2 >>= fun rest => .ok (.array read.1, rest) := by
  rw [readValue, hbracket]
  rfl

theorem readValue_brace (levels : Nat) {text after : List Char}
    (hbrace : skipGap text = '{' :: after) :
    readValue (levels + 1) text =
      readEntries (storeEntry (readValue levels)) true (after.length + 1) [] after >>= fun read =>
        closeObject read.2 >>= fun rest => .ok (.object read.1, rest) := by
  rw [readValue, hbrace]
  rfl

/-- Reads a whole text: nothing but blanks may follow. -/
def readAll {α : Type} (reader : Reader α) (text : List Char) : Except Fault α := do
  let (value, rest) ← reader text
  match skipGap rest with
  | [] => .ok value
  | rest => .error (.on .trailingCharacters rest)

/-- The value of a text. -/
def parse (text : String) : Except Fault Value := readAll (readValue levelLimit) text.toList

end Lifeline.Json
