import FabricGauges.Decimal.Double
import Mathlib.Data.List.Basic

/-!
# Reading the OpenMetrics text format

What a consumer makes of an exposition, as far as gauges go. An exposition is a sequence of lines
and a last line `# EOF`. A line describes a family or gives a sample of it; a sample has a name,
labels in braces and a number. Label values and descriptions are escaped: a backslash before a
quotation mark, a backslash or the letter `n` stands for the mark, the backslash or a line feed, and
before any other character it stands for itself. Timestamps, exemplars and numbers that are not
finite are not read.

The readers take characters from the front of a text and hand over the rest. Where they repeat, a
number bounds the repetitions; the length of the text is always enough.
-/

namespace FabricGauges.OpenMetrics

/-- A line of an exposition. -/
inductive Entry where
  | help (name : String) (text : String)
  | type (name : String) (kind : String)
  | sample (name : String) (labels : List (String × String)) (value : Double)
deriving DecidableEq

/-! ## Names -/

/-- The first character of a metric name. -/
def isNameStart (c : Char) : Bool := c.isAlpha || c == '_' || c == ':'

/-- The other characters of a metric name. -/
def isNamePart (c : Char) : Bool := isNameStart c || c.isDigit

/-- The first character of a label name. -/
def isLabelStart (c : Char) : Bool := c.isAlpha || c == '_'

/-- The other characters of a label name. -/
def isLabelPart (c : Char) : Bool := isLabelStart c || c.isDigit

/-- A start and any number of parts, such as `[a-zA-Z_:][a-zA-Z0-9_:]*`. -/
def isName (start part : Char → Bool) : List Char → Bool
  | [] => false
  | c :: s => start c && s.all part

/-- Reads the longest name. -/
def readName (start part : Char → Bool) : List Char → Option (List Char × List Char)
  | [] => none
  | c :: s => if start c then some (c :: s.takeWhile part, s.dropWhile part) else none

/-! ## Escaped text -/

/-- What a backslash and a character stand for. -/
def unescape (c : Char) : List Char :=
  if c = 'n' then ['\n'] else if c = '"' ∨ c = '\\' then [c] else ['\\', c]

/-- Reads an escaped text up to a quotation mark, a line feed or the end. -/
def readEscaped : List Char → List Char × List Char
  | [] => ([], [])
  | c :: s =>
    if c = '"' ∨ c = '\n' then ([], c :: s)
    else if c = '\\' then
      match s with
      | [] => ([], [c])
      | d :: s =>
        if d = '\n' then ([], c :: d :: s)
        else (unescape d ++ (readEscaped s).1, (readEscaped s).2)
    else (c :: (readEscaped s).1, (readEscaped s).2)

/-! ## Labels -/

/-- Reads a label: a name, an equals sign and an escaped text in quotation marks. -/
def readLabel (s : List Char) : Option ((String × String) × List Char) := do
  let (name, s) ← readName isLabelStart isLabelPart s
  match s with
  | '=' :: '"' :: s =>
    match readEscaped s with
    | (value, '"' :: s) => some ((String.ofList name, String.ofList value), s)
    | _ => none
  | _ => none

/-- Reads at most `n` labels up to the closing brace, with commas between them. -/
def readLabelList : (n : Nat) → List Char → Option (List (String × String) × List Char)
  | 0, _ => none
  | n + 1, s => do
    let (label, s) ← readLabel s
    match s with
    | ',' :: s => (readLabelList n s).map fun (labels, s) => (label :: labels, s)
    | '}' :: s => some ([label], s)
    | _ => none

/-- Reads the labels of a sample, if it has any. -/
def readLabels : List Char → Option (List (String × String) × List Char)
  | '{' :: '}' :: s => some ([], s)
  | '{' :: s => readLabelList s.length s
  | s => some ([], s)

/-! ## Numbers -/

/-- Reads digits. -/
def readDigits (s : List Char) : List Char × List Char :=
  (s.takeWhile Char.isDigit, s.dropWhile Char.isDigit)

/-- Reads a sign, if there is one; true stands for minus. -/
def readSign : List Char → Bool × List Char
  | '-' :: s => (true, s)
  | '+' :: s => (false, s)
  | s => (false, s)

/-- Reads the digits after a point, if there is one. -/
def readFraction : List Char → List Char × List Char
  | '.' :: s => readDigits s
  | s => ([], s)

/-- Reads an exponent, if there is one. -/
def readExponent : List Char → Option (Int × List Char)
  | 'e' :: s | 'E' :: s =>
    let (negative, s) := readSign s
    let (digits, s) := readDigits s
    let size : Int := Nat.ofDigitChars 10 digits 0
    if digits = [] then none else some (if negative then -size else size, s)
  | s => some (0, s)

/-- Reads a number as the double nearest to it. -/
def readNumber (s : List Char) : Option (Double × List Char) := do
  let (negative, s) := readSign s
  let (whole, s) := readDigits s
  let (fraction, s) := readFraction s
  if whole = [] ∧ fraction = [] then none
  let (exponent, s) ← readExponent s
  let value ← Double.ofDecimal? negative (Nat.ofDigitChars 10 (whole ++ fraction) 0)
    (exponent - fraction.length)
  some (value, s)

/-! ## Lines -/

/-- What the line of a description begins with. -/
def helpMark : List Char := "# HELP ".toList

/-- What the line of a type begins with. -/
def typeMark : List Char := "# TYPE ".toList

/-- The last line. -/
def lastLine : List Char := "# EOF\n".toList

/-- The types that a family can have. -/
def kinds : List (List Char) :=
  ["counter", "gauge", "gaugehistogram", "histogram", "info", "stateset", "summary",
    "unknown"].map String.toList

/-- Reads the rest of a description. -/
def readHelp (s : List Char) : Option (Entry × List Char) := do
  let (name, s) ← readName isNameStart isNamePart s
  match s with
  | ' ' :: s =>
    match readEscaped s with
    | (text, '\n' :: s) => some (.help (String.ofList name) (String.ofList text), s)
    | _ => none
  | _ => none

/-- Reads the rest of a type. -/
def readType (s : List Char) : Option (Entry × List Char) := do
  let (name, s) ← readName isNameStart isNamePart s
  match s with
  | ' ' :: s =>
    let kind := s.takeWhile Char.isAlpha
    match s.dropWhile Char.isAlpha with
    | '\n' :: s =>
      if kind ∈ kinds then some (.type (String.ofList name) (String.ofList kind), s) else none
    | _ => none
  | _ => none

/-- Reads a sample. -/
def readSample (s : List Char) : Option (Entry × List Char) := do
  let (name, s) ← readName isNameStart isNamePart s
  let (labels, s) ← readLabels s
  match s with
  | ' ' :: s =>
    let (value, s) ← readNumber s
    match s with
    | '\n' :: s => some (.sample (String.ofList name) labels value, s)
    | _ => none
  | _ => none

/-- Reads a line. -/
def readEntry (s : List Char) : Option (Entry × List Char) :=
  match s.dropPrefix? helpMark with
  | some s => readHelp s
  | none =>
    match s.dropPrefix? typeMark with
    | some s => readType s
    | none => readSample s

/-- Reads at most `n` lines and the last line. -/
def readEntries : (n : Nat) → List Char → Option (List Entry)
  | 0, _ => none
  | n + 1, s =>
    if s = lastLine then some []
    else do
      let (entry, s) ← readEntry s
      (readEntries n s).map (entry :: ·)

/-- Reads an exposition. -/
def read (text : String) : Option (List Entry) := readEntries text.toList.length text.toList

end FabricGauges.OpenMetrics
