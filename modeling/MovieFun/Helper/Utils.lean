import MovieFun.Model.Movie

/-!
# Utils

The shared helpers: dates through the one formatter the app keeps, the file name
of a picture, and trimming. A forced unwrap is an `Option` whose `none` is the
trap.
-/

namespace MovieFun

namespace Utils

variable (fm : DateFormatter)

/-- The instant that a text means. -/
def dateFromString (dateFormat : DateFormat) : Option String → Option Date
  | none => none
  | some strDate => fm.date dateFormat strDate

/-- The text of an instant. -/
def stringFromDate (dateFormat : DateFormat) : Option Date → Option String
  | none => none
  | some date => some (fm.string dateFormat date)

/-- The current date cut down to what the text of it keeps. The second unwrap
traps when the text cannot be read back. -/
def getCurrentDate (currentDate : Date) : Option Date := do
  let dateStr ← stringFromDate fm YYYY_MM_DD_HH_MM_SS (some currentDate)
  dateFromString fm YYYY_MM_DD_HH_MM_SS (some dateStr)

/-- The word characters a URL can contain. -/
def isWordCharacter (c : Char) : Bool := c.isAlphanum || c == '_'

/-- The text is word characters, then any character, then word characters, as
in the pattern `\w+.\w+$`. -/
def matchesFileName (text : List Char) : Bool :=
  (List.range text.length).any fun i =>
    decide (0 < i) && (text.take i).all isWordCharacter &&
      (match text.drop i with
        | [] => false
        | any :: rest => any != '\n' && !rest.isEmpty && rest.all isWordCharacter)

/-- The first match of `/\w+.\w+$`, without its slash. The pattern is anchored at
the end, so there is at most one match. -/
def fileNameMatch : List Char → Option (List Char)
  | [] => none
  | c :: rest => if c = '/' ∧ matchesFileName rest then some rest else fileNameMatch rest

/-- What the pattern matches of a URL's text. -/
def getFileName (urlStr : String) : Option String :=
  (fileNameMatch urlStr.toList).map String.ofList

/-- The characters of `NSCharacterSet.whitespacesAndNewlines`. -/
def isWhitespaceOrNewline (c : Char) : Bool :=
  (9 ≤ c.toNat && c.toNat ≤ 13) || c.toNat == 0x20 || c.toNat == 0x85 || c.toNat == 0xA0 ||
    c.toNat == 0x1680 || (0x2000 ≤ c.toNat && c.toNat ≤ 0x200B) || c.toNat == 0x2028 ||
    c.toNat == 0x2029 || c.toNat == 0x202F || c.toNat == 0x205F || c.toNat == 0x3000

/-- The text without the blanks at its ends. -/
def trim (str : String) : String :=
  String.ofList
    (((str.toList.dropWhile isWhitespaceOrNewline).reverse.dropWhile isWhitespaceOrNewline).reverse)

/-- The digits zero of the scripts of Unicode. Each is followed by the digits up to
nine. -/
def decimalZeros : List Nat :=
  [0x30, 0x660, 0x6F0, 0x7C0, 0x966, 0x9E6, 0xA66, 0xAE6, 0xB66, 0xBE6, 0xC66, 0xCE6, 0xD66,
    0xDE6, 0xE50, 0xED0, 0xF20, 0x1040, 0x1090, 0x17E0, 0x1810, 0x1946, 0x19D0, 0x1A80, 0x1A90,
    0x1B50, 0x1BB0, 0x1C40, 0x1C50, 0xA620, 0xA8D0, 0xA900, 0xA9D0, 0xA9F0, 0xAA50, 0xABF0,
    0xFF10, 0x104A0, 0x11066, 0x110F0, 0x11136, 0x111D0, 0x112F0, 0x11450, 0x114D0, 0x11650,
    0x116C0, 0x11730, 0x118E0, 0x11C50, 0x11D50, 0x11DA0, 0x16A60, 0x16B50, 0x1D7CE, 0x1D7D8,
    0x1D7E2, 0x1D7EC, 0x1D7F6, 0x1E140, 0x1E2F0, 0x1E950]

/-- The characters of the class `\d`. -/
def isDecimalDigit (c : Char) : Bool :=
  decimalZeros.any fun first => first ≤ c.toNat && c.toNat < first + 10

/-- The whole text matches `\d+`. -/
def validateNumber : Option String → Bool
  | none => false
  | some string => !string.isEmpty && string.toList.all isDecimalDigit

/-- The type of video that a text names. -/
def videoTypeFromString (string : Option String) : Option VideoType :=
  if string = some "Teaser" then some .TEASER
  else if string = some "Trailer" then some .TRAILER
  else none

end Utils

/-- The text of a time interval in seconds, with at least one decimal. -/
def TimeInterval.description (interval : TimeInterval) : String :=
  let whole := interval.natAbs / 1000000000
  let fraction := interval.natAbs % 1000000000
  let digits := List.replicate (9 - (Nat.toDigits 10 fraction).length) '0' ++
    Nat.toDigits 10 fraction
  let decimals := match (digits.reverse.dropWhile (· == '0')).reverse with
    | [] => ['0']
    | kept => kept
  String.ofList ((if interval < 0 then ['-'] else []) ++ Nat.toDigits 10 whole ++ '.' :: decimals)

end MovieFun
