import Holonight.Base.JsonLibrary

/-!
# A JSON parser

A recursive-descent parser of RFC 8259, with the choices of `nlohmann::json`: an integer
literal that fits 64 bits is an integer, a key that comes twice takes its last value, and
strings that are not UTF-8 are rejected. The parser works on what is left of the text;
`readValue` and its companions take fuel, and twice the length of a text is enough to read
it. Numbers with a fraction or an exponent are left to `readFloat`.
-/

namespace Holonight

namespace Json

/-! ## The parser -/

/-- A byte that may stand between two tokens. -/
def isSpace (b : UInt8) : Bool := b == 32 || b == 9 || b == 10 || b == 13

/-- What is left after leading space. -/
def skipSpace (s : Bytes) : Bytes := s.dropWhile isSpace

/-- The byte after a backslash, except for `u`. -/
def unescape (b : UInt8) : Option UInt8 :=
  if b = 34 then some 34
  else if b = 92 then some 92
  else if b = 47 then some 47
  else if b = 98 then some 8
  else if b = 102 then some 12
  else if b = 110 then some 10
  else if b = 114 then some 13
  else if b = 116 then some 9
  else none

/-- The value of a hexadecimal digit. -/
def hexValue (b : UInt8) : Option ℕ :=
  if inRange 48 57 b then some (b.toNat - 48)
  else if inRange 97 102 b then some (b.toNat - 87)
  else if inRange 65 70 b then some (b.toNat - 55)
  else none

/-- The code unit of four hexadecimal digits. -/
def codeUnit (a b c d : UInt8) : Option ℕ := do
  let a ← hexValue a
  let b ← hexValue b
  let c ← hexValue c
  let d ← hexValue d
  return ((a * 16 + b) * 16 + c) * 16 + d

/-- The UTF-8 bytes of a code point. -/
def encodePoint (n : ℕ) : Bytes :=
  if n < 0x80 then [UInt8.ofNat n]
  else if n < 0x800 then [UInt8.ofNat (0xC0 + n / 64), UInt8.ofNat (0x80 + n % 64)]
  else if n < 0x10000 then
    [UInt8.ofNat (0xE0 + n / 4096), UInt8.ofNat (0x80 + n / 64 % 64), UInt8.ofNat (0x80 + n % 64)]
  else
    [UInt8.ofNat (0xF0 + n / 262144), UInt8.ofNat (0x80 + n / 4096 % 64),
      UInt8.ofNat (0x80 + n / 64 % 64), UInt8.ofNat (0x80 + n % 64)]

/-- The bytes of a string literal after its opening quotation mark, and what follows its closing
one. -/
def scanString : Bytes → Option (Bytes × Bytes)
  | [] => none
  | b :: rest =>
    if b = 34 then some ([], rest)
    else if b = 92 then
      match rest with
      | [] => none
      | e :: rest =>
        if e = 117 then
          match rest with
          | a :: b :: c :: d :: rest =>
            (codeUnit a b c d).bind fun n =>
              if n < 0xD800 ∨ 0xE000 ≤ n then
                (scanString rest).map fun p => (encodePoint n ++ p.1, p.2)
              else
                -- a high surrogate has to be followed by a low one
                match rest with
                | 92 :: 117 :: a :: b :: c :: d :: rest =>
                  (codeUnit a b c d).bind fun m =>
                    if n < 0xDC00 ∧ 0xDC00 ≤ m ∧ m < 0xE000 then
                      (scanString rest).map fun p =>
                        (encodePoint (0x10000 + (n - 0xD800) * 1024 + (m - 0xDC00)) ++ p.1, p.2)
                    else none
                | _ => none
          | _ => none
        else
          (unescape e).bind fun byte => (scanString rest).map fun p => (byte :: p.1, p.2)
    else if b < 32 then none
    else (scanString rest).map fun p => (b :: p.1, p.2)

/-- A string literal that is valid UTF-8. -/
def readString (s : Bytes) : Option (Bytes × Bytes) :=
  (scanString s).bind fun p => if validUtf8 p.1 then some p else none

/-- The bytes of a number. -/
def isNumberByte (b : UInt8) : Bool :=
  isDigitByte b || b == 45 || b == 43 || b == 46 || b == 101 || b == 69

/-- Digits without a superfluous zero. -/
def isDigits (ds : Bytes) : Bool :=
  !ds.isEmpty && ds.all isDigitByte && (ds == [48] || ds.head? != some 48)

/-- The value of a number token: an integer literal that fits 64 bits is an integer. -/
def number (readFloat : Bytes → Option ℚ) (token : Bytes) : Option Json :=
  let float := (readFloat token).map fun q => Json.float (.finite q)
  match token with
  | 45 :: ds =>
    if isDigits ds ∧ InInt64 (-(digitsValue ds : ℤ)) then some (.int (-(digitsValue ds : ℤ)))
    else float
  | ds => if isDigits ds ∧ digitsValue ds < 2 ^ 64 then some (.uint (digitsValue ds)) else float

def readNumber (readFloat : Bytes → Option ℚ) (s : Bytes) : Option (Json × Bytes) :=
  (number readFloat (s.takeWhile isNumberByte)).map fun j => (j, s.dropWhile isNumberByte)

/-- The rest of a literal name. -/
def readLiteral (word : Bytes) (value : Json) (s : Bytes) : Option (Json × Bytes) :=
  if word.isPrefixOf s then some (value, s.drop word.length) else none

mutual

/-- A value, and what follows it. -/
def readValue (readFloat : Bytes → Option ℚ) : ℕ → Bytes → Option (Json × Bytes)
  | 0, _ => none
  | fuel + 1, s =>
    match skipSpace s with
    | [] => none
    | b :: rest =>
      if b = 34 then (readString rest).map fun p => (.str p.1, p.2)
      else if b = 91 then
        match skipSpace rest with
        | 93 :: rest => some (.arr [], rest)
        | rest => (readItems readFloat fuel rest).map fun p => (.arr p.1, p.2)
      else if b = 123 then
        match skipSpace rest with
        | 125 :: rest => some (.obj [], rest)
        | rest =>
          (readFields readFloat fuel rest).map fun p =>
            (.obj (assignFields p.1 []), p.2)
      else if b = 110 then readLiteral "ull" .null rest
      else if b = 116 then readLiteral "rue" (.bool true) rest
      else if b = 102 then readLiteral "alse" (.bool false) rest
      else readNumber readFloat (b :: rest)

/-- The elements of an array that is not empty, up to its end. -/
def readItems (readFloat : Bytes → Option ℚ) : ℕ → Bytes → Option (List Json × Bytes)
  | 0, _ => none
  | fuel + 1, s =>
    (readValue readFloat fuel s).bind fun value =>
      match skipSpace value.2 with
      | 44 :: rest => (readItems readFloat fuel rest).map fun p => (value.1 :: p.1, p.2)
      | 93 :: rest => some ([value.1], rest)
      | _ => none

/-- The fields of an object that is not empty, up to its end. -/
def readFields (readFloat : Bytes → Option ℚ) :
    ℕ → Bytes → Option (List (Bytes × Json) × Bytes)
  | 0, _ => none
  | fuel + 1, s =>
    match skipSpace s with
    | 34 :: rest =>
      (readString rest).bind fun key =>
        match skipSpace key.2 with
        | 58 :: rest =>
          (readValue readFloat fuel rest).bind fun value =>
            match skipSpace value.2 with
            | 44 :: rest =>
              (readFields readFloat fuel rest).map fun p => ((key.1, value.1) :: p.1, p.2)
            | 125 :: rest => some ([(key.1, value.1)], rest)
            | _ => none
        | _ => none
    | _ => none

end

/-- `json::parse` of a whole text. -/
def parseWith (readFloat : Bytes → Option ℚ) (text : Bytes) : Except Bytes Json :=
  match readValue readFloat (2 * text.length) text with
  | some (j, rest) => if skipSpace rest = [] then .ok j else .error "unexpected token"
  | none => .error "parse error"

end Json

end Holonight
