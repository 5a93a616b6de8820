import NodeUpdater.World

/-! # The scaling-state record format

The `fmt.Sprintf` encoder of a record entry, and `json.Unmarshal` into a `map[string]int`
as `encoding/json` behaves for that target type. -/

namespace NodeUpdater.Json

def isWhitespace (c : Char) : Bool :=
  c = ' ' || c = '\t' || c = '\n' || c = '\r'

def skipWhitespace : List Char → List Char
  | [] => []
  | c :: rest => if isWhitespace c then skipWhitespace rest else c :: rest

def unexpectedEnd : String :=
  "unexpected end of JSON input"

def invalidCharacter (c : Char) (context : String) : String :=
  "invalid character '" ++ c.toString ++ "' " ++ context

def unexpected (context : String) : List Char → String
  | [] => unexpectedEnd
  | c :: _ => invalidCharacter c context

/-! ## Lexing -/

def spanDigits (chars : List Char) : List Char × List Char :=
  chars.span Char.isDigit

def lexExponent : List Char → Except String (List Char × List Char)
  | [] => .ok ([], [])
  | c :: rest =>
      if c = 'e' || c = 'E' then
        let (sign, afterSign) : List Char × List Char := match rest with
          | '+' :: more => (['+'], more)
          | '-' :: more => (['-'], more)
          | more => ([], more)
        match spanDigits afterSign with
        | ([], more) => .error (unexpected "in exponent of numeric literal" more)
        | (digits, more) => .ok (c :: sign ++ digits, more)
      else .ok ([], c :: rest)

def lexFraction : List Char → Except String (List Char × List Char)
  | '.' :: rest =>
      match spanDigits rest with
      | ([], more) => .error (unexpected "after decimal point in numeric literal" more)
      | (digits, more) =>
          (lexExponent more).map fun (exponent, after) => ('.' :: digits ++ exponent, after)
  | chars => lexExponent chars

/-- A number literal: `-? (0 | [1-9][0-9]*) (. [0-9]+)? ([eE] [+-]? [0-9]+)?`. -/
def lexNumber (chars : List Char) : Except String (List Char × List Char) :=
  let (minus, rest) : List Char × List Char := match chars with
    | '-' :: more => (['-'], more)
    | more => ([], more)
  match rest with
  | '0' :: more => (lexFraction more).map fun (tail, after) => (minus ++ '0' :: tail, after)
  | c :: more =>
      if '1' ≤ c && c ≤ '9' then
        (lexFraction (spanDigits more).2).map fun (tail, after) =>
          (minus ++ c :: (spanDigits more).1 ++ tail, after)
      else .error (invalidCharacter c "in numeric literal")
  | [] => .error unexpectedEnd

def hexValue (c : Char) : Option Nat :=
  if '0' ≤ c && c ≤ '9' then some (c.toNat - '0'.toNat)
  else if 'a' ≤ c && c ≤ 'f' then some (c.toNat - 'a'.toNat + 10)
  else if 'A' ≤ c && c ≤ 'F' then some (c.toNat - 'A'.toNat + 10)
  else none

def isSurrogate (unit : Nat) : Bool :=
  0xD800 ≤ unit && unit < 0xE000

def isHighSurrogate (unit : Nat) : Bool :=
  0xD800 ≤ unit && unit < 0xDC00

def isLowSurrogate (unit : Nat) : Bool :=
  0xDC00 ≤ unit && unit < 0xE000

def singleUnit (unit : Nat) : Char :=
  if isSurrogate unit then '\uFFFD' else Char.ofNat unit

inductive StringUnit where
  | char (char : Char)
  | code (unit : Nat)
  deriving DecidableEq, Repr

def simpleEscape : Char → Option Char
  | '"' => some '"' | '\\' => some '\\' | '/' => some '/'
  | 'b' => some '\x08' | 'f' => some '\x0c' | 'n' => some '\n'
  | 'r' => some '\r' | 't' => some '\t' | _ => none

mutual

/-- The units of a string literal after its opening quote, and the input after its
closing quote. -/
def scanString : List Char → Except String (List StringUnit × List Char)
  | [] => .error unexpectedEnd
  | c :: rest =>
      if c = '"' then .ok ([], rest)
      else if c = '\\' then scanEscape rest
      else if c.toNat < 0x20 then .error (invalidCharacter c "in string literal")
      else (scanString rest).map fun (units, after) => (.char c :: units, after)

/-- The input after a backslash. -/
def scanEscape : List Char → Except String (List StringUnit × List Char)
  | [] => .error unexpectedEnd
  | c :: rest =>
      if c = 'u' then scanHex 4 0 rest
      else match simpleEscape c with
        | some char => (scanString rest).map fun (units, after) => (.char char :: units, after)
        | none => .error (invalidCharacter c "in string escape code")

def scanHex : Nat → Nat → List Char → Except String (List StringUnit × List Char)
  | _, _, [] => .error unexpectedEnd
  | remaining, unit, c :: rest =>
      match hexValue c with
      | none => .error (invalidCharacter c "in \\u hexadecimal character escape")
      | some digit =>
          if remaining ≤ 1 then
            (scanString rest).map fun (units, after) => (.code (unit * 16 + digit) :: units, after)
          else scanHex (remaining - 1) (unit * 16 + digit) rest

end

def joinSurrogates : Option Nat → List StringUnit → List Char
  | pending, [] => (pending.map singleUnit).toList
  | none, .char c :: rest => c :: joinSurrogates none rest
  | none, .code unit :: rest =>
      if isHighSurrogate unit then joinSurrogates (some unit) rest
      else singleUnit unit :: joinSurrogates none rest
  | some high, .char c :: rest => singleUnit high :: c :: joinSurrogates none rest
  | some high, .code unit :: rest =>
      if isLowSurrogate unit then
        Char.ofNat (0x10000 + (high - 0xD800) * 0x400 + (unit - 0xDC00)) :: joinSurrogates none rest
      else if isHighSurrogate unit then singleUnit high :: joinSurrogates (some unit) rest
      else singleUnit high :: singleUnit unit :: joinSurrogates none rest

/-- A string literal after its opening quote: its text, and the input after it. -/
def lexString (chars : List Char) : Except String (List Char × List Char) :=
  (scanString chars).map fun (units, after) => (joinSurrogates none units, after)

def lexLiteral (name : String) : List Char → List Char → Except String (List Char)
  | [], rest => .ok rest
  | _ :: _, [] => .error unexpectedEnd
  | expected :: more, c :: rest =>
      if c = expected then lexLiteral name more rest
      else .error (invalidCharacter c
        ("in literal " ++ name ++ " (expecting '" ++ expected.toString ++ "')"))

/-! ## Parsing -/

/-- A JSON value as decoding into `map[string]int` sees it: numbers keep their
literal, strings, booleans and arrays only their kind. -/
inductive Shape where
  | null
  | boolean
  | number (literal : List Char)
  | text
  | array
  | object (members : List (String × Shape))
  deriving Repr

mutual

/-- A value and the input after it. The fuel bounds the nesting and never runs out
on an input shorter than it. -/
def parseValue : Nat → List Char → Except String (Shape × List Char)
  | 0, _ => .error unexpectedEnd
  | fuel + 1, chars =>
      match skipWhitespace chars with
      | [] => .error unexpectedEnd
      | '{' :: rest =>
          match skipWhitespace rest with
          | '}' :: after => .ok (.object [], after)
          | members => (parseMembers fuel members).map fun (fields, after) => (.object fields, after)
      | '[' :: rest =>
          match skipWhitespace rest with
          | ']' :: after => .ok (.array, after)
          | elements => (parseElements fuel elements).map fun after => (.array, after)
      | '"' :: rest => (lexString rest).map fun (_, after) => (.text, after)
      | 't' :: rest => (lexLiteral "true" ['r', 'u', 'e'] rest).map fun after => (.boolean, after)
      | 'f' :: rest =>
          (lexLiteral "false" ['a', 'l', 's', 'e'] rest).map fun after => (.boolean, after)
      | 'n' :: rest => (lexLiteral "null" ['u', 'l', 'l'] rest).map fun after => (.null, after)
      | c :: rest =>
          if c = '-' || c.isDigit then
            (lexNumber (c :: rest)).map fun (literal, after) => (.number literal, after)
          else .error (invalidCharacter c "looking for beginning of value")

/-- The members of an object, from a key to the closing brace. -/
def parseMembers : Nat → List Char → Except String (List (String × Shape) × List Char)
  | 0, _ => .error unexpectedEnd
  | fuel + 1, '"' :: rest => do
      let (key, afterKey) ← lexString rest
      match skipWhitespace afterKey with
      | ':' :: afterColon =>
          let (value, afterValue) ← parseValue fuel afterColon
          match skipWhitespace afterValue with
          | ',' :: more =>
              let (fields, after) ← parseMembers fuel (skipWhitespace more)
              .ok ((String.mk key, value) :: fields, after)
          | '}' :: after => .ok ([(String.mk key, value)], after)
          | other => .error (unexpected "after object key:value pair" other)
      | other => .error (unexpected "after object key" other)
  | _ + 1, other => .error (unexpected "looking for beginning of object key string" other)

/-- The elements of an array, from the first element to the closing bracket. -/
def parseElements : Nat → List Char → Except String (List Char)
  | 0, _ => .error unexpectedEnd
  | fuel + 1, chars => do
      let (_, afterValue) ← parseValue fuel chars
      match skipWhitespace afterValue with
      | ',' :: more => parseElements fuel more
      | ']' :: after => .ok after
      | other => .error (unexpected "after array element" other)

end

/-! ## Decoding into `map[string]int` -/

def digitsValue (digits : List Char) : Nat :=
  digits.foldl (fun value digit => value * 10 + (digit.toNat - '0'.toNat)) 0

/-- `strconv.ParseInt(literal, 10, 64)` on a JSON number literal. -/
def parseInt64 (literal : List Char) : Option Int :=
  let value : Option Int := match literal with
    | '-' :: digits => if digits.all Char.isDigit then some (-(digitsValue digits : Int)) else none
    | digits => if digits.all Char.isDigit then some (digitsValue digits) else none
  value.filter fun value => -2 ^ 63 ≤ value && value < 2 ^ 63

def typeError (kind target : String) : GoError :=
  ⟨"json: cannot unmarshal " ++ kind ++ " into Go value of type " ++ target, none⟩

def memberValue : Shape → Int × Option GoError
  | .null => (0, none)
  | .number literal =>
      match parseInt64 literal with
      | some value => (value, none)
      | none => (0, some (typeError ("number " ++ String.mk literal) "int"))
  | .text => (0, some (typeError "string" "int"))
  | .boolean => (0, some (typeError "bool" "int"))
  | .array => (0, some (typeError "array" "int"))
  | .object _ => (0, some (typeError "object" "int"))

def decode : Shape → Except GoError (GoMap Int)
  | .null => .ok []
  | .object members =>
      match members.findSome? fun member => (memberValue member.2).2 with
      | some err => .error err
      | none => .ok (members.foldl (fun map member =>
          map.insert member.1 (memberValue member.2).1) [])
  | .number literal => .error (typeError ("number " ++ String.mk literal) "map[string]int")
  | .text => .error (typeError "string" "map[string]int")
  | .boolean => .error (typeError "bool" "map[string]int")
  | .array => .error (typeError "array" "map[string]int")

/-- `json.Unmarshal([]byte(data), &m)` for `m map[string]int`: the map stored in `m`
(nil counts as empty), or the error. -/
def unmarshal (data : String) : Except GoError (GoMap Int) :=
  match parseValue (data.length + 1) data.data with
  | .error message => .error ⟨message, none⟩
  | .ok (shape, rest) =>
      match skipWhitespace rest with
      | [] => decode shape
      | c :: _ => .error ⟨invalidCharacter c "after top-level value", none⟩

/-! ## The encoder of `Reconcile` (lines 146-151) -/

def nilDereference : String :=
  "runtime error: invalid memory address or nil pointer dereference"

/-- The record entry of one outdated pool: `{"MinCount": %d, "MaxCount": %d}` when
either bound is set, `{"Count": %d}` otherwise. Dereferencing an absent field panics. -/
def scalingEntry (pool : AgentPool) : Except String String :=
  match pool.properties with
  | none => .error nilDereference
  | some properties =>
      if properties.minCount.isSome || properties.maxCount.isSome then
        match properties.minCount, properties.maxCount with
        | some minCount, some maxCount =>
            .ok ("\x7b\"MinCount\": " ++ toString minCount.toInt ++ ", \"MaxCount\": " ++
              toString maxCount.toInt ++ "\x7d")
        | _, _ => .error nilDereference
      else
        match properties.count with
        | some count => .ok ("\x7b\"Count\": " ++ toString count.toInt ++ "\x7d")
        | none => .error nilDereference

end NodeUpdater.Json
