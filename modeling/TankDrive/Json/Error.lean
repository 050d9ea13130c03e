import TankDrive.Json.Value
import TankDrive.Unicode
/-!
# JSON を読むときの誤り

誤りは原因（`Problem`）と位置（行と、その行の先頭からの byte 数）からなる。
構文の誤りは見つけた場所に位置を持つ。型の合わない値、足りない field などの誤りは
生まれたときには位置を持たず、それを読んでいた値の読み取りが終わったところで、
その時点の位置を与えられる（`Reader.fixPosition`）。

誤りの文は `原因 at line L column C`、位置がなければ原因だけ。
-/

namespace TankDrive.Json

/-- 読み取りの途中で出会った、期待と違う値。 -/
inductive Unexpected where
  | bool (b : Bool)
  | unsigned (n : Nat)
  | signed (n : Int)
  | float (x : Float)
  | str (s : String)
  | unit
  | seq
  | map

/-- 文字列の中の 1 文字を、引用して見せるために書く。決まった escape のある文字の他、
表示できない文字と前の文字に重なる文字（`Unicode.hidden`）は `\u{..}` にする。 -/
def debugChar (c : Char) : String :=
  match c with
  | '\t' => "\\t"
  | '\r' => "\\r"
  | '\n' => "\\n"
  | '\\' => "\\\\"
  | '"' => "\\\""
  | '\x00' => "\\0"
  | c =>
    if Unicode.hidden c then "\\u" ++ "\x7b" ++ String.ofList (Nat.toDigits 16 c.toNat) ++ "\x7d"
    else String.singleton c

/-- 文字列を引用して見せる。 -/
def debugString (s : String) : String :=
  "\"" ++ String.join (s.toList.map debugChar) ++ "\""

/-- 期待と違う値の説明。 -/
def Unexpected.describe : Unexpected → String
  | .bool b => "boolean `" ++ (if b then "true" else "false") ++ "`"
  | .unsigned n => "integer `" ++ toString n ++ "`"
  | .signed n => "integer `" ++ toString n ++ "`"
  | .float x => "floating point `" ++ Decimal.Notation.json.render x ++ "`"
  | .str s => "string " ++ debugString s
  | .unit => "null"
  | .seq => "sequence"
  | .map => "map"

/-- 読んだ数を、期待と違う値として見る。 -/
def Number.unexpected : Number → Unexpected
  | .nat n => .unsigned n
  | .negInt n => .signed n
  | .float x => .float x

/-- 値を、期待と違う値として見る。 -/
def Value.unexpected : Value → Unexpected
  | .null => .unit
  | .bool b => .bool b
  | .number n => n.unexpected
  | .string s => .str s
  | .array _ => .seq
  | .object _ => .map

/-- 読み取りの誤りの原因。 -/
inductive Problem where
  | eofWhileParsingList
  | eofWhileParsingObject
  | eofWhileParsingString
  | eofWhileParsingValue
  | expectedColon
  | expectedListCommaOrEnd
  | expectedObjectCommaOrEnd
  | expectedSomeIdent
  | expectedSomeValue
  | invalidEscape
  | invalidNumber
  | numberOutOfRange
  | invalidUnicodeCodePoint
  | controlCharacterWhileParsingString
  | keyMustBeAString
  | loneLeadingSurrogateInHexEscape
  | trailingComma
  | trailingCharacters
  | unexpectedEndOfHexEscape
  | recursionLimitExceeded
  /-- 値の種類が期待と違う。`expected` は期待した型の説明。 -/
  | invalidType (got : Unexpected) (expected : String)
  /-- 値の種類は合うが範囲が違う。 -/
  | invalidValue (got : Unexpected) (expected : String)
  /-- 配列の要素が足りない。 -/
  | invalidLength (len : Nat) (expected : String)
  | unknownVariant (name : String) (variants : List String)
  | missingField (name : String)
  | duplicateField (name : String)

/-- 列挙の名前を `a`、`a` or `b`、one of `a`, `b`, `c` の形で並べる。 -/
def oneOf (names : List String) : String :=
  match names with
  | [] => "there are no variants"
  | [a] => "`" ++ a ++ "`"
  | [a, b] => "`" ++ a ++ "` or `" ++ b ++ "`"
  | _ => "one of " ++ ", ".intercalate (names.map fun n => "`" ++ n ++ "`")

/-- 原因の文。 -/
def Problem.message : Problem → String
  | .eofWhileParsingList => "EOF while parsing a list"
  | .eofWhileParsingObject => "EOF while parsing an object"
  | .eofWhileParsingString => "EOF while parsing a string"
  | .eofWhileParsingValue => "EOF while parsing a value"
  | .expectedColon => "expected `:`"
  | .expectedListCommaOrEnd => "expected `,` or `]`"
  | .expectedObjectCommaOrEnd => "expected `,` or `\x7d`"
  | .expectedSomeIdent => "expected ident"
  | .expectedSomeValue => "expected value"
  | .invalidEscape => "invalid escape"
  | .invalidNumber => "invalid number"
  | .numberOutOfRange => "number out of range"
  | .invalidUnicodeCodePoint => "invalid unicode code point"
  | .controlCharacterWhileParsingString =>
    "control character (\\u0000-\\u001F) found while parsing a string"
  | .keyMustBeAString => "key must be a string"
  | .loneLeadingSurrogateInHexEscape => "lone leading surrogate in hex escape"
  | .trailingComma => "trailing comma"
  | .trailingCharacters => "trailing characters"
  | .unexpectedEndOfHexEscape => "unexpected end of hex escape"
  | .recursionLimitExceeded => "recursion limit exceeded"
  | .invalidType got exp => "invalid type: " ++ got.describe ++ ", expected " ++ exp
  | .invalidValue got exp => "invalid value: " ++ got.describe ++ ", expected " ++ exp
  | .invalidLength n exp => "invalid length " ++ toString n ++ ", expected " ++ exp
  | .unknownVariant name vs => "unknown variant `" ++ name ++ "`, expected " ++ oneOf vs
  | .missingField name => "missing field `" ++ name ++ "`"
  | .duplicateField name => "duplicate field `" ++ name ++ "`"

/-- 入力の中の位置。行は 1 から、列はその行の先頭からの byte 数。 -/
structure Position where
  line : Nat
  column : Nat
deriving Repr, DecidableEq

/-- 読み取りの誤り。 -/
structure Error where
  problem : Problem
  position : Option Position := none

/-- 誤りの文。 -/
def Error.message (e : Error) : String :=
  match e.position with
  | some p => e.problem.message ++ " at line " ++ toString p.line ++ " column " ++ toString p.column
  | none => e.problem.message

end TankDrive.Json
