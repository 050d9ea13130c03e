import TankDrive.Decimal.Notation
/-!
# JSON の値と、その書き出し

数は読んだ形のまま三つに分ける：`2^64` 未満の自然数、`-2^63` 以上の負の整数、
それ以外（小数点か指数を含むもの、範囲外の整数、`-0`）の binary64。整数の型へ読むときに
この区別が誤りの文に出る。

書き出しは空白を入れない。文字列は `"`、`\`、改行などの 7 文字を短い escape で、そのほかの
制御文字を `\u00XX`（小文字の 16 進）で書き、DEL と非 ASCII はそのまま書く。
binary64 は `Notation.json` で書き、NaN と無限大は `null` になる。
-/

namespace TankDrive.Json

/-- 読んだ数。 -/
inductive Number where
  /-- `2^64` 未満の自然数。 -/
  | nat (n : Nat)
  /-- `-2^63` 以上の負の整数。 -/
  | negInt (n : Int)
  /-- それ以外。 -/
  | float (x : Float)
deriving Inhabited

/-- 数を binary64 にする。整数は最も近い値に丸める。 -/
def Number.toFloat : Number → Float
  | .nat n => Binary64.ofNat n
  | .negInt n => Binary64.ofInt n
  | .float x => x

/-- JSON の値。object は現れた順に key と値を持つ。 -/
inductive Value where
  | null
  | bool (b : Bool)
  | number (n : Number)
  | string (s : String)
  | array (items : List Value)
  | object (entries : List (String × Value))
deriving Inhabited

/-- 16 進の 1 桁（小文字）。 -/
def hexDigit (n : Nat) : Char :=
  if n < 10 then Char.ofNat (0x30 + n) else Char.ofNat (0x61 + n - 10)

/-- 文字列の中の 1 文字の書き方。 -/
def escapeChar (c : Char) : List Char :=
  match c with
  | '"' => ['\\', '"']
  | '\\' => ['\\', '\\']
  | '\n' => ['\\', 'n']
  | '\t' => ['\\', 't']
  | '\r' => ['\\', 'r']
  | '\x08' => ['\\', 'b']
  | '\x0c' => ['\\', 'f']
  | c =>
    if c.toNat < 0x20 then ['\\', 'u', '0', '0', hexDigit (c.toNat / 16), hexDigit (c.toNat % 16)]
    else [c]

/-- 文字列を引用符で囲んで書く。 -/
def quote (s : String) : String :=
  "\"" ++ String.ofList (s.toList.flatMap escapeChar) ++ "\""

/-- binary64 を JSON の数として書く。NaN と無限大は `null`。 -/
def floatText (x : Float) : String :=
  if x.isFinite then Decimal.Notation.json.render x else "null"

/-- 数を書く。 -/
def Number.render : Number → String
  | .nat n => toString n
  | .negInt n => toString n
  | .float x => floatText x

mutual
/-- 値を空白なしで書く。 -/
def Value.render : Value → String
  | .null => "null"
  | .bool b => if b then "true" else "false"
  | .number n => n.render
  | .string s => quote s
  | .array items => "[" ++ renderItems items ++ "]"
  | .object entries => "\x7b" ++ renderEntries entries ++ "\x7d"

/-- 配列の要素を `,` で区切って書く。 -/
def renderItems : List Value → String
  | [] => ""
  | [v] => v.render
  | v :: rest => v.render ++ "," ++ renderItems rest

/-- object の組を `,` で区切って書く。 -/
def renderEntries : List (String × Value) → String
  | [] => ""
  | [(k, v)] => quote k ++ ":" ++ v.render
  | (k, v) :: rest => quote k ++ ":" ++ v.render ++ "," ++ renderEntries rest
end

/-- binary64 の値。 -/
def Value.ofFloat (x : Float) : Value := .number (.float x)

/-- 自然数の値。 -/
def Value.ofNat (n : Nat) : Value := .number (.nat n)

/-- object の key の値。同じ key が二度あれば後のもの。 -/
def Value.field? (v : Value) (key : String) : Option Value :=
  match v with
  | .object entries => (entries.reverse.find? (·.1 == key)).map (·.2)
  | _ => none

end TankDrive.Json
