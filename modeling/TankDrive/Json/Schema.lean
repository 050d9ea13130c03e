import TankDrive.Json.Cursor
/-!
# 型に合わせて JSON を読む

決まった形の値を、JSON の文字列から直接読む。読み方は型の形ごとに決まっている。

* 数（binary64、範囲つきの自然数）、真偽値、文字列：違う種類の値が来たら、その値を
  読み切ってから「期待と違う型」の誤りにする。
* 単位だけの列挙：名前の文字列か、`{"名前": null}` の形。
* record：object（key で field を選ぶ）か配列（field を順に）。知らない key は
  読み飛ばす。同じ field が二度あれば誤り。欠けた field は、既定値のある record なら
  既定値、なければ誤り。
* どんな値でも `Value` として読む（`anyValue`）、または読み飛ばす（`skipValue`）。
  読み飛ばしは入れ子の深さを数えず、区切りの誤りの種類も少し違う。

括弧の中の読み取りが誤りで終わっても、閉じ括弧を探す手順は走る。位置のない誤りは
その後の位置を受け取る。

## 停止性

入れ子と繰り返しは、どれも 1 回ごとに 1 文字以上を読む。残りの入力の長さに 1 を足した
`fuel` を、呼ぶたびに減らす。
-/

namespace TankDrive.Json.Reader

/-- 値の始まりまで空白を飛ばす。入力の終わりなら誤り。 -/
def begin : Reader Char := do
  match ← skipBlank with
  | none => failPeek .eofWhileParsingValue
  | some c => pure c

/-- 期待と違う値を読み切って、「期待と違う型」の誤りにする。 -/
def invalidType (expected : String) : Reader α := do
  let got : Unexpected ← do
    match ← peek with
    | some 'n' => eat; ident ['u', 'l', 'l']; pure .unit
    | some 't' => eat; ident ['r', 'u', 'e']; pure (.bool true)
    | some 'f' => eat; ident ['a', 'l', 's', 'e']; pure (.bool false)
    | some '-' => eat; pure (← number false).unexpected
    | some '"' => eat; pure (.str (← string))
    | some '[' => pure .seq
    | some '{' => pure .map
    | some c => if c.isDigit then pure (← number true).unexpected else failPeek .expectedSomeValue
    | none => failPeek .expectedSomeValue
  fixPosition (raise (.invalidType got expected))

/-- 数を読む。数でなければ `expected` の型の誤り。 -/
def numberAs (expected : String) : Reader Number := do
  let c ← begin
  if c = '-' then eat; number false
  else if c.isDigit then number true
  else invalidType expected

/-- binary64 を読む。整数は最も近い値に丸める。 -/
def float : Reader Float := fixPosition do
  return (← numberAs "f64").toFloat

/-- `bound` 未満の自然数を読む。`name` は型の名前。 -/
def natBelow (bound : Nat) (name : String) : Reader Nat := fixPosition do
  match ← numberAs name with
  | .nat k => if k < bound then pure k else raise (.invalidValue (.unsigned k) name)
  | .negInt k => raise (.invalidValue (.signed k) name)
  | .float x => raise (.invalidType (.float x) name)

/-- 32 bit の自然数。 -/
def u32 : Reader Nat := natBelow (Nat.pow 2 32) "u32"

/-- 64 bit の自然数。 -/
def u64 : Reader Nat := natBelow (Nat.pow 2 64) "u64"

/-- 真偽値を読む。 -/
def bool : Reader Bool := fixPosition do
  let c ← begin
  if c = 't' then eat; ident ['r', 'u', 'e']; pure true
  else if c = 'f' then eat; ident ['a', 'l', 's', 'e']; pure false
  else invalidType "a boolean"

/-- 文字列を読む。 -/
def str : Reader String := fixPosition do
  let c ← begin
  if c = '"' then eat; string else invalidType "a string"

/-- `null` を読む。 -/
def unit : Reader Unit := fixPosition do
  let c ← begin
  if c = 'n' then eat; ident ['u', 'l', 'l'] else invalidType "unit"

/-- 列挙の名前を読み、その番号を返す。 -/
def variantName (variants : List String) : Reader Nat := fixPosition do
  let c ← begin
  if c = '"' then
    eat
    let s ← string
    match variants.idxOf? s with
    | some i => pure i
    | none => raise (.unknownVariant s variants)
  else invalidType "variant identifier"

/-- object の key と値の間の `:`。 -/
def objectColon : Reader Unit := do
  match ← skipBlank with
  | some ':' => eat
  | some _ => failPeek .expectedColon
  | none => failPeek .eofWhileParsingObject

/-- 単位だけの列挙を読む：名前の文字列か、`{"名前": null}`。object の形では、名前は
object の key として読むので、文字列でなければ key の誤り。ただし空の object `{}` は、
名前がないので値がないという誤り。 -/
def unitEnum (variants : List String) : Reader Nat := do
  match ← skipBlank with
  | some '{' =>
    enter
    eat
    let i ← match ← skipBlank with
      | some '"' => variantName variants
      | some '\x7d' => failPeek .expectedSomeValue
      | some _ => failPeek .keyMustBeAString
      | none => failPeek .eofWhileParsingObject
    objectColon
    unit
    leave
    match ← skipBlank with
    | some '}' => eat; pure i
    | some _ => fail .expectedSomeValue
    | none => fail .eofWhileParsingObject
  | some '"' => variantName variants
  | some _ => failPeek .expectedSomeValue
  | none => failPeek .eofWhileParsingValue

/-- object の次の key。`}` なら `none`。`first` は最初の key を待っているとき。 -/
def nextKey (first : Bool) : Reader (Option String) := do
  match ← skipBlank with
  | some '}' => pure none
  | some ',' =>
    if first then failPeek .keyMustBeAString
    else
      eat
      match ← skipBlank with
      | some '"' => eat; some <$> string
      | some '}' => failPeek .trailingComma
      | some _ => failPeek .keyMustBeAString
      | none => failPeek .eofWhileParsingValue
  | some c =>
    if !first then failPeek .expectedObjectCommaOrEnd
    else if c = '"' then eat; some <$> string
    else failPeek .keyMustBeAString
  | none => failPeek .eofWhileParsingObject

/-- 配列の次の要素。`]` なら `none`。 -/
def nextElement (first : Bool) (item : Reader α) : Reader (Option α) := do
  match ← skipBlank with
  | some ']' => pure none
  | some ',' =>
    if first then some <$> item
    else
      eat
      match ← skipBlank with
      | some ']' => failPeek .trailingComma
      | some _ => some <$> item
      | none => failPeek .eofWhileParsingValue
  | some _ => if first then some <$> item else failPeek .expectedListCommaOrEnd
  | none => failPeek .eofWhileParsingList

/-- object の閉じ括弧。 -/
def endMap : Reader Unit := do
  match ← skipBlank with
  | some '}' => eat
  | some ',' => failPeek .trailingComma
  | some _ => failPeek .trailingCharacters
  | none => failPeek .eofWhileParsingObject

/-- 配列の閉じ括弧。 -/
def endSeq : Reader Unit := do
  match ← skipBlank with
  | some ']' => eat
  | some ',' =>
    eat
    match ← skipBlank with
    | some ']' => failPeek .trailingComma
    | _ => failPeek .trailingCharacters
  | some _ => failPeek .trailingCharacters
  | none => failPeek .eofWhileParsingList

/-- 開き括弧を読み、中身を読み、誤りがあっても閉じ括弧を探してから結果を決める。 -/
def enclosed (body : Reader α) (close : Reader Unit) : Reader α := do
  enter
  eat
  let r ← attempt body
  leave
  let e ← attempt close
  match r, e with
  | .ok v, .ok () => pure v
  | .error err, _ => throw err
  | .ok _, .error err => throw err

mutual
/-- どんな値でも `Value` として読む。 -/
def anyValue : Nat → Reader Value
  | 0 => failPeek .eofWhileParsingValue
  | fuel + 1 => do
    let c ← begin
    fixPosition do
      match c with
      | 'n' => eat; ident ['u', 'l', 'l']; pure .null
      | 't' => eat; ident ['r', 'u', 'e']; pure (.bool true)
      | 'f' => eat; ident ['a', 'l', 's', 'e']; pure (.bool false)
      | '-' => eat; pure (.number (← number false))
      | '"' => eat; pure (.string (← string))
      | '[' => enclosed (.array <$> anyItems fuel true []) endSeq
      | '{' => enclosed (.object <$> anyEntries fuel true []) endMap
      | c => if c.isDigit then pure (.number (← number true)) else failPeek .expectedSomeValue

/-- 配列の残りの要素を読む。 -/
def anyItems : Nat → Bool → List Value → Reader (List Value)
  | 0, _, _ => failPeek .eofWhileParsingList
  | fuel + 1, first, acc => do
    match ← nextElement first (anyValue fuel) with
    | some v => anyItems fuel false (v :: acc)
    | none => pure acc.reverse

/-- object の残りの組を読む。 -/
def anyEntries : Nat → Bool → List (String × Value) → Reader (List (String × Value))
  | 0, _, _ => failPeek .eofWhileParsingObject
  | fuel + 1, first, acc => do
    match ← nextKey first with
    | some k =>
      objectColon
      let v ← anyValue fuel
      anyEntries fuel false ((k, v) :: acc)
    | none => pure acc.reverse
end

/-- 読み飛ばす数の小数部（`.` の前まで読んだ後）。 -/
def skipExponent : Reader Unit := do
  eat
  match ← peek with
  | some '+' | some '-' => eat
  | _ => pure ()
  match ← peek with
  | some c => if c.isDigit then discard digits else failPeek .invalidNumber
  | none => fail .invalidNumber

/-- 読み飛ばす数（負なら `-` は読んだ後）。 -/
def skipNumber : Reader Unit := do
  match ← peek with
  | some '0' =>
    eat
    match ← peek with
    | some c => if c.isDigit then failPeek .invalidNumber else pure ()
    | none => pure ()
  | some c => if '1' ≤ c ∧ c ≤ '9' then discard digits else failPeek .invalidNumber
  | none => fail .invalidNumber
  match ← peek with
  | some '.' =>
    eat
    let frac ← digits
    if frac.isEmpty then failPeek .invalidNumber
    match ← peek with
    | some 'e' | some 'E' => skipExponent
    | _ => pure ()
  | some 'e' | some 'E' => skipExponent
  | _ => pure ()

mutual
/-- 値を読み飛ばす。構文は確かめるが、数の範囲と入れ子の深さは確かめない。 -/
def skipValue : Nat → Reader Unit
  | 0 => failPeek .eofWhileParsingValue
  | fuel + 1 => do
    match ← skipBlank with
    | none => failPeek .eofWhileParsingValue
    | some 'n' => eat; ident ['u', 'l', 'l']
    | some 't' => eat; ident ['r', 'u', 'e']
    | some 'f' => eat; ident ['a', 'l', 's', 'e']
    | some '-' => eat; skipNumber
    | some '"' => eat; skipString
    | some '[' =>
      eat
      match ← skipBlank with
      | some ']' => eat
      | some _ => skipValue fuel; skipItems fuel
      | none => failPeek .eofWhileParsingList
    | some '{' =>
      eat
      match ← skipBlank with
      | some '}' => eat
      | some _ => skipEntry fuel; skipEntries fuel
      | none => failPeek .eofWhileParsingObject
    | some c => if c.isDigit then skipNumber else failPeek .expectedSomeValue

/-- 読み飛ばす配列の、最初の要素の後。 -/
def skipItems : Nat → Reader Unit
  | 0 => failPeek .eofWhileParsingList
  | fuel + 1 => do
    match ← skipBlank with
    | some ',' => eat; skipValue fuel; skipItems fuel
    | some ']' => eat
    | some _ => failPeek .expectedListCommaOrEnd
    | none => failPeek .eofWhileParsingList

/-- 読み飛ばす object の組を一つ（key から値まで）。 -/
def skipEntry : Nat → Reader Unit
  | 0 => failPeek .eofWhileParsingObject
  | fuel + 1 => do
    match ← skipBlank with
    | some '"' => eat; skipString
    | some _ => failPeek .keyMustBeAString
    | none => failPeek .eofWhileParsingObject
    match ← skipBlank with
    | some ':' => eat
    | some _ => failPeek .expectedColon
    | none => failPeek .eofWhileParsingObject
    skipValue fuel

/-- 読み飛ばす object の、最初の組の後。 -/
def skipEntries : Nat → Reader Unit
  | 0 => failPeek .eofWhileParsingObject
  | fuel + 1 => do
    match ← skipBlank with
    | some ',' => eat; skipEntry fuel; skipEntries fuel
    | some '}' => eat
    | some _ => failPeek .expectedObjectCommaOrEnd
    | none => failPeek .eofWhileParsingObject
end

/-- 残りの入力の長さから決まる `fuel`。 -/
def fuel : Reader Nat := return (← get).rest.length + 1

/-- どんな値でも読む。 -/
def value : Reader Value := do anyValue (← fuel)

/-- 値を読み飛ばす。 -/
def skip : Reader Unit := do skipValue (← fuel)

/-- record の field：名前と、値を読んで record に入れる手順。 -/
structure Field (α : Type) where
  name : String
  read : α → Reader α

/-- record の読み方。 -/
structure Record (α : Type) where
  /-- 誤りの文に出る名前。 -/
  name : String
  fields : List (Field α)
  /-- 読み始めの値。既定値のある record ならその既定値。 -/
  start : α
  /-- 欠けた field を既定値で埋めるか。埋めないなら欠けた field は誤り。 -/
  defaults : Bool

/-- 配列で読むときの期待の説明。 -/
def Record.expecting (r : Record α) : String :=
  let n := r.fields.length
  "struct " ++ r.name ++ " with " ++ toString n ++ (if n = 1 then " element" else " elements")

/-- 欠けた field を確かめる。既定値がなければ、最初に欠けた field の誤り。 -/
def Record.checkMissing (r : Record α) (seen : List Nat) : Reader Unit :=
  if r.defaults then pure () else
  match (List.range r.fields.length).find? (fun i => !seen.contains i) with
  | some i => raise (.missingField ((r.fields[i]?.map (·.name)).getD ""))
  | none => pure ()

/-- object の組を読んで field に入れる。知らない key は `other` に渡す。 -/
def Record.entries (r : Record α) (other : String → α → Reader α) :
    Nat → Bool → List Nat → α → Reader (List Nat × α)
  | 0, _, seen, acc => pure (seen, acc)
  | fuel + 1, first, seen, acc => do
    match ← nextKey first with
    | none => pure (seen, acc)
    | some k =>
      match r.fields.findIdx? (·.name == k) with
      | some i =>
        if seen.contains i then raise (.duplicateField k)
        else
          objectColon
          let acc ← match r.fields[i]? with
            | some f => f.read acc
            | none => pure acc
          r.entries other fuel false (i :: seen) acc
      | none =>
        objectColon
        let acc ← other k acc
        r.entries other fuel false seen acc

/-- object の中身を record として読む。 -/
def Record.visitMap (r : Record α) (other : String → α → Reader α) : Reader α := do
  let (seen, v) ← r.entries other (← fuel) true [] r.start
  r.checkMissing seen
  pure v

/-- 値を書き出した文字列で、配列の形の record の後に余った要素を数える。 -/
def countRest : Nat → Nat → Reader Nat
  | 0, n => pure n
  | fuel + 1, n => do
    match ← skipBlank with
    | some ',' => eat; skip; countRest fuel (n + 1)
    | _ => pure n

/-- 配列の形の record の閉じ括弧。`read` は読んだ要素の数。書かれたままの文字列では
`endSeq`。値を書き出した文字列では、余った要素があれば要素の総数の誤り。 -/
def endRecordSeq (read : Nat) : Reader Unit := do
  match (← get).origin with
  | .text => endSeq
  | .value =>
    match ← skipBlank with
    | some ']' => eat
    | _ =>
      let extra ← countRest (← fuel) 0
      raise (.invalidLength (read + extra) "fewer elements in array")

/-- 配列の中身を field の順に読む。 -/
def Record.items (r : Record α) : List (Field α) → Nat → Bool → α → Reader α
  | [], _, _, acc => pure acc
  | f :: rest, i, first, acc => do
    match ← nextElement first (f.read acc) with
    | some acc' => r.items rest (i + 1) false acc'
    | none =>
      if r.defaults then r.items rest (i + 1) first acc
      else raise (.invalidLength i r.expecting)

/-- record を読む：object か配列。 -/
def Record.read (r : Record α) : Reader α := fixPosition do
  let c ← begin
  if c = '[' then enclosed (r.items r.fields 0 true r.start) (endRecordSeq r.fields.length)
  else if c = '{' then enclosed (r.visitMap fun _ acc => do skip; pure acc) endMap
  else invalidType ("struct " ++ r.name)

/-- object だけを受ける record を読む。知らない key の値は `Value` として集め、読み終えたら
`finish` に record と集めた組を渡す。`finish` の誤りも閉じ括弧を探した後の位置を受け取る。 -/
def Record.readCollecting (r : Record α) (finish : α → List (String × Value) → Reader β) :
    Reader β := fixPosition do
  let c ← begin
  if c = '{' then
    let r' : Record (α × List (String × Value)) :=
      { name := r.name, start := (r.start, []), defaults := r.defaults,
        fields := r.fields.map fun f => ⟨f.name, fun (a, xs) => do pure (← f.read a, xs)⟩ }
    enclosed (do
      let (v, extra) ← r'.visitMap fun k (a, xs) => do pure (a, (k, ← value) :: xs)
      finish v extra.reverse) endMap
  else invalidType ("struct " ++ r.name)

/-- 文字列全体を、数を `conversion` の方法で binary64 にしながら読む。値の後に空白以外が
残れば誤り。 -/
def parseWith (conversion : Conversion) (r : Reader α) (s : String) : Except Error α :=
  let act : Reader α := do
    let v ← r
    match ← skipBlank with
    | some _ => failPeek .trailingCharacters
    | none => pure v
  (act.run.run (Cursor.start conversion .text s)).1

/-- 文字列全体を読む。数は最も近い binary64 にする。 -/
def parse (r : Reader α) (s : String) : Except Error α := parseWith .nearest r s

/-- 読み終えた JSON の値を、その書き出した文字列から読む。数は最も近い binary64 にする。 -/
def parseValue (r : Reader α) (v : Value) : Except Error α :=
  let act : Reader α := do
    let x ← r
    match ← skipBlank with
    | some _ => failPeek .trailingCharacters
    | none => pure x
  (act.run.run (Cursor.start .nearest .value v.render)).1

end TankDrive.Json.Reader
