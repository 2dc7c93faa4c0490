import SqlBridge.Text.Visible
import SqlBridge.Update.Query
import SqlBridge.Session.Statement

/-!
# Inspection texts

One-line texts that show the parts of a query, a statement or a logger to a
developer.
-/

set_option autoImplicit false

namespace SqlBridge.Inspect

/-- A character that cannot be seen by itself is written by its code. -/
def escapeChar (c : Char) : List Char :=
  if c = '"' then ['\\', '"']
  else if c = '\\' then ['\\', '\\']
  else if c = '\n' then ['\\', 'n']
  else if c = '\r' then ['\\', 'r']
  else if c = '\t' then ['\\', 't']
  else if c.toNat = 0 then ['\\', '0']
  else if Text.showsAlone c then [c]
  else '\\' :: 'u' :: '\x7b' :: Nat.toDigits 16 c.toNat ++ ['\x7d']

def string (text : String) : String :=
  String.ofList ('"' :: text.toList.flatMap escapeChar ++ ['"'])

/-- Bytes show as ASCII where they can and in hexadecimal otherwise. -/
def escapeByte (byte : UInt8) : List Char :=
  let n := byte.toNat
  if n = 0x22 then ['\\', '"']
  else if n = 0x5C then ['\\', '\\']
  else if n = 0x0A then ['\\', 'n']
  else if n = 0x0D then ['\\', 'r']
  else if n = 0x09 then ['\\', 't']
  else if n = 0 then ['\\', '0']
  else if 0x20 ≤ n ∧ n < 0x7F then [Char.ofNat n]
  else '\\' :: 'x' :: Hex.padded 2 n

def bytes (blob : ByteArray) : String :=
  String.ofList ('b' :: '"' :: blob.data.toList.flatMap escapeByte ++ ['"'])

def list (items : List String) : String :=
  "[" ++ ", ".intercalate items ++ "]"

def record (name : String) (fields : List (String × String)) : String :=
  name ++ " \x7b " ++ ", ".intercalate (fields.map fun field => field.1 ++ ": " ++ field.2) ++
    " \x7d"

def wrapped (name content : String) : String :=
  name ++ "(" ++ content ++ ")"

def pair (first second : String) : String :=
  "(" ++ first ++ ", " ++ second ++ ")"

def bool (b : Bool) : String :=
  if b then "true" else "false"

/-- Leading exponents from -4 to 15 are positional; a plus sign is not written. -/
def floatFormat : FloatFormat where
  leastPositional := -4
  greatestPositional := 15
  plusSign := false
  ties := .upward
  notANumber := "NaN"
  infinity := "inf"
  negativeInfinity := "-inf"

def value : Value → String
  | .null => "Null"
  | .bool b => wrapped "Bool" (bool b)
  | .int n => wrapped "Int" (toString n.toInt)
  | .float x => wrapped "Float" (floatFormat.render x)
  | .text s => wrapped "Text" (string s)
  | .bytes b => wrapped "Bytes" (bytes b)
  | .uuid u => wrapped "Uuid" u.text
  | .dateTime d => wrapped "DateTime" d.text

def param (param : Param) : String :=
  record "Param" [("placeholder", string param.placeholder), ("value", value param.value)]

def paramList (params : ParamList) : String :=
  record "ParamList" [("params", list (params.params.map param))]

def expression (expression : Expression) : String :=
  record "ExpressionField"
    [("expression", string expression.sql), ("arguments", paramList expression.arguments)]

def update (update : Update) : String :=
  record "UpdateQuery" [
    ("table", string update.table),
    ("fields", list (update.literals.map fun field => pair (string field.1) (value field.2))),
    ("expression_fields",
      list (update.expressions.map fun field => pair (string field.1) (expression field.2))),
    ("has_condition", bool update.condition.isSome),
    ("comments", list (update.comments.map string))]

def fetchMode : FetchMode → String
  | .assoc => "Assoc"
  | .num => "Num"
  | .keyPair => "KeyPair"
  | .record name => wrapped "Class" (string name)

def prepareOptions (options : PrepareOptions) : String :=
  record "PrepareOptions"
    [("direct_query", bool options.directQuery), ("emulate_prepares", bool options.emulatePrepares)]

/-- A statement with the SQL of its handle. -/
def statement (sql : String) (statement : Statement) : String :=
  record "Statement" [
    ("sql", string sql),
    ("fetch_mode", fetchMode statement.fetchMode),
    ("prepare_options", prepareOptions statement.prepareOptions),
    ("column_names", list (statement.columnNames.map string))]

/-- A composite logger shows only the number of its parts. -/
def composite (parts : List Logger) : String :=
  record "CompositeLogger" [("loggers", toString parts.length)]

end SqlBridge.Inspect
