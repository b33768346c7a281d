import OsdpTrace.Decimal.Layout

/-!
JSON values and their two written forms: compact (no blanks) and pretty (two-space indent,
one member per line). Object members keep their order. Numbers are integers or floats; a
float is written with its shortest digits, and an integral float keeps a `.0`.
-/
namespace OsdpTrace.Json

/-- A JSON value. Integers and floats are kept apart, as the written form differs. -/
inductive Value where
  | null
  | bool (b : Bool)
  | int (n : Int)
  | float (x : Float)
  | str (s : String)
  | arr (items : List Value)
  | obj (members : List (String × Value))

instance : Inhabited Value := ⟨.null⟩

/-- JSON numbers: positional from `1e-5` up to below `1e16`, otherwise `d.ddde+N` or
`d.ddde-N`. -/
def numberLayout : Decimal.Layout :=
  { minPositional := -5, maxPositional := 16, exponentMark := "e", signedExponent := true,
    pointZero := true }

def floatText (x : Float) : String :=
  if x.isNaN || x.isInf then "null" else numberLayout.shortest x

def hexDigit (n : Nat) : Char :=
  if n < 10 then Char.ofNat (48 + n) else Char.ofNat (87 + n)

/-- A character inside a quoted JSON string: the quote, the backslash and the control
characters are escaped; short forms where JSON has them, `\u00XX` otherwise. -/
def escapeChar (c : Char) : String :=
  match c with
  | '"' => "\\\""
  | '\\' => "\\\\"
  | '\n' => "\\n"
  | '\r' => "\\r"
  | '\t' => "\\t"
  | '\x08' => "\\b"
  | '\x0c' => "\\f"
  | c =>
    if c.toNat < 0x20 then
      String.ofList ['\\', 'u', '0', '0', hexDigit (c.toNat / 16), hexDigit (c.toNat % 16)]
    else c.toString

def quote (s : String) : String :=
  "\"" ++ String.join (s.toList.map escapeChar) ++ "\""

mutual
def Value.compact : Value → String
  | .null => "null"
  | .bool b => if b then "true" else "false"
  | .int n => toString n
  | .float x => floatText x
  | .str s => quote s
  | .arr items => "[" ++ Value.compactItems items ++ "]"
  | .obj members => "\x7b" ++ Value.compactMembers members ++ "\x7d"

def Value.compactItems : List Value → String
  | [] => ""
  | [v] => v.compact
  | v :: rest => v.compact ++ "," ++ Value.compactItems rest

def Value.compactMembers : List (String × Value) → String
  | [] => ""
  | [(k, v)] => quote k ++ ":" ++ v.compact
  | (k, v) :: rest => quote k ++ ":" ++ v.compact ++ "," ++ Value.compactMembers rest
end

def indent (level : Nat) : String := String.ofList (List.replicate (2 * level) ' ')

mutual
def Value.prettyAt (level : Nat) : Value → String
  | .arr [] => "[]"
  | .obj [] => "\x7b\x7d"
  | .arr items => "[\n" ++ Value.prettyItems (level + 1) items ++ "\n" ++ indent level ++ "]"
  | .obj members =>
    "\x7b\n" ++ Value.prettyMembers (level + 1) members ++ "\n" ++ indent level ++ "\x7d"
  | .null => "null"
  | .bool b => if b then "true" else "false"
  | .int n => toString n
  | .float x => floatText x
  | .str s => quote s

def Value.prettyItems (level : Nat) : List Value → String
  | [] => ""
  | [v] => indent level ++ v.prettyAt level
  | v :: rest => indent level ++ v.prettyAt level ++ ",\n" ++ Value.prettyItems level rest

def Value.prettyMembers (level : Nat) : List (String × Value) → String
  | [] => ""
  | [(k, v)] => indent level ++ quote k ++ ": " ++ v.prettyAt level
  | (k, v) :: rest =>
    indent level ++ quote k ++ ": " ++ v.prettyAt level ++ ",\n" ++ Value.prettyMembers level rest
end

def Value.pretty (v : Value) : String := v.prettyAt 0

def Value.field? (v : Value) (key : String) : Option Value :=
  match v with
  | .obj members => (members.find? (·.1 == key)).map (·.2)
  | _ => none

def Value.ofOption {α : Type} (f : α → Value) : Option α → Value
  | some a => f a
  | none => .null

end OsdpTrace.Json
