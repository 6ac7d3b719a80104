import AgentCtl.Python.Json
import Mathlib.Data.Nat.Digits.Defs

set_option relaxedAutoImplicit false
set_option autoImplicit false

/-!
# JSON text

`json.dumps` with the options the source uses, and the parts of Python's run time that the model
takes as given: `json.loads`, `repr`, SHA-256, and the Unicode tables behind the regular
expressions.

## Main definitions

* `Json.dumps` — `json.dumps(v, ensure_ascii=…)`.
* `Json.sortKeys` — the value whose text is `json.dumps(v, sort_keys=True)`.
* `Runtime` — the given parts of the run time.
* `Runtime.LoadsDumps` — `json.loads` inverts `json.dumps` on a value.
* `Runtime.plain` — a run time for concrete runs.
-/

open AgentCtl

namespace Str

/-- The decimal digits of a natural number. -/
def ofNat (n : ℕ) : Str :=
  if n = 0 then [48] else ((Nat.digits 10 n).map fun d => Fin.ofNat 0x110000 (48 + d)).reverse

/-- `str(n)` for an integer. -/
def ofInt (n : ℤ) : Str := if n < 0 then 45 :: ofNat n.natAbs else ofNat n.natAbs

/-- A hexadecimal digit, lower case. -/
def hexDigit (d : ℕ) : CodePoint := Fin.ofNat 0x110000 (if d < 10 then 48 + d else 87 + d)

/-- Four hexadecimal digits. -/
def hex4 (n : ℕ) : Str :=
  [hexDigit (n / 4096 % 16), hexDigit (n / 256 % 16), hexDigit (n / 16 % 16), hexDigit (n % 16)]

end Str

namespace Json

/-- The text of one character inside a JSON string. -/
def escapeChar (ensureAscii : Bool) (c : CodePoint) : Str :=
  if c = 34 then "\\\"" else if c = 92 then "\\\\"
  else if c = 10 then "\\n" else if c = 13 then "\\r" else if c = 9 then "\\t"
  else if c = 8 then "\\b" else if c = 12 then "\\f"
  else if c.val < 32 then "\\u" ++ Str.hex4 c.val
  else if ensureAscii && 126 < c.val then
    if c.val < 0x10000 then "\\u" ++ Str.hex4 c.val
    else
      let n := c.val - 0x10000
      "\\u" ++ Str.hex4 (0xD800 + n / 1024) ++ ("\\u" ++ Str.hex4 (0xDC00 + n % 1024))
  else [c]

/-- A JSON string literal. -/
def quote (ensureAscii : Bool) (s : Str) : Str := 34 :: (s.flatMap (escapeChar ensureAscii) ++ [34])

mutual

/-- `json.dumps(v, ensure_ascii=…)`. -/
def dumps (ensureAscii : Bool) : Json → Str
  | null => "null"
  | bool true => "true"
  | bool false => "false"
  | int n => Str.ofInt n
  | float x => x.repr
  | str s => quote ensureAscii s
  | arr [] => "[]"
  | arr (v :: vs) => "[" ++ (dumps ensureAscii v ++ dumpsItems ensureAscii vs)
  | obj [] => "{}"
  | obj ((k, v) :: kvs) =>
    "\x7b" ++ (quote ensureAscii k ++
      (": " ++ (dumps ensureAscii v ++ dumpsEntries ensureAscii kvs)))

/-- The items after the first one, and the closing bracket. -/
def dumpsItems (ensureAscii : Bool) : List Json → Str
  | [] => "]"
  | v :: vs => ", " ++ (dumps ensureAscii v ++ dumpsItems ensureAscii vs)

/-- The entries after the first one, and the closing brace. -/
def dumpsEntries (ensureAscii : Bool) : List (Str × Json) → Str
  | [] => "\x7d"
  | (k, v) :: kvs =>
    ", " ++ (quote ensureAscii k ++ (": " ++ (dumps ensureAscii v ++ dumpsEntries ensureAscii kvs)))

end

/-- Insert an entry into entries that are sorted by key. -/
def insertEntry (k : Str) (v : Json) : List (Str × Json) → List (Str × Json)
  | [] => [(k, v)]
  | (k', v') :: kvs =>
    if k' < k then (k', v') :: insertEntry k v kvs else (k, v) :: (k', v') :: kvs

mutual

/-- The value with the entries of every object in the order of their keys:
`json.dumps(v, sort_keys=True)` is the text of this value. -/
def sortKeys : Json → Json
  | arr xs => arr (sortKeysList xs)
  | obj kvs => obj (sortKeysEntries kvs)
  | v => v

/-- `sortKeys` on the items of a list. -/
def sortKeysList : List Json → List Json
  | [] => []
  | v :: vs => sortKeys v :: sortKeysList vs

/-- `sortKeys` on the entries of an object. -/
def sortKeysEntries : List (Str × Json) → List (Str × Json)
  | [] => []
  | (k, v) :: kvs => insertEntry k (sortKeys v) (sortKeysEntries kvs)

end

end Json

/-- The parts of the Python run time that the model does not define. -/
structure Runtime where
  /-- `json.loads`. -/
  loads : Str → Except Exc Json
  /-- `repr(v)` of a JSON value. -/
  repr : Json → Str
  /-- `hashlib.sha256(s.encode("utf-8")).hexdigest()` of an encodable string. -/
  sha256 : Str → Str
  /-- Regular expressions: `\s`, `\d` and `\w` outside ASCII. -/
  isSpace : CodePoint → Bool
  isDigit : CodePoint → Bool
  isWord : CodePoint → Bool

namespace Runtime

/-- `f"{v}"`: a string as it is, any other value as its `repr`. -/
def format (py : Runtime) : Json → Str
  | .str s => s
  | v => py.repr v

/-- `json.loads(json.dumps(v, ensure_ascii=False))` is `v`. -/
def LoadsDumps (py : Runtime) (v : Json) : Prop := py.loads (v.dumps false) = .ok v

/-- A run time for concrete runs: it reads no JSON text, quotes strings without escapes, and knows
ASCII only. -/
def plain : Runtime where
  loads _ := .error ⟨.jsonDecodeError, "Expecting value: line 1 column 1 (char 0)", none⟩
  repr
    | .str s => "'" ++ (s ++ "'")
    | v => v.dumps false
  sha256 s := s
  isSpace _ := false
  isDigit _ := false
  isWord _ := false

end Runtime
