import AgentCtl.Library.Regex
import AgentCtl.Models

set_option relaxedAutoImplicit false
set_option autoImplicit false

/-!
# Redaction

`store/redaction.py`: eleven regular expressions mask secrets and personal data in a text, one
after the other, and the masking descends into nested values.

## Main definitions

* `AgentCtl.redactPatterns` — the patterns, in their order.
* `AgentCtl.redact`, `redactValue`, `redactMessages`.
-/

namespace AgentCtl

/-! ## Character classes -/

/-- A code point in a range. -/
def inRange (a b : ℕ) (c : CodePoint) : Bool := a ≤ c.val && c.val ≤ b

/-- `[A-Z]` -/
def isUpper (c : CodePoint) : Bool := inRange 65 90 c

/-- `[a-z]` -/
def isLower (c : CodePoint) : Bool := inRange 97 122 c

/-- `[0-9]` -/
def isDecimal (c : CodePoint) : Bool := inRange 48 57 c

/-- `[A-Za-z0-9]` -/
def isAlnum (c : CodePoint) : Bool := isUpper c || isLower c || isDecimal c

/-- One of the characters of a literal. -/
def isOneOf (s : String) (c : CodePoint) : Bool := List.elem c (Str.ofString s)

variable (py : Runtime)

/-- `\s` -/
def isSpace (c : CodePoint) : Bool :=
  if c.val < 128 then inRange 9 13 c || inRange 28 32 c else py.isSpace c

/-- `\d` -/
def isUnicodeDigit (c : CodePoint) : Bool := if c.val < 128 then isDecimal c else py.isDigit c

/-- `\w` -/
def isWord (c : CodePoint) : Bool :=
  if c.val < 128 then isAlnum c || c = 95 else py.isWord c

/-- `[A-Z0-9_]` under `(?i)`: beside the ASCII letters, the four letters outside ASCII that equal
one of them in some case, which are `İ`, `ı`, `ſ` and the Kelvin sign. -/
def isWordIgnoreCase (c : CodePoint) : Bool :=
  isAlnum c || c = 95 || c = 0x130 || c = 0x131 || c = 0x17F || c = 0x212A

/-- `[A-Za-z0-9\-_.]` under `(?i)`. -/
def isTokenIgnoreCase (c : CodePoint) : Bool := isWordIgnoreCase c || isOneOf "-." c

/-- Two characters that `(?i)` takes for one another, `l` being a lower case ASCII letter. -/
def sameLetter (l c : CodePoint) : Bool :=
  c = l || (isLower l && c.val + 32 = l.val) || (l = 105 && (c = 0x130 || c = 0x131)) ||
    (l = 115 && c = 0x17F) || (l = 107 && c = 0x212A)

/-! ## The patterns -/

open Regex

/-- A literal text. -/
def lit (s : String) : Regex CodePoint := cat ((Str.ofString s).map fun l => cls (· = l))

/-- A literal text under `(?i)`, written in lower case. -/
def litIgnoreCase (s : String) : Regex CodePoint :=
  cat ((Str.ofString s).map fun l => cls (sameLetter l))

/-- `\b` -/
def wordBoundary : Regex CodePoint :=
  look fun a b => (a.map (isWord py)).getD false != (b.map (isWord py)).getD false

/-- `\s*[:=]\s*['\"]?[^'\"\s,;]+`: the assignment of a value. -/
def assignment : Regex CodePoint :=
  cat [star true (cls (isSpace py)), cls (isOneOf ":="), star true (cls (isSpace py)),
    opt (cls (isOneOf "'\"")), plus (cls fun c => !(isOneOf "'\",;" c || isSpace py c))]

/-- `[A-Za-z0-9\-_]+` -/
def tokenPart : Regex CodePoint := plus (cls fun c => isAlnum c || isOneOf "-_" c)

/-- `_PATTERNS` -/
def redactPatterns : List (Regex CodePoint) :=
  let upperSpace := star true (cls fun c => isUpper c || c = 32)
  [ cat [lit "-----BEGIN ", upperSpace, lit "PRIVATE KEY-----", star false (cls fun _ => true),
      lit "-----END ", upperSpace, lit "PRIVATE KEY-----"],
    seq (lit "sk-") (atLeast (cls fun c => isAlnum c || isOneOf "-_" c) 8),
    cat [wordBoundary py, alt (lit "AKIA") (lit "ASIA"),
      rep (cls fun c => isUpper c || isDecimal c) 16, wordBoundary py],
    cat [wordBoundary py, lit "gh", cls (isOneOf "pousr"), lit "_",
      atLeast (cls fun c => isAlnum c || c = 95) 20, wordBoundary py],
    cat [litIgnoreCase "bearer", plus (cls (isSpace py)), plus (cls isTokenIgnoreCase)],
    cat [lit "eyJ", tokenPart, lit ".", tokenPart, lit ".", tokenPart],
    cat [wordBoundary py,
      oneOf (cat [litIgnoreCase "api", opt (cls (isOneOf "_-")), litIgnoreCase "key"])
        [litIgnoreCase "secret", litIgnoreCase "token", litIgnoreCase "password"],
      assignment py],
    cat [wordBoundary py, star true (cls isWordIgnoreCase),
      oneOf (litIgnoreCase "api_key")
        [litIgnoreCase "secret", litIgnoreCase "token", litIgnoreCase "password"],
      star true (cls isWordIgnoreCase), assignment py],
    cat [lit "://", plus (cls fun c => !(isOneOf ":/@" c || isSpace py c)), lit ":",
      plus (cls fun c => !(isOneOf "@/" c || isSpace py c)), lit "@"],
    cat [plus (cls fun c => isAlnum c || isOneOf "._%+-" c), lit "@",
      plus (cls fun c => isAlnum c || isOneOf ".-" c), lit ".",
      atLeast (cls fun c => isUpper c || isLower c) 2],
    cat [wordBoundary py, lit "1", cls (isOneOf "3456789"), rep (cls (isUnicodeDigit py)) 9,
      wordBoundary py] ]

/-- `_MASK` -/
def redactMask : Str := "[REDACTED]"

/-- `redact` -/
def redact (text : Str) : Str := (redactPatterns py).foldl (fun out r => r.sub redactMask out) text

/-- Masking makes no text empty. -/
lemma redact_eq_nil_iff (text : Str) : redact py text = [] ↔ text = [] := by
  unfold redact
  generalize redactPatterns py = patterns
  induction patterns generalizing text with
  | nil => rfl
  | cons r rs ih =>
    rw [List.foldl_cons, ih]
    constructor
    · intro h
      by_contra htext
      exact sub_ne_nil r (by decide) htext h
    · rintro rfl
      exact sub_nil r redactMask

mutual

/-- `redact_value` -/
def redactValue : Json → Json
  | .str s => .str (redact py s)
  | .arr xs => .arr (redactItems xs)
  | .obj kvs => .obj (redactEntries kvs)
  | v => v

/-- `redact_value` on the items of a list. -/
def redactItems : List Json → List Json
  | [] => []
  | v :: vs => redactValue v :: redactItems vs

/-- `redact_value` on the values of an object. -/
def redactEntries : List (Str × Json) → List (Str × Json)
  | [] => []
  | (k, v) :: kvs => (k, redactValue v) :: redactEntries kvs

end

/-- `redact_messages` -/
def redactMessages (messages : List Dict) : List Dict := messages.map (redactEntries py)

end AgentCtl
