import ProseForms.Json.Token

/-!
# Scanning JSON texts

The scanner reads a text character by character and keeps the tokens found so
far.  A run of characters that are neither quoted nor white space nor
punctuation is a word, which has to be a literal or a number.
-/

namespace ProseForms.Json

/-! ## Words -/

/-- Drops the digits in front of a word; there has to be one. -/
def dropDigits? (cs : List Char) : Option (List Char) :=
  match cs with
  | c :: rest => if c.isDigit then some (rest.dropWhile Char.isDigit) else none
  | [] => none

/-- Drops an optional fraction. -/
def dropFraction? : List Char → Option (List Char)
  | '.' :: rest => dropDigits? rest
  | cs => some cs

/-- Drops an optional exponent. -/
def dropExponent? (cs : List Char) : Option (List Char) :=
  match cs with
  | c :: rest =>
      if c = 'e' ∨ c = 'E' then
        match rest with
        | '+' :: digits => dropDigits? digits
        | '-' :: digits => dropDigits? digits
        | digits => dropDigits? digits
      else some cs
  | [] => some []

/-- Drops the whole part of a number, which has no needless zero in front. -/
def dropWhole? : List Char → Option (List Char)
  | '0' :: rest => some rest
  | cs => dropDigits? cs

/-- Whether a word is a number. -/
def isNumber (word : List Char) : Bool :=
  let unsigned := match word with
    | '-' :: rest => rest
    | cs => cs
  ((dropWhole? unsigned).bind dropFraction?).bind dropExponent? = some []

/-- The token that a word stands for. -/
def Token.ofWord? (word : List Char) : Option Token :=
  if word = ['n', 'u', 'l', 'l'] then some .null
  else if word = ['t', 'r', 'u', 'e'] then some (.bool true)
  else if word = ['f', 'a', 'l', 's', 'e'] then some (.bool false)
  else if isNumber word then some (.number word)
  else none

/-! ## Strings -/

/-- What a string has spelled so far. -/
structure Spelling where
  /-- The characters so far, last one first. -/
  chars : List Char := []
  /-- A leading surrogate that waits for its partner. -/
  leading : Option Nat := none
  /-- Whether a surrogate had no partner. -/
  broken : Bool := false
deriving DecidableEq

namespace Spelling

/-- Adds a character.  A surrogate that was waiting stays without a partner. -/
def push (s : Spelling) (c : Char) : Spelling :=
  ⟨c :: s.chars, none, s.broken || s.leading.isSome⟩

/-- Adds a code unit: a character, a leading surrogate, or the trailing surrogate
that one is waiting for. -/
def pushUnit (s : Spelling) (unit : Nat) : Spelling :=
  if 0xdc00 ≤ unit ∧ unit < 0xe000 then
    match s.leading with
    | some leading =>
        ⟨Char.ofNat (0x10000 + (leading - 0xd800) * 0x400 + (unit - 0xdc00)) :: s.chars,
          none, s.broken⟩
    | none => ⟨s.chars, none, true⟩
  else if 0xd800 ≤ unit ∧ unit < 0xdc00 then
    ⟨s.chars, some unit, s.broken || s.leading.isSome⟩
  else s.push (Char.ofNat unit)

/-- The text that was spelled, unless a surrogate had no partner. -/
def text? (s : Spelling) : Option String :=
  if s.broken ∨ s.leading.isSome then none else some (String.ofList s.chars.reverse)

end Spelling

/-- The character after a backslash, when it stands for one character. -/
def escapedChar? : Char → Option Char
  | '"' => some '"'
  | '\\' => some '\\'
  | '/' => some '/'
  | 'b' => some '\x08'
  | 'f' => some '\x0c'
  | 'n' => some '\n'
  | 'r' => some '\r'
  | 't' => some '\t'
  | _ => none

/-! ## The scanner -/

/-- Where the scanner stands. -/
inductive Scan.Place where
  /-- Between tokens. -/
  | between
  /-- In a word; its characters so far, last one first. -/
  | word (chars : List Char)
  /-- In a string. -/
  | string (spelling : Spelling)
  /-- In a string, after a backslash. -/
  | escape (spelling : Spelling)
  /-- In a string, in the number of a code unit: the digits still to come and the
  value of those before. -/
  | unit (spelling : Spelling) (missing value : Nat)
deriving DecidableEq

/-- What the scanner has found: tokens, last one first, and where it stands. -/
structure Scan where
  found : List Token := []
  place : Scan.Place := .between
deriving DecidableEq

namespace Scan

/-- Whether a character may stand between tokens. -/
def isSpace (c : Char) : Bool :=
  c = ' ' || c = '\t' || c = '\n' || c = '\r'

/-- The punctuation token that a character is. -/
def punctuation? : Char → Option Token
  | '[' => some .openArray
  | ']' => some .closeArray
  | '\x7b' => some .openObject
  | '\x7d' => some .closeObject
  | ',' => some .comma
  | ':' => some .colon
  | _ => none

/-- Reads a character between tokens. -/
def begin (found : List Token) (c : Char) : Scan :=
  match punctuation? c with
  | some token => ⟨token :: found, .between⟩
  | none =>
      if isSpace c then ⟨found, .between⟩
      else if c = '"' then ⟨found, .string {}⟩
      else ⟨found, .word [c]⟩

/-- Whether a character ends a word. -/
def endsWord (c : Char) : Bool :=
  (punctuation? c).isSome || isSpace c || c = '"'

/-- Reads one character. -/
def step (scan : Scan) (c : Char) : Option Scan :=
  match scan.place with
  | .between => some (begin scan.found c)
  | .word chars =>
      if endsWord c then
        (Token.ofWord? chars.reverse).map fun token => begin (token :: scan.found) c
      else some ⟨scan.found, .word (c :: chars)⟩
  | .string spelling =>
      if c = '"' then some ⟨.string spelling.text? :: scan.found, .between⟩
      else if c = '\\' then some ⟨scan.found, .escape spelling⟩
      else if c.toNat < 0x20 then none
      else some ⟨scan.found, .string (spelling.push c)⟩
  | .escape spelling =>
      if c = 'u' then some ⟨scan.found, .unit spelling 3 0⟩
      else (escapedChar? c).map fun plain => ⟨scan.found, .string (spelling.push plain)⟩
  | .unit spelling missing value =>
      (Text.hexValue? c).map fun digit =>
        match missing with
        | 0 => ⟨scan.found, .string (spelling.pushUnit (16 * value + digit))⟩
        | missing + 1 => ⟨scan.found, .unit spelling missing (16 * value + digit)⟩

/-- The tokens of a text that ends here. -/
def finish (scan : Scan) : Option (List Token) :=
  match scan.place with
  | .between => some scan.found.reverse
  | .word chars =>
      (Token.ofWord? chars.reverse).map fun token => (token :: scan.found).reverse
  | .string _ | .escape _ | .unit .. => none

end Scan

/-- The tokens of a text, if it has no other parts. -/
def scan? (cs : List Char) : Option (List Token) :=
  (cs.foldlM Scan.step {}).bind Scan.finish

end ProseForms.Json
