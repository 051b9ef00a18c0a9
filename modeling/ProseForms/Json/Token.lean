import ProseForms.Json.Basic
import ProseForms.Text.Hex

/-!
# JSON tokens

A value is written as a row of tokens, and a token as characters, without any
white space.  The text of a value is the texts of its tokens.
-/

namespace ProseForms.Json

/-- A part of a JSON text that no white space may split. -/
inductive Token where
  | openArray
  | closeArray
  | openObject
  | closeObject
  | comma
  | colon
  | null
  | bool (value : Bool)
  | number (spelling : List Char)
  | string (text : Option String)
deriving DecidableEq

mutual

/-- The tokens of a value. -/
def tokens : Json → List Token
  | .null => [.null]
  | .bool value => [.bool value]
  | .number spelling => [.number spelling]
  | .string text => [.string text]
  | .array items => .openArray :: itemTokens items
  | .object entries => .openObject :: entryTokens entries
termination_by structural value => value

/-- The tokens of the items of an array, up to its end. -/
def itemTokens : List Json → List Token
  | [] => [.closeArray]
  | item :: rest => tokens item ++ moreItemTokens rest
termination_by structural items => items

/-- The tokens after an item of an array, up to its end. -/
def moreItemTokens : List Json → List Token
  | [] => [.closeArray]
  | item :: rest => .comma :: (tokens item ++ moreItemTokens rest)
termination_by structural items => items

/-- The tokens of the entries of an object, up to its end. -/
def entryTokens : List (Option String × Json) → List Token
  | [] => [.closeObject]
  | (key, value) :: rest =>
      .string key :: .colon :: (tokens value ++ moreEntryTokens rest)
termination_by structural entries => entries

/-- The tokens after an entry of an object, up to its end. -/
def moreEntryTokens : List (Option String × Json) → List Token
  | [] => [.closeObject]
  | (key, value) :: rest =>
      .comma :: .string key :: .colon :: (tokens value ++ moreEntryTokens rest)
termination_by structural entries => entries

end

/-! ## Writing -/

/-- One character of a written string.  Quote marks, backslashes and control
characters are escaped, and nothing else is. -/
def stringChar (c : Char) : List Char :=
  if c = '"' then ['\\', '"']
  else if c = '\\' then ['\\', '\\']
  else if c = '\x08' then ['\\', 'b']
  else if c = '\x0c' then ['\\', 'f']
  else if c = '\n' then ['\\', 'n']
  else if c = '\r' then ['\\', 'r']
  else if c = '\t' then ['\\', 't']
  else if c.toNat < 0x20 then
    ['\\', 'u', '0', '0', Text.hexDigit (c.toNat / 16), Text.hexDigit c.toNat]
  else [c]

/-- The characters of a token.  A string that spells no text is written as an
unpaired surrogate. -/
def Token.chars : Token → List Char
  | .openArray => ['[']
  | .closeArray => [']']
  | .openObject => ['\x7b']
  | .closeObject => ['\x7d']
  | .comma => [',']
  | .colon => [':']
  | .null => ['n', 'u', 'l', 'l']
  | .bool true => ['t', 'r', 'u', 'e']
  | .bool false => ['f', 'a', 'l', 's', 'e']
  | .number spelling => spelling
  | .string (some text) => '"' :: (text.toList.flatMap stringChar ++ ['"'])
  | .string none => ['"', '\\', 'u', 'd', '8', '0', '0', '"']

/-- A value as text, without white space. -/
def compact (value : Json) : String :=
  String.ofList (value.tokens.flatMap Token.chars)

end ProseForms.Json
