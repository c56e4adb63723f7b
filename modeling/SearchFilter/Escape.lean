import SearchFilter.Text.Utf8
import SearchFilter.Text.Hex

/-!
# Escapes in assertion values

Five characters are reserved in the value of a comparison and stand there as a backslash and two
hexadecimal digits.  `escape` writes these five and nothing else; `unescape` reads back exactly the
five triples that `escape` writes.

`decode` reads a value the way it is evaluated: every `\HH`, in either case of the digits, is one
byte of a UTF-8 form, so that `\c3\a9` is the one character `é`, and what is not well formed becomes
the replacement character.  A backslash without two digits after it stands for itself.
-/

namespace SearchFilter

/-- The form of a character inside a value. -/
def escapeChar (c : Char) : Text :=
  if c = '\\' then ['\\', '5', 'c']
  else if c = '*' then ['\\', '2', 'a']
  else if c = '(' then ['\\', '2', '8']
  else if c = ')' then ['\\', '2', '9']
  else if c = '\x00' then ['\\', '0', '0']
  else [c]

def escape (s : Text) : Text :=
  s.flatMap escapeChar

@[simp] theorem escape_nil : escape [] = [] := rfl

@[simp] theorem escape_cons (c : Char) (s : Text) : escape (c :: s) = escapeChar c ++ escape s := rfl

def unescape : Text → Text
  | '\\' :: '5' :: 'c' :: s => '\\' :: unescape s
  | '\\' :: '2' :: 'a' :: s => '*' :: unescape s
  | '\\' :: '2' :: '8' :: s => '(' :: unescape s
  | '\\' :: '2' :: '9' :: s => ')' :: unescape s
  | '\\' :: '0' :: '0' :: s => '\x00' :: unescape s
  | c :: s => c :: unescape s
  | [] => []

/-- The bytes of a value: one for each escape, the UTF-8 form of everything else. -/
def valueBytes : Text → List UInt8
  | '\\' :: high :: low :: s =>
    match Text.hexPair? high low with
    | some n => UInt8.ofNat n :: valueBytes s
    | none => String.utf8EncodeChar '\\' ++ valueBytes (high :: low :: s)
  | c :: s => String.utf8EncodeChar c ++ valueBytes s
  | [] => []

/-- The text that a value denotes. -/
def decode (value : Text) : Text :=
  Text.ofUtf8Lossy none (valueBytes value)

end SearchFilter
