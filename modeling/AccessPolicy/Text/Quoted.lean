import AccessPolicy.Text.GraphemeExtend
import AccessPolicy.Text.Unprintable

/-!
# Quoted text

The form in which a message shows a string that came from outside: between
double quotes, with escapes for everything that a reader could not tell apart on
a screen.  A character that has no form of its own, or that would merge with the
one before it, is shown by its code point.
-/

namespace AccessPolicy.Text

/-- The code point of a character in braces, in lower-case hexadecimal
without leading zeros. -/
def codePointEscape (c : Char) : List Char :=
  '\\' :: 'u' :: '\x7b' :: Nat.toDigits 16 c.toNat ++ ['\x7d']

/-- Whether a character merges with the one before it.  The halfwidth sound
marks of Japanese extend a grapheme cluster as well, but they are letters that
take a place of their own. -/
def mergesWithPrevious (c : Char) : Bool :=
  isGraphemeExtender c && c ≠ '\uff9e' && c ≠ '\uff9f'

def quotedChar (c : Char) : List Char :=
  if c = '\x00' then ['\\', '0']
  else if c = '\t' then ['\\', 't']
  else if c = '\r' then ['\\', 'r']
  else if c = '\n' then ['\\', 'n']
  else if c = '"' then ['\\', '"']
  else if c = '\\' then ['\\', '\\']
  else if mergesWithPrevious c || isUnprintable c then codePointEscape c
  else [c]

/-- A string between double quotes, each of its characters escaped where
needed. -/
def quoted (text : String) : String :=
  String.ofList ('"' :: text.toList.flatMap quotedChar ++ ['"'])

end AccessPolicy.Text
