/-!
# The lexical grammar of TOML

Blanks, comments and ends of lines.  A line ends with a line feed, alone
or behind a carriage return.  No text and no comment holds a control
character other than a tab.
-/

namespace AccessPolicy.Toml

def isBlank (c : Char) : Bool := c = ' ' || c = '\t'

/-- Whether a character may stand in a text or a comment. -/
def isPlain (c : Char) : Bool := c = '\t' || 0x20 ≤ c.toNat && c.toNat ≠ 0x7f

def skipBlanks (text : List Char) : List Char := text.dropWhile isBlank

def newline? : List Char → Option (List Char)
  | '\n' :: rest => some rest
  | '\r' :: '\n' :: rest => some rest
  | _ => none

def skipComment : List Char → List Char
  | '#' :: rest => rest.dropWhile isPlain
  | text => text

/-- Pass over blanks, a comment and the end of the line or of the whole text. -/
def lineEnd? (text : List Char) : Option (List Char) :=
  match skipComment (skipBlanks text) with
  | [] => some []
  | rest => newline? rest

def skipSpace : List Char → List Char
  | [] => []
  | '\r' :: '\n' :: rest => skipSpace rest
  | c :: rest => if isBlank c || c = '\n' then skipSpace rest else c :: rest

theorem length_skipSpace (text : List Char) :
    (skipSpace text).length ≤ text.length := by
  fun_induction skipSpace text with
  | case1 => simp
  | case2 rest ih => simp only [List.length_cons]; omega
  | case3 c rest _ _ ih => simp only [List.length_cons]; omega
  | case4 => simp

/-- Pass over blanks, ends of lines and comments, as they may stand between the
items of an array. -/
def skipTrivia (text : List Char) : List Char :=
  match _hspace : skipSpace text with
  | '#' :: rest => skipTrivia (rest.dropWhile isPlain)
  | rest => rest
termination_by text.length
decreasing_by
  have hlength := length_skipSpace text
  have := (List.dropWhile_sublist (l := rest) isPlain).length_le
  simp only [_hspace, List.length_cons] at hlength
  omega

end AccessPolicy.Toml
