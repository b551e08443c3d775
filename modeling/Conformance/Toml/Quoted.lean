import Conformance.Text.Digits

/-! Quoted text in TOML: between double quotes with escapes, or between single quotes as it stands,
each on one line or, between three quotes, over several. Readers take the characters after the
opening quotes and return the text with the characters after the closing ones. -/

namespace Conformance.Toml

/-- A control character that no text holds as it stands. Tabs and newlines are not counted. -/
def isControl (c : Char) : Bool :=
  (c.toNat < 0x20 && c != '\t' && c != '\n') || c.toNat == 0x7F

/-- A character that may stand for itself on one line. -/
def isPlain (c : Char) : Bool := !isControl c && c != '\n'

/-- The characters after a line break. -/
def skipNewline? : List Char → Option (List Char)
  | '\n' :: rest => some rest
  | '\r' :: '\n' :: rest => some rest
  | _ => none

def isBlank (c : Char) : Bool := c == ' ' || c == '\t'

def skipBlanks (cs : List Char) : List Char := cs.dropWhile isBlank

namespace Quoted

/-- The character with this number, unless it is a surrogate or too large. -/
def scalar? (n : Nat) : Option Char :=
  if n < 0xD800 || (0xDFFF < n && n < 0x110000) then some (Char.ofNat n) else none

/-- The character that a letter escapes. -/
def letterEscape? : Char → Option Char
  | 'b' => some '\x08'
  | 't' => some '\t'
  | 'n' => some '\n'
  | 'f' => some '\x0c'
  | 'r' => some '\r'
  | '"' => some '"'
  | '\\' => some '\\'
  | _ => none

def hexChar? (digits : List Char) : Option Char :=
  (Text.digitsValue? 16 digits).bind scalar?

/-- A character put in front of what a reader returns. -/
def push (c : Char) (r : Option (List Char × List Char)) : Option (List Char × List Char) :=
  r.map fun (cs, rest) => (c :: cs, rest)

/-- Text on one line up to a double quote. -/
def basic : List Char → Option (List Char × List Char)
  | [] => none
  | '"' :: rest => some ([], rest)
  | '\\' :: 'u' :: a :: b :: c :: d :: rest =>
    (hexChar? [a, b, c, d]).bind fun x => push x (basic rest)
  | '\\' :: 'U' :: a :: b :: c :: d :: e :: f :: g :: h :: rest =>
    (hexChar? [a, b, c, d, e, f, g, h]).bind fun x => push x (basic rest)
  | '\\' :: e :: rest => (letterEscape? e).bind fun x => push x (basic rest)
  | c :: rest => if c ≠ '\\' && isPlain c then push c (basic rest) else none

/-- Text on one line up to a single quote. -/
def literal : List Char → Option (List Char × List Char)
  | [] => none
  | '\x27' :: rest => some ([], rest)
  | c :: rest => if isPlain c then push c (literal rest) else none

/-- Text over several lines up to three double quotes. One or two quotes more than three belong to
the text. A backslash at the end of a line removes the line break and all blanks and line breaks
after it; `folding` says that such a removal is under way. -/
def multilineBasic (folding : Bool) : List Char → Option (List Char × List Char)
  | [] => none
  | '"' :: '"' :: '"' :: '"' :: '"' :: rest => some (['"', '"'], rest)
  | '"' :: '"' :: '"' :: '"' :: rest => some (['"'], rest)
  | '"' :: '"' :: '"' :: rest => some ([], rest)
  | '\r' :: '\n' :: rest =>
    if folding then multilineBasic true rest else push '\n' (multilineBasic false rest)
  | '\n' :: rest =>
    if folding then multilineBasic true rest else push '\n' (multilineBasic false rest)
  | '\\' :: 'u' :: a :: b :: c :: d :: rest =>
    (hexChar? [a, b, c, d]).bind fun x => push x (multilineBasic false rest)
  | '\\' :: 'U' :: a :: b :: c :: d :: e :: f :: g :: h :: rest =>
    (hexChar? [a, b, c, d, e, f, g, h]).bind fun x => push x (multilineBasic false rest)
  | '\\' :: e :: rest =>
    if (skipNewline? (skipBlanks (e :: rest))).isSome then multilineBasic true (e :: rest)
    else (letterEscape? e).bind fun x => push x (multilineBasic false rest)
  | c :: rest =>
    if folding && isBlank c then multilineBasic true rest
    else if c ≠ '\\' && isPlain c then push c (multilineBasic false rest)
    else none

/-- Text over several lines up to three single quotes. One or two quotes more than three belong to
the text. -/
def multilineLiteral : List Char → Option (List Char × List Char)
  | [] => none
  | '\x27' :: '\x27' :: '\x27' :: '\x27' :: '\x27' :: rest => some (['\x27', '\x27'], rest)
  | '\x27' :: '\x27' :: '\x27' :: '\x27' :: rest => some (['\x27'], rest)
  | '\x27' :: '\x27' :: '\x27' :: rest => some ([], rest)
  | '\r' :: '\n' :: rest => push '\n' (multilineLiteral rest)
  | '\n' :: rest => push '\n' (multilineLiteral rest)
  | c :: rest => if isPlain c then push c (multilineLiteral rest) else none

/-- The characters without a line break at their front. -/
def dropNewline (cs : List Char) : List Char := (skipNewline? cs).getD cs

/-- Any quoted text, from its opening quotes on. -/
def read : List Char → Option (String × List Char)
  | '"' :: '"' :: '"' :: rest =>
    (multilineBasic false (dropNewline rest)).map fun (cs, rest) => (String.ofList cs, rest)
  | '\x27' :: '\x27' :: '\x27' :: rest =>
    (multilineLiteral (dropNewline rest)).map fun (cs, rest) => (String.ofList cs, rest)
  | cs => readLine cs
where
  /-- Quoted text on one line. -/
  readLine : List Char → Option (String × List Char)
    | '"' :: rest => (basic rest).map fun (cs, rest) => (String.ofList cs, rest)
    | '\x27' :: rest => (literal rest).map fun (cs, rest) => (String.ofList cs, rest)
    | _ => none

end Quoted
end Conformance.Toml
