import Registry.Text.Hex

/-! # String literals of TOML

Four forms: on one line or in a block of lines, each basic (with escapes) or literal (without).
Reading takes every form; writing picks one by what the text holds.
-/

namespace Registry.Toml

/-- A character that may stand for itself within a line: no control character but the tab. -/
def isPlain (c : Char) : Bool :=
  c = '\t' || (0x20 ≤ c.toNat && c.toNat ≠ 0x7f)

def isSpace (c : Char) : Bool :=
  c = ' ' || c = '\t'

namespace Literal

/-- Put a character in front of the text that was read. -/
def prepend (c : Char) (found : Option (List Char × List Char)) : Option (List Char × List Char) :=
  found.map fun (text, rest) => (c :: text, rest)

/-- The character that a one-letter escape stands for. -/
def escaped? : Char → Option Char
  | 'b' => some '\x08'
  | 't' => some '\t'
  | 'n' => some '\n'
  | 'f' => some '\x0c'
  | 'r' => some '\r'
  | '"' => some '"'
  | '\\' => some '\\'
  | _ => none

/-- The character whose number the hexadecimal digits write. -/
def numbered? (digits : List Char) : Option Char := do
  let n ← Text.hexValue? digits
  if n.isValidChar then some (Char.ofNat n) else none

/-- The text of a basic string on one line up to its closing quote, and what follows. -/
def basicLine : List Char → Option (List Char × List Char)
  | [] => none
  | '"' :: rest => some ([], rest)
  | '\\' :: 'u' :: a :: b :: c :: d :: rest =>
      (numbered? [a, b, c, d]).bind (prepend · (basicLine rest))
  | '\\' :: 'U' :: a :: b :: c :: d :: e :: f :: g :: h :: rest =>
      (numbered? [a, b, c, d, e, f, g, h]).bind (prepend · (basicLine rest))
  | '\\' :: c :: rest => (escaped? c).bind (prepend · (basicLine rest))
  | c :: rest => if isPlain c then prepend c (basicLine rest) else none

/-- The text of a literal string on one line up to its closing quote, and what follows. -/
def literalLine : List Char → Option (List Char × List Char)
  | [] => none
  | c :: rest =>
      if c = '\'' then some ([], rest)
      else if isPlain c then prepend c (literalLine rest)
      else none

/-- Behind the three quotes that close a block: of up to five in a row, the first ones belong to the
    text. -/
def closing (quote : Char) (rest : List Char) : List Char × List Char :=
  let more := (rest.take 2).takeWhile (· = quote)
  (more, rest.drop more.length)

/-- Only spaces stand before the end of the line. -/
def endsLine (cs : List Char) : Bool :=
  match cs.dropWhile isSpace with
  | '\n' :: _ => true
  | '\r' :: '\n' :: _ => true
  | _ => false

/-- The text of a block of a basic string up to its closing quotes, and what follows. Behind a
    backslash at the end of a line, `skipping` passes over spaces and line ends. -/
def basicBlock (skipping : Bool) : List Char → Option (List Char × List Char)
  | [] => none
  | '"' :: '"' :: '"' :: rest => some (closing '"' rest)
  | '\\' :: 'u' :: a :: b :: c :: d :: rest =>
      (numbered? [a, b, c, d]).bind (prepend · (basicBlock false rest))
  | '\\' :: 'U' :: a :: b :: c :: d :: e :: f :: g :: h :: rest =>
      (numbered? [a, b, c, d, e, f, g, h]).bind (prepend · (basicBlock false rest))
  | '\\' :: c :: rest =>
      if endsLine (c :: rest) then basicBlock true (c :: rest)
      else (escaped? c).bind (prepend · (basicBlock false rest))
  | '\r' :: '\n' :: rest =>
      if skipping then basicBlock true rest else prepend '\n' (basicBlock false rest)
  | '\n' :: rest =>
      if skipping then basicBlock true rest else prepend '\n' (basicBlock false rest)
  | c :: rest =>
      if skipping && isSpace c then basicBlock true rest
      else if isPlain c then prepend c (basicBlock false rest)
      else none

/-- The text of a block of a literal string up to its closing quotes, and what follows. -/
def literalBlock : List Char → Option (List Char × List Char)
  | [] => none
  | '\'' :: '\'' :: '\'' :: rest => some (closing '\'' rest)
  | '\r' :: '\n' :: rest => prepend '\n' (literalBlock rest)
  | c :: rest => if c = '\n' || isPlain c then prepend c (literalBlock rest) else none

/-- What follows a line end that stands right behind the opening quotes of a block. -/
def afterLineEnd : List Char → List Char
  | '\n' :: rest => rest
  | '\r' :: '\n' :: rest => rest
  | rest => rest

/-- The text of a string literal at the start of `cs`, and what follows. -/
def read (cs : List Char) : Option (List Char × List Char) :=
  match cs with
  | '"' :: '"' :: '"' :: rest => basicBlock false (afterLineEnd rest)
  | '\'' :: '\'' :: '\'' :: rest => literalBlock (afterLineEnd rest)
  | '"' :: rest => basicLine rest
  | '\'' :: rest => literalLine rest
  | _ => none

inductive Form where
  | basicLine
  | literalLine
  | basicBlock
  | literalBlock
  deriving DecidableEq, Repr

/-- A control character that has to be escaped wherever it stands. -/
def isControl (c : Char) : Bool :=
  !isPlain c && c ≠ '\n'

/-- The length of the longest run of a character, when `run` of them stand before the text. -/
def longestRun (quote : Char) (run : Nat) : List Char → Nat
  | [] => run
  | c :: rest =>
      if c = quote then longestRun quote (run + 1) rest
      else max run (longestRun quote 0 rest)

/-- The form in which a text is written: the first that holds it without escapes, save those of
    tabs; if there is none, a basic block for several lines and a basic line for one. -/
def Form.of (text : List Char) : Form :=
  let control := text.any isControl
  let lines := text.contains '\n'
  let backslash := text.contains '\\'
  let doubles := longestRun '"' 0 text
  let singles := longestRun '\'' 0 text
  if !control && !backslash && doubles = 0 && !lines then .basicLine
  else if !control && singles = 0 && !lines then .literalLine
  else if !control && !backslash && doubles ≤ 2 then .basicBlock
  else if !control && singles ≤ 2 then .literalBlock
  else if lines then .basicBlock
  else .basicLine

/-- A character of a basic string other than a quote or a line end. -/
def escape (c : Char) : List Char :=
  match c with
  | '\x08' => ['\\', 'b']
  | '\t' => ['\\', 't']
  | '\x0c' => ['\\', 'f']
  | '\r' => ['\\', 'r']
  | '\\' => ['\\', '\\']
  | c =>
      if isPlain c then [c]
      else ['\\', 'u', '0', '0', Text.hexDigit 'A' (c.toNat / 16), Text.hexDigit 'A' (c.toNat % 16)]

/-- A text within a basic string on one line. -/
def lineBody : List Char → List Char
  | [] => []
  | '"' :: rest => '\\' :: '"' :: lineBody rest
  | '\n' :: rest => '\\' :: 'n' :: lineBody rest
  | c :: rest => escape c ++ lineBody rest

/-- A text within a block of a basic string, when `quotes` quotes stand right before it: every third
    quote in a row is escaped. -/
def blockBody (quotes : Nat) : List Char → List Char
  | [] => []
  | '"' :: rest =>
      if quotes = 2 then '\\' :: '"' :: blockBody 0 rest else '"' :: blockBody (quotes + 1) rest
  | '\n' :: rest => '\n' :: blockBody 0 rest
  | c :: rest => escape c ++ blockBody 0 rest

/-- A block of several lines starts on a line of its own. -/
def blockStart (text : List Char) : List Char :=
  if text.contains '\n' then ['\n'] else []

/-- A text as a string literal. -/
def write (text : List Char) : List Char :=
  match Form.of text with
  | .basicLine => ['"'] ++ lineBody text ++ ['"']
  | .literalLine => ['\''] ++ text ++ ['\'']
  | .basicBlock => ['"', '"', '"'] ++ blockStart text ++ blockBody 0 text ++ ['"', '"', '"']
  | .literalBlock => ['\'', '\'', '\''] ++ blockStart text ++ text ++ ['\'', '\'', '\'']

end Literal
end Registry.Toml
