import Registry.Toml.Item
import Registry.Toml.Literal
import Registry.Toml.Scalar

/-! # Reading TOML

A document is read line by line; a value may run over several lines. Arrays and inline tables nest
at most `depthLimit` deep, and a dotted key has at most that many parts.
-/

namespace Registry.Toml

def depthLimit : Nat := 79

namespace Reader

def isBareKeyChar (c : Char) : Bool :=
  c.isAlphanum || c = '_' || c = '-'

def skipSpaces (cs : List Char) : List Char :=
  cs.dropWhile isSpace

/-- What follows the blanks, line ends and comments at the start of a text. -/
def skipGap (inComment : Bool) : List Char → Option (List Char)
  | [] => some []
  | '\n' :: rest => skipGap false rest
  | '\r' :: '\n' :: rest => skipGap false rest
  | c :: rest =>
      if inComment then
        if isPlain c then skipGap true rest else none
      else if c = '#' then skipGap true rest
      else if isSpace c then skipGap false rest
      else some (c :: rest)

/-- What follows the rest of a line, on which only a comment may stand. -/
def skipLineEnd (inComment : Bool) : List Char → Option (List Char)
  | [] => some []
  | '\n' :: rest => some rest
  | '\r' :: '\n' :: rest => some rest
  | c :: rest =>
      if inComment then
        if isPlain c then skipLineEnd true rest else none
      else if c = '#' then skipLineEnd true rest
      else if isSpace c then skipLineEnd false rest
      else none

/-- One part of a key, and what follows. -/
def keyPart (cs : List Char) : Option (String × List Char) :=
  match cs with
  | '"' :: rest => (Literal.basicLine rest).map fun (text, rest) => (String.ofList text, rest)
  | '\'' :: rest => (Literal.literalLine rest).map fun (text, rest) => (String.ofList text, rest)
  | cs =>
      let bare := cs.takeWhile isBareKeyChar
      if bare.isEmpty then none else some (String.ofList bare, cs.dropWhile isBareKeyChar)

/-- The parts of a dotted key, spaces around them skipped, and what follows. `fuel` bounds the
    number of parts. -/
def keyParts : (fuel : Nat) → List Char → Option (List String × List Char)
  | 0, _ => none
  | fuel + 1, cs => do
      let (part, rest) ← keyPart (skipSpaces cs)
      match skipSpaces rest with
      | '.' :: rest =>
          let (parts, rest) ← keyParts fuel rest
          return (part :: parts, rest)
      | rest => return ([part], rest)

/-- A dotted key, and what follows. -/
def key (cs : List Char) : Option (Key × List Char) := do
  match ← keyParts depthLimit cs with
  | (first :: more, rest) => return (⟨first, more⟩, rest)
  | ([], _) => none

def scalarItem : Scalar → Item
  | .moment => .moment
  | _ => .plain

mutual

/-- A value, and what follows. `depth` containers are open around it; `fuel` bounds the steps by the
    length of the text. -/
def value : (fuel depth : Nat) → List Char → Option (Item × List Char)
  | 0, _, _ => none
  | fuel + 1, depth, cs =>
      match cs with
      | '[' :: rest => do
          if depth = depthLimit then none
          let (items, rest) ← items fuel (depth + 1) rest
          return (.array items, rest)
      | '\x7b' :: rest => do
          if depth = depthLimit then none
          let (entries, rest) ← match skipSpaces rest with
            | '\x7d' :: rest => some ([], rest)
            | rest => members fuel (depth + 1) [] rest
          return (.table .inline entries, rest)
      | '"' :: _ | '\'' :: _ => do
          let (text, rest) ← Literal.read cs
          return (.text (String.ofList text), rest)
      | cs => do
          let (scalar, rest) ← Scalar.read cs
          return (scalarItem scalar, rest)

/-- The items of an array up to its closing bracket, and what follows. -/
def items : (fuel depth : Nat) → List Char → Option (List Item × List Char)
  | 0, _, _ => none
  | fuel + 1, depth, cs => do
      match ← skipGap false cs with
      | ']' :: rest => return ([], rest)
      | cs =>
          let (item, rest) ← value fuel depth cs
          match ← skipGap false rest with
          | ']' :: rest => return ([item], rest)
          | ',' :: rest =>
              let (more, rest) ← items fuel depth rest
              return (item :: more, rest)
          | _ => none

/-- The assignments of an inline table up to its closing brace, and what follows. -/
def members : (fuel depth : Nat) → Entries → List Char → Option (Entries × List Char)
  | 0, _, _, _ => none
  | fuel + 1, depth, entries, cs => do
      let (k, rest) ← key cs
      match rest with
      | '=' :: rest =>
          let (item, rest) ← value fuel depth (skipSpaces rest)
          let entries ← entries.assign item k.first k.more
          match skipSpaces rest with
          | '\x7d' :: rest => return (entries, rest)
          | ',' :: rest => members fuel depth entries rest
          | _ => none
      | _ => none

end

/-- An assignment, and what follows its line. -/
def assignment (cs : List Char) : Option (Statement × List Char) := do
  let (k, rest) ← key cs
  match rest with
  | '=' :: rest =>
      let (item, rest) ← value cs.length 0 (skipSpaces rest)
      return (.assignment k item, ← skipLineEnd false rest)
  | _ => none

/-- A statement at the start of a line, and what follows its line. -/
def statement (cs : List Char) : Option (Statement × List Char) :=
  match cs with
  | '[' :: '[' :: rest => do
      match ← key rest with
      | (k, ']' :: ']' :: rest) => return (.memberHeader k, ← skipLineEnd false rest)
      | _ => none
  | '[' :: rest => do
      match ← key rest with
      | (k, ']' :: rest) => return (.header k, ← skipLineEnd false rest)
      | _ => none
  | cs => assignment cs

/-- The statements of a text. `fuel` bounds their number by its length. -/
def statements : (fuel : Nat) → List Char → Option (List Statement)
  | 0, cs => if cs.isEmpty then some [] else none
  | fuel + 1, cs => do
      match ← skipGap false cs with
      | [] => return []
      | cs =>
          let (s, rest) ← statement cs
          return s :: (← statements fuel rest)

/-- The text without a byte order mark at its start. -/
def withoutMark : List Char → List Char
  | '\ufeff' :: rest => rest
  | cs => cs

end Reader

/-- The root table of a TOML document. -/
def parse? (text : String) : Option Entries :=
  let cs := Reader.withoutMark text.toList
  (Reader.statements cs.length cs).bind document

end Registry.Toml
