import PriorityPortal.Text.Hex
/-!
# Quoted strings

Strings stand between double quotes, where a backslash escapes, or between single quotes, where all
characters stand for themselves; between three quotes of either kind they may go over several
lines. A reader is given what follows the opening quotes and tells what follows the closing ones.
-/
namespace PriorityPortal.Toml

abbrev Read := Option (List Char × List Char)

def Read.push (cs : List Char) (read : Read) : Read :=
  read.map fun (s, rest) => (cs ++ s, rest)

def isPlain (c : Char) : Bool := c = '\t' || (0x20 ≤ c.toNat && c.toNat ≠ 0x7F)

def isSpace (c : Char) : Bool := c = ' ' || c = '\t'

def afterLineEnd? : List Char → Option (List Char)
  | '\n' :: rest => some rest
  | '\r' :: '\n' :: rest => some rest
  | _ => none

def escaped? : Char → Option Char
  | 'b' => some '\x08'
  | 't' => some '\t'
  | 'n' => some '\n'
  | 'f' => some '\x0c'
  | 'r' => some '\r'
  | '"' => some '"'
  | '\\' => some '\\'
  | _ => none

def codePoint? (digits : List Char) : Option Char :=
  (digits.mapM Text.hexDigit?).bind fun values =>
    let n := values.foldl (fun n digit => 16 * n + digit) 0
    if n.isValidChar then some (Char.ofNat n) else none

def basic : List Char → Read
  | [] => none
  | '"' :: rest => some ([], rest)
  | '\\' :: 'u' :: a :: b :: c :: d :: rest =>
    (codePoint? [a, b, c, d]).bind fun char => (basic rest).push [char]
  | '\\' :: 'U' :: a :: b :: c :: d :: e :: f :: g :: h :: rest =>
    (codePoint? [a, b, c, d, e, f, g, h]).bind fun char => (basic rest).push [char]
  | '\\' :: letter :: rest => (escaped? letter).bind fun char => (basic rest).push [char]
  | c :: rest => if isPlain c ∧ c ≠ '\\' then (basic rest).push [c] else none

def literal : List Char → Read
  | [] => none
  | '\'' :: rest => some ([], rest)
  | c :: rest => if isPlain c then (literal rest).push [c] else none

def endsLine (cs : List Char) : Bool := (afterLineEnd? (cs.dropWhile isSpace)).isSome

/-- Reads the lines of a string between three double quotes. Up to two quotes may stand before the
closing ones. A backslash at the end of a line skips all white space that follows; `skip` says
whether white space is being skipped. -/
def basicLines (skip : Bool) : List Char → Read
  | [] => none
  | '"' :: '"' :: '"' :: '"' :: '"' :: rest => some (['"', '"'], rest)
  | '"' :: '"' :: '"' :: '"' :: rest => some (['"'], rest)
  | '"' :: '"' :: '"' :: rest => some ([], rest)
  | '\r' :: '\n' :: rest =>
    if skip then basicLines true rest else (basicLines false rest).push ['\n']
  | '\\' :: 'u' :: a :: b :: c :: d :: rest =>
    (codePoint? [a, b, c, d]).bind fun char => (basicLines false rest).push [char]
  | '\\' :: 'U' :: a :: b :: c :: d :: e :: f :: g :: h :: rest =>
    (codePoint? [a, b, c, d, e, f, g, h]).bind fun char => (basicLines false rest).push [char]
  | '\\' :: letter :: rest =>
    match escaped? letter with
    | some char => (basicLines false rest).push [char]
    | none => if endsLine (letter :: rest) then basicLines true (letter :: rest) else none
  | c :: rest =>
    if skip ∧ (isSpace c ∨ c = '\n') then basicLines true rest
    else if (isPlain c ∧ c ≠ '\\') ∨ c = '\n' then (basicLines false rest).push [c]
    else none

def literalLines : List Char → Read
  | [] => none
  | '\'' :: '\'' :: '\'' :: '\'' :: '\'' :: rest => some (['\'', '\''], rest)
  | '\'' :: '\'' :: '\'' :: '\'' :: rest => some (['\''], rest)
  | '\'' :: '\'' :: '\'' :: rest => some ([], rest)
  | '\r' :: '\n' :: rest => (literalLines rest).push ['\n']
  | c :: rest => if isPlain c ∨ c = '\n' then (literalLines rest).push [c] else none

def dropLineEnd (cs : List Char) : List Char := (afterLineEnd? cs).getD cs

def quotedLine : List Char → Read
  | '"' :: rest => basic rest
  | '\'' :: rest => literal rest
  | _ => none

def quoted : List Char → Read
  | '"' :: '"' :: '"' :: rest => basicLines false (dropLineEnd rest)
  | '\'' :: '\'' :: '\'' :: rest => literalLines (dropLineEnd rest)
  | cs => quotedLine cs

end PriorityPortal.Toml
