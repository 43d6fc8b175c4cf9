import Mathlib.Data.List.Basic
import QorechainRdk.Lib.Utf16

/-!
# JSON texts

A document is kept as it is written: a number as its literal, an object as its members in their order. The
reader takes blanks wherever the grammar has them; the writer is the one of ECMAScript, with a gap of blanks for each
level or with none.
-/

namespace JsonText

inductive Value where
  | null
  | bool (b : Bool)
  | number (literal : List Char)
  | string (s : String)
  | array (items : List Value)
  | object (fields : List (String × Value))

/-- A reader takes what it reads off the front of a text. -/
abbrev Parser (α : Type) := List Char → Option (α × List Char)

/-! ### Tokens -/

def isBlank (c : Char) : Bool := c == ' ' || c == '\n' || c == '\r' || c == '\t'

def skip (cs : List Char) : List Char := cs.dropWhile isBlank

def digits (cs : List Char) : List Char × List Char := (cs.takeWhile Char.isDigit, cs.dropWhile Char.isDigit)

def fraction : List Char → Option (List Char × List Char)
  | '.' :: cs =>
    let (ds, rest) := digits cs
    if ds = [] then none else some ('.' :: ds, rest)
  | cs => some ([], cs)

def sign : List Char → List Char × List Char
  | '+' :: cs => (['+'], cs)
  | '-' :: cs => (['-'], cs)
  | cs => ([], cs)

def exponent : List Char → Option (List Char × List Char)
  | [] => some ([], [])
  | e :: cs =>
    if e = 'e' ∨ e = 'E' then
      let (s, cs) := sign cs
      let (ds, rest) := digits cs
      if ds = [] then none else some (e :: (s ++ ds), rest)
    else some ([], e :: cs)

def minus : List Char → List Char × List Char
  | '-' :: cs => (['-'], cs)
  | cs => ([], cs)

/-- No digit goes before another when it is a zero. -/
def number : Parser (List Char) := fun cs => do
  let (negative, cs) := minus cs
  let (whole, cs) := digits cs
  if whole = [] ∨ (whole.head? = some '0' ∧ whole.length ≠ 1) then none
  else
    let (decimals, cs) ← fraction cs
    let (power, cs) ← exponent cs
    return (negative ++ (whole ++ (decimals ++ power)), cs)

/-! ### Strings -/

def hexValue (c : Char) : Option Nat :=
  if c.isDigit then some (c.toNat - 48)
  else if 'a' ≤ c ∧ c ≤ 'f' then some (c.toNat - 87)
  else if 'A' ≤ c ∧ c ≤ 'F' then some (c.toNat - 55)
  else none

def hex4 (a b c d : Char) : Option UInt16 := do
  let a ← hexValue a
  let b ← hexValue b
  let c ← hexValue c
  let d ← hexValue d
  return UInt16.ofNat (4096 * a + 256 * b + 16 * c + d)

def simpleEscape (e : Char) : Option UInt16 :=
  if e = '"' ∨ e = '\\' ∨ e = '/' then some (UInt16.ofNat e.toNat)
  else if e = 'b' then some 8
  else if e = 'f' then some 12
  else if e = 'n' then some 10
  else if e = 'r' then some 13
  else if e = 't' then some 9
  else none

/-- What stands behind a backslash. -/
def escaped : List Char → Option (UInt16 × List Char)
  | 'u' :: a :: b :: c :: d :: cs => (hex4 a b c d).map fun u => (u, cs)
  | e :: cs => (simpleEscape e).map fun u => (u, cs)
  | [] => none

/-- The code units of one character of a string, or of one escape. -/
def element (c : Char) (cs : List Char) : Option (List UInt16 × List Char) :=
  if c = '\\' then (escaped cs).map fun p => ([p.1], p.2)
  else if c.toNat < 32 then none
  else some (Utf16.unitsOfChar c, cs)

def stringLoop : Nat → List Char → Option (List UInt16 × List Char)
  | 0, _ => none
  | _, [] => none
  | fuel + 1, c :: cs =>
    if c = '"' then some ([], cs)
    else do
      let (first, cs) ← element c cs
      let (more, rest) ← stringLoop fuel cs
      return (first ++ more, rest)

/-- A surrogate without its other half has no character. -/
def characters (us : List UInt16) : Option (List Char) :=
  (Utf16.decode us).mapM fun
    | .char c => some c
    | .lone _ => none

/-- The rest of a string, behind its opening quote. -/
def string : Parser String := fun cs => do
  let (us, rest) ← stringLoop cs.length cs
  let chars ← characters us
  return (String.ofList chars, rest)

/-! ### Values -/

section
variable {α : Type}

def itemsLoop (item : Parser α) (close : Char) : Nat → Parser (List α)
  | 0, _ => none
  | fuel + 1, cs => do
    let (v, cs) ← item cs
    match skip cs with
    | [] => none
    | c :: cs =>
      if c = ',' then do
        let (vs, rest) ← itemsLoop item close fuel cs
        return (v :: vs, rest)
      else if c = close then some ([v], cs)
      else none

/-- The rest of a list, behind its opening bracket. -/
def items (item : Parser α) (close : Char) : Parser (List α) := fun cs =>
  match skip cs with
  | [] => none
  | c :: rest => if c = close then some ([], rest) else itemsLoop item close cs.length cs

end

def keyword (word : List Char) (v : Value) : Parser Value := fun cs =>
  if word.isPrefixOf cs then some (v, cs.drop word.length) else none

def member (value : Parser Value) : Parser (String × Value) := fun cs =>
  match skip cs with
  | [] => none
  | c :: cs =>
    if c ≠ '"' then none
    else do
      let (key, cs) ← string cs
      match skip cs with
      | [] => none
      | c :: cs =>
        if c ≠ ':' then none
        else do
          let (v, rest) ← value cs
          return ((key, v), rest)

/-- A value that is nested less deeply than the fuel. -/
def value : Nat → Parser Value
  | 0, _ => none
  | fuel + 1, cs =>
    match skip cs with
    | [] => none
    | c :: cs =>
      if c = '"' then (string cs).map fun p => (.string p.1, p.2)
      else if c = '[' then (items (value fuel) ']' cs).map fun p => (.array p.1, p.2)
      else if c = '\x7b' then (items (member (value fuel)) '\x7d' cs).map fun p => (.object p.1, p.2)
      else if c = 'n' then keyword ['u', 'l', 'l'] .null cs
      else if c = 't' then keyword ['r', 'u', 'e'] (.bool true) cs
      else if c = 'f' then keyword ['a', 'l', 's', 'e'] (.bool false) cs
      else (number (c :: cs)).map fun p => (.number p.1, p.2)

/-- A whole text: one value, and blanks around it. -/
def parse (text : List Char) : Option Value := do
  let (v, rest) ← value (text.length + 1) text
  if skip rest = [] then some v else none

/-! ### Writing -/

def hexDigit (n : Nat) : Char := ['0', '1', '2', '3', '4', '5', '6', '7', '8', '9', 'a', 'b', 'c', 'd', 'e', 'f'].getD n '0'

def escape (c : Char) : List Char :=
  if c = '"' then ['\\', '"']
  else if c = '\\' then ['\\', '\\']
  else if c = '\n' then ['\\', 'n']
  else if c = '\r' then ['\\', 'r']
  else if c = '\t' then ['\\', 't']
  else if c.toNat = 8 then ['\\', 'b']
  else if c.toNat = 12 then ['\\', 'f']
  else if c.toNat < 32 then ['\\', 'u', '0', '0', hexDigit (c.toNat / 16), hexDigit (c.toNat % 16)]
  else [c]

def quote (s : String) : List Char := '"' :: (s.toList.flatMap escape ++ ['"'])

/-- A new line, when there is a gap. -/
def newline (gap indent : List Char) : List Char := if gap = [] then [] else '\n' :: indent

mutual

def print (gap : List Char) : (indent : List Char) → Value → List Char
  | _, .null => ['n', 'u', 'l', 'l']
  | _, .bool true => ['t', 'r', 'u', 'e']
  | _, .bool false => ['f', 'a', 'l', 's', 'e']
  | _, .number literal => literal
  | _, .string s => quote s
  | _, .array [] => ['[', ']']
  | indent, .array (v :: vs) =>
    '[' :: (newline gap (indent ++ gap) ++ (print gap (indent ++ gap) v ++
      (printItems gap (indent ++ gap) vs ++ (newline gap indent ++ [']']))))
  | _, .object [] => ['\x7b', '\x7d']
  | indent, .object (f :: fs) =>
    '\x7b' :: (newline gap (indent ++ gap) ++ (printField gap (indent ++ gap) f ++
      (printFields gap (indent ++ gap) fs ++ (newline gap indent ++ ['\x7d']))))

def printItems (gap : List Char) : (indent : List Char) → List Value → List Char
  | _, [] => []
  | indent, v :: vs => ',' :: (newline gap indent ++ (print gap indent v ++ printItems gap indent vs))

def printField (gap : List Char) : (indent : List Char) → String × Value → List Char
  | indent, (key, v) => quote key ++ (':' :: ((if gap = [] then [] else [' ']) ++ print gap indent v))

def printFields (gap : List Char) : (indent : List Char) → List (String × Value) → List Char
  | _, [] => []
  | indent, f :: fs => ',' :: (newline gap indent ++ (printField gap indent f ++ printFields gap indent fs))

end

end JsonText
