import Gatehouse.Json.Basic
import Gatehouse.Text.Blank

/- Files of variables, one a line: a name, an equals sign and a value. A value may be quoted, and then go on over
   several lines. A line that cannot be read is skipped. In the values a variable in braces is replaced by what it
   stands for: an earlier line of the file, or else the environment. -/
namespace Gatehouse.EnvFile

abbrev Binding := String × Option String

def isLineEnd (c : Char) : Bool := c == '\n' || c == '\r'

def isGap (c : Char) : Bool := Text.isBlank c && !isLineEnd c

-- Every line ends in one line feed.
def unified : List Char → List Char
  | '\r' :: '\n' :: rest => '\n' :: unified rest
  | '\r' :: rest => '\n' :: unified rest
  | c :: rest => c :: unified rest
  | [] => []

/- Values -/

-- The text up to the closing quote. A quote after a backslash closes only if no other one does.
def quotedValue? (quote : Char) : List Char → Option (List Char × List Char)
  | [] => none
  | '\\' :: c :: rest =>
    if c == quote then
      match quotedValue? quote rest with
      | some (value, after) => some ('\\' :: c :: value, after)
      | none => some (['\\'], rest)
    else (quotedValue? quote (c :: rest)).map fun (value, after) => ('\\' :: value, after)
  | c :: rest =>
    if c == quote then some ([], rest)
    else (quotedValue? quote rest).map fun (value, after) => (c :: value, after)

def escapeIn (quote : Char) (c : Char) : Option Char :=
  if c == '\\' || c == '\'' then some c
  else if quote == '\'' then none
  else match c with
    | '"' => some '"'
    | 'a' => some (Char.ofNat 7)
    | 'b' => some (Char.ofNat 8)
    | 'f' => some (Char.ofNat 12)
    | 'n' => some '\n'
    | 'r' => some '\r'
    | 't' => some '\t'
    | 'v' => some (Char.ofNat 11)
    | _ => none

def unescaped (quote : Char) : List Char → List Char
  | '\\' :: c :: rest =>
    match escapeIn quote c with
    | some meant => meant :: unescaped quote rest
    | none => '\\' :: unescaped quote (c :: rest)
  | c :: rest => c :: unescaped quote rest
  | [] => []

-- A comment begins at a hash mark with a blank before it.
def withoutComment (line : List Char) : List Char :=
  match line with
  | [] => []
  | c :: rest =>
    if Text.isBlank c && (line.dropWhile Text.isBlank).head? == some '#' then [] else c :: withoutComment rest

def plainValue (line : List Char) : List Char :=
  ((withoutComment line).reverse.dropWhile Text.isBlank).reverse

-- The value at the start of the text, and what follows; without one, where reading stopped.
def value (text : List Char) : Except (List Char) (List Char × List Char) :=
  match text with
  | '\'' :: rest =>
    match quotedValue? '\'' rest with
    | some (value, after) => .ok (unescaped '\'' value, after)
    | none => .error text
  | '"' :: rest =>
    match quotedValue? '"' rest with
    | some (value, after) => .ok (unescaped '"' value, after)
    | none => .error text
  | _ => .ok (plainValue (text.takeWhile (!isLineEnd ·)), text.dropWhile (!isLineEnd ·))

/- Lines -/

def exportWord : List Char := "export".toList

def afterExport (text : List Char) : List Char :=
  let rest := text.drop exportWord.length
  if exportWord.isPrefixOf text && rest.head?.any isGap then rest.dropWhile isGap else text

def isNameCharacter (c : Char) : Bool := c != '=' && c != '#' && !Text.isBlank c

-- A line of a comment alone has no name.
def name (text : List Char) : Except (List Char) (Option (List Char) × List Char) :=
  match text with
  | '#' :: _ => .ok (none, text)
  | '\'' :: rest =>
    let quoted := rest.takeWhile (· != '\'')
    match rest.dropWhile (· != '\'') with
    | _ :: after => if quoted.isEmpty then .error text else .ok (some quoted, after)
    | [] => .error text
  | _ =>
    let plain := text.takeWhile isNameCharacter
    if plain.isEmpty then .error text else .ok (some plain, text.drop plain.length)

-- What follows a comment and the end of the line.
def lineEnd (text : List Char) : Except (List Char) (List Char) :=
  let rest := text.dropWhile isGap
  let rest := if rest.head? == some '#' then rest.dropWhile (!isLineEnd ·) else rest
  match rest with
  | [] => .ok []
  | c :: after => if isLineEnd c then .ok after else .error rest

def line (text : List Char) : Except (List Char) (Option Binding × List Char) := do
  let (found, rest) ← name (afterExport text)
  let (bound, rest) ← match rest.dropWhile isGap with
    | '=' :: rest => (value (rest.dropWhile isGap)).map fun (value, rest) => (some (String.ofList value), rest)
    | rest => .ok (none, rest)
  let rest ← lineEnd rest
  return (found.map fun found => (String.ofList found, bound), rest)

def afterLine (text : List Char) : List Char := (text.dropWhile (!isLineEnd ·)).drop 1

def linesFrom : Nat → List Char → List Binding
  | 0, _ => []
  | fuel + 1, text =>
    match text.dropWhile Text.isBlank with
    | [] => []
    | text =>
      match line text with
      | .ok (some binding, rest) => binding :: linesFrom fuel rest
      | .ok (none, rest) => linesFrom fuel rest
      | .error stopped => linesFrom fuel (afterLine stopped)

def bindings (text : String) : List Binding :=
  linesFrom (text.length + 1) (unified text.toList)

/- Variables in values -/

inductive Piece where
  | character (c : Char)
  | variable (name : String) (otherwise : String)

-- A variable in braces at the start of the text, and what follows it.
def reference? (text : List Char) : Option (Piece × List Char) :=
  let name := text.takeWhile fun c => c != '}' && c != ':'
  match text.drop name.length with
  | '}' :: rest => some (.variable (String.ofList name) "", rest)
  | ':' :: '-' :: rest =>
    let otherwise := rest.takeWhile (· != '}')
    match rest.drop otherwise.length with
    | _ :: rest => some (.variable (String.ofList name) (String.ofList otherwise), rest)
    | [] => none
  | _ => none

def piecesFrom : Nat → List Char → List Piece
  | 0, _ => []
  | _, [] => []
  | fuel + 1, '$' :: '{' :: rest =>
    match reference? rest with
    | some (piece, rest) => piece :: piecesFrom fuel rest
    | none => .character '$' :: piecesFrom fuel ('{' :: rest)
  | fuel + 1, c :: rest => .character c :: piecesFrom fuel rest

def pieces (text : String) : List Piece := piecesFrom (text.length + 1) text.toList

-- A variable without a value stands for nothing.
def Piece.text (environment : List (String × String)) (known : List Binding) : Piece → String
  | .character c => String.ofList [c]
  | .variable name otherwise =>
    match lastOf known name with
    | some value => value.getD ""
    | none => (lastOf environment name).getD otherwise

def resolved (environment : List (String × String)) (bindings : List Binding) : List Binding :=
  bindings.foldl
    (fun known (name, value) =>
      put known name (value.map fun text => String.join ((pieces text).map (Piece.text environment known))))
    []

-- The variables of a file, each name once.
def assignments (environment : List (String × String)) (text : String) : List Binding :=
  resolved environment (bindings text)

end Gatehouse.EnvFile
