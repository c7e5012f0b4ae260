/-
# Reading scripts

Scripts are read by recursive descent.  Every reader takes fuel, which the length of the
script bounds, and gives what it read with the rest of the text.
-/
import JobSupervision.Script.Formatting
import JobSupervision.Script.Syntax

namespace JobSupervision.Script

/-- A reader of scripts. -/
abbrev Reader (α : Type) := List Char → Option (α × List Char)

/-- Whether a character may stand in a name. -/
def isNameChar (c : Char) : Bool := c.isAlphanum || c = '_'

/-- Whether a character may start a name. -/
def startsName (c : Char) : Bool := c.isAlpha || c = '_'

/-- Whether a character ends a word. -/
def endsWord (c : Char) : Bool := c ∈ [' ', '\t', '\n', ';', '&', '|', '<', '>', '(', ')']

/-- The text behind blanks, joined lines and a comment. -/
def skipBlanks : List Char → List Char
  | ' ' :: cs => skipBlanks cs
  | '\t' :: cs => skipBlanks cs
  | '\\' :: '\n' :: cs => skipBlanks cs
  | '#' :: cs => cs.dropWhile (· ≠ '\n')
  | cs => cs

/-- The text behind blanks, line ends and comments. -/
def skipLines (cs : List Char) : List Char := go cs.length cs
where
  /-- With fuel for the line ends. -/
  go : Nat → List Char → List Char
    | 0, cs => skipBlanks cs
    | fuel + 1, cs =>
      match skipBlanks cs with
      | '\n' :: rest => go fuel rest
      | rest => rest

/-- The word of letters, or the single mark, that a text starts with if nothing else belongs
to it. -/
def reserved? (cs : List Char) : Option (String × List Char) :=
  let name := cs.takeWhile fun c => !endsWord c
  if name.all fun c => c.isAlpha || c ∈ ['{', '}', '!', '['] then
    some (String.ofList name, cs.drop name.length)
  else none

/-- The words that end a list of commands. -/
def closers : List String := ["do", "done", "then", "else", "elif", "fi", "esac", "\x7d"]

/-- Whether a list of commands ends here. -/
def closes (cs : List Char) : Bool :=
  match cs with
  | [] | ')' :: _ | ';' :: ';' :: _ => true
  | _ =>
    match reserved? cs with
    | some (name, _) => closers.contains name
    | none => false

/-- The text behind a word that must come next. -/
def expect? (name : String) (cs : List Char) : Option (List Char) :=
  match reserved? (skipLines cs) with
  | some (found, rest) => if found = name then some rest else none
  | none => none

/-- The text of a calculation up to its two closing brackets. -/
def calculation? : Nat → List Char → Option (List Char × List Char)
  | _, [] => none
  | 0, ')' :: ')' :: rest => some ([], rest)
  | depth, c :: rest =>
    let depth := if c = '(' then depth + 1 else if c = ')' then depth - 1 else depth
    (calculation? depth rest).map fun r => (c :: r.1, r.2)

/-- The text up to a quote. -/
def quoted? (cs : List Char) : Option (List Char × List Char) :=
  match cs.dropWhile (· ≠ '\'') with
  | _ :: rest => some (cs.takeWhile (· ≠ '\''), rest)
  | [] => none

/-- The text up to the mark that ends a quotation of commands, where a backslash takes the
next mark, dollar sign or backslash as it is. -/
def backquoted? : List Char → Option (List Char × List Char)
  | [] => none
  | '\x60' :: rest => some ([], rest)
  | '\\' :: c :: rest =>
    (backquoted? rest).map fun r =>
      (if c ∈ ['\x60', '$', '\\'] then c :: r.1 else '\\' :: c :: r.1, r.2)
  | c :: rest => (backquoted? rest).map fun r => (c :: r.1, r.2)

/-- The lines of a here-document up to its last line, and the text behind it.  Tabs in front of
lines may be left out. -/
def hereLines (delimiter : List Char) (withoutTabs : Bool) :
    Nat → List Char → List Char × List Char
  | 0, cs => (cs, [])
  | fuel + 1, cs =>
    let whole := cs.takeWhile (· ≠ '\n')
    let line := if withoutTabs then whole.dropWhile (· = '\t') else whole
    let rest := cs.drop (whole.length + 1)
    if line = delimiter || cs.isEmpty then ([], rest)
    else
      let (text, behind) := hereLines delimiter withoutTabs fuel rest
      (line ++ '\n' :: text, behind)

/-- The here-document that starts on the next line, and the text without it. -/
def hereDocument (delimiter : List Char) (withoutTabs : Bool) (cs : List Char) :
    List Char × List Char :=
  let line := cs.takeWhile (· ≠ '\n')
  let (text, rest) := hereLines delimiter withoutTabs cs.length (cs.drop (line.length + 1))
  (text, line ++ '\n' :: rest)

/-- The delimiter of a here-document, and whether its text is taken as it is. -/
def delimiter? (cs : List Char) : Option (List Char × Bool × List Char) :=
  match skipBlanks cs with
  | '\'' :: rest => (quoted? rest).map fun r => (r.1, true, r.2)
  | '"' :: rest =>
    let name := rest.takeWhile (· ≠ '"')
    some (name, true, rest.drop (name.length + 1))
  | '\\' :: rest =>
    let name := rest.takeWhile fun c => !endsWord c
    some (name, true, rest.drop name.length)
  | rest =>
    let name := rest.takeWhile fun c => !endsWord c
    if name.isEmpty then none else some (name, false, rest.drop name.length)

/-- The stream that a redirection names, and the text from its mark on. -/
def stream? (cs : List Char) : Option (Option Nat × List Char) :=
  match cs with
  | '<' :: _ | '>' :: _ => some (none, cs)
  | d :: '<' :: rest => if d.isDigit then some (some (d.toNat - 48), '<' :: rest) else none
  | d :: '>' :: rest => if d.isDigit then some (some (d.toNat - 48), '>' :: rest) else none
  | _ => none

mutual

/-- A value behind its dollar sign. -/
def value : Nat → Reader Value
  | 0, _ => none
  | fuel + 1, cs =>
    match cs with
    | '(' :: '(' :: rest => (calculation? 0 rest).map fun r => (.sum r.1, r.2)
    | '(' :: rest => do
      let (commands, rest) ← list fuel rest
      match skipLines rest with
      | ')' :: rest => some (.printed commands, rest)
      | _ => none
    | '{' :: rest =>
      let name := rest.takeWhile isNameChar
      match rest.drop name.length with
      | '}' :: rest =>
        some (if name.all Char.isDigit then .argument (leadingInt name).toNat
          else .named name, rest)
      | _ => none
    | '@' :: rest | '*' :: rest => some (.arguments, rest)
    | '#' :: rest => some (.argumentCount, rest)
    | '?' :: rest => some (.status, rest)
    | '$' :: rest => some (.processNumber, rest)
    | c :: rest =>
      if c.isDigit then some (.argument (c.toNat - 48), rest)
      else if startsName c then
        let name := cs.takeWhile isNameChar
        some (.named name, cs.drop name.length)
      else none
    | [] => none

/-- The pieces between double quotes, up to the closing one; a text that is quoted as a whole
ends at its end. -/
def quotedPieces : Nat → Bool → Reader Word
  | 0, _, _ => none
  | fuel + 1, whole, cs =>
    match cs with
    | [] => if whole then some ([], []) else none
    | '"' :: rest =>
      if whole then more fuel whole (.literal ['"']) rest else some ([.literal []], rest)
    | '\\' :: '\n' :: rest => quotedPieces fuel whole rest
    | '\\' :: c :: rest =>
      if c ∈ ['$', '"', '\\'] then more fuel whole (.literal [c]) rest
      else more fuel whole (.literal ['\\', c]) rest
    | '$' :: rest =>
      match value fuel rest with
      | some (v, rest) => more fuel whole (.value v true) rest
      | none => more fuel whole (.literal ['$']) rest
    | '\x60' :: rest => do
      let (v, rest) ← backquotedValue fuel rest
      more fuel whole (.value v true) rest
    | c :: rest => more fuel whole (.literal [c]) rest

/-- The value of commands that are quoted. -/
def backquotedValue : Nat → Reader Value
  | 0, _ => none
  | fuel + 1, cs => do
    let (text, rest) ← backquoted? cs
    let (commands, left) ← list fuel text
    if (skipLines left).isEmpty then some (.printed commands, rest) else none

/-- A piece and the further pieces between double quotes. -/
def more : Nat → Bool → Piece → Reader Word
  | 0, _, _, _ => none
  | fuel + 1, whole, piece, cs => (quotedPieces fuel whole cs).map fun r => (piece :: r.1, r.2)

/-- The pieces of a word. -/
def word : Nat → Reader Word
  | 0, _ => none
  | fuel + 1, cs =>
    match cs with
    | [] => some ([], [])
    | '\'' :: rest => do
      let (text, rest) ← quoted? rest
      let (pieces, rest) ← word fuel rest
      some (.literal text :: pieces, rest)
    | '"' :: rest => do
      let (pieces, rest) ← quotedPieces fuel false rest
      let (others, rest) ← word fuel rest
      some (pieces ++ others, rest)
    | '\\' :: '\n' :: rest => word fuel rest
    | '\\' :: c :: rest => (word fuel rest).map fun r => (.literal [c] :: r.1, r.2)
    | '$' :: rest =>
      match value fuel rest with
      | some (v, rest) => (word fuel rest).map fun r => (.value v false :: r.1, r.2)
      | none => (word fuel rest).map fun r => (.literal ['$'] :: r.1, r.2)
    | '\x60' :: rest => do
      let (v, rest) ← backquotedValue fuel rest
      (word fuel rest).map fun r => (.value v false :: r.1, r.2)
    | c :: rest =>
      if endsWord c then some ([], cs) else (word fuel rest).map fun r => (.literal [c] :: r.1, r.2)

/-- A redirection. -/
def redirection : Nat → Reader Redirection
  | 0, _ => none
  | fuel + 1, cs => do
    let (stream, cs) ← stream? cs
    match cs with
    | '>' :: '&' :: '-' :: rest => some (.closed (stream.getD 1), rest)
    | '<' :: '&' :: '-' :: rest => some (.here [], rest)
    | '>' :: '&' :: d :: rest =>
      if d.isDigit then some (.same (stream.getD 1) (d.toNat - 48), rest) else none
    | '>' :: '>' :: rest =>
      (word fuel (skipBlanks rest)).map fun r => (.output (stream.getD 1) r.1 true, r.2)
    | '>' :: rest =>
      (word fuel (skipBlanks rest)).map fun r => (.output (stream.getD 1) r.1 false, r.2)
    | '<' :: '<' :: rest => do
      let withoutTabs := rest.head? = some '-'
      let (delimiter, plain, rest) ← delimiter? (if withoutTabs then rest.tail else rest)
      let (text, rest) := hereDocument delimiter withoutTabs rest
      if plain then some (.here [.literal text], rest)
      else (quotedPieces fuel true text).map fun r => (.here r.1, rest)
    | '<' :: rest => (word fuel (skipBlanks rest)).map fun r => (.input r.1, r.2)
    | _ => none

/-- The redirections behind a command. -/
def redirections : Nat → Reader (List Redirection)
  | 0, _ => none
  | fuel + 1, cs =>
    let cs := skipBlanks cs
    match redirection fuel cs with
    | some (r, rest) => (redirections fuel rest).map fun l => (r :: l.1, l.2)
    | none => some ([], cs)

/-- The words of a list up to its end. -/
def words : Nat → Reader (List Word)
  | 0, _ => none
  | fuel + 1, cs =>
    match skipBlanks cs with
    | [] => some ([], [])
    | c :: rest =>
      if endsWord c then some ([], c :: rest)
      else do
        let (w, rest) ← word fuel (c :: rest)
        let (ws, rest) ← words fuel rest
        some (w :: ws, rest)

/-- The parts of a simple command: assignments, words and redirections. -/
def parts : Nat → Bool → Reader (List (List Char × Word) × List Word × List Redirection)
  | 0, _, _ => none
  | fuel + 1, atStart, cs =>
    let cs := skipBlanks cs
    match redirection fuel cs with
    | some (r, rest) => do
      let ((assignments, ws, rs), rest) ← parts fuel atStart rest
      some ((assignments, ws, r :: rs), rest)
    | none =>
      match cs with
      | [] => some (([], [], []), [])
      | c :: _ =>
        if endsWord c then some (([], [], []), cs)
        else
          let name := cs.takeWhile isNameChar
          match cs.drop name.length with
          | '=' :: rest =>
            if atStart && startsName c then do
              let (w, rest) ← word fuel rest
              let ((assignments, ws, rs), rest) ← parts fuel true rest
              some (((name, w) :: assignments, ws, rs), rest)
            else plainWord fuel cs
          | _ => plainWord fuel cs

/-- A word of a simple command and its further parts. -/
def plainWord : Nat → Reader (List (List Char × Word) × List Word × List Redirection)
  | 0, _ => none
  | fuel + 1, cs => do
    let (w, rest) ← word fuel cs
    let ((assignments, ws, rs), rest) ← parts fuel false rest
    some ((assignments, w :: ws, rs), rest)

/-- A command with its redirections. -/
def command : Nat → Reader Command
  | 0, _ => none
  | fuel + 1, cs =>
    let linesBehind := cs.count '\n'
    let redirect (c : Command) (cs : List Char) : Option (Command × List Char) := do
      let (rs, rest) ← redirections fuel cs
      some (if rs.isEmpty then c else .redirected linesBehind c rs, rest)
    match cs, reserved? cs with
    | '(' :: rest, _ => do
      let (c, rest) ← list fuel rest
      match skipLines rest with
      | ')' :: rest => redirect (.inner c) rest
      | _ => none
    | _, some ("\x7b", rest) => do
      let (c, rest) ← list fuel rest
      redirect c (← expect? "\x7d" rest)
    | _, some ("while", rest) => do
      let (condition, rest) ← list fuel rest
      let (body, rest) ← list fuel (← expect? "do" rest)
      redirect (.loop true condition body) (← expect? "done" rest)
    | _, some ("until", rest) => do
      let (condition, rest) ← list fuel rest
      let (body, rest) ← list fuel (← expect? "do" rest)
      redirect (.loop false condition body) (← expect? "done" rest)
    | _, some ("for", rest) => do
      let rest := skipBlanks rest
      let name := rest.takeWhile isNameChar
      let (ws, rest) ← words fuel (← expect? "in" (rest.drop name.length))
      let rest := match rest with
        | ';' :: rest => rest
        | rest => rest
      let (body, rest) ← list fuel (← expect? "do" rest)
      redirect (.each name ws body) (← expect? "done" rest)
    | _, some ("if", rest) => do
      let (c, rest) ← conditional fuel rest
      redirect c rest
    | _, some ("case", rest) => do
      let (subject, rest) ← word fuel (skipBlanks rest)
      let (bs, rest) ← branches fuel (← expect? "in" rest)
      redirect (.select subject bs) rest
    | _, _ => do
      let ((assignments, ws, rs), rest) ← parts fuel true cs
      if assignments.isEmpty && ws.isEmpty && rs.isEmpty then none
      else
        let c := Command.simple linesBehind assignments ws
        some (if rs.isEmpty then c else .redirected linesBehind c rs, rest)

/-- A conditional behind its first word. -/
def conditional : Nat → Reader Command
  | 0, _ => none
  | fuel + 1, cs => do
    let (condition, rest) ← list fuel cs
    let (yes, rest) ← list fuel (← expect? "then" rest)
    match reserved? (skipLines rest) with
    | some ("fi", rest) => some (.choice condition yes .nothing, rest)
    | some ("else", rest) => do
      let (no, rest) ← list fuel rest
      some (.choice condition yes no, ← expect? "fi" rest)
    | some ("elif", rest) => (conditional fuel rest).map fun r => (.choice condition yes r.1, r.2)
    | _ => none

/-- The branches of a selection up to its end. -/
def branches : Nat → Reader (List (List Word × Command))
  | 0, _ => none
  | fuel + 1, cs =>
    let cs := skipLines cs
    match reserved? cs, cs with
    | some ("esac", rest), _ => some ([], rest)
    | _, '(' :: rest => branch fuel (skipBlanks rest)
    | _, cs => branch fuel cs

/-- A branch of a selection and the further ones. -/
def branch : Nat → Reader (List (List Word × Command))
  | 0, _ => none
  | fuel + 1, cs => do
    let (patterns, rest) ← patterns fuel cs
    let (body, rest) ← list fuel rest
    match skipLines rest with
    | ';' :: ';' :: rest => (branches fuel rest).map fun r => ((patterns, body) :: r.1, r.2)
    | rest => (expect? "esac" rest).map fun rest => ([(patterns, body)], rest)

/-- The patterns of a branch up to their closing bracket. -/
def patterns : Nat → Reader (List Word)
  | 0, _ => none
  | fuel + 1, cs => do
    let (w, rest) ← word fuel (skipBlanks cs)
    match skipBlanks rest with
    | '|' :: rest => (patterns fuel rest).map fun r => (w :: r.1, r.2)
    | ')' :: rest => some ([w], rest)
    | _ => none

/-- A pipeline. -/
def pipeline : Nat → Reader Command
  | 0, _ => none
  | fuel + 1, cs =>
    match reserved? cs with
    | some ("!", rest) => (pipeline fuel (skipBlanks rest)).map fun r => (.negated r.1, r.2)
    | _ => do
      let (first, rest) ← command fuel cs
      match skipBlanks rest with
      | '|' :: '|' :: _ => some (first, rest)
      | '|' :: rest => do
        let (second, rest) ← pipeline fuel (skipLines rest)
        some (.pipe first second, rest)
      | _ => some (first, rest)

/-- Pipelines of which the later ones depend on the earlier ones. -/
def chain : Nat → Reader Command
  | 0, _ => none
  | fuel + 1, cs => do
    let (first, rest) ← pipeline fuel cs
    links fuel first rest

/-- The further pipelines of a chain. -/
def links : Nat → Command → Reader Command
  | 0, _, _ => none
  | fuel + 1, first, cs =>
    match skipBlanks cs with
    | '&' :: '&' :: rest => do
      let (second, rest) ← pipeline fuel (skipLines rest)
      links fuel (.depending true first second) rest
    | '|' :: '|' :: rest => do
      let (second, rest) ← pipeline fuel (skipLines rest)
      links fuel (.depending false first second) rest
    | rest => some (first, rest)

/-- A list of commands up to a place where lists end. -/
def list : Nat → Reader Command
  | 0, _ => none
  | fuel + 1, cs =>
    let cs := skipLines cs
    if closes cs then some (.nothing, cs)
    else do
      let (first, rest) ← chain fuel cs
      match skipBlanks rest with
      | ';' :: ';' :: rest => some (first, ';' :: ';' :: rest)
      | '&' :: rest => (list fuel rest).map fun r => (.sequence (.beside first) r.1, r.2)
      | ';' :: rest => (list fuel rest).map fun r => (.sequence first r.1, r.2)
      | '\n' :: rest => (list fuel rest).map fun r => (.sequence first r.1, r.2)
      | rest => some (first, rest)

end

/-- The commands of a script, if all of it can be read. -/
def parse? (text : List Char) : Option Command :=
  match list (16 * text.length + 64) text with
  | some (c, rest) => if (skipLines rest).isEmpty then some c else none
  | none => none

end JobSupervision.Script
