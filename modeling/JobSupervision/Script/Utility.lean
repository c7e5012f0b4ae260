/-
# Utilities of scripts

The programs that scripts call: each takes its arguments, its input and the files, and gives
what it prints, a status, the files afterwards and the time it takes.
-/
import JobSupervision.Console.Lines
import JobSupervision.FileSystem
import JobSupervision.Script.Calculation

namespace JobSupervision.Script

/-- What a utility does. -/
structure Effect where
  /-- The files afterwards. -/
  files : FileSystem
  /-- What it prints. -/
  printed : List UInt8 := []
  /-- What it writes to the error stream. -/
  complained : List UInt8 := []
  /-- Its status; zero is success. -/
  status : Nat := 0
  /-- How long it takes, in milliseconds. -/
  millis : Nat := 0

/-- A utility, from its arguments, its input and the files. -/
abbrev Utility := List (List Char) → List UInt8 → FileSystem → Effect

/-- The bytes of a text. -/
def bytesOf (text : String) : List UInt8 := Text.Utf8.encode text.toList

/-- A path from its characters. -/
def pathOf (cs : List Char) : Path := ⟨String.ofList cs⟩

namespace Utility

/-- The options in front of the other arguments: the letters behind single dashes. -/
def options : List (List Char) → List Char × List (List Char)
  | ['-', '-'] :: rest => ([], rest)
  | ('-' :: c :: cs) :: rest =>
    let (letters, others) := options rest
    (c :: cs ++ letters, others)
  | others => ([], others)

/-- A text with a line end. -/
def line (text : String) : List UInt8 := bytesOf (text ++ "\n")

/-- The bytes of a source: a file, or the input itself. -/
def source (fs : FileSystem) (input : List UInt8) (name : List Char) :
    Except FileFault (List UInt8) :=
  if name = ['-'] then .ok input
  else if name = "/dev/null".toList then .ok []
  else fs.read (pathOf name)

/-- The bytes of several sources one behind the other, and complaints about those that cannot
be read; without any source, the input. -/
def sources (complaint : String → String → String) (fs : FileSystem) (input : List UInt8)
    (names : List (List Char)) : List UInt8 × List UInt8 :=
  if names.isEmpty then (input, [])
  else
    names.foldl (fun acc name =>
      match source fs input name with
      | .ok content => (acc.1 ++ content, acc.2)
      | .error fault => (acc.1, acc.2 ++ line (complaint (String.ofList name) fault.reason)))
      ([], [])

/-- An effect that prints what was made of some sources. -/
def shown (fs : FileSystem) (failure : Nat) (printed complained : List UInt8) : Effect :=
  { files := fs, printed := printed, complained := complained,
    status := if complained.isEmpty then 0 else failure }

/-- Prints its sources. -/
def cat : Utility := fun args input fs =>
  let (printed, complained) := sources (fun name reason => "cat: " ++ name ++ ": " ++ reason) fs
    input (options args).2
  shown fs 1 printed complained

/-- Prints its arguments. -/
def echo : Utility := fun args _ fs =>
  let (args, ending) : List (List Char) × List UInt8 :=
    match args with
    | ['-', 'n'] :: rest => (rest, [])
    | args => (args, [10])
  let text := List.intercalate [' '] args
  let (bytes, more) := unescape (text.length + 1) text
  { files := fs, printed := if more then bytes ++ ending else bytes }

/-- Prints its arguments by a format. -/
def printf : Utility := fun args _ fs =>
  match args with
  | [] => { files := fs, complained := line "printf: usage: printf format [arg ...]", status := 2 }
  | ['-', '-'] :: text :: rest => { files := fs, printed := format text rest }
  | text :: rest => { files := fs, printed := format text rest }

/-- Prints the working directory. -/
def pwd : Utility := fun _ _ fs => { files := fs, printed := line fs.here.text }

/-- Lists a directory. -/
def ls : Utility := fun args _ fs =>
  let (letters, names) := options args
  let name := names.head?.getD ['.']
  let isHidden (n : String) : Bool := n.toList.head? = some '.'
  match fs.lookup (pathOf name), fs.list (pathOf name) with
  | .ok (.file _ _), _ => { files := fs, printed := line (String.ofList name) }
  | _, .ok found =>
    let own := if letters.contains 'a' then [".", ".."] else []
    let others := if letters.contains 'a' || letters.contains 'A' then found
      else found.filter fun n => !isHidden n
    { files := fs, printed := (own ++ others).flatMap line }
  | _, .error fault =>
    { files := fs
      complained := line ("ls: cannot access '" ++ String.ofList name ++ "': " ++ fault.reason)
      status := 2 }

/-- Removes files and, if told so, directories. -/
def rm : Utility := fun args _ fs =>
  let (letters, names) := options args
  let force := letters.contains 'f'
  let deep := letters.contains 'r' || letters.contains 'R'
  names.foldl (fun e name =>
    let complain (reason : String) : Effect :=
      { e with
        complained := e.complained ++
          line ("rm: cannot remove '" ++ String.ofList name ++ "': " ++ reason)
        status := 1 }
    match e.files.lookup (pathOf name), e.files.locate (pathOf name) with
    | .ok .directory, .ok l =>
      if deep then { e with files := e.files.removeTree l } else complain "Is a directory"
    | .ok _, .ok l => { e with files := e.files.remove l }
    | .error fault, _ | _, .error fault => if force then e else complain fault.reason)
    { files := fs : Effect }

/-- Makes directories. -/
def mkdir : Utility := fun args _ fs =>
  let (letters, names) := options args
  names.foldl (fun e name =>
    let complain (reason : String) : Effect :=
      { e with
        complained := e.complained ++
          line ("mkdir: cannot create directory '" ++ String.ofList name ++ "': " ++ reason)
        status := 1 }
    match e.files.locate (pathOf name) with
    | .error fault =>
      if letters.contains 'p' then
        let start := if (pathOf name).isAbsolute then [] else e.files.workDir
        { e with files := e.files.makeDirectories (FileSystem.below start (String.ofList name)) }
      else complain fault.reason
    | .ok l =>
      match e.files.node? l with
      | some _ => if letters.contains 'p' then e else complain "File exists"
      | none => { e with files := e.files.makeDirectories l })
    { files := fs : Effect }

/-- Makes empty files. -/
def touch : Utility := fun args _ fs =>
  (options args).2.foldl (fun e name =>
    if e.files.isFile (pathOf name) || e.files.isDirectory (pathOf name) then e
    else
      match e.files.write (pathOf name) [] with
      | .ok files => { e with files := files }
      | .error fault =>
        { e with
          complained := e.complained ++
            line ("touch: cannot touch '" ++ String.ofList name ++ "': " ++ fault.reason)
          status := 1 })
    { files := fs : Effect }

/-- The place of a file that is put to a target, which may be a directory. -/
def placeIn (fs : FileSystem) (file target : List Char) : Path :=
  if fs.isDirectory (pathOf target) then
    (pathOf target).join ⟨(pathOf file).fileName?.getD ""⟩
  else pathOf target

/-- Moves or copies one file. -/
def carry (name : String) (keep : Bool) : Utility := fun args _ fs =>
  match (options args).2 with
  | [file, target] =>
    let place := placeIn fs file target
    let done :=
      if keep then (fs.read (pathOf file)).bind fun content => fs.write place content
      else fs.rename (pathOf file) place
    match done with
    | .ok files => { files := files }
    | .error fault =>
      { files := fs
        complained :=
          line (name ++ ": cannot stat '" ++ String.ofList file ++ "': " ++ fault.reason)
        status := 1 }
  | _ => { files := fs, complained := line (name ++ ": missing file operand"), status := 1 }

/-- How much a utility is to show: of bytes or of lines. -/
structure Amount where
  /-- Whether bytes are counted, not lines. -/
  ofBytes : Bool
  /-- The count. -/
  count : Nat

/-- The number that some digits write. -/
def number (digits : List Char) : Nat := (leadingInt digits).toNat

/-- The amount among some arguments, and the others. -/
def amount : List (List Char) → Amount × List (List Char)
  | ['-', 'c'] :: n :: rest => (⟨true, number n⟩, rest)
  | ['-', 'n'] :: n :: rest => (⟨false, number n⟩, rest)
  | ('-' :: 'c' :: n) :: rest => (⟨true, number n⟩, rest)
  | ('-' :: 'n' :: n) :: rest => (⟨false, number n⟩, rest)
  | ('-' :: d :: n) :: rest =>
    if d.isDigit then (⟨false, number (d :: n)⟩, rest)
    else (⟨false, 10⟩, ('-' :: d :: n) :: rest)
  | rest => (⟨false, 10⟩, rest)

/-- Shows the first part of its sources. -/
def head : Utility := fun args input fs =>
  let (amount, names) := amount args
  if names = ["/dev/zero".toList] then
    { files := fs, printed := List.replicate (if amount.ofBytes then amount.count else 0) 0 }
  else
    let (content, complained) := sources
      (fun name reason => "head: cannot open '" ++ name ++ "' for reading: " ++ reason)
      fs input names
    let printed :=
      if amount.ofBytes then content.take amount.count
      else ((Console.segments content).take amount.count).flatten
    shown fs 1 printed complained

/-- Shows the last part of its sources. -/
def tail : Utility := fun args input fs =>
  let (amount, names) := amount args
  let (content, complained) := sources
    (fun name reason => "tail: cannot open '" ++ name ++ "' for reading: " ++ reason) fs input names
  let printed :=
    if amount.ofBytes then Console.lastOf amount.count content
    else (Console.lastOf amount.count (Console.segments content)).flatten
  shown fs 1 printed complained

/-- The bytes of a set of characters: sequences, ranges and single ones. -/
def characterSet : Nat → List Char → List UInt8
  | 0, _ => []
  | _, [] => []
  | fuel + 1, '\\' :: cs =>
    match formatEscape cs with
    | .byte b rest => b :: characterSet fuel rest
    | _ => 92 :: characterSet fuel cs
  | fuel + 1, a :: '-' :: b :: rest =>
    (List.range (b.toNat + 1 - a.toNat)).map (fun n => UInt8.ofNat (a.toNat + n)) ++
      characterSet fuel rest
  | fuel + 1, c :: rest => Text.Utf8.encode [c] ++ characterSet fuel rest

/-- The byte that takes the place of a byte: the one at the same place of another set, whose
last byte stands for all further ones. -/
def translated (source target : List UInt8) (b : UInt8) : UInt8 :=
  match source.idxOf? b with
  | some n => (target[n]?.orElse fun _ => target.getLast?).getD b
  | none => b

/-- Replaces or deletes bytes of its input. -/
def tr : Utility := fun args input fs =>
  let set (cs : List Char) : List UInt8 := characterSet (cs.length + 1) cs
  match args with
  | [['-', 'd'], deleted] =>
    let deleted := set deleted
    { files := fs, printed := input.filter fun b => !deleted.contains b }
  | [source, target] =>
    let source := set source
    let target := set target
    { files := fs, printed := input.map (translated source target) }
  | _ => { files := fs, complained := line "tr: missing operand", status := 1 }

/-- One step of a pattern: a character, or any; taken once, or any number of times. -/
structure PatternStep where
  /-- The character; none stands for any. -/
  char : Option Char
  /-- Whether it may come any number of times. -/
  repeated : Bool

/-- The steps of a pattern. -/
def patternSteps : List Char → List PatternStep
  | [] => []
  | '\\' :: c :: '*' :: rest => ⟨some c, true⟩ :: patternSteps rest
  | '\\' :: c :: rest => ⟨some c, false⟩ :: patternSteps rest
  | '.' :: '*' :: rest => ⟨none, true⟩ :: patternSteps rest
  | '.' :: rest => ⟨none, false⟩ :: patternSteps rest
  | c :: '*' :: rest => ⟨some c, true⟩ :: patternSteps rest
  | c :: rest => ⟨some c, false⟩ :: patternSteps rest

/-- Whether the steps match the front of a text, and all of it if it must end there. -/
def matchesFront (toEnd : Bool) : Nat → List PatternStep → List Char → Bool
  | 0, _, _ => false
  | _, [], cs => !toEnd || cs.isEmpty
  | fuel + 1, step :: steps, cs =>
    let fits (c : Char) : Bool := step.char.all (· = c)
    if step.repeated then
      matchesFront toEnd fuel steps cs ||
        match cs with
        | c :: rest => fits c && matchesFront toEnd fuel (step :: steps) rest
        | [] => false
    else
      match cs with
      | c :: rest => fits c && matchesFront toEnd fuel steps rest
      | [] => false

/-- Whether a pattern is found in a text. -/
def isFound (pattern text : List Char) : Bool :=
  let (atStart, pattern) := match pattern with
    | '^' :: rest => (true, rest)
    | pattern => (false, pattern)
  let toEnd := pattern.getLast? = some '$'
  let steps := patternSteps (if toEnd then pattern.dropLast else pattern)
  let fuel := steps.length + text.length + 1
  if atStart then matchesFront toEnd fuel steps text
  else (List.range (text.length + 1)).any fun n => matchesFront toEnd fuel steps (text.drop n)

/-- Shows the lines in which a pattern is found. -/
def grep : Utility := fun args input fs =>
  let (letters, others) := options args
  match others with
  | [] =>
    { files := fs, complained := line "Usage: grep [OPTION]... PATTERNS [FILE]...", status := 2 }
  | pattern :: names =>
    let (content, complained) := sources
      (fun name reason => "grep: " ++ name ++ ": " ++ reason) fs input names
    let wanted := (Console.segments content).filter fun s =>
      isFound pattern (Console.lineOf s).toList != letters.contains 'v'
    let printed :=
      if letters.contains 'q' then []
      else if letters.contains 'c' then line (toString wanted.length)
      else wanted.flatMap fun s => if Console.isWhole s then s else s ++ [10]
    { files := fs, printed := printed, complained := complained
      status := if !complained.isEmpty then 2 else if wanted.isEmpty then 1 else 0 }

/-- A path without separators at its end; only separators are one. -/
def withoutEnd (cs : List Char) : List Char :=
  match (cs.reverse.dropWhile (· = '/')).reverse with
  | [] => if cs.isEmpty then [] else ['/']
  | cs => cs

/-- Shows the directory part of paths. -/
def dirname : Utility := fun args _ fs =>
  { files := fs
    printed := args.flatMap fun cs =>
      let front := ((withoutEnd cs).reverse.dropWhile (· ≠ '/')).reverse
      line (if front.isEmpty then "." else String.ofList (withoutEnd front)) }

/-- Shows the name that a path ends in, without an ending. -/
def basename : Utility := fun args _ fs =>
  match args with
  | [] => { files := fs, complained := line "basename: missing operand", status := 1 }
  | cs :: rest =>
    let cs := withoutEnd cs
    let name := if cs = ['/'] then cs else (cs.reverse.takeWhile (· ≠ '/')).reverse
    let ending := rest.head?.getD []
    let short := name.take (name.length - ending.length)
    { files := fs
      printed := line (String.ofList (if short ++ ending = name then short else name)) }

/-- The milliseconds that a number of seconds writes. -/
def millisOf (cs : List Char) : Nat :=
  let whole := cs.takeWhile Char.isDigit
  let fraction := ((cs.drop (whole.length + 1)).takeWhile Char.isDigit ++ ['0', '0', '0']).take 3
  number whole * 1000 + number fraction

/-- Does nothing for some seconds. -/
def sleep : Utility := fun args _ fs =>
  { files := fs, millis := args.foldl (fun n a => n + millisOf a) 0 }

/-- Counts the lines, words and bytes of its sources. -/
def wc : Utility := fun args input fs =>
  let (letters, names) := options args
  let (content, complained) := sources
    (fun name reason => "wc: " ++ name ++ ": " ++ reason) fs input names
  let wordCount := (content.foldl (fun (acc : Nat × Bool) b =>
    let blank := b = 32 || (9 ≤ b && b ≤ 13)
    (if !blank && acc.2 then acc.1 + 1 else acc.1, blank)) (0, true)).1
  let counts := [('l', content.count 10), ('w', wordCount), ('c', content.length)].filter fun c =>
    letters.isEmpty || letters.contains c.1
  let texts := counts.map fun c => toString c.2
  let suffix := match names with
    | [name] => " " ++ String.ofList name
    | _ => ""
  shown fs 1 (line (String.intercalate " " texts ++ suffix)) complained

/-- Prints the numbers of a range. -/
def seq : Utility := fun args _ fs =>
  let (first, last) := match args.map leadingInt with
    | [last] => (1, last)
    | [first, last] => (first, last)
    | _ => (1, 0)
  { files := fs
    printed := (List.range (last + 1 - first).toNat).flatMap fun n =>
      line (toString (first + Int.ofNat n)) }

/-- Prints its input and writes it to files as well. -/
def tee : Utility := fun args input fs =>
  let (letters, names) := options args
  names.foldl (fun e name =>
    let old := if letters.contains 'a' then (e.files.read (pathOf name)).toOption.getD [] else []
    match e.files.write (pathOf name) (old ++ input) with
    | .ok files => { e with files := files }
    | .error fault =>
      { e with
        complained := e.complained ++
          line ("tee: " ++ String.ofList name ++ ": " ++ fault.reason)
        status := 1 })
    { files := fs, printed := input : Effect }

/-- Prints the lines of its sources in order. -/
def sort : Utility := fun args input fs =>
  let (letters, names) := options args
  let (content, complained) := sources
    (fun name reason => "sort: cannot read: " ++ name ++ ": " ++ reason) fs input names
  let lines := (Console.segments content).map fun s => if Console.isWhole s then s.dropLast else s
  let sorted := lines.mergeSort fun a b => compare a b != .gt
  let sorted := if letters.contains 'u' then sorted.eraseReps else sorted
  let sorted := if letters.contains 'r' then sorted.reverse else sorted
  shown fs 2 (sorted.flatMap (· ++ [10])) complained

/-- The result of an operation that a word names. -/
def operation? (name : String) : Option (Int → Int → Option Int) :=
  match name with
  | "+" => some fun a b => some (a + b)
  | "-" => some fun a b => some (a - b)
  | "*" => some fun a b => some (a * b)
  | "/" => some fun a b => if b = 0 then none else some (Int.tdiv a b)
  | "%" => some fun a b => if b = 0 then none else some (Int.tmod a b)
  | _ => none

/-- Prints the result of an operation on two numbers. -/
def expr : Utility := fun args _ fs =>
  match args with
  | [a, name, b] =>
    match operation? (String.ofList name) with
    | some f =>
      match f (leadingInt a) (leadingInt b) with
      | some n => { files := fs, printed := line (toString n), status := if n = 0 then 1 else 0 }
      | none => { files := fs, complained := line "expr: division by zero", status := 2 }
    | none => { files := fs, complained := line "expr: syntax error", status := 2 }
  | [a] => { files := fs, printed := line (String.ofList a), status := if a.isEmpty then 1 else 0 }
  | _ => { files := fs, complained := line "expr: syntax error", status := 2 }

/-- How many lines stand for a text that never ends, of which readers want only the front. -/
def plenty : Nat := 30000

/-- Prints its arguments again and again. -/
def yes : Utility := fun args _ fs =>
  let text := line (String.ofList (if args.isEmpty then ['y'] else List.intercalate [' '] args))
  { files := fs, printed := (List.replicate plenty text).flatten }

/-- The comparison of two numbers that a word names. -/
def comparison? (name : String) : Option (Int → Int → Bool) :=
  match name with
  | "-eq" => some fun a b => a = b
  | "-ne" => some fun a b => a ≠ b
  | "-lt" => some fun a b => a < b
  | "-le" => some fun a b => a ≤ b
  | "-gt" => some fun a b => b < a
  | "-ge" => some fun a b => b ≤ a
  | _ => none

/-- Whether a condition holds; one that cannot be read has no answer. -/
def condition? (fs : FileSystem) : List (List Char) → Option Bool
  | [] => some false
  | [['!']] => some true
  | ['!'] :: rest => (condition? fs rest).map (!·)
  | [a] => some (!a.isEmpty)
  | [op, a] =>
    match String.ofList op with
    | "-n" => some (!a.isEmpty)
    | "-z" => some a.isEmpty
    | "-f" => some (fs.isFile (pathOf a))
    | "-d" => some (fs.isDirectory (pathOf a))
    | "-e" | "-r" | "-w" => some (fs.isFile (pathOf a) || fs.isDirectory (pathOf a))
    | "-s" => some (match fs.read (pathOf a) with
      | .ok content => !content.isEmpty
      | .error _ => fs.isDirectory (pathOf a))
    | _ => none
  | [a, op, b] =>
    match String.ofList op with
    | "=" => some (a = b)
    | "!=" => some (a ≠ b)
    | name => (comparison? name).map fun holds => holds (leadingInt a) (leadingInt b)
  | _ => none

/-- Tells by its status whether a condition holds. -/
def test : Utility := fun args _ fs =>
  match condition? fs args with
  | some true => { files := fs }
  | some false => { files := fs, status := 1 }
  | none => { files := fs, complained := line "test: unexpected operator", status := 2 }

/-- As `test`, with a bracket behind the condition. -/
def bracket : Utility := fun args input fs =>
  if args.getLast? = some [']'] then test args.dropLast input fs
  else { files := fs, complained := line "[: missing ]", status := 2 }

/-- A utility that only has a status. -/
def still (status : Nat) : Utility := fun _ _ fs => { files := fs, status := status }

/-- The utilities by their names. -/
def all : List (String × Utility) :=
  [("cat", cat), ("echo", echo), ("printf", printf), ("pwd", pwd), ("ls", ls), ("rm", rm),
    ("mkdir", mkdir), ("touch", touch), ("mv", carry "mv" false), ("cp", carry "cp" true),
    ("head", head), ("tail", tail), ("tr", tr), ("grep", grep), ("dirname", dirname),
    ("basename", basename), ("sleep", sleep), ("wc", wc), ("seq", seq), ("tee", tee),
    ("sort", sort), ("expr", expr), ("yes", yes), ("test", test), ("[", bracket),
    ("chmod", still 0),
    ("sync", still 0), ("true", still 0), (":", still 0), ("false", still 1)]

/-- The utility of a name. -/
def find? (name : List Char) : Option Utility := all.lookup (String.ofList name)

end Utility

end JobSupervision.Script
