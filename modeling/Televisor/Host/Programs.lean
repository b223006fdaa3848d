import Televisor.Text.Number
import Televisor.Wake.Mac

namespace Televisor.Host

open Text

/-! Running the program that turns the television on.  The programs known here are the few that
every system has, and a shell that knows those. -/

inductive Ending where
  | exit (code : Nat)
  | signal (number : Nat)
  /-- It cannot even be started. -/
  | unstarted (reason : String)
deriving Repr, DecidableEq

def missing : Ending :=
  .unstarted "No such file or directory (os error 2)"

def signalNames : List (Nat × String) :=
  [(1, "HUP"), (2, "INT"), (3, "QUIT"), (4, "ILL"), (5, "TRAP"), (6, "ABRT"), (7, "BUS"),
    (8, "FPE"), (9, "KILL"), (10, "USR1"), (11, "SEGV"), (12, "USR2"), (13, "PIPE"), (14, "ALRM"),
    (15, "TERM"), (16, "STKFLT"), (17, "CHLD"), (18, "CONT"), (19, "STOP"), (20, "TSTP"),
    (21, "TTIN"), (22, "TTOU"), (23, "URG"), (24, "XCPU"), (25, "XFSZ"), (26, "VTALRM"),
    (27, "PROF"), (28, "WINCH"), (29, "IO"), (30, "PWR"), (31, "SYS")]

/-- The signals that a process ignores unless it asks for them; number 0 only tests for it. -/
def ignoredSignals : List Nat := [0, 17, 18, 23, 28]

/-- When a command of a shell line is run: after the one before it whatever its status, or only if
that was zero, or only if it was not. -/
inductive Link where
  | always
  | onSuccess
  | onFailure
deriving Repr, DecidableEq

/-- A part of a shell line; the word after a redirection names a file. -/
inductive Piece where
  | word (text : String)
  | link (link : Link)
  | redirection
deriving Repr, DecidableEq

/-- A word of a shell line: what it is made of so far, and whether it has begun. -/
structure Word where
  letters : List Char
  begun : Bool

def Word.none : Word := ⟨[], false⟩

def Word.add (word : Word) (letters : List Char) : Word :=
  ⟨word.letters ++ letters, true⟩

def Word.close (word : Word) (pieces : List Piece) : List Piece :=
  if word.begun then pieces ++ [.word (String.ofList word.letters)] else pieces

/-- What a parameter of a shell line stands for; the shell's own process is `$`. -/
def parameter (arguments : List String) (c : Char) : List Char :=
  if c = '$' then ['$']
  else if c = '#' then (toString (arguments.length - 1)).toList
  else if c.isDigit then (arguments.getD (c.toNat - 0x30) "").toList
  else []

/-- The parts of a shell line, given the quote that is open.  A number right before a redirection
belongs to it. -/
def shellPieces (arguments : List String) (quote : Option Char) (word : Word)
    (pieces : List Piece) : List Char → List Piece
  | [] => word.close pieces
  | '$' :: c :: rest =>
    if quote = some '\'' then shellPieces arguments quote (word.add ['$']) pieces (c :: rest)
    else shellPieces arguments quote (word.add (parameter arguments c)) pieces rest
  | '&' :: '&' :: rest =>
    if quote = none then
      shellPieces arguments none .none (word.close pieces ++ [.link .onSuccess]) rest
    else shellPieces arguments quote (word.add ['&', '&']) pieces rest
  | '|' :: '|' :: rest =>
    if quote = none then
      shellPieces arguments none .none (word.close pieces ++ [.link .onFailure]) rest
    else shellPieces arguments quote (word.add ['|', '|']) pieces rest
  | c :: rest =>
    match quote with
    | some open_ =>
      if c = open_ then shellPieces arguments none word pieces rest
      else shellPieces arguments quote (word.add [c]) pieces rest
    | none =>
      if c = '"' || c = '\'' then shellPieces arguments (some c) (word.add []) pieces rest
      else if c = ' ' || c = '\t' then shellPieces arguments none .none (word.close pieces) rest
      else if c = ';' || c = '\n' then
        shellPieces arguments none .none (word.close pieces ++ [.link .always]) rest
      else if c = '>' || c = '<' then
        let before := if word.letters.all Char.isDigit then pieces else word.close pieces
        shellPieces arguments none .none (before ++ [.redirection]) rest
      else shellPieces arguments none (word.add [c]) pieces rest

/-- The commands of a shell line with what each waits for. -/
def shellCommands (link : Link) (words : List String) : List Piece → List (Link × List String)
  | [] => [(link, words)]
  | .link next :: rest => (link, words) :: shellCommands next [] rest
  | .redirection :: .word _ :: rest => shellCommands link words rest
  | .redirection :: rest => shellCommands link words rest
  | .word text :: rest => shellCommands link (words ++ [text]) rest

/-- The signal that an option such as `-9` or `-KILL` names. -/
def signalOption? (option : List Char) : Option Nat :=
  match option with
  | '-' :: name =>
    match digitsValue? 0 name with
    | some number => if name.isEmpty then none else some number
    | none => (signalNames.find? (·.2.toList == name)).map (·.1)
  | _ => none

def truth (value : Bool) : Nat :=
  if value then 0 else 1

def testStatus : List String → Nat
  | [] => 1
  | [text] => truth (!text.isEmpty)
  | ["-n", text] => truth (!text.isEmpty)
  | ["-z", text] => truth text.isEmpty
  | [left, "=", right] => truth (left = right)
  | [left, "!=", right] => truth (left ≠ right)
  | _ => 2

/-- The status of a program that leaves the shell as it is; one that is not known is not found. -/
def programStatus? (name : String) (arguments : List String) : Option Nat :=
  match name with
  | "false" => some 1
  | "test" => some (testStatus arguments)
  | "[" => some (if arguments.getLast? = some "]" then testStatus arguments.dropLast else 2)
  | name => if ["true", "sh", "echo", "sleep"].contains name then some 0 else none

/-- A command of the shell either ends it or leaves a status; `last` is the status before. -/
def shellCommand (last : Nat) : List String → Except Ending Nat
  | [] => .ok last
  | ["exit"] => .error (.exit last)
  | "exit" :: code :: _ => .error (.exit ((digitsValue? 0 code.toList).getD 2 % 256))
  | ["kill", "$"] => .error (.signal 15)
  | ["kill", option, "$"] =>
    match signalOption? option.toList with
    | some number => if ignoredSignals.contains number then .ok 0 else .error (.signal number)
    | none => .ok 2
  | ":" :: _ => .ok 0
  | name :: arguments => .ok ((programStatus? name arguments).getD 127)

def Link.follows (link : Link) (status : Nat) : Bool :=
  match link with
  | .always => true
  | .onSuccess => status == 0
  | .onFailure => status != 0

def shellEnding (last : Nat) : List (Link × List String) → Ending
  | [] => .exit last
  | (link, words) :: rest =>
    if link.follows last then
      match shellCommand last words with
      | .error ending => ending
      | .ok status => shellEnding status rest
    else shellEnding last rest

def programEnding (name : String) (arguments : List String) : Ending :=
  match name, arguments with
  | "sh", "-c" :: line :: rest =>
    let arguments := if rest.isEmpty then ["sh"] else rest
    shellEnding 0 (shellCommands .always [] (shellPieces arguments none .none [] line.toList))
  | name, arguments =>
    match programStatus? name arguments with
    | some status => .exit status
    | none => missing

def ending (program : String) (arguments : List String) : Ending :=
  let name := (program.splitOn "/").getLast?.getD program
  let directory := String.ofList (program.toList.take (program.length - name.length))
  if (program :: arguments).any (·.contains '\x00') then
    .unstarted "nul byte found in provided data"
  else if ["/", "/tmp", "/etc", "/dev", "/bin", "/usr", "/dev/null"].contains program then
    .unstarted "Permission denied (os error 13)"
  else if ["", "/bin/", "/usr/bin/"].contains directory then programEnding name arguments
  else missing

def endingReason? (program : String) : Ending → Option String
  | .exit 0 => none
  | .exit code => some (program ++ " exited with exit status: " ++ toString code)
  | .signal number =>
    let suffix :=
      match signalNames.find? (·.1 == number) with
      | some (_, name) => " (SIG" ++ name ++ ")"
      | none => ""
    some (program ++ " exited with signal: " ++ toString number ++ suffix)
  | .unstarted reason => some (program ++ ": " ++ reason)

def runCommand : List String → Except Wake.Failure Unit
  | [] => .error (.script "empty command")
  | program :: arguments =>
    match endingReason? program (ending program arguments) with
    | none => .ok ()
    | some reason => .error (.script reason)

end Televisor.Host
