import RemoteCall.Text.Digit
import RemoteCall.Text.Quoted

/-!
# Command-line grammars

A grammar has options and at most one positional argument, which is a value or a command that takes all that follows it.
Arguments are first told apart: `--` ends the options, what starts with a dash names an option, by any start of its long
name that no other option shares, and everything else stands for itself. Then they are consumed from left to right, and
the first thing that is wrong, or that asks for help, stops the reading.
-/

namespace RemoteCall.CommandLine

inductive OptionUse where
  | help
  | version
  | flag (name : String)
  /-- Takes one value, which must be one of the choices if there are any. -/
  | value (name : String) (choices : List String)
deriving DecidableEq, Repr

structure OptionSpec where
  names : List String
  use : OptionUse
deriving DecidableEq, Repr

/-- The option as messages name it. -/
def OptionSpec.title (o : OptionSpec) : String := "/".intercalate o.names

inductive Positional where
  | none
  | value (name : String)
  | command (name : String) (choices : List String)
deriving DecidableEq, Repr

structure Grammar where
  program : String
  usage : String
  /-- What the help says after the usage. -/
  help : String
  options : List OptionSpec
  positional : Positional

inductive Stop where
  | help
  | version
  | misuse (message : String)
deriving DecidableEq, Repr

structure Parsed where
  flags : List String
  /-- Values by name, as often as they were given. -/
  values : List (String × String)
  positional : Option String
  command : Option (String × List String)
  /-- Arguments that mean nothing. -/
  extras : List String
deriving Repr

def Parsed.empty : Parsed := ⟨[], [], none, none, []⟩

/-! ## Telling arguments apart -/

/-- What an argument says besides the name of its option. -/
inductive Attached where
  | nothing
  | afterEquals (value : String)
  /-- Follows a short name directly. -/
  | tail (text : String)
deriving DecidableEq, Repr

/-- What stands after an equals sign, if there is one. -/
def Attached.ofOption : Option (List Char) → Attached
  | none => .nothing
  | some cs => .afterEquals (String.ofList cs)

structure Mention where
  option : OptionSpec
  name : String
  attached : Attached
deriving Repr

inductive Token where
  | plain (text : String)
  | terminator
  /-- Looks like an option, and may name one. -/
  | option (text : String) (mention : Option Mention)
deriving Repr

namespace Token

def text : Token → String
  | plain text => text
  | terminator => "--"
  | option text _ => text

def isOption : Token → Bool
  | option .. => true
  | _ => false

end Token

namespace Grammar

def named (g : Grammar) : List (String × OptionSpec) := g.options.flatMap fun o => o.names.map (·, o)

def findOption (g : Grammar) (name : String) : Option OptionSpec := g.named.lookup name

def splitEquals (cs : List Char) : List Char × Option (List Char) :=
  match cs.dropWhile (· != '=') with
  | _ :: after => (cs.takeWhile (· != '='), some after)
  | [] => (cs, none)

/-- The options that an argument may be short for. -/
def abbreviated (g : Grammar) (cs : List Char) : List Mention :=
  match cs with
  | '-' :: '-' :: _ =>
    let (start, after) := splitEquals cs
    (g.named.filter fun n => start.isPrefixOf n.1.toList).map fun n => ⟨n.2, n.1, .ofOption after⟩
  | _ =>
    let short := String.ofList (cs.take 2)
    g.named.filterMap fun n =>
      if n.1 = short then some ⟨n.2, n.1, .tail (String.ofList (cs.drop 2))⟩
      else if cs.isPrefixOf n.1.toList then some ⟨n.2, n.1, .nothing⟩
      else none

/-- Whether an argument is a negative number: digits, or digits after a point. -/
def isNegativeNumber (cs : List Char) : Bool :=
  let isDigit (c : Char) := (Text.digitValue? c).isSome
  let allDigits (ds : List Char) := !ds.isEmpty && ds.all isDigit
  let body := if cs.getLast? == some '\n' then cs.dropLast else cs
  match body with
  | '-' :: rest =>
    allDigits rest ||
      match rest.dropWhile isDigit with
      | '.' :: fraction => allDigits fraction
      | _ => false
  | _ => false

/-- What an argument is that comes before any terminator. -/
def classify (g : Grammar) (arg : String) : Except Stop Token :=
  let cs := arg.toList
  match cs with
  | '-' :: _ :: _ =>
    let (start, after) := splitEquals cs
    match g.findOption arg, after, g.findOption (String.ofList start) with
    | some o, _, _ => .ok (.option arg (some ⟨o, arg, .nothing⟩))
    | none, some v, some o => .ok (.option arg (some ⟨o, String.ofList start, .afterEquals (String.ofList v)⟩))
    | none, _, _ =>
      match g.abbreviated cs with
      | [m] => .ok (.option arg (some m))
      | [] =>
        if isNegativeNumber cs || cs.contains ' ' then .ok (.plain arg) else .ok (.option arg none)
      | several =>
        .error (.misuse ("ambiguous option: " ++ arg ++ " could match " ++ ", ".intercalate (several.map Mention.name)))
  | _ => .ok (.plain arg)

/-- What the arguments are, those after a terminator being plain. -/
def tokens (g : Grammar) : List String → Except Stop (List Token)
  | [] => .ok []
  | "--" :: rest => .ok (.terminator :: rest.map .plain)
  | arg :: rest => return (← g.classify arg) :: (← g.tokens rest)

/-! ## Consuming arguments -/

def misuse {α : Type} (title message : String) : Except Stop α := .error (.misuse s!"argument {title}: {message}")

def checkChoice (title : String) (choices : List String) (v : String) : Except Stop Unit :=
  if choices.isEmpty || choices.contains v then .ok ()
  else
    let listed := ", ".intercalate (choices.map Text.quoted)
    misuse title s!"invalid choice: {Text.quoted v} (choose from {listed})"

/-- Stops at something given to an option that takes no value. -/
def ignored {α : Type} (o : OptionSpec) (given : String) : Except Stop α :=
  misuse o.title s!"ignored explicit argument {Text.quoted given}"

def giveValue (p : Parsed) (title name : String) (choices : List String) (v : String) : Except Stop Parsed := do
  checkChoice title choices v
  return { p with values := p.values ++ [(name, v)] }

def useOption (p : Parsed) (o : OptionSpec) : Except Stop Parsed :=
  match o.use with
  | .help => .error .help
  | .version => .error .version
  | .flag name => .ok { p with flags := p.flags ++ [name] }
  | .value .. => .ok p

/-- What an option in an argument leaves of the argument. -/
inductive Remainder where
  | nothing
  | value (v : String)
  /-- Short options that do not exist, as an argument of their own. -/
  | unknown (arg : String)
deriving DecidableEq, Repr

/-- Short options in the tail of one that takes no value, which is the first argument. -/
def shortOptions (g : Grammar) (previous : OptionSpec) : List Char → Except Stop (List OptionSpec × Remainder)
  | [] => .ok ([], .nothing)
  | c :: rest =>
    if c = '-' then ignored previous (String.ofList (c :: rest))
    else
      match g.findOption (String.ofList ['-', c]) with
      | none => .ok ([], .unknown (String.ofList ('-' :: c :: rest)))
      | some o =>
        match o.use, rest with
        | .value .., [] => .ok ([o], .nothing)
        | .value .., '=' :: v => .ok ([o], .value (String.ofList v))
        | .value .., v => .ok ([o], .value (String.ofList v))
        | _, '=' :: given => ignored o (String.ofList given)
        | _, rest => do
          let (others, remainder) ← g.shortOptions o rest
          return (o :: others, remainder)

/-- The options that an argument mentions and what they leave of it. -/
def mentioned (g : Grammar) (m : Mention) : Except Stop (List OptionSpec × Remainder) :=
  match m.option.use, m.attached with
  | _, .nothing => .ok ([m.option], .nothing)
  | .value .., .afterEquals v => .ok ([m.option], .value v)
  | .value .., .tail v => .ok ([m.option], .value v)
  | _, .afterEquals given => ignored m.option given
  | _, .tail text => do
    let (others, remainder) ← g.shortOptions m.option text.toList
    return (m.option :: others, remainder)

/-- What is parsed after the options of an argument, with the tokens after them. Only the last option can take a value,
and that one is found before any of them is used. -/
def consumeOption (g : Grammar) (p : Parsed) (m : Mention) (rest : List Token) : Except Stop (Parsed × List Token) := do
  let (options, remainder) ← g.mentioned m
  let last := options.getLastD m.option
  match last.use, remainder, rest with
  | .value name choices, .value v, rest => do
    let p ← options.foldlM useOption p
    return (← giveValue p last.title name choices v, rest)
  | .value name choices, _, .plain v :: rest => do
    let p ← options.foldlM useOption p
    return (← giveValue p last.title name choices v, rest)
  | .value .., _, _ => misuse last.title "expected one argument"
  | _, .unknown arg, rest => return (← options.foldlM useOption { p with extras := p.extras ++ [arg] }, rest)
  | _, _, rest => return (← options.foldlM useOption p, rest)

/-- A positional argument in front, unless it has been given: what is parsed after it and the tokens after it. -/
def consumePositional (g : Grammar) (p : Parsed) (tokens : List Token) :
    Except Stop (Option (Parsed × List Token)) := do
  let dropTerminator : List Token → List Token
    | .terminator :: rest => rest
    | rest => rest
  match g.positional with
  | .none => return none
  | .value _ =>
    if p.positional.isSome then return none
    else
      match dropTerminator tokens with
      | .plain v :: rest => return some ({ p with positional := some v }, dropTerminator rest)
      | _ => return none
  | .command name choices =>
    if p.command.isSome then return none
    else
      match tokens with
      | .plain v :: rest => do
        checkChoice name choices v
        return some ({ p with command := some (v, rest.map Token.text) }, [])
      | .terminator :: .plain _ :: _ => do
        checkChoice name choices "--"
        return none
      | _ => return none

def consume (g : Grammar) : Nat → Parsed → List Token → Except Stop Parsed
  | 0, p, _ => .ok p
  | _, p, [] => .ok p
  | steps + 1, p, token :: rest => do
    match token with
    | .option text none => g.consume steps { p with extras := p.extras ++ [text] } rest
    | .option _ (some m) =>
      let (p, rest) ← g.consumeOption p m rest
      g.consume steps p rest
    | _ =>
      match ← g.consumePositional p (token :: rest) with
      | some (p, rest) => g.consume steps p rest
      | none =>
        let meaningless := (token :: rest).takeWhile fun t => !t.isOption
        let rest := (token :: rest).dropWhile fun t => !t.isOption
        g.consume steps { p with extras := p.extras ++ meaningless.map Token.text } rest

/-- What the arguments say. A value for the positional argument must be among them; a command need not be. -/
def parse (g : Grammar) (args : List String) : Except Stop Parsed := do
  let tokens ← g.tokens args
  let p ← g.consume (tokens.length + 1) .empty tokens
  match g.positional, p.positional with
  | .value name, none => .error (.misuse s!"the following arguments are required: {name}")
  | _, _ => return p

end Grammar

end RemoteCall.CommandLine
