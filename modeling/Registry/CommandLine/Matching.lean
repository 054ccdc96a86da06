import Registry.CommandLine.Grammar

/-! # Matching a command line

Words are taken one after the other. An option that waits for its value is settled when the next
argument begins, so of two faults the one that is settled first is reported. A subcommand takes all
words behind its name; only when it is done are the arguments of the outer command settled.
-/

namespace Registry.CommandLine

/-- The arguments of one command: those in its words, and those that the environment stands in
    for. -/
structure Level where
  verb : Verb
  given : List (ArgId × List String) := []
  fromEnvironment : List (ArgId × String) := []
  deriving DecidableEq, Repr

/-- What the words of a command have come to so far. -/
structure Progress where
  given : List (ArgId × List String) := []
  /-- An argument that is not settled yet; without a value if the next word may be it. -/
  pending : Option (Arg × List String) := none
  /-- All further words are told by their place. -/
  trailing : Bool := false
  /-- The argument told by its place was given. -/
  placed : Bool := false

namespace Progress

def has (p : Progress) (id : ArgId) : Bool :=
  p.given.any (·.1 = id)

/-- Settle an argument with its values. -/
def accept (p : Progress) (arg : Arg) (values : List String) : Except Refusal Progress := do
  if arg.kind.isSome && values.isEmpty then throw .valueMissing
  if !arg.repeatable && p.has arg.id then throw .conflict
  if let some kind := arg.kind then values.forM kind.check
  return { p with given := p.given ++ [(arg.id, values)] }

/-- Settle the argument that waits. -/
def settle (p : Progress) : Except Refusal Progress :=
  match p.pending with
  | none => .ok p
  | some (arg, values) => { p with pending := none }.accept arg values

/-- A flag was met. -/
def flag (p : Progress) (arg : Arg) : Except Refusal Progress := do
  let p ← p.settle
  match arg.id with
  | .help => throw .helpAsked
  | .version => throw .versionAsked
  | _ => p.accept arg []

/-- An option with its value was met. -/
def attached (p : Progress) (arg : Arg) (value : String) : Except Refusal Progress := do
  let p ← p.settle
  p.accept arg [value]

/-- An argument was met whose values are still to come, or may be disturbed by the next word. -/
def await (p : Progress) (arg : Arg) (values : List String) : Except Refusal Progress := do
  let p ← p.settle
  return { p with pending := some (arg, values) }

/-- An option waits for its value. -/
def awaits (p : Progress) : Bool :=
  match p.pending with
  | some (_, []) => true
  | _ => false

/-- A word with two dashes, without them. -/
def longOption (v : Verb) (p : Progress) (word : List Char) : Except Refusal Progress :=
  let name := String.ofList (word.takeWhile (· ≠ '='))
  let value := match word.dropWhile (· ≠ '=') with
    | _ :: value => some (String.ofList value)
    | [] => none
  match v.options.find? (·.long = name) with
  | none => .error .argumentUnknown
  | some arg =>
      match arg.kind, value with
      | some _, some value => p.attached arg value
      | some _, none => p.await arg []
      | none, some _ => .error .valueUnwanted
      | none, none => p.flag arg

/-- A word with one dash, without it: flags, and an option that takes what follows its letter. -/
def shortOptions (v : Verb) (p : Progress) : List Char → Except Refusal Progress
  | [] => .ok p
  | c :: rest =>
      match v.options.find? (·.short = some c) with
      | none => .error .argumentUnknown
      | some arg =>
          if arg.kind.isSome then
            match rest with
            | [] => p.await arg []
            | '=' :: value => p.attached arg (String.ofList value)
            | value => p.attached arg (String.ofList value)
          else do
            let p ← p.flag arg
            p.shortOptions v rest

/-- A word that is told by its place. -/
def place (v : Verb) (p : Progress) (word : String) : Except Refusal Progress :=
  match v.positional with
  | some arg =>
      if p.placed then .error .argumentUnknown
      else do
        let p ← p.await arg [word]
        return { p with placed := true }
  | none =>
      let isCommand := (v.subcommand? word).isSome || word = "help"
      if v.isGroup && !(p.trailing && isCommand) then .error .subcommandUnknown
      else .error .argumentUnknown

/-- A word that names no subcommand. -/
def word (v : Verb) (p : Progress) (word : String) : Except Refusal Progress :=
  if p.trailing then p.place v word
  else match word.toList with
    | ['-', '-'] => .ok { p with trailing := true }
    | '-' :: '-' :: rest => p.longOption v rest
    | '-' :: c :: rest => p.shortOptions v (c :: rest)
    | _ => match p.pending with
        | some (arg, []) => .ok { p with pending := some (arg, [word]) }
        | _ => p.place v word

/-- The variables that stand in for options which were not given. -/
def fromEnvironment (p : Progress) (environment : List (String × String)) :
    List Arg → Except Refusal (List (ArgId × String))
  | [] => .ok []
  | arg :: rest => do
      let found := if p.has arg.id then none else arg.standIn.bind (environment.lookup ·)
      match found with
      | none => p.fromEnvironment environment rest
      | some value =>
          if let some kind := arg.kind then kind.check value
          return (arg.id, value) :: (← p.fromEnvironment environment rest)

/-- All words were taken; `inner` are the levels of the subcommand, if there is one. -/
def finish (v : Verb) (environment : List (String × String)) (p : Progress) (inner : List Level) :
    Except Refusal (List Level) := do
  let p ← p.settle
  let fromEnvironment ← p.fromEnvironment environment v.options
  if v.isGroup && inner.isEmpty then
    throw (if p.given.isEmpty && fromEnvironment.isEmpty then .nothingAsked else .subcommandMissing)
  if v.conflicts.any fun c => p.has c.1 && p.has c.2 then throw .conflict
  if v.required.any fun id => !p.has id then throw .argumentMissing
  return { verb := v, given := p.given, fromEnvironment } :: inner

end Progress

/-- The words behind `help` name a command. -/
def helpTopic (v : Verb) : List String → Refusal
  | [] => .helpAsked
  | word :: rest =>
      match v.subcommand? word with
      | some sub => helpTopic sub rest
      | none =>
          if v.isGroup && word = "help" && rest.isEmpty then .helpAsked else .subcommandUnknown

/-- The levels of a command and its subcommands, outermost first. -/
def levels (environment : List (String × String)) (v : Verb) (p : Progress) :
    List String → Except Refusal (List Level)
  | [] => p.finish v environment []
  | word :: rest =>
      let mayBeCommand := !p.trailing && !p.awaits
      if mayBeCommand && v.isGroup && word = "help" then .error (helpTopic v rest)
      else match if mayBeCommand then v.subcommand? word else none with
        | some sub => do p.finish v environment (← levels environment sub {} rest)
        | none => do levels environment v (← p.word v word) rest

end Registry.CommandLine
