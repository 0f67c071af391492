import Passbook.Run

/-!
# The command line

    passbook [OPTIONS] INPUT

Options take one value, behind `=` or as the next argument. The next argument is
no value if it starts with a dash, a lone dash excepted. After `--` every
argument is an input. A value is looked at when the argument behind it is, so an
unknown option is reported before a bad value in front of it.
-/

namespace Passbook.CommandLine

/-- What a message of a run looks like. -/
inductive LogFormat where
  | pretty
  | json
deriving DecidableEq

/-- Which way to run a script. -/
inductive StrategyName where
  | sync
  | async
deriving DecidableEq

/-- Why arguments are not accepted. -/
inductive Misuse where
  /-- There is no input. -/
  | missingArgument
  /-- A value is missing, empty, or none of the possible ones. -/
  | invalidValue
  /-- A value is no number. -/
  | notANumber
  /-- An argument that is not known, or an input too many. -/
  | unknownArgument
  /-- An option was given twice. -/
  | repeatedArgument
  /-- A value for an option that takes none. -/
  | unneededValue
  /-- Help was asked for. -/
  | helpRequested
deriving DecidableEq

/-- Arguments that take a value. -/
inductive Argument where
  | input
  | strategy
  | batchSize
  | maxConcurrent
  | journal
  | audit
  | logFormat
deriving DecidableEq

namespace Argument

/-- The option with this name. -/
def ofOption? : String → Option Argument
  | "strategy" => some strategy
  | "batch-size" => some batchSize
  | "max-concurrent" => some maxConcurrent
  | "journal" => some journal
  | "audit" => some audit
  | "log-format" => some logFormat
  | _ => none

end Argument

/-- The values given so far. -/
structure Draft where
  input : Option String
  strategy : Option StrategyName
  batchSize : Option Nat
  maxConcurrent : Option Nat
  journal : Option String
  audit : Option String
  logFormat : Option LogFormat
deriving DecidableEq

/-- No values. -/
def Draft.empty : Draft := ⟨none, none, none, none, none, none, none⟩

/-- What was asked for. -/
structure Options where
  input : String
  strategy : StrategyName
  batchSize : Option Nat
  maxConcurrent : Option Nat
  journal : Option String
  audit : Option String
  logFormat : LogFormat
deriving DecidableEq

/-- The configuration of batches. -/
def Options.batchConfig (options : Options) : Run.BatchConfig :=
  .of (options.batchSize.getD 0) (options.maxConcurrent.getD 0)

/-- The way to run. -/
def Options.run (options : Options) : Run.Strategy :=
  match options.strategy with
  | .sync => .sequential
  | .async => .batched options.batchConfig

/-! ## Values -/

/-- A path is any text that is not empty. -/
def readPath (text : String) : Except Misuse String :=
  if text = "" then .error .invalidValue else .ok text

/-- A number has digits and perhaps a plus sign, and fits 64 bits. -/
def readNumber (text : String) : Except Misuse Nat :=
  let digits := match text.toList with
    | '+' :: cs => cs
    | cs => cs
  let n := Nat.ofDigitChars 10 digits 0
  if digits ≠ [] ∧ digits.all Char.isDigit ∧ n < UInt64.size then
    .ok n else .error .notANumber

/-- A strategy is `sync` or `async`. -/
def readStrategy : String → Except Misuse StrategyName
  | "sync" => .ok .sync
  | "async" => .ok .async
  | _ => .error .invalidValue

/-- A log format is `pretty` or `json`. -/
def readLogFormat : String → Except Misuse LogFormat
  | "pretty" => .ok .pretty
  | "json" => .ok .json
  | _ => .error .invalidValue

/-- A value for something that must not have one yet. -/
def once {α : Type} (old : Option α) (value : Except Misuse α) :
    Except Misuse (Option α) :=
  if old.isSome then .error .repeatedArgument else some <$> value

/-- Takes the value of an argument. -/
def Draft.take (draft : Draft) (text : String) : Argument → Except Misuse Draft
  | .input => return { draft with input := ← once draft.input (readPath text) }
  | .strategy =>
    return { draft with strategy := ← once draft.strategy (readStrategy text) }
  | .batchSize =>
    return { draft with batchSize := ← once draft.batchSize (readNumber text) }
  | .maxConcurrent =>
    return { draft with
      maxConcurrent := ← once draft.maxConcurrent (readNumber text) }
  | .journal =>
    return { draft with journal := ← once draft.journal (readPath text) }
  | .audit => return { draft with audit := ← once draft.audit (readPath text) }
  | .logFormat =>
    return { draft with
      logFormat := ← once draft.logFormat (readLogFormat text) }

/-! ## Arguments in order -/

/-- The argument that was named last, with its value if that was given. -/
abbrev Pending : Type := Option (Argument × Option String)

/-- Takes what is pending. -/
def Draft.settle (draft : Draft) : Pending → Except Misuse Draft
  | none => .ok draft
  | some (_, none) => .error .invalidValue
  | some (argument, some text) => draft.take text argument

/-- An argument as it looks. -/
inductive Shape where
  /-- Two dashes alone. -/
  | separator
  /-- Two dashes and a name, perhaps with a value behind `=`. -/
  | long (name : String) (value : Option String)
  /-- A dash and letters. -/
  | short (first : Char)
  | plain

/-- How an argument looks. -/
def shape (text : String) : Shape :=
  match text.toList with
  | ['-', '-'] => .separator
  | '-' :: '-' :: cs =>
    let name := String.ofList (cs.takeWhile (· != '='))
    match cs.dropWhile (· != '=') with
    | [] => .long name none
    | _ :: value => .long name (some (String.ofList value))
  | '-' :: c :: _ => .short c
  | _ => .plain

/-- Takes an input; there can be only one. -/
def Draft.takeInput (draft : Draft) (pending : Pending) (taken : Bool)
    (text : String) :
    Except Misuse (Draft × Pending) :=
  if taken then .error .unknownArgument
  else do
    let draft ← draft.settle pending
    return (draft, some (.input, some text))

/--
Takes arguments in order. `inputs` tells whether only inputs follow, `taken`
whether there was an input.
-/
def takeAll (draft : Draft) (pending : Pending) (inputs taken : Bool) :
    List String → Except Misuse Draft
  | [] => draft.settle pending
  | text :: rest =>
    if inputs then do
      let (draft, pending) ← draft.takeInput pending taken text
      takeAll draft pending true true rest
    else
      match shape text with
      | .separator => takeAll draft pending true taken rest
      | .long name value =>
        match Argument.ofOption? name, value with
        | some argument, some text => do
          let draft ← draft.settle pending
          let draft ← draft.take text argument
          takeAll draft none false taken rest
        | some argument, none => do
          let draft ← draft.settle pending
          takeAll draft (some (argument, none)) false taken rest
        | none, some _ =>
          .error (if name = "help" then .unneededValue else .unknownArgument)
        | none, none =>
          if name = "help" then do
            let _ ← draft.settle pending
            throw .helpRequested
          else .error .unknownArgument
      | .short c =>
        if c = 'h' then do
          let _ ← draft.settle pending
          throw .helpRequested
        else .error .unknownArgument
      | .plain =>
        match pending with
        | some (argument, none) =>
          takeAll draft (some (argument, some text)) false taken rest
        | _ => do
          let (draft, pending) ← draft.takeInput pending taken text
          takeAll draft pending false true rest

/-- Reads the arguments behind the program's name. -/
def parse (arguments : List String) : Except Misuse Options := do
  let draft ← takeAll .empty none false false arguments
  match draft.input with
  | none => throw .missingArgument
  | some input =>
    return {
      input
      strategy := draft.strategy.getD .async
      batchSize := draft.batchSize
      maxConcurrent := draft.maxConcurrent
      journal := draft.journal
      audit := draft.audit
      logFormat := draft.logFormat.getD .pretty }

/-- What is printed when help is asked for. -/
def usage : String :=
  "Run a banking command script and print the resulting account states\n\n" ++
  "Usage: passbook [OPTIONS] <INPUT>\n\n" ++
  "Arguments:\n" ++
  "  <INPUT>  Path to the input CSV command script\n\n" ++
  "Options:\n" ++
  "      --strategy <STRATEGY>     'sync' for sequential or 'async' for batched [default: async]\n" ++
  "      --batch-size <SIZE>       Number of commands per batch (default: 1000)\n" ++
  "      --max-concurrent <COUNT>  Number of workers (default: one per processor)\n" ++
  "      --journal <PATH>          Where to write the transaction journal\n" ++
  "      --audit <PATH>            Where to write the audit trail\n" ++
  "      --log-format <FORMAT>     'pretty' or 'json' [default: pretty]\n" ++
  "  -h, --help                    Print help\n"

end Passbook.CommandLine
