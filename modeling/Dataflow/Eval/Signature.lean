import Dataflow.Eval.Value
import Dataflow.Eval.Scalar
/-!
# Parameter lists and the binding of arguments

A method that expressions may call declares its parameters the way the expression language
does: the receiver first, then the parameters that may be given by position or by name (the
first `required` of them, the receiver among them, without a default), then the parameters
that may only be given by name, and possibly catch-alls for further positional or named
arguments.

Binding assigns the arguments of a call to the parameters. Positional arguments fill the
positional parameters from the left; named arguments are then taken in order. The failures
come in a fixed order, each with the language's own message:

1. a named argument that names no parameter, unless a catch-all takes it, or that names a
   parameter already given;
2. more positional arguments than positional parameters, unless a catch-all takes them;
3. required positional parameters left without a value;
4. keyword-only parameters without a default left without a value.

Counts in messages include the receiver, which is always given.
-/

namespace Dataflow.Eval

/-- The parameters of a callable. -/
structure Signature where
  /-- the name that messages give the callable, such as `Series.sum` -/
  name : String
  /-- the parameters that may be given by position or by name, the receiver first -/
  positional : List String
  /-- how many positional parameters, from the first, have no default -/
  required : Nat
  /-- the parameters that may only be given by name, each with whether it has a default -/
  keywordOnly : List (String × Bool)
  /-- whether further positional arguments are collected -/
  restPositional : Bool
  /-- whether further named arguments are collected -/
  restNamed : Bool
deriving Inhabited

/-- A method with positional parameters only (after the receiver), the last of them with
defaults. -/
def Signature.plain (name : String) (params : List String) (required : Nat) : Signature :=
  ⟨name, "self" :: params, required + 1, [], false, false⟩

/-- Arguments bound to the parameters of a signature. -/
structure Bound where
  /-- the parameters given, with their values, in the order they were given -/
  given : List (String × Obj)
  /-- positional arguments beyond the positional parameters -/
  extra : List Obj
  /-- named arguments that name no parameter, in order -/
  extraNamed : List (String × Obj)
deriving Inhabited

/-- The value given for a parameter, if any. -/
def Bound.get? (b : Bound) (p : String) : Option Obj := b.given.lookup p

/-- Names joined as a message lists them: `a`, `a and b`, `a, b, and c`. -/
def joinNames (names : List String) : String :=
  match names with
  | [] => ""
  | [a] => a
  | [a, b] => a ++ " and " ++ b
  | _ => ", ".intercalate names.dropLast ++ ", and " ++ names.getLastD ""

/-- The plural ending for a count. -/
def pluralS (n : Nat) : String := if n == 1 then "" else "s"

/-- The message for more positional arguments than a signature takes: `given` counts the
receiver, `keywordGiven` the keyword-only parameters given by name. -/
def Signature.tooManyMessage (sig : Signature) (given keywordGiven : Nat) : String :=
  let total := sig.positional.length
  let takes := if sig.required < total then s!"from {sig.required} to {total}" else toString total
  let plural := if sig.required < total then "s" else pluralS total
  let keywords :=
    if keywordGiven == 0 then ""
    else
      let kinds := pluralS keywordGiven
      s!" positional argument{pluralS given} (and {keywordGiven} keyword-only argument{kinds})"
  let verb := if given == 1 && keywordGiven == 0 then "was" else "were"
  s!"{sig.name}() takes {takes} positional argument{plural} but {given}{keywords} {verb} given"

/-- The message for parameters left without a value. -/
def Signature.missingMessage (sig : Signature) (kind : String) (names : List String) : String :=
  let quoted := names.map fun n => "'" ++ n ++ "'"
  let count := names.length
  s!"{sig.name}() missing {count} required {kind} argument{pluralS count}: {joinNames quoted}"

/-- Whether a signature has a parameter that may be given by name. -/
def Signature.names (sig : Signature) (p : String) : Bool :=
  sig.positional.contains p || sig.keywordOnly.any (·.1 == p)

/-- Takes one named argument: into its parameter, or into the catch-all. -/
def Signature.takeNamed (sig : Signature) (acc : Bound) (arg : String × Obj) : Outcome Bound :=
  let (k, v) := arg
  if sig.names k then
    if sig.positional.head? == some k || (acc.given.lookup k).isSome then
      typeError s!"{sig.name}() got multiple values for argument '{k}'"
    else .ok { acc with given := acc.given ++ [(k, v)] }
  else if sig.restNamed then .ok { acc with extraNamed := acc.extraNamed ++ [(k, v)] }
  else typeError s!"{sig.name}() got an unexpected keyword argument '{k}'"

/-- Binds the arguments of a call (the receiver apart) to the parameters of a signature. -/
def Signature.bind (sig : Signature) (args : List Obj) (named : List (String × Obj)) :
    Outcome Bound := do
  let params := sig.positional.drop 1
  let start : Bound := ⟨params.zip args, args.drop params.length, []⟩
  let b ← named.foldlM sig.takeNamed start
  let given := args.length + 1
  if given > sig.positional.length && !sig.restPositional then
    let keywordGiven := (sig.keywordOnly.filter fun (p, _) => (b.given.lookup p).isSome).length
    typeError (sig.tooManyMessage given keywordGiven)
  let missing := (params.take (sig.required - 1)).filter fun p => (b.given.lookup p).isNone
  if !missing.isEmpty then typeError (sig.missingMessage "positional" missing)
  let missingNamed := (sig.keywordOnly.filter fun (p, hasDefault) =>
    !hasDefault && (b.given.lookup p).isNone).map (·.1)
  if !missingNamed.isEmpty then typeError (sig.missingMessage "keyword-only" missingNamed)
  return b

end Dataflow.Eval
