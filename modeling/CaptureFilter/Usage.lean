import CaptureFilter.Criterion.Basic

/-!
# Usage of the default table

The default table is used to look names up, to count them and to set the inputs of criteria. It is
read from its file where it is first asked for. Setting an input asks for it token by token,
whenever a token is the name of a protocol.
Spec guidance: `SPEC_FULL.md` §5 and §9 (`get_protocol_table`, `lookup_protocol`).
-/

namespace CaptureFilter.Usage

open Text Protocol

/-- The default table, read from its file unless it has been read. Supports `get_protocol_table`. -/
def table : EStateM Failure Default Table := do
  let d ← get
  match d.loaded with
  | some t => return t
  | none =>
    let t ← ofExcept ((Source.ofFile d.file).mapError .numeral)
    set { d with loaded := some t }
    return t

/-- The fragment of a token. The table is asked for at the name of a protocol only. Supports
`_COMPILERS`. -/
def fragment (depth : Fin 10) (field : PacketField) (token : String) :
    EStateM Failure Default Fragment :=
  match field, Fragment.ProtocolToken.of token with
  | .protocol, .name => do ofExcept (Fragment.ofProtocol (← table) token)
  | _, _ => ofExcept (Fragment.ofToken .empty depth field token)

/-- The fragments of tokens, made one after the other. -/
def fragments (c : Criterion) (tokens : List String) : EStateM Failure Default (List Fragment) :=
  match c.kind, c.place with
  | .packet field, .depth depth => tokens.mapM (fragment depth field)
  | _, _ => return []

/-- Sets the input of a criterion. Supports `set_input`. -/
def setInput (c : Criterion) (raw : Option String) : EStateM Failure Default Criterion := do
  if c.input.isSome then ofExcept (Criterion.refuse (.inputSet raw))
  let text := raw.getD ""
  let fragments ← fragments c (words text)
  return { c with input := some text, fragments }

/-- Something that is done with the default table or its file. -/
inductive Step where
  /-- The file is rewritten, or deleted. -/
  | replace (file : Option (List UInt8))
  /-- The table is forgotten. -/
  | forget
  /-- A name is looked up. -/
  | lookup (name : String)
  /-- The names in the table are counted. -/
  | size
  /-- The input of a criterion is set. -/
  | setInput (c : Criterion) (raw : Option String)

/-- What a step gives. -/
inductive Outcome where
  /-- Nothing. -/
  | done
  /-- The number of a name, if it is in the table. -/
  | number (n : Option Int)
  /-- The number of names in the table. -/
  | size (n : Nat)
  /-- A criterion with its input set. -/
  | criterion (c : Criterion)

/-- What a step does. -/
def Step.perform : Step → EStateM Failure Default Outcome
  | .replace file => do
    modify (·.withFile file)
    return .done
  | .forget => do
    modify Default.forget
    return .done
  | .lookup name => return .number ((← table).lookup name)
  | .size => return .size (← table).size
  | .setInput c raw => return .criterion (← Usage.setInput c raw)

/-- The answer of a step, and what it leaves. -/
def Step.run (s : Step) (d : Default) : Except Failure Outcome × Default :=
  match s.perform.run d with
  | .ok outcome next => (.ok outcome, next)
  | .error e next => (.error e, next)

/-- What steps leave. -/
def after (d : Default) (steps : List Step) : Default := steps.foldl (fun d s ↦ (s.run d).2) d

/-- The answers of steps. -/
def answers (d : Default) : List Step → List (Except Failure Outcome)
  | [] => []
  | s :: rest => (s.run d).1 :: answers (s.run d).2 rest

end CaptureFilter.Usage
