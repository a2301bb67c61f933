import EmbeddingLatency.Text.Blank

/-!
# Command lines

A grammar lists switches, which have a long name and may have a short one, and operands, which stand
by themselves in a fixed order. Arguments are taken from left to right:

* `--name`, `--name value` and `--name=value`;
* `-n`, `-n value`, `-nvalue` and `-n=value`, where switches without a value may share one dash;
* `--` by itself, behind which everything is an operand.

A value is checked when the next switch or operand begins, or at the end; an argument that fits
nowhere is refused before that. Switches may not be repeated unless they say so.
-/

set_option autoImplicit false

namespace EmbeddingLatency.CommandLine

/-- Why a command line is not carried out. -/
inductive UsageFault where
  /-- No switch of this name, or no place for another operand. -/
  | unknownArgument
  /-- The value is missing, empty, or none of the choices. -/
  | valueRefused
  /-- The value is not a number in its range. -/
  | numberRefused
  /-- A switch is repeated that may stand only once. -/
  | repeated
  /-- A switch that takes no value is given one. -/
  | valueUnexpected
  /-- An operand is missing. -/
  | operandMissing
  /-- The usage is asked for. -/
  | helpAsked
  /-- The version is asked for. -/
  | versionAsked
  deriving DecidableEq, Repr

/-- Reads a value as a change to what has been asked for so far. -/
abbrev ValueReader (σ : Type) := String → Except UsageFault (σ → σ)

/-- What a switch does. -/
inductive Effect (σ : Type) where
  | sets (change : σ → σ)
  | takes (read : ValueReader σ)
  /-- The switch ends everything. -/
  | stops (fault : UsageFault)

/-- A switch. -/
structure Switch (σ : Type) where
  long : String
  short : Option Char
  repeatable : Bool
  effect : Effect σ

/-- Does a switch take a value? -/
def Switch.takesValue {σ : Type} (s : Switch σ) : Bool :=
  match s.effect with
  | .takes _ => true
  | _ => false

/-- An operand. -/
structure Operand (σ : Type) where
  name : String
  required : Bool
  read : ValueReader σ

/-- What may stand on a command line. -/
structure Grammar (σ : Type) where
  switches : List (Switch σ)
  operands : List (Operand σ)

/-- A switch or an operand whose value has not been checked yet. -/
structure Pending (σ : Type) where
  name : String
  repeatable : Bool
  read : ValueReader σ
  value : Option String

/-- How far the arguments have been taken. -/
structure Progress (σ : Type) where
  asked : σ
  /-- The switches and operands that have had their effect. -/
  used : List String
  pending : Option (Pending σ)
  /-- The operands that have not begun yet. -/
  ahead : List (Operand σ)
  operandsOnly : Bool

namespace Progress

variable {σ : Type}

/-- Gives a switch or an operand its effect. -/
def apply (p : Progress σ) (name : String) (repeatable : Bool)
    (change : Except UsageFault (σ → σ)) : Except UsageFault (Progress σ) :=
  if !repeatable && p.used.contains name then .error .repeated
  else change.map fun f => { p with asked := f p.asked, used := name :: p.used }

/-- Checks the value that has not been checked yet. -/
def settle (p : Progress σ) : Except UsageFault (Progress σ) :=
  match p.pending with
  | none => .ok p
  | some ⟨_, _, _, none⟩ => .error .valueRefused
  | some ⟨name, repeatable, read, some value⟩ =>
    { p with pending := none }.apply name repeatable (read value)

/-- A switch with the value that is attached to it, if there is one. -/
def takeSwitch (p : Progress σ) (s : Switch σ) (attached : Option String) :
    Except UsageFault (Progress σ) := do
  let p ← p.settle
  match s.effect, attached with
  | .stops fault, _ => .error fault
  | .sets change, _ => p.apply s.long s.repeatable (.ok change)
  | .takes read, some value => p.apply s.long s.repeatable (read value)
  | .takes read, none => .ok { p with pending := some ⟨s.long, s.repeatable, read, none⟩ }

/-- A switch by its long name, with what stands behind the equals sign. -/
def takeLong (g : Grammar σ) (p : Progress σ) (name : String) (attached : Option String) :
    Except UsageFault (Progress σ) :=
  match g.switches.find? (·.long = name) with
  | none => .error .unknownArgument
  | some s =>
    if attached.isSome && !s.takesValue then .error .valueUnexpected
    else p.takeSwitch s attached

/-- The value behind a short name. -/
def attachedValue : List Char → Option String
  | [] => none
  | '=' :: rest => some (String.ofList rest)
  | rest => some (String.ofList rest)

/-- Switches by their short names behind one dash. -/
def takeShort (g : Grammar σ) : Progress σ → List Char → Except UsageFault (Progress σ)
  | p, [] => .ok p
  | p, c :: rest =>
    match g.switches.find? (·.short = some c) with
    | none => .error .unknownArgument
    | some s =>
      if s.takesValue then p.takeSwitch s (attachedValue rest)
      else do takeShort g (← p.takeSwitch s none) rest

/-- An operand. -/
def takeOperand (p : Progress σ) (value : String) : Except UsageFault (Progress σ) :=
  match p.ahead with
  | [] => .error .unknownArgument
  | operand :: rest => do
    let p ← p.settle
    .ok { p with
      pending := some ⟨operand.name, false, operand.read, some value⟩
      ahead := rest }

/-- A value for the switch that waits for one, else an operand. -/
def takeValue (p : Progress σ) (value : String) : Except UsageFault (Progress σ) :=
  match p.pending with
  | some ⟨name, repeatable, read, none⟩ =>
    .ok { p with pending := some ⟨name, repeatable, read, some value⟩ }
  | _ => p.takeOperand value

/-- One argument. -/
def take (g : Grammar σ) (p : Progress σ) (arg : String) : Except UsageFault (Progress σ) :=
  if p.operandsOnly then p.takeOperand arg
  else
    match arg.toList with
    | ['-', '-'] => .ok { p with operandsOnly := true }
    | '-' :: '-' :: body =>
      match Text.splitOnce ['='] body with
      | some (name, value) => takeLong g p (String.ofList name) (some (String.ofList value))
      | none => takeLong g p (String.ofList body) none
    | '-' :: c :: rest => takeShort g p (c :: rest)
    | _ => p.takeValue arg

end Progress

/-- Takes all arguments of a command line, starting from what is asked for without any. -/
def Grammar.parse {σ : Type} (g : Grammar σ) (start : σ) (args : List String) :
    Except UsageFault σ := do
  let p ← args.foldlM (Progress.take g) ⟨start, [], none, g.operands, false⟩
  let p ← p.settle
  if p.ahead.any (·.required) then .error .operandMissing else .ok p.asked

/-- The switches that every program has. -/
def commonSwitches {σ : Type} : List (Switch σ) :=
  [⟨"help", some 'h', false, .stops .helpAsked⟩,
   ⟨"version", some 'V', false, .stops .versionAsked⟩]

end EmbeddingLatency.CommandLine
