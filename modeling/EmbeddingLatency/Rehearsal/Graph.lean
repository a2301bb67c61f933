import EmbeddingLatency.Json.Reader
import EmbeddingLatency.Onnx.Graph

/-!
# Rehearsing graphs

A graph without weights. It checks the names of its inputs, and its outputs are either planned run
by run or computed from the token numbers by a fixed rule whose values are multiples of a quarter.
-/

set_option autoImplicit false

namespace EmbeddingLatency.Rehearsal

open EmbeddingLatency.Onnx (Feed GraphOutput GraphRuntime)

/-- What a single run does. -/
inductive PlannedRun where
  | fails (message : String)
  | answers (output : GraphOutput)
  /-- The run follows the rule. -/
  | computes

/-- The plan of a graph. -/
structure GraphPlan where
  /-- The names of the inputs. -/
  inputs : List String
  /-- Is there one vector for each token, not one for each text? -/
  perToken : Bool
  width : Nat
  runs : List PlannedRun

/-- A graph with its plan and the number of its runs so far. -/
structure PlannedGraph where
  plan : GraphPlan
  runs : Nat

/-- A whole number as a value between -2.75 and 2.75. -/
def wrapped (n : Int) : Float32 := (Float.ofInt (n.emod 23 - 11) / 4.0).toFloat32

namespace GraphPlan

/-- The numbers of an input; zeros where it is not fed. -/
def column (feed : Feed) (name : String) : Array Int := ((feed.input? name).getD []).toArray

/-- The output for each token. -/
def tokenOutput (p : GraphPlan) (feed : Feed) : GraphOutput :=
  let ids := column feed "input_ids"
  let types := column feed "token_type_ids"
  .reals [feed.rows, feed.columns, p.width]
    ((List.range feed.rows).flatMap fun i =>
      (List.range feed.columns).flatMap fun j =>
        let place := i * feed.columns + j
        let base := 7 * ids.getD place 0 + 3 * types.getD place 0 + 5 * (j : Int)
        (List.range p.width).map fun (k : Nat) => wrapped (base + 11 * (k : Int)))

/-- The output for each text. -/
def textOutput (p : GraphPlan) (feed : Feed) : GraphOutput :=
  let ids := column feed "input_ids"
  let mask := column feed "attention_mask"
  .reals [feed.rows, p.width]
    ((List.range feed.rows).flatMap fun i =>
      let sum := (List.range feed.columns).foldl
        (fun (sum : Int) j =>
          let place := i * feed.columns + j
          sum + mask.getD place 0 * (ids.getD place 0 + 1) * ((j : Int) + 1))
        0
      (List.range p.width).map fun (k : Nat) => wrapped (sum + 11 * (k : Int)))

/-- The output by the rule. -/
def output (p : GraphPlan) (feed : Feed) : GraphOutput :=
  if p.perToken then p.tokenOutput feed else p.textOutput feed

/-- What is wrong with the names of a feed. -/
def nameFault? (p : GraphPlan) (feed : Feed) : Option String :=
  match feed.inputs.find? fun i => !p.inputs.contains i.1 with
  | some (name, _) => some ("Invalid Feed Input Name:" ++ name)
  | none =>
    let needed := p.inputs.mergeSort fun a b => decide (a ≤ b)
    (needed.find? fun name => (feed.input? name).isNone).map ("Missing Input: " ++ ·)

/-- One run, whose number is counted from zero. -/
def run (p : GraphPlan) (number : Nat) (feed : Feed) : Except String GraphOutput :=
  match p.nameFault? feed with
  | some message => .error message
  | none =>
    match p.runs[number]? with
    | some (.fails message) => .error message
    | some (.answers output) => .ok output
    | _ => .ok (p.output feed)

end GraphPlan

/-- Runs planned graphs. Runs that fail count, too. -/
def graphRuntime : GraphRuntime PlannedGraph where
  run g feed := (g.plan.run g.runs feed, { g with runs := g.runs + 1 })

/-! ### Plans as JSON -/

/-- The number that a document stands for; any other document stands for a double that is no
    number. -/
def realOrNaN : Json.Value → Float
  | .number n => n.toFloat
  | _ => 0.0 / 0.0

/-- The whole number that a document stands for; one that is no whole number stands for zero. -/
def wholeOrZero : Json.Value → Int
  | .number (.natural n) => n
  | .number (.negative n) => -(n : Int)
  | _ => 0

/-- The items under a key; none where there is no array. -/
def itemsAt (v : Json.Value) (key : String) : List Json.Value :=
  ((v.get? key).bind Json.Value.array?).getD []

/-- The number of items that axes hold; none if an axis is negative. -/
def itemCount (dims : List Int) : Nat := (dims.map Int.toNat).foldl (· * ·) 1

/-- Single-precision numbers, as many as the axes hold: cut off, or zeros behind them. -/
def fitted (dims : List Int) (data : List Float) : List Float32 :=
  let count := itemCount dims
  ((data.map Float.toFloat32) ++ List.replicate (count - data.length) 0).take count

/-- The plan of one run: its fault, or what it answers. A run without a plan follows the rule. -/
def PlannedRun.ofJson (v : Json.Value) : PlannedRun :=
  match v, v.get? "error" with
  | .null, _ => .computes
  | _, some (.text message) => .fails message
  | v, _ =>
    if (v.get? "i64").bind Json.Value.bool? = some true then .answers .integers
    else
      let dims := (itemsAt v "dims").map wholeOrZero
      .answers (.reals dims (fitted dims ((itemsAt v "data").map realOrNaN)))

/-- The graph that a JSON document plans, or what is said when it is opened. -/
def PlannedGraph.ofJson? (v : Json.Value) : Option (Except String PlannedGraph) := do
  if let some (.text message) := v.get? "load_error" then return .error message
  let inputs ← (← (← v.get? "inputs").array?).mapM Json.Value.text?
  let rank ← (← v.get? "rank").nat?
  let width ← (← v.get? "width").nat?
  return .ok ⟨⟨inputs, rank = 3, width, (itemsAt v "runs").map PlannedRun.ofJson⟩, 0⟩

/-- What is said of a file that holds no graph. -/
def notAGraph : String := "Protobuf parsing failed."

end EmbeddingLatency.Rehearsal
