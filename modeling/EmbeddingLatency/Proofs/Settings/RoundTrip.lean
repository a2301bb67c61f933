import EmbeddingLatency.Proofs.Json.Records
import EmbeddingLatency.Settings.Json

/-!
# Settings and models that are read back

Settings and the information on a model are read back from what is written for them, from any object
that says the same and from the array of what its members say. What is left out of an object is what
the defaults say, or what is not known of a model.

Counts have 64 bits where they are read, and so they have in what is read.
-/

set_option autoImplicit false

namespace EmbeddingLatency

open Json
open Decimal (maxWord)

/-- What has been met, or what it is without. -/
theorem getD_of_met {β : Type} {name : String} {met : List String} {v usual : β}
    (enough : name ∈ met ∨ v = usual) : (if name ∈ met then some v else none).getD usual = v := by
  split
  case isTrue => rfl
  case isFalse new => exact (enough.resolve_left new).symm

/-- A draft shows the names that have been met. -/
theorem isSome_met {β : Type} {v : β} (name : String) (met : List String) :
    (if name ∈ met then some v else none).isSome = decide (name ∈ met) := by
  split <;> simp_all

/-- A count has 64 bits. -/
def CountFits (count : Option Nat) : Prop := ∀ n ∈ count, n ≤ maxWord

theorem count_accepts {count : Option Nat} (fits : CountFits count) :
    Reader.Accepts (optional nat) (.ofOption .count count) count := by
  cases count with
  | none => exact optional_accepts_null
  | some n => exact optional_accepts_some (nat_accepts (fits n rfl)) Written.noConfusion

theorem label_accepts (label : Option String) :
    Reader.Accepts (optional text) (.ofOption .text label) label :=
  optional_accepts text_accepts (fun _ => Written.noConfusion) label

/-- A count that is written as nothing is nothing. -/
theorem count_eq_none {count : Option Nat} (nothing : Written.ofOption .count count = .null) :
    count = none := by
  cases count with
  | none => rfl
  | some n => cases nothing

/-- A label that is written as nothing is nothing. -/
theorem label_eq_none {label : Option String} (nothing : Written.ofOption .text label = .null) :
    label = none := by
  cases label with
  | none => rfl
  | some l => cases nothing

@[simp]
theorem written_count (count : Option Nat) :
    (Value.ofOption .nat count).written = .ofOption .count count := by
  cases count <;> rfl

@[simp]
theorem written_label (label : Option String) :
    (Value.ofOption .text label).written = .ofOption .text label := by
  cases label <;> rfl

/-- Nothing is claimed of what a reader reads. -/
theorem yields_any {α : Type} (r : Reader α) : r.Yields fun _ => True := fun _ _ _ _ => trivial

/-- Counts that are read have 64 bits. -/
theorem count_yields : Reader.Yields (optional nat) CountFits := optional_yields nat_yields

/-- Where a count has not been met there is none. -/
theorem countFits_getD {met : Option (Option Nat)} (fits : ∀ count ∈ met, CountFits count) :
    CountFits (met.getD none) := by
  cases met with
  | none => simp [CountFits]
  | some count => exact fits count rfl

namespace Settings

theorem mode_accepts (m : BenchmarkMode) :
    Reader.Accepts (oneOf BenchmarkMode.names) (.text m.name) m :=
  oneOf_accepts (by cases m <;> rfl)

theorem formats_accepts (formats : List ReportFormat) :
    Reader.Accepts (array (oneOf ReportFormat.names)) (.array (formats.map fun f => .text f.name))
      formats := by
  refine array_accepts (List.forall₂_map_left_iff.mpr (List.forall₂_same.mpr fun f _ => ?_))
  exact oneOf_accepts (by cases f <;> rfl)

theorem devices_accepts (d : DeviceChoice) :
    Reader.Accepts (oneOf DeviceChoice.names) (.text d.name) d :=
  oneOf_accepts (by cases d <;> rfl)

/-- Numbers of calls have 64 bits. -/
def Fits (s : Settings) : Prop := CountFits s.iterations ∧ CountFits s.warmup

/-- The members of settings, in the order of the fields. -/
def members (s : Settings) : List (String × Written) :=
  [("mode", .text s.mode.name), ("iterations", .ofOption .count s.iterations),
   ("warmup", .ofOption .count s.warmup), ("formats", .array (s.formats.map fun f => .text f.name)),
   ("dry_run", .bool s.dryRun), ("output_dir", .ofOption .text s.outputDir),
   ("devices", .text s.devices.name)]

/-- The draft on the way to settings where these names have been met. -/
def draftOf (s : Settings) (met : List String) : Draft where
  mode := if "mode" ∈ met then some s.mode else none
  iterations := if "iterations" ∈ met then some s.iterations else none
  warmup := if "warmup" ∈ met then some s.warmup else none
  formats := if "formats" ∈ met then some s.formats else none
  dryRun := if "dry_run" ∈ met then some s.dryRun else none
  outputDir := if "output_dir" ∈ met then some s.outputDir else none
  devices := if "devices" ∈ met then some s.devices else none

/-- Each field takes its member. -/
theorem fills (s : Settings) (fits : s.Fits) : List.Forall₂ (Fills s.draftOf) fields s.members := by
  refine .cons (fills_of_accepts (mode_accepts s.mode) (isSome_met "mode") ?_) <|
    .cons (fills_of_accepts (count_accepts fits.1) (isSome_met "iterations") ?_) <|
    .cons (fills_of_accepts (count_accepts fits.2) (isSome_met "warmup") ?_) <|
    .cons (fills_of_accepts (formats_accepts s.formats) (isSome_met "formats") ?_) <|
    .cons (fills_of_accepts (bool_accepts s.dryRun) (isSome_met "dry_run") ?_) <|
    .cons (fills_of_accepts (label_accepts s.outputDir) (isSome_met "output_dir") ?_) <|
    .cons (fills_of_accepts (devices_accepts s.devices) (isSome_met "devices") ?_) .nil
  all_goals simp [draftOf]

theorem written_toJson (s : Settings) : s.toJson.written = .object s.members := by
  have formats : (s.formats.map fun f => Value.text f.name).map Value.written =
      s.formats.map fun f => .text f.name := by simp [Value.written]
  simp only [toJson, members, Value.written, writtenItems_eq_map, writtenMembers, written_count,
    written_label, formats]

/-- What has been met makes up the settings, if the rest is as in the defaults. -/
theorem finish_draftOf (s : Settings) (met : List String)
    (enough : ∀ m ∈ s.members, m.1 ∈ met ∨ m ∈ Settings.default.members) :
    (s.draftOf met).finish = s := by
  simp only [members, Written.ofOption, List.mem_cons, List.not_mem_nil, or_false, Settings.default,
    List.map_nil, forall_eq_or_imp, Prod.mk.injEq, Written.text.injEq, true_and, String.reduceEq,
    reduceCtorEq, and_self, false_and, or_self, false_or, Written.array.injEq, List.map_eq_nil_iff,
    Written.bool.injEq, forall_eq] at enough
  obtain ⟨mode, iterations, warmup, formats, dryRun, outputDir, devices⟩ := enough
  have modes : ∀ m : BenchmarkMode, m.name = BenchmarkMode.quick.name → m = .quick := by
    intro m; cases m <;> simp [BenchmarkMode.name]
  have choices : ∀ d : DeviceChoice, d.name = DeviceChoice.auto.name → d = .auto := by
    intro d; cases d <;> simp [DeviceChoice.name]
  -- Name by name: what has been met is there, and what has not been met is the default.
  rw [Draft.finish]
  simp only [draftOf, Settings.default, getD_of_met (mode.imp_right (modes s.mode)),
    getD_of_met (iterations.imp_right count_eq_none),
    getD_of_met (warmup.imp_right count_eq_none), getD_of_met formats,
    getD_of_met dryRun, getD_of_met (outputDir.imp_right label_eq_none),
    getD_of_met (devices.imp_right (choices s.devices))]

theorem describes (s : Settings) (fits : s.Fits) :
    Describes fields {} (fun d => some d.finish) s.draftOf s.members
      Settings.default.members s where
  start := by simp [draftOf]
  fills := s.fills fits
  distinct := by simp [members]
  complete met enough := congrArg some (s.finish_draftOf met enough)

/-- Counts that have been met have 64 bits. -/
def Draft.Fits (d : Draft) : Prop :=
  (∀ count ∈ d.iterations, CountFits count) ∧ ∀ count ∈ d.warmup, CountFits count

/-- A field adds no other count to a draft than one that has 64 bits. -/
theorem fields_keep : ∀ field ∈ fields,
    field.reader.Yields fun update => ∀ d : Draft, d.Fits → (update d).Fits := by
  simp only [fields, List.forall_mem_cons]
  refine ⟨(yields_any _).map fun _ _ _ holds => holds, count_yields.map ?iterations,
    count_yields.map ?warmup, (yields_any _).map fun _ _ _ holds => holds,
    (yields_any _).map fun _ _ _ holds => holds, (yields_any _).map fun _ _ _ holds => holds,
    (yields_any _).map fun _ _ _ holds => holds, by simp⟩
  case iterations => exact fun count fits d holds => ⟨by simpa using fits, holds.2⟩
  case warmup => exact fun count fits d holds => ⟨holds.1, by simpa using fits⟩

/-- Settings that are read have counts of 64 bits, whatever the text. -/
theorem reader_yields : reader.Yields Fits := by
  refine record_yields (P := Draft.Fits) fields_keep ⟨by simp, by simp⟩ ?_
  rintro d _ fits ⟨⟩
  exact ⟨countFits_getD fits.1, countFits_getD fits.2⟩

end Settings

namespace ModelFacts

/-- Numbers that are known of a model have 64 bits. -/
def Fits (i : ModelFacts) : Prop :=
  CountFits i.embeddingDim ∧ CountFits i.maxSeqLength ∧ CountFits i.numParameters

/-- The members of a model's information, in the order of the fields. -/
def members (i : ModelFacts) : List (String × Written) :=
  [("model_id", .text i.modelId), ("size_label", .text i.sizeLabel),
   ("embedding_dim", .ofOption .count i.embeddingDim),
   ("max_seq_length", .ofOption .count i.maxSeqLength),
   ("num_parameters", .ofOption .count i.numParameters),
   ("model_type", .ofOption .text i.modelType), ("is_sparse", .bool i.isSparse)]

/-- The members of what is not known of a model. -/
def unknownMembers : List (String × Written) :=
  [("embedding_dim", .null), ("max_seq_length", .null), ("num_parameters", .null),
   ("model_type", .null)]

/-- The draft on the way to a model's information where these names have been met. -/
def draftOf (i : ModelFacts) (met : List String) : Draft where
  modelId := if "model_id" ∈ met then some i.modelId else none
  sizeLabel := if "size_label" ∈ met then some i.sizeLabel else none
  embeddingDim := if "embedding_dim" ∈ met then some i.embeddingDim else none
  maxSeqLength := if "max_seq_length" ∈ met then some i.maxSeqLength else none
  numParameters := if "num_parameters" ∈ met then some i.numParameters else none
  modelType := if "model_type" ∈ met then some i.modelType else none
  isSparse := if "is_sparse" ∈ met then some i.isSparse else none

/-- Each field takes its member. -/
theorem fills (i : ModelFacts) (fits : i.Fits) :
    List.Forall₂ (Fills i.draftOf) fields i.members := by
  refine .cons (fills_of_accepts (text_accepts i.modelId) (isSome_met "model_id") ?_) <|
    .cons (fills_of_accepts (text_accepts i.sizeLabel) (isSome_met "size_label") ?_) <|
    .cons (fills_of_accepts (count_accepts fits.1) (isSome_met "embedding_dim") ?_) <|
    .cons (fills_of_accepts (count_accepts fits.2.1) (isSome_met "max_seq_length") ?_) <|
    .cons (fills_of_accepts (count_accepts fits.2.2) (isSome_met "num_parameters") ?_) <|
    .cons (fills_of_accepts (label_accepts i.modelType) (isSome_met "model_type") ?_) <|
    .cons (fills_of_accepts (bool_accepts i.isSparse) (isSome_met "is_sparse") ?_) .nil
  all_goals simp [draftOf]

theorem written_toJson (i : ModelFacts) : i.toJson.written = .object i.members := by
  simp only [toJson, members, Value.written, writtenMembers, written_count, written_label]

/-- What has been met makes up the information, if nothing is known of the rest. -/
theorem finish_draftOf (i : ModelFacts) (met : List String)
    (enough : ∀ m ∈ i.members, m.1 ∈ met ∨ m ∈ unknownMembers) :
    (i.draftOf met).finish = some i := by
  simp only [members, unknownMembers, List.mem_cons, List.not_mem_nil, or_false, forall_eq_or_imp,
    Prod.mk.injEq, true_and, String.reduceEq, reduceCtorEq, and_self, false_and, or_self, false_or,
    forall_eq] at enough
  obtain ⟨modelId, sizeLabel, embeddingDim, maxSeqLength, numParameters, modelType, isSparse⟩ :=
    enough
  simp only [Draft.finish, draftOf, if_pos modelId, if_pos sizeLabel, if_pos isSparse,
    getD_of_met (embeddingDim.imp_right count_eq_none),
    getD_of_met (maxSeqLength.imp_right count_eq_none),
    getD_of_met (numParameters.imp_right count_eq_none),
    getD_of_met (modelType.imp_right label_eq_none)]

theorem describes (i : ModelFacts) (fits : i.Fits) :
    Describes fields {} Draft.finish i.draftOf i.members unknownMembers i where
  start := by simp [draftOf]
  fills := i.fills fits
  distinct := by simp [members]
  complete := i.finish_draftOf

/-- Counts that have been met have 64 bits. -/
def Draft.Fits (d : Draft) : Prop :=
  (∀ count ∈ d.embeddingDim, CountFits count) ∧ (∀ count ∈ d.maxSeqLength, CountFits count) ∧
    ∀ count ∈ d.numParameters, CountFits count

/-- A field adds no other count to a draft than one that has 64 bits. -/
theorem fields_keep : ∀ field ∈ fields,
    field.reader.Yields fun update => ∀ d : Draft, d.Fits → (update d).Fits := by
  simp only [fields, List.forall_mem_cons]
  refine ⟨(yields_any _).map fun _ _ _ holds => holds, (yields_any _).map fun _ _ _ holds => holds,
    count_yields.map ?dim, count_yields.map ?length, count_yields.map ?parameters,
    (yields_any _).map fun _ _ _ holds => holds, (yields_any _).map fun _ _ _ holds => holds,
    by simp⟩
  case dim => exact fun count fits d holds => ⟨by simpa using fits, holds.2⟩
  case length => exact fun count fits d holds => ⟨holds.1, by simpa using fits, holds.2.2⟩
  case parameters => exact fun count fits d holds => ⟨holds.1, holds.2.1, by simpa using fits⟩

/-- Information that is read has counts of 64 bits, whatever the text. -/
theorem reader_yields : reader.Yields Fits := by
  refine record_yields (P := Draft.Fits) fields_keep ⟨by simp, by simp, by simp⟩ ?_
  intro d i fits finished
  unfold Draft.finish at finished
  split at finished
  case h_1 =>
    obtain rfl := Option.some.inj finished
    exact ⟨countFits_getD fits.1, countFits_getD fits.2.1, countFits_getD fits.2.2⟩
  case h_2 => cases finished

end ModelFacts

/-- Settings and the information on models are read back from their JSON in each of its forms;
    settings may leave out what the defaults say, and a model's information what is not known. -/
theorem settings_and_facts_round_trip :
    RoundTrips Settings.reader Settings.toJson Settings.members Settings.Fits
        Settings.default.members ∧
      RoundTrips ModelFacts.reader ModelFacts.toJson ModelFacts.members ModelFacts.Fits
        ModelFacts.unknownMembers :=
  ⟨roundTrips_record Settings.draftOf Settings.written_toJson Settings.describes
      Settings.reader_yields,
    roundTrips_record ModelFacts.draftOf ModelFacts.written_toJson ModelFacts.describes
      ModelFacts.reader_yields⟩

/-- Settings from two members in another order than theirs, one of an unknown name between them, and
    all others left out; a model's information from an array. -/
theorem shuffled_settings_round_trip :
    decode Settings.reader "\x7b\"dry_run\":true,\"note\":[1,\x7b\x7d],\"mode\":\"full\"\x7d" =
        .ok { Settings.default with mode := .full, dryRun := true } ∧
      decode ModelFacts.reader "[\"a/b\",\"small\",384,null,null,\"bert\",false]" =
        .ok ⟨"a/b", "small", some 384, none, none, some "bert", false⟩ := by
  constructor
  · have fits : Settings.Fits { Settings.default with mode := .full, dryRun := true } := by
      constructor <;> simp [CountFits, Settings.default]
    have restates : Restates
        (Settings.members { Settings.default with mode := .full, dryRun := true })
        Settings.default.members
        [("dry_run", .bool true), ("note", .array [.count 1, .object []]),
          ("mode", .text "full")] := by
      refine ⟨⟨[("mode", .text "full"), ("dry_run", .bool true)], .swap _ _ [], ?_⟩, ?_⟩
      · exact .cons_cons _ (.cons _ (.cons _ (.cons _ (.cons_cons _ (.cons _ (.cons _ .slnil))))))
      · simp [Settings.members, Settings.default, BenchmarkMode.name]
    have stands := (Value.object [("dry_run", .bool true), ("note", .array [.nat 1, .object []]),
      ("mode", .text "full")]).standsIn_compact
    exact settings_and_facts_round_trip.1.object _ fits _ _ restates stands
  · have fits : ModelFacts.Fits ⟨"a/b", "small", some 384, none, none, some "bert", false⟩ := by
      simp [ModelFacts.Fits, CountFits, maxWord]
    have stands := (Value.array [.text "a/b", .text "small", .nat 384, .null, .null, .text "bert",
      .bool false]).standsIn_compact
    exact settings_and_facts_round_trip.2.array _ fits _ stands

end EmbeddingLatency
