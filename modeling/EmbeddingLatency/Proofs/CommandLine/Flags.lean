import EmbeddingLatency.Program.Latency
import EmbeddingLatency.Proofs.CommandLine.Spellings

/-!
# Flags

The command line of the latency benchmark is a list of flags. Every flag has one setting to
itself, so that what is asked for can be told from the flags that are given, whatever their
order is (`holds_asked_iff`). A setting is that of its flag if the flag is given, and else that
of the settings file.
-/

set_option autoImplicit false

attribute [ext] EmbeddingLatency.CommandLine.LatencyRequest

namespace EmbeddingLatency.CommandLine

/-- A flag of the latency benchmark with what it says. -/
inductive Flag where
  | config (path : String)
  | iterations (count : Nat)
  | warmup (count : Nat)
  | format (format : ReportFormat)
  | full
  | dryRun
  | cpuOnly
  | outputDir (path : String)
  | offlineMetadata
  deriving DecidableEq, Repr

/-- A text stands for a count of at most 64 bits: digits, which may have a plus sign in front. -/
def IsCount (text : String) (count : Nat) : Prop :=
  ∃ digits, (text.toList = digits ∨ text.toList = '+' :: digits) ∧ digits ≠ [] ∧
    (∀ c ∈ digits, c.isDigit = true) ∧ Decimal.valueOf digits = count ∧ count ≤ Decimal.maxWord

namespace Flag

/-- The name behind two dashes. -/
def long : Flag → String
  | config _ => "config"
  | iterations _ => "iterations"
  | warmup _ => "warmup"
  | format _ => "fmt"
  | full => "full"
  | dryRun => "dry-run"
  | cpuOnly => "cpu-only"
  | outputDir _ => "output-dir"
  | offlineMetadata => "offline-metadata"

/-- The name behind one dash. -/
def short : Flag → Option Char
  | config _ => some 'c'
  | iterations _ => some 'n'
  | warmup _ => some 'w'
  | format _ => some 'f'
  | outputDir _ => some 'o'
  | _ => none

/-- Formats may be given more than once. -/
def repeatable : Flag → Bool
  | format _ => true
  | _ => false

/-- What a flag asks for on top of what is asked for already. -/
def change : Flag → LatencyRequest → LatencyRequest
  | config path, r => { r with config := some path }
  | iterations count, r => { r with iterations := some count }
  | warmup count, r => { r with warmup := some count }
  | format f, r => { r with formats := r.formats ++ [f] }
  | full, r => { r with full := true }
  | dryRun, r => { r with dryRun := true }
  | cpuOnly, r => { r with cpuOnly := true }
  | outputDir path, r => { r with outputDir := some path }
  | offlineMetadata, r => { r with offlineMetadata := true }

/-- A flag says what is asked for. -/
def Holds : Flag → LatencyRequest → Prop
  | config path, r => r.config = some path
  | iterations count, r => r.iterations = some count
  | warmup count, r => r.warmup = some count
  | format f, r => f ∈ r.formats
  | full, r => r.full = true
  | dryRun, r => r.dryRun = true
  | cpuOnly, r => r.cpuOnly = true
  | outputDir path, r => r.outputDir = some path
  | offlineMetadata, r => r.offlineMetadata = true

/-- The format that a flag names. -/
def format? : Flag → Option ReportFormat
  | format f => some f
  | _ => none

/-- What a flag is read from. -/
inductive Reads : Flag → Option String → Prop
  | config {path : String} : path ≠ "" → Reads (config path) (some path)
  | iterations {text : String} {count : Nat} : IsCount text count →
      Reads (iterations count) (some text)
  | warmup {text : String} {count : Nat} : IsCount text count → Reads (warmup count) (some text)
  | format {f : ReportFormat} : Reads (format f) (some f.name)
  | full : Reads full none
  | dryRun : Reads dryRun none
  | cpuOnly : Reads cpuOnly none
  | outputDir {path : String} : path ≠ "" → Reads (outputDir path) (some path)
  | offlineMetadata : Reads offlineMetadata none

/-- Arguments spell a flag. -/
def Spelled (flag : Flag) (args : List String) : Prop :=
  ∃ value, flag.Reads value ∧ Written flag.long flag.short value args

/-- A flag as the use of a switch. -/
def use (flag : Flag) : Use LatencyRequest := ⟨flag.long, flag.repeatable, .ok flag.change⟩

end Flag

section Values

variable {σ : Type} {text : String} {f : σ → σ}

/-- The digits of a numeral are what stands behind its plus sign, if it has one. -/
theorem unsigned?_digits (digits chars : List Char) {count : Nat}
    (read : Decimal.unsigned? Decimal.maxWord chars =
      if digits ≠ [] ∧ digits.all Char.isDigit ∧ Decimal.valueOf digits ≤ Decimal.maxWord then
        some (Decimal.valueOf digits)
      else none) :
    Decimal.unsigned? Decimal.maxWord chars = some count ↔ digits ≠ [] ∧
      (∀ c ∈ digits, c.isDigit = true) ∧ Decimal.valueOf digits = count ∧
      count ≤ Decimal.maxWord := by
  rw [read, Option.ite_none_right_eq_some, Option.some.injEq, List.all_eq_true]
  constructor
  · rintro ⟨⟨some, all, small⟩, rfl⟩
    exact ⟨some, all, rfl, small⟩
  · rintro ⟨some, all, rfl, small⟩
    exact ⟨⟨some, all, small⟩, rfl⟩

theorem unsigned?_eq_some_iff {count : Nat} :
    Decimal.unsigned? Decimal.maxWord text.toList = some count ↔ IsCount text count := by
  rw [IsCount]
  generalize text.toList = chars
  by_cases signed : ∃ rest, chars = '+' :: rest
  · obtain ⟨rest, rfl⟩ := signed
    rw [unsigned?_digits rest ('+' :: rest) rfl]
    constructor
    · exact fun numeral => ⟨rest, .inr rfl, numeral⟩
    · rintro ⟨digits, rfl | same, some, all, counted⟩
      · exact absurd (all '+' List.mem_cons_self) (by decide)
      · obtain rfl := (List.cons.inj same).2
        exact ⟨some, all, counted⟩
  · have unsigned : Decimal.unsigned? Decimal.maxWord chars =
        if chars ≠ [] ∧ chars.all Char.isDigit ∧ Decimal.valueOf chars ≤ Decimal.maxWord then
          some (Decimal.valueOf chars)
        else none := by
      rw [Decimal.unsigned?]
      exact fun rest same => signed ⟨rest, same⟩
    rw [unsigned?_digits chars chars unsigned]
    constructor
    · exact fun numeral => ⟨chars, .inl rfl, numeral⟩
    · rintro ⟨digits, rfl | rfl, numeral⟩
      · exact numeral
      · exact absurd ⟨digits, rfl⟩ signed

theorem countValue_eq_ok_iff {set : Nat → σ → σ} :
    countValue set text = .ok f ↔ ∃ count, IsCount text count ∧ f = set count := by
  simp only [countValue, ← unsigned?_eq_some_iff]
  cases Decimal.unsigned? Decimal.maxWord text.toList <;> simp [eq_comm]

theorem pathValue_eq_ok_iff {set : String → σ → σ} :
    pathValue set text = .ok f ↔ text ≠ "" ∧ f = set text := by
  rw [pathValue]
  split_ifs with empty <;> simp [empty, eq_comm]

theorem formatValue_eq_ok_iff {set : ReportFormat → σ → σ} :
    choiceValue ReportFormat.names set text = .ok f ↔ ∃ format : ReportFormat,
      text = format.name ∧ f = set format := by
  have named : ∀ format : ReportFormat,
      ReportFormat.names.find? (·.1 = format.name) = some (format.name, format) := by
    intro format
    cases format <;> decide
  rw [choiceValue]
  constructor
  · intro chosen
    split at chosen
    · next p found =>
      have member := List.mem_of_find?_eq_some found
      have same : p.1 = text := by simpa using List.find?_some found
      cases chosen
      refine ⟨p.2, same ▸ ?_, rfl⟩
      simp only [ReportFormat.names, List.mem_cons, List.not_mem_nil, or_false] at member
      rcases member with rfl | rfl | rfl <;> rfl
    · cases chosen
  · rintro ⟨format, rfl, rfl⟩
    rw [named]

end Values

section Switches

open LatencyRequest (grammar)

theorem plain_grammar : grammar.Plain where
  noOperands := rfl
  longs := by decide
  shorts := by decide
  named := by simp [grammar, commonSwitches]
  bare := by simp [grammar, commonSwitches]

theorem spells_use {flag : Flag} {args : List String} (spelled : flag.Spelled args) :
    Spells grammar flag.use args := by
  obtain ⟨value, reads, written⟩ := spelled
  have taken {s : Switch LatencyRequest}
      {change : Except UsageFault (LatencyRequest → LatencyRequest)}
      {f : LatencyRequest → LatencyRequest} (read : change = .ok f) :
      some (Use.mk s.long s.repeatable change) = some ⟨s.long, s.repeatable, .ok f⟩ := by rw [read]
  cases reads with
  | config filled =>
    exact .intro (List.mem_of_getElem? (i := 0) rfl) written
      (taken (pathValue_eq_ok_iff.mpr ⟨filled, rfl⟩))
  | iterations count =>
    exact .intro (List.mem_of_getElem? (i := 1) rfl) written
      (taken (countValue_eq_ok_iff.mpr ⟨_, count, rfl⟩))
  | warmup count =>
    exact .intro (List.mem_of_getElem? (i := 2) rfl) written
      (taken (countValue_eq_ok_iff.mpr ⟨_, count, rfl⟩))
  | format =>
    exact .intro (List.mem_of_getElem? (i := 3) rfl) written
      (taken (formatValue_eq_ok_iff.mpr ⟨_, rfl, rfl⟩))
  | full => exact .intro (List.mem_of_getElem? (i := 4) rfl) written rfl
  | dryRun => exact .intro (List.mem_of_getElem? (i := 5) rfl) written rfl
  | cpuOnly => exact .intro (List.mem_of_getElem? (i := 6) rfl) written rfl
  | outputDir filled =>
    exact .intro (List.mem_of_getElem? (i := 7) rfl) written
      (taken (pathValue_eq_ok_iff.mpr ⟨filled, rfl⟩))
  | offlineMetadata => exact .intro (List.mem_of_getElem? (i := 8) rfl) written rfl

theorem exists_flag {u : Use LatencyRequest} {args : List String} (spells : Spells grammar u args)
    {f : LatencyRequest → LatencyRequest} (ok : u.change = .ok f) :
    ∃ flag : Flag, u = flag.use ∧ flag.Spelled args := by
  obtain ⟨member, written, use⟩ := spells
  simp only [grammar, commonSwitches, List.cons_append, List.nil_append, List.mem_cons,
    List.not_mem_nil, or_false] at member
  -- the switches in the order of the grammar; the last two end everything and are no flags
  rcases member with rfl | rfl | rfl | rfl | rfl | rfl | rfl | rfl | rfl | rfl | rfl
  · obtain ⟨text, rfl, rfl⟩ := (use?_takes rfl).mp use
    dsimp only at ok
    obtain ⟨filled, rfl⟩ := pathValue_eq_ok_iff.mp ok
    exact ⟨.config text, congrArg (Use.mk _ _) ok, _, .config filled, written⟩
  · obtain ⟨text, rfl, rfl⟩ := (use?_takes rfl).mp use
    dsimp only at ok
    obtain ⟨n, count, rfl⟩ := countValue_eq_ok_iff.mp ok
    exact ⟨.iterations n, congrArg (Use.mk _ _) ok, _, .iterations count, written⟩
  · obtain ⟨text, rfl, rfl⟩ := (use?_takes rfl).mp use
    dsimp only at ok
    obtain ⟨n, count, rfl⟩ := countValue_eq_ok_iff.mp ok
    exact ⟨.warmup n, congrArg (Use.mk _ _) ok, _, .warmup count, written⟩
  · obtain ⟨text, rfl, rfl⟩ := (use?_takes rfl).mp use
    dsimp only at ok
    obtain ⟨format, rfl, rfl⟩ := formatValue_eq_ok_iff.mp ok
    exact ⟨.format format, congrArg (Use.mk _ _) ok, _, .format, written⟩
  · obtain ⟨rfl, rfl⟩ := (use?_sets rfl).mp use
    exact ⟨.full, rfl, _, .full, written⟩
  · obtain ⟨rfl, rfl⟩ := (use?_sets rfl).mp use
    exact ⟨.dryRun, rfl, _, .dryRun, written⟩
  · obtain ⟨rfl, rfl⟩ := (use?_sets rfl).mp use
    exact ⟨.cpuOnly, rfl, _, .cpuOnly, written⟩
  · obtain ⟨text, rfl, rfl⟩ := (use?_takes rfl).mp use
    dsimp only at ok
    obtain ⟨filled, rfl⟩ := pathValue_eq_ok_iff.mp ok
    exact ⟨.outputDir text, congrArg (Use.mk _ _) ok, _, .outputDir filled, written⟩
  · obtain ⟨rfl, rfl⟩ := (use?_sets rfl).mp use
    exact ⟨.offlineMetadata, rfl, _, .offlineMetadata, written⟩
  · cases (use?_stops rfl).symm.trans use
  · cases (use?_stops rfl).symm.trans use

end Switches

section Requests

/-- Only formats are given more than once. -/
def Once (flags : List Flag) : Prop :=
  flags.Pairwise fun a b => a.long = b.long → b.repeatable = true

/-- What some flags ask for. -/
def asked (flags : List Flag) : LatencyRequest := flags.foldl (fun r flag => flag.change r) .empty

theorem repeatable_iff (flag : Flag) : flag.repeatable = true ↔ flag.long = "fmt" := by
  cases flag <;> simp [Flag.repeatable, Flag.long]

variable {flags : List Flag} {p : Progress LatencyRequest}

theorem carry_of_once (once : Once flags)
    (fresh : ∀ flag ∈ flags, flag.long ∈ p.used → flag.repeatable = true) :
    (p.carry (flags.map Flag.use)).map (·.asked) =
      .ok (flags.foldl (fun r flag => flag.change r) p.asked) := by
  induction flags generalizing p with
  | nil => rfl
  | cons flag rest ih =>
    obtain ⟨here, later⟩ := List.pairwise_cons.mp once
    have applied := Progress.apply_eq_ok_iff.mpr
      ⟨fresh flag List.mem_cons_self, flag.change, rfl, rfl⟩
    rw [List.map_cons, Progress.carry_cons, Flag.use, applied]
    refine ih later fun other member used => ?_
    rcases List.mem_cons.mp used with same | before
    · exact here other member same.symm
    · exact fresh other (List.mem_cons_of_mem _ member) before

theorem once_of_carry {q : Progress LatencyRequest}
    (carried : p.carry (flags.map Flag.use) = .ok q) :
    Once flags ∧ ∀ flag ∈ flags, flag.long ∈ p.used → flag.repeatable = true := by
  induction flags generalizing p with
  | nil => exact ⟨.nil, by simp⟩
  | cons flag rest ih =>
    rw [List.map_cons, Progress.carry_cons] at carried
    obtain ⟨next, applied, carried⟩ := bind_eq_ok carried
    obtain ⟨free, f, -, rfl⟩ := Progress.apply_eq_ok_iff.mp applied
    obtain ⟨once, fresh⟩ := ih carried
    refine ⟨List.pairwise_cons.mpr ⟨fun other member same => ?_, once⟩, fun other member used => ?_⟩
    · exact fresh other member (List.mem_cons.mpr (.inl same.symm))
    · rcases List.mem_cons.mp member with rfl | later
      · exact free used
      · exact fresh other later (List.mem_cons_of_mem _ used)

theorem line_uses {args : List String} (line : Line Flag.Spelled flags args) :
    Line (Spells LatencyRequest.grammar) (flags.map Flag.use) args := by
  induction line with
  | done => exact .done
  | closed => exact .closed
  | next spelled _ ih => exact .next (spells_use spelled) ih

/-- Uses that are carried out are uses of flags. -/
theorem exists_flags {uses : List (Use LatencyRequest)} {args : List String}
    {q : Progress LatencyRequest} (line : Line (Spells LatencyRequest.grammar) uses args)
    (carried : p.carry uses = .ok q) :
    ∃ flags : List Flag, Line Flag.Spelled flags args := by
  induction line generalizing p with
  | done => exact ⟨[], .done⟩
  | closed => exact ⟨[], .closed⟩
  | next spells _ ih =>
    rw [Progress.carry_cons] at carried
    obtain ⟨next, applied, carried⟩ := bind_eq_ok carried
    obtain ⟨-, f, ok, -⟩ := Progress.apply_eq_ok_iff.mp applied
    obtain ⟨flag, -, spelled⟩ := exists_flag spells ok
    obtain ⟨flags, line⟩ := ih carried
    exact ⟨flag :: flags, .next spelled line⟩

/-- Flags that are spelled one after the other ask for what each of them asks for. -/
theorem parse_eq_asked {args : List String} (line : Line Flag.Spelled flags args)
    (once : Once flags) :
    LatencyRequest.parse args = .ok (asked flags) :=
  (parse_eq_carry plain_grammar (line_uses line) .empty).trans (carry_of_once once (by simp))

theorem once_of_parse {args : List String} {request : LatencyRequest}
    (accepted : LatencyRequest.parse args = .ok request) (line : Line Flag.Spelled flags args) :
    Once flags := by
  rw [LatencyRequest.parse, parse_eq_carry plain_grammar (line_uses line)] at accepted
  obtain ⟨q, carried, -⟩ := map_eq_ok accepted
  exact (once_of_carry carried).1

/-- Whatever is accepted spells flags. -/
theorem exists_flags_of_parse {args : List String} {request : LatencyRequest}
    (accepted : LatencyRequest.parse args = .ok request) :
    ∃ flags : List Flag, Line Flag.Spelled flags args := by
  obtain ⟨uses, line⟩ := exists_line_of_parse plain_grammar accepted
  rw [LatencyRequest.parse, parse_eq_carry plain_grammar line] at accepted
  obtain ⟨q, carried, -⟩ := map_eq_ok accepted
  exact exists_flags line carried

end Requests

section Settings

variable {flags others : List Flag}

theorem not_holds_empty (flag : Flag) : ¬flag.Holds .empty := by
  cases flag <;> simp [Flag.Holds, LatencyRequest.empty]

/-- A flag takes the place of what another one with its name says, unless it is repeatable. -/
theorem holds_change_iff (a b : Flag) (r : LatencyRequest) :
    b.Holds (a.change r) ↔ b = a ∨ b.Holds r ∧ (a.long = b.long → b.repeatable = true) := by
  cases a <;> cases b <;> simp [Flag.Holds, Flag.change, Flag.long, Flag.repeatable]
  all_goals first | exact eq_comm | exact or_comm

theorem holds_foldl_iff (once : Once flags) (b : Flag) (r : LatencyRequest) :
    b.Holds (flags.foldl (fun r flag => flag.change r) r) ↔
      b ∈ flags ∨ b.Holds r ∧ ∀ a ∈ flags, a.long = b.long → b.repeatable = true := by
  induction flags generalizing r with
  | nil => simp
  | cons first rest ih =>
    obtain ⟨here, later⟩ := List.pairwise_cons.mp once
    have alone : ∀ a ∈ rest, a.long = first.long → first.repeatable = true := by
      intro a member same
      rw [repeatable_iff, ← same, ← repeatable_iff]
      exact here a member same.symm
    rw [List.foldl_cons, ih later, holds_change_iff]
    simp only [List.mem_cons, forall_eq_or_imp]
    constructor
    · rintro (member | ⟨rfl | ⟨before, first⟩, behind⟩)
      · exact .inl (.inr member)
      · exact .inl (.inl rfl)
      · exact .inr ⟨before, first, behind⟩
    · rintro ((rfl | member) | ⟨before, first, behind⟩)
      · exact .inr ⟨.inl rfl, alone⟩
      · exact .inl member
      · exact .inr ⟨.inr ⟨before, first⟩, behind⟩

/-- What is asked for is what the flags say that are given, whatever their order is. -/
theorem holds_asked_iff (once : Once flags) (flag : Flag) :
    flag.Holds (asked flags) ↔ flag ∈ flags := by
  rw [asked, holds_foldl_iff once]
  simp [not_holds_empty flag]

/-- Formats are asked for in the order in which they are given. -/
theorem formats_asked (flags : List Flag) :
    (asked flags).formats = flags.filterMap Flag.format? := by
  have behind : ∀ r : LatencyRequest, (flags.foldl (fun r flag => flag.change r) r).formats =
      r.formats ++ flags.filterMap Flag.format? := by
    induction flags with
    | nil => simp
    | cons flag rest ih =>
      intro r
      rw [List.foldl_cons, ih, List.filterMap_cons]
      cases flag <;> simp [Flag.change, Flag.format?]
  exact behind .empty

/-- A request is determined by the flags that say what it asks for, and the order of its formats. -/
theorem request_ext {r s : LatencyRequest} (same : ∀ flag : Flag, flag.Holds r ↔ flag.Holds s)
    (formats : r.formats = s.formats) : r = s := by
  ext1
  · exact Option.ext fun path => same (.config path)
  · exact Option.ext fun count => same (.iterations count)
  · exact Option.ext fun count => same (.warmup count)
  · exact formats
  · exact Bool.eq_iff_iff.mpr (same .full)
  · exact Bool.eq_iff_iff.mpr (same .dryRun)
  · exact Bool.eq_iff_iff.mpr (same .cpuOnly)
  · exact Option.ext fun path => same (.outputDir path)
  · exact Bool.eq_iff_iff.mpr (same .offlineMetadata)

/-- The same flags in another order that leaves the formats in theirs. -/
structure Rearranged (flags others : List Flag) : Prop where
  perm : flags.Perm others
  formats : flags.filterMap Flag.format? = others.filterMap Flag.format?

theorem Rearranged.once (same : Rearranged flags others) (once : Once flags) : Once others := by
  refine (same.perm.pairwise_iff fun {a b} later other => ?_).mp once
  rw [repeatable_iff, ← other, ← repeatable_iff]
  exact later other.symm

theorem Rearranged.asked_eq (same : Rearranged flags others) (once : Once flags) :
    asked others = asked flags := by
  refine request_ext (fun flag => ?_) ?_
  · rw [holds_asked_iff once, holds_asked_iff (same.once once), same.perm.mem_iff]
  · rw [formats_asked, formats_asked, same.formats]

/-- What is given, or else what is below it. -/
inductive Layered {α : Type} (given : α → Prop) (below : α) : α → Prop
  | given {a : α} : given a → Layered given below a
  | below : (∀ a, ¬given a) → Layered given below below

/-- The settings of a file with the flags above them, and the counts that result where the default
    ones are below both. -/
structure Merged (flags : List Flag) (file merged : Settings) : Prop where
  mode : Layered (fun mode => .full ∈ flags ∧ mode = .full) file.mode merged.mode
  iterations : Layered (fun count => ∃ n, .iterations n ∈ flags ∧ count = some n)
    file.iterations merged.iterations
  warmup : Layered (fun count => ∃ n, .warmup n ∈ flags ∧ count = some n) file.warmup merged.warmup
  formats : Layered (fun formats => formats ≠ [] ∧ formats = flags.filterMap Flag.format?)
    file.formats merged.formats
  dryRun : Layered (fun dry => .dryRun ∈ flags ∧ dry = true) file.dryRun merged.dryRun
  outputDir : Layered (fun directory => ∃ path, .outputDir path ∈ flags ∧ directory = some path)
    file.outputDir merged.outputDir
  devices : Layered (fun devices => .cpuOnly ∈ flags ∧ devices = .cpuOnly) file.devices
    merged.devices
  chosenIterations : Layered (fun n => .iterations n ∈ flags)
    (file.iterations.getD merged.mode.usualIterations) merged.chosenIterations
  chosenWarmup : Layered (fun n => .warmup n ∈ flags)
    (file.warmup.getD merged.mode.usualWarmup) merged.chosenWarmup

section Layers

variable {α : Type} {flag : α → Flag} {r : LatencyRequest}

/-- A value that may be given by a flag. -/
theorem layered_or {asked : Option α} (said : ∀ a, asked = some a ↔ flag a ∈ flags)
    (below : Option α) :
    Layered (fun o => ∃ a, flag a ∈ flags ∧ o = some a) below (asked.or below) := by
  cases given : asked with
  | some a => exact .given ⟨a, (said a).mp given, rfl⟩
  | none =>
    rw [given] at said
    refine .below ?_
    rintro _ ⟨a, member, -⟩
    cases (said a).mpr member

/-- The same with a default value below both. -/
theorem layered_getD {asked : Option α} (said : ∀ a, asked = some a ↔ flag a ∈ flags)
    (below : Option α) (default : α) :
    Layered (fun a => flag a ∈ flags) (below.getD default) ((asked.or below).getD default) := by
  cases given : asked with
  | some a => exact .given ((said a).mp given)
  | none =>
    rw [given] at said
    exact .below fun a member => by cases (said a).mpr member

/-- A value that a flag without one stands for. -/
theorem layered_ite {asked : Bool} {only : Flag} (said : asked = true ↔ only ∈ flags)
    (a below : α) :
    Layered (fun b => only ∈ flags ∧ b = a) below (if asked then a else below) := by
  cases given : asked with
  | true => exact .given ⟨said.mp given, rfl⟩
  | false =>
    rw [given] at said
    exact .below fun b given => by cases said.mpr given.1

end Layers

/-- A campaign is refused where it would time nothing, and in no other case. -/
theorem ofSettings_iff (settings : Settings) (catalog : Catalog) :
    (∃ campaign, Bench.Campaign.ofSettings settings catalog = .ok campaign) ↔
      0 < settings.chosenIterations := by
  rw [Bench.Campaign.ofSettings]
  constructor
  · rintro ⟨campaign, built⟩
    obtain ⟨_, valid, -⟩ := map_eq_ok built
    exact settings.validate_eq_ok_iff.mp valid
  · intro positive
    rw [settings.validate_eq_ok_iff.mpr positive]
    exact ⟨_, rfl⟩

theorem merged_override (once : Once flags) (file : Settings) :
    Merged flags file ((asked flags).override file) where
  mode := layered_ite (holds_asked_iff once .full) _ _
  iterations := layered_or (fun n => holds_asked_iff once (.iterations n)) _
  warmup := layered_or (fun n => holds_asked_iff once (.warmup n)) _
  formats := by
    have formats : ((asked flags).override file).formats =
        if (flags.filterMap Flag.format?).isEmpty then file.formats
        else flags.filterMap Flag.format? := by rw [← formats_asked]; rfl
    rw [formats]
    split_ifs with none
    · refine .below ?_
      rintro _ ⟨some, rfl⟩
      exact some (List.isEmpty_iff.mp none)
    · exact .given ⟨fun empty => none (List.isEmpty_iff.mpr empty), rfl⟩
  dryRun := by
    have dry : ((asked flags).override file).dryRun =
        if (asked flags).dryRun then true else file.dryRun := by
      rw [LatencyRequest.override]
      cases (asked flags).dryRun <;> rfl
    rw [dry]
    exact layered_ite (holds_asked_iff once .dryRun) _ _
  outputDir := layered_or (fun path => holds_asked_iff once (.outputDir path)) _
  devices := layered_ite (holds_asked_iff once .cpuOnly) _ _
  chosenIterations := layered_getD (fun n => holds_asked_iff once (.iterations n)) _ _
  chosenWarmup := layered_getD (fun n => holds_asked_iff once (.warmup n)) _ _

/-- **Flags over file over defaults.** Arguments are accepted exactly if they spell flags of which
    only formats are repeated. Then a flag wins over the settings file and the file over the default
    values, where the counts by default are those of the mode that results, and neither the order of
    the flags nor the way in which they are written matters. -/
theorem flags_override_file (args : List String) :
    ((∃ request, LatencyRequest.parse args = .ok request) ↔
        ∃ flags, Line Flag.Spelled flags args ∧ Once flags) ∧
      ∀ flags, Line Flag.Spelled flags args →
        ((∃ request, LatencyRequest.parse args = .ok request) ↔ Once flags) ∧
        ∀ request, LatencyRequest.parse args = .ok request →
          (∀ {m : Type → Type} [Monad m] (read : String → m (Except FileFault String)),
            Layered (fun settings => ∃ path, .config path ∈ flags ∧
                settings = Program.fileSettings read (some path))
              (pure (.ok .default)) (Program.fileSettings read request.config)) ∧
          (∀ file, Merged flags file (request.override file) ∧
            ∀ catalog, (∃ campaign, Bench.Campaign.ofSettings (request.override file) catalog =
                .ok campaign) ↔ 0 < (request.override file).chosenIterations) ∧
          ∀ others args', Rearranged flags others → Line Flag.Spelled others args' →
            LatencyRequest.parse args' = .ok request := by
  have accepts {flags : List Flag} (line : Line Flag.Spelled flags args) :
      (∃ request, LatencyRequest.parse args = .ok request) ↔ Once flags :=
    ⟨fun ⟨_, accepted⟩ => once_of_parse accepted line, fun once => ⟨_, parse_eq_asked line once⟩⟩
  refine ⟨⟨?_, fun ⟨flags, line, once⟩ => (accepts line).mpr once⟩, fun flags line =>
    ⟨accepts line, fun request accepted => ?_⟩⟩
  · rintro ⟨request, accepted⟩
    obtain ⟨flags, line⟩ := exists_flags_of_parse accepted
    exact ⟨flags, line, once_of_parse accepted line⟩
  have once := once_of_parse accepted line
  obtain rfl : asked flags = request :=
    Except.ok.inj ((parse_eq_asked line once).symm.trans accepted)
  refine ⟨fun read => ?_, fun file => ⟨merged_override once file, fun catalog => ?_⟩, ?_⟩
  · cases given : (asked flags).config with
    | some path => exact .given ⟨path, (holds_asked_iff once (.config path)).mp given, rfl⟩
    | none =>
      refine .below ?_
      rintro _ ⟨path, member, -⟩
      cases given.symm.trans ((holds_asked_iff once (.config path)).mpr member)
  · exact ofSettings_iff _ catalog
  · intro others args' same line'
    rw [parse_eq_asked line' (same.once once), same.asked_eq once]

/-- Five calls of each model of the full set, in two reports. -/
def shortFullRun : LatencyRequest :=
  { LatencyRequest.empty with iterations := some 5, formats := [.json, .csv], full := true }

/-- A file that asks for other settings. -/
def quickFile : Settings := ⟨.quick, some 7, none, [.md], true, some "out", .auto⟩

theorem shortFullRun_flags :
    LatencyRequest.parse ["-n", "5", "--full", "--fmt=json", "-fcsv", "--"] = .ok shortFullRun ∧
      LatencyRequest.parse ["--fmt", "json", "-f=csv", "--full", "--iterations=+05"] =
        .ok shortFullRun ∧
      Merged [.iterations 5, .full, .format .json, .format .csv] quickFile
        (shortFullRun.override quickFile) ∧
      shortFullRun.override quickFile =
        ⟨.full, some 5, none, [.json, .csv], true, some "out", .auto⟩ ∧
      (shortFullRun.override quickFile).chosenWarmup = 3 ∧
      ¬∃ request, LatencyRequest.parse ["-n", "5", "--iterations=+05"] = .ok request := by
  have accepted : LatencyRequest.parse ["-n", "5", "--full", "--fmt=json", "-fcsv", "--"] =
      .ok shortFullRun := by rfl
  have five : Flag.Spelled (.iterations 5) ["-n", "5"] :=
    ⟨some "5", .iterations ⟨['5'], .inl rfl, by decide, by simp, by decide, by decide⟩,
      .shortApart rfl (by decide +kernel)⟩
  have full : Flag.Spelled .full ["--full"] := ⟨none, .full, .bare⟩
  have json : Flag.Spelled (.format .json) ["--fmt=json"] := ⟨some "json", .format, .joined⟩
  have csv : Flag.Spelled (.format .csv) ["-fcsv"] :=
    ⟨some "csv", .format, .shortAttached rfl (by decide)⟩
  have line : Line Flag.Spelled [.iterations 5, .full, .format .json, .format .csv]
      ["-n", "5", "--full", "--fmt=json", "-fcsv", "--"] :=
    .next five (.next full (.next json (.next csv .closed)))
  have five' : Flag.Spelled (.iterations 5) ["--iterations=+05"] :=
    ⟨some "+05", .iterations
      ⟨['0', '5'], .inr rfl, by decide, by simp, by decide, by decide⟩, .joined⟩
  have json' : Flag.Spelled (.format .json) ["--fmt", "json"] :=
    ⟨some "json", .format, .apart (by decide +kernel)⟩
  have csv' : Flag.Spelled (.format .csv) ["-f=csv"] := ⟨some "csv", .format, .shortJoined rfl⟩
  have line' : Line Flag.Spelled [.format .json, .format .csv, .full, .iterations 5]
      ["--fmt", "json", "-f=csv", "--full", "--iterations=+05"] :=
    .next json' (.next csv' (.next full (.next five' .done)))
  have same : Rearranged [.iterations 5, .full, .format .json, .format .csv]
      [.format .json, .format .csv, .full, .iterations 5] := ⟨by decide, by decide⟩
  obtain ⟨-, merged, stable⟩ := ((flags_override_file _).2 _ line).2 _ accepted
  have twice : Line Flag.Spelled [.iterations 5, .iterations 5] ["-n", "5", "--iterations=+05"] :=
    .next five (.next five' .done)
  refine ⟨accepted, stable _ _ same line', (merged quickFile).1, by decide, by decide, ?_⟩
  rw [((flags_override_file _).2 _ twice).1]
  simp [Once, Flag.repeatable]

end Settings

end EmbeddingLatency.CommandLine
