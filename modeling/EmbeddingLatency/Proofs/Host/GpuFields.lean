import EmbeddingLatency.Host.Probe
import EmbeddingLatency.Proofs.Decimal.FloatNumerals
import EmbeddingLatency.Proofs.Text.Mentions

/-!
# What is known of a GPU

Two runs of a program say what is known of a GPU. Either may fail in several ways (`Useless`), and
what is printed may be any text. The name, the memory and the driver are fields of one line of the
first run (`Lists`), and the version is a word of the second one (`BannerNames`). With a name, every
other field is read from its own text (`hardware_of_named`); without one nothing is known of the
GPU, and the machine is the same as one without the program (`hardware_of_unnamed`). A text that
cannot be read therefore costs its own field only.
-/

set_option autoImplicit false

namespace EmbeddingLatency.Host

open EmbeddingLatency.Decimal (IsFloat float?_isSome_iff)
open EmbeddingLatency.Text

section Runs

variable {run : ProgramRun} {text : String}

/-- A run of use: the program succeeded and wrote a text that is not blank. -/
structure Printed (run : ProgramRun) (text : String) : Prop where
  succeeded : run = .finished 0 text.toUTF8
  filled : ¬Blank text.toList

/-- The runs that are of no use. -/
inductive Useless : ProgramRun → Prop
  | missing : Useless .missing
  | failed {exit : Nat} {output : ByteArray} : exit ≠ 0 → Useless (.finished exit output)
  | notText {output : ByteArray} : (∀ text : String, text.toUTF8 ≠ output) →
      Useless (.finished 0 output)
  | blank {text : String} : Blank text.toList → Useless (.finished 0 text.toUTF8)

theorem fromUTF8?_eq_some_iff {output : ByteArray} :
    String.fromUTF8? output = some text ↔ text.toUTF8 = output := by
  unfold String.fromUTF8?
  split
  case isTrue valid =>
    rw [Option.some.injEq]
    constructor <;> rintro rfl <;> rfl
  case isFalse invalid =>
    refine iff_of_false nofun ?_
    rintro rfl
    exact invalid text.isValidUTF8

theorem useless_or_printed (run : ProgramRun) : Useless run ∨ ∃ text, Printed run text := by
  cases run with
  | missing => exact .inl .missing
  | finished exit output =>
    by_cases succeeded : exit = 0
    · subst succeeded
      cases decoded : String.fromUTF8? output with
      | none =>
        refine .inl (.notText fun text same => ?_)
        rw [fromUTF8?_eq_some_iff.mpr same] at decoded
        exact Option.some_ne_none text decoded
      | some text =>
        obtain rfl := fromUTF8?_eq_some_iff.mp decoded
        by_cases blank : Blank text.toList
        · exact .inl (.blank blank)
        · exact .inr ⟨text, rfl, blank⟩
    · exact .inl (.failed succeeded)

theorem Printed.text?_eq (printed : Printed run text) : run.text? = some (trimmed text) := by
  obtain ⟨rfl, filled⟩ := printed
  have some : trim text.toList ≠ [] := fun empty => filled (trim_eq_nil_iff.mp empty)
  rw [ProgramRun.text?, if_pos rfl, fromUTF8?_eq_some_iff.mpr rfl, Option.bind_some]
  exact if_neg some

theorem Printed.unique {other : String} (printed : Printed run text)
    (printed' : Printed run other) :
    text = other := by
  have same : text.toUTF8 = other.toUTF8 := by
    have := printed.succeeded.symm.trans printed'.succeeded
    exact (ProgramRun.finished.inj this).2
  exact Option.some.inj
    ((fromUTF8?_eq_some_iff.mpr same).symm.trans (fromUTF8?_eq_some_iff.mpr rfl))

theorem Useless.text?_eq (useless : Useless run) : run.text? = none := by
  cases useless with
  | missing => rfl
  | failed failed => rw [ProgramRun.text?, if_neg failed]
  | @notText output never =>
    have undecoded : String.fromUTF8? output = none :=
      Option.eq_none_iff_forall_not_mem.mpr fun text found =>
        never text (fromUTF8?_eq_some_iff.mp found)
    rw [ProgramRun.text?, if_pos rfl, undecoded, Option.bind_none]
  | @blank text blank =>
    rw [ProgramRun.text?, if_pos rfl, fromUTF8?_eq_some_iff.mpr rfl, Option.bind_some]
    exact if_pos (trim_eq_nil_iff.mpr blank)

end Runs

section Listings

variable {run : ProgramRun} {name : List Char} {more fields : List (List Char)}

/-- A run lists some fields: they stand in the first line of its output that is not blank, with
    commas between them. -/
def Lists (run : ProgramRun) (fields : List (List Char)) : Prop :=
  ∃ text line, Printed run text ∧ FirstLine text.toList line ∧ CutAt ',' line fields

/-- A run lists a GPU, of which it says its name and some more. -/
structure Named (run : ProgramRun) (name : List Char) (more : List (List Char)) : Prop where
  lists : Lists run (name :: more)
  filled : ¬Blank name

/-- A run lists no GPU. -/
inductive Unnamed (run : ProgramRun) : Prop
  | useless : Useless run → Unnamed run
  | blank {name : List Char} {more : List (List Char)} : Lists run (name :: more) → Blank name →
      Unnamed run

theorem unnamed_or_named (run : ProgramRun) : Unnamed run ∨ ∃ name more, Named run name more := by
  rcases useless_or_printed run with useless | ⟨text, printed⟩
  · exact .inl (.useless useless)
  · obtain ⟨line, first⟩ := exists_firstLine printed.filled
    have cut := cutAt_splitBy ',' line
    obtain ⟨name, more, parts⟩ := List.exists_cons_of_ne_nil (splitBy_ne_nil (· = ',') line)
    rw [parts] at cut
    have lists : Lists run (name :: more) := ⟨text, line, printed, first, cut⟩
    by_cases blank : Blank name
    · exact .inl (.blank lists blank)
    · exact .inr ⟨name, more, lists, blank⟩

/-- The memory that the fields behind the name give, as a number of GiB; it is listed in MiB. -/
inductive Memory : List (List Char) → Option Float → Prop
  | read {field : List Char} {others : List (List Char)} {mib : Float} :
      Decimal.float? (trim field) = some mib → Memory (field :: others) (some (mib / 1024.0))
  | unreadable {field : List Char} {others : List (List Char)} :
      ¬IsFloat (trim field) → Memory (field :: others) none
  | missing : Memory [] none

/-- The driver that the fields behind the name give, the second of them. -/
inductive Driver : List (List Char) → Option String → Prop
  | read {memory field : List Char} {others : List (List Char)} :
      ¬Blank field → Driver (memory :: field :: others) (some (String.ofList (trim field)))
  | blank {memory field : List Char} {others : List (List Char)} :
      Blank field → Driver (memory :: field :: others) none
  | missing {more : List (List Char)} : more.length < 2 → Driver more none

/-- The memory in the fields behind the name, if it can be read. -/
def memoryGb? (more : List (List Char)) : Option Float :=
  (more.head?.bind fun field => Decimal.float? (trim field)).map (· / 1024.0)

/-- The driver in the fields behind the name, if it is not blank. -/
def driver? (more : List (List Char)) : Option String :=
  ((more[1]?.map trim).filter (· ≠ [])).map String.ofList

theorem float?_eq_none {field : List Char} (unreadable : ¬IsFloat field) :
    Decimal.float? field = none := by
  rw [← float?_isSome_iff, Option.not_isSome_iff_eq_none] at unreadable
  exact unreadable

theorem memory_memoryGb? (more : List (List Char)) : Memory more (memoryGb? more) := by
  cases more with
  | nil => exact .missing
  | cons field others =>
    rw [memoryGb?, List.head?_cons, Option.bind_some]
    cases read : Decimal.float? (trim field) with
    | none => exact .unreadable fun isFloat => by simp [← float?_isSome_iff, read] at isFloat
    | some mib => exact .read read

theorem driver?_of_blank {memory : List Char} (absent : ∀ field ∈ more.head?, Blank field) :
    driver? (memory :: more) = none := by
  cases more with
  | nil => rfl
  | cons field others =>
    have empty := trim_eq_nil_iff.mpr (absent field rfl)
    simp [driver?, empty]

theorem driver_driver? (more : List (List Char)) : Driver more (driver? more) := by
  match more with
  | [] => exact .missing (by decide)
  | [memory] => exact .missing Nat.one_lt_two
  | memory :: field :: others =>
    by_cases blank : Blank field
    · rw [driver?_of_blank (by simpa using blank)]
      exact .blank blank
    · have filled : trim field ≠ [] := fun empty => blank (trim_eq_nil_iff.mp empty)
      have read : driver? (memory :: field :: others) = some (String.ofList (trim field)) := by
        simp [driver?, filled]
      rw [read]
      exact .read blank

/-- What is read of a listing is read of the fields of its first line that is not blank. -/
theorem Lists.gpu?_eq (lists : Lists run fields) :
    run.text?.bind Gpu.ofListing? =
      let shown := fields.map trim
      (shown[0]?.filter (· ≠ [])).map fun name =>
        { name := String.ofList name
          memoryMib := shown[1]?.bind Decimal.float?
          driverVersion := (shown[2]?.filter (· ≠ [])).map String.ofList } := by
  obtain ⟨text, line, printed, first, cut⟩ := lists
  obtain ⟨inner, later, found, around⟩ := lines_trim first
  have apart : ∀ c, isBlank c = true → decide (c = ',') = false := by
    intro c blank
    exact decide_eq_false fun comma => by simp [comma, isBlank, inRanges, blankRanges] at blank
  have shown : (splitBy (· = ',') inner).map trim = fields.map trim := by
    rw [← around.map_trim_splitBy apart, cut.splitBy_eq]
  rw [printed.text?_eq, Option.bind_some, Gpu.ofListing?, trimmed, String.toList_ofList, found]
  simp only [shown]

end Listings

section Banners

variable {text inner outer version : List Char} {banner : ProgramRun}

/-- What the version stands behind. -/
def versionLabel : List Char := "CUDA Version:".toList

/-- A text names a version: the first word behind the first label, without the bars at its end. -/
def NamesVersion (text version : List Char) : Prop :=
  ∃ before after word bars, FirstMention versionLabel text before after ∧ FirstWord after word ∧
    word = version ++ bars ∧ version ≠ [] ∧ version.getLast? ≠ some '|' ∧ ∀ c ∈ bars, c = '|'

/-- A run names a version. -/
def BannerNames (banner : ProgramRun) (version : String) : Prop :=
  ∃ text, Printed banner text ∧ NamesVersion text.toList version.toList

/-- A run names no version. -/
inductive BannerSilent (banner : ProgramRun) : Prop
  | useless : Useless banner → BannerSilent banner
  | unnamed {text : String} : Printed banner text → (∀ version, ¬NamesVersion text.toList version) →
      BannerSilent banner

theorem solid_versionLabel : Solid versionLabel :=
  ⟨'C', ':', by decide, by decide, by decide, by decide⟩

/-- White space around a text does not change the version that it names. -/
theorem namesVersion_surrounded_iff (around : Surrounds outer inner) :
    NamesVersion outer version ↔ NamesVersion inner version := by
  obtain ⟨front, back, rfl, blankFront, blankBack⟩ := around
  have wordBehind (after word : List Char) :
      FirstWord (after ++ back) word ↔ FirstWord after word := by
    rw [← head?_words_iff, words_append_blank after blankBack, head?_words_iff]
  constructor
  · rintro ⟨before, after, word, bars, mention, first, rest⟩
    obtain ⟨earlier, later, rfl, rfl, inside⟩ :=
      (firstMention_surrounded_iff solid_versionLabel blankFront blankBack).mp mention
    exact ⟨earlier, later, word, bars, inside, (wordBehind later word).mp first, rest⟩
  · rintro ⟨before, after, word, bars, mention, first, rest⟩
    exact ⟨front ++ before, after ++ back, word, bars,
      (firstMention_surrounded_iff solid_versionLabel blankFront blankBack).mpr
        ⟨before, after, rfl, rfl, mention⟩, (wordBehind after word).mpr first, rest⟩

theorem cudaVersion?_eq_some_iff {banner version : String} :
    cudaVersion? banner = some version ↔ NamesVersion banner.toList version.toList := by
  have read : cudaVersion? banner = (splitOnce versionLabel banner.toList).bind fun parts =>
      (words parts.2).head?.bind fun word =>
        if word.rdropWhile (· = '|') = [] then none
        else some (String.ofList (word.rdropWhile (· = '|'))) := by
    change cudaVersion? banner = (splitOnce "CUDA Version:".toList banner.toList).bind _
    rw [cudaVersion?]
    cases splitOnce "CUDA Version:".toList banner.toList <;> rfl
  have same (left : List Char) : String.ofList left = version ↔ left = version.toList := by
    rw [← String.toList_inj, String.toList_ofList]
  simp only [read, Option.bind_eq_some_iff, Prod.exists, Option.ite_none_left_eq_some,
    Option.some.injEq, same, splitOnce_eq_some_iff_mention, head?_words_iff]
  constructor
  · rintro ⟨before, after, mention, word, first, some, left⟩
    obtain ⟨bars, whole, all, ends⟩ := rdropWhile_eq_iff.mp left
    exact ⟨before, after, word, bars, mention, first, whole, left ▸ some,
      fun last => by simpa using ends _ last, fun c member => of_decide_eq_true (all c member)⟩
  · rintro ⟨before, after, word, bars, mention, first, whole, some, ends, all⟩
    have left : word.rdropWhile (· = '|') = version.toList :=
      rdropWhile_eq_iff.mpr ⟨bars, whole, fun c member => decide_eq_true (all c member),
        fun c last => decide_eq_false fun bar => ends (bar ▸ last)⟩
    exact ⟨before, after, mention, word, first, left ▸ some, left⟩

theorem BannerSilent.names_nothing (silent : BannerSilent banner) {version : String} :
    ¬BannerNames banner version := by
  rintro ⟨text, printed, names⟩
  cases silent with
  | useless useless =>
    exact Option.some_ne_none _ (printed.text?_eq.symm.trans useless.text?_eq)
  | unnamed printed' never => exact never _ (printed.unique printed' ▸ names)

theorem bannerNames_iff {version : String} :
    banner.text?.bind cudaVersion? = some version ↔ BannerNames banner version := by
  rcases useless_or_printed banner with useless | ⟨text, printed⟩
  · rw [useless.text?_eq, Option.bind_none]
    exact iff_of_false nofun (BannerSilent.useless useless).names_nothing
  · rw [printed.text?_eq, Option.bind_some, cudaVersion?_eq_some_iff, trimmed, String.toList_ofList,
      ← namesVersion_surrounded_iff (surrounds_trim text.toList)]
    constructor
    · exact fun names => ⟨text, printed, names⟩
    · rintro ⟨other, printed', names⟩
      exact printed'.unique printed ▸ names

end Banners

section Machines

variable {p : Probe} {run listing banner : ProgramRun} {name memory : List Char}
  {more others : List (List Char)}

/-- Nothing is known of a GPU. -/
structure GpuUnknown (h : Hardware) : Prop where
  model : h.gpuModel = none
  memory : h.gpuMemoryGb = none
  driver : h.gpuDriverVersion = none
  version : h.cudaVersion = none

/-- What the same machine is without the GPU program. -/
def bare (p : Probe) : Hardware :=
  Probe.hardware { p with gpuListing := .missing, gpuBanner := .missing }

theorem gpu?_of_unnamed (unnamed : Unnamed run) : run.text?.bind Gpu.ofListing? = none := by
  cases unnamed with
  | useless useless => rw [useless.text?_eq, Option.bind_none]
  | blank lists blank =>
    rw [lists.gpu?_eq]
    simp [trim_eq_nil_iff.mpr blank]

theorem gpu?_of_named (named : Named run name more) :
    run.text?.bind Gpu.ofListing? =
      some ⟨String.ofList (trim name), more.head?.bind fun field => Decimal.float? (trim field),
        driver? more⟩ := by
  have filled : trim name ≠ [] := fun empty => named.filled (trim_eq_nil_iff.mp empty)
  rw [named.lists.gpu?_eq]
  cases more <;> simp [filled, driver?]

/-- Without a name the machine is the same as without the program. -/
theorem hardware_of_unnamed (unnamed : Unnamed p.gpuListing) : p.hardware = bare p := by
  rw [Probe.hardware, gpu?_of_unnamed unnamed]
  rfl

/-- With a name each field is read from its own text. -/
theorem hardware_of_named (named : Named p.gpuListing name more) :
    p.hardware =
      { bare p with
        gpuModel := some (String.ofList (trim name))
        gpuMemoryGb := memoryGb? more
        gpuDriverVersion := driver? more
        cudaVersion := p.gpuBanner.text?.bind cudaVersion? } := by
  rw [Probe.hardware, gpu?_of_named named]
  rfl

/-- What a machine shows of a GPU whose name is listed. -/
structure Known (p : Probe) (name : List Char) (more : List (List Char)) : Prop where
  model : p.hardware.gpuModel = some (String.ofList (trim name))
  memory : Memory more p.hardware.gpuMemoryGb
  driver : Driver more p.hardware.gpuDriverVersion
  version : ∀ version, p.hardware.cudaVersion = some version ↔ BannerNames p.gpuBanner version

theorem known_of_named (named : Named p.gpuListing name more) : Known p name more := by
  refine ⟨?_, ?_, ?_, fun version => ?_⟩ <;> rw [hardware_of_named named]
  · exact memory_memoryGb? more
  · exact driver_driver? more
  · exact bannerNames_iff

theorem gpuUnknown_iff : GpuUnknown p.hardware ↔ Unnamed p.gpuListing := by
  rcases unnamed_or_named p.gpuListing with unnamed | ⟨name, more, named⟩
  · refine iff_of_true ?_ unnamed
    rw [hardware_of_unnamed unnamed]
    exact ⟨rfl, rfl, rfl, rfl⟩
  · have model := (known_of_named named).model
    refine iff_of_false (fun unknown => ?_) fun unnamed => ?_
    · exact Option.some_ne_none _ (model.symm.trans unknown.model)
    · rw [hardware_of_unnamed unnamed] at model
      exact Option.some_ne_none _ model.symm

/-- Listings with one and the same name either both list a GPU or both leave the
    machine without one. -/
theorem relisted (lists : Lists p.gpuListing (name :: more))
    (lists' : Lists listing (name :: others)) :
    (p.hardware = bare p ∧ Probe.hardware { p with gpuListing := listing } = bare p) ∨
      Named p.gpuListing name more ∧ Named listing name others := by
  by_cases blank : Blank name
  · exact .inl ⟨hardware_of_unnamed (.blank lists blank),
      hardware_of_unnamed (p := { p with gpuListing := listing }) (.blank lists' blank)⟩
  · exact .inr ⟨⟨lists, blank⟩, ⟨lists', blank⟩⟩

theorem hardware_of_unreadable {memory' : List Char}
    (lists : Lists p.gpuListing (name :: memory :: more))
    (lists' : Lists listing (name :: memory' :: more)) (unreadable : ¬IsFloat (trim memory')) :
    Probe.hardware { p with gpuListing := listing } = { p.hardware with gpuMemoryGb := none } := by
  rcases relisted lists lists' with ⟨before, after⟩ | ⟨named, named'⟩
  · rw [after, before]
    rfl
  · have lost : memoryGb? (memory' :: more) = none := by simp [memoryGb?, float?_eq_none unreadable]
    rw [hardware_of_named (p := { p with gpuListing := listing }) named', hardware_of_named named,
      lost]
    rfl

theorem hardware_of_absent (lists : Lists p.gpuListing (name :: memory :: more))
    (lists' : Lists listing (name :: memory :: others))
    (absent : ∀ field ∈ others.head?, Blank field) :
    Probe.hardware { p with gpuListing := listing } =
      { p.hardware with gpuDriverVersion := none } := by
  rcases relisted lists lists' with ⟨before, after⟩ | ⟨named, named'⟩
  · rw [after, before]
    rfl
  · rw [hardware_of_named (p := { p with gpuListing := listing }) named', hardware_of_named named,
      driver?_of_blank absent]
    rfl

theorem hardware_of_silent (silent : BannerSilent banner) :
    Probe.hardware { p with gpuBanner := banner } = { p.hardware with cudaVersion := none } := by
  have lost : banner.text?.bind cudaVersion? = none :=
    Option.eq_none_iff_forall_not_mem.mpr fun version found =>
      silent.names_nothing (bannerNames_iff.mp found)
  rw [Probe.hardware, Probe.hardware]
  simp only [lost, Option.bind_fun_none]

end Machines

/-- What is known of a machine when the GPU program fails, in whole or in part. -/
structure FailsByField (p : Probe) : Prop where
  /-- Nothing is known of the GPU exactly if none is listed. -/
  unknown_iff : GpuUnknown p.hardware ↔ Unnamed p.gpuListing
  listed : ¬Unnamed p.gpuListing → ∃ name more, Named p.gpuListing name more
  /-- The name of a GPU that is listed is known, and each other field as far as its own
      text can be read. -/
  known : ∀ name more, Named p.gpuListing name more → Known p name more
  /-- A banner bears on nothing but the version. -/
  banner : ∀ banner, Probe.hardware { p with gpuBanner := banner } =
    { p.hardware with cudaVersion := (Probe.hardware { p with gpuBanner := banner }).cudaVersion }
  banner_silent : ∀ banner, BannerSilent banner →
    Probe.hardware { p with gpuBanner := banner } = { p.hardware with cudaVersion := none }
  /-- With another text in the place of the memory, one that is no numeral, the memory is lost. -/
  memory_unreadable : ∀ listing name memory memory' more,
    Lists p.gpuListing (name :: memory :: more) →
    Lists listing (name :: memory' :: more) → ¬IsFloat (trim memory') →
    Probe.hardware { p with gpuListing := listing } = { p.hardware with gpuMemoryGb := none }
  /-- Without the driver, or with white space in its place, the driver is lost. -/
  driver_absent : ∀ listing name memory more more', Lists p.gpuListing (name :: memory :: more) →
    Lists listing (name :: memory :: more') → (∀ field ∈ more'.head?, Blank field) →
    Probe.hardware { p with gpuListing := listing } = { p.hardware with gpuDriverVersion := none }
  /-- Whatever both runs of the program do, nothing else changes. -/
  others : ∀ listing banner, Probe.hardware { p with gpuListing := listing, gpuBanner := banner } =
    let h := Probe.hardware { p with gpuListing := listing, gpuBanner := banner }
    { p.hardware with
      gpuModel := h.gpuModel
      gpuMemoryGb := h.gpuMemoryGb
      gpuDriverVersion := h.gpuDriverVersion
      cudaVersion := h.cudaVersion }

/-- **GPU fields fail one by one.** Whatever the GPU program does in its two runs, be it missing,
    ending in any way or writing any bytes, the machine is shown, and each text that cannot be read
    costs its own field only. -/
theorem gpu_fields_fail_alone (p : Probe) : FailsByField p where
  unknown_iff := gpuUnknown_iff
  listed := (unnamed_or_named p.gpuListing).resolve_left
  known _ _ := known_of_named
  banner _ := rfl
  banner_silent _ silent := hardware_of_silent silent
  memory_unreadable _ _ _ _ _ lists lists' unreadable :=
    hardware_of_unreadable lists lists' unreadable
  driver_absent _ _ _ _ _ lists lists' absent := hardware_of_absent lists lists' absent
  others _ _ := rfl

/-- A machine with two cards, of which the first one is shown. -/
def twoCards : Probe where
  threads := none
  processors := none
  memory := none
  gpuListing := .finished 0 "\r\nTesla T4, 15360, 535.1\r\nTesla V100, 16384, 535.1\r\n".toUTF8
  gpuBanner := .missing

/-- The first card, which does not say its memory. -/
def silentCard : ProgramRun := .finished 0 "Tesla T4, [N/A], 535.1\r\n".toUTF8

theorem silentCard_lacks_memory :
    Lists twoCards.gpuListing ["Tesla T4".toList, " 15360".toList, " 535.1\r".toList] ∧
      Lists silentCard ["Tesla T4".toList, " [N/A]".toList, " 535.1\r".toList] ∧
      ¬IsFloat (trim " [N/A]".toList) ∧ twoCards.hardware.gpuMemoryGb.isSome = true ∧
      Probe.hardware { twoCards with gpuListing := silentCard } =
        { twoCards.hardware with gpuMemoryGb := none } := by
  have shown : Lists twoCards.gpuListing ["Tesla T4".toList, " 15360".toList, " 535.1\r".toList] :=
    ⟨_, "Tesla T4, 15360, 535.1\r".toList, ⟨rfl, by decide +kernel⟩,
      ⟨"\r\n".toList, "\nTesla V100, 16384, 535.1\r\n".toList, by decide +kernel⟩,
      ⟨by decide, by decide +kernel, by decide +kernel⟩⟩
  have silent : Lists silentCard ["Tesla T4".toList, " [N/A]".toList, " 535.1\r".toList] :=
    ⟨_, "Tesla T4, [N/A], 535.1\r".toList, ⟨rfl, by decide +kernel⟩,
      ⟨[], "\n".toList, by decide +kernel⟩, ⟨by decide, by decide +kernel, by decide +kernel⟩⟩
  have unreadable : ¬IsFloat (trim " [N/A]".toList) := by
    rw [← float?_isSome_iff]
    decide +kernel
  exact ⟨shown, silent, unreadable, by decide +kernel,
    (gpu_fields_fail_alone twoCards).memory_unreadable _ _ _ _ _ shown silent unreadable⟩

end EmbeddingLatency.Host
