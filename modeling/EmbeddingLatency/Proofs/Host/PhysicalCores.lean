import EmbeddingLatency.Host.Probe
import Mathlib.Data.Finset.Card
import Mathlib.Data.String.Basic

/-!
# Physical cores

A text about processors has a block for each of them, with an empty line between two blocks.
Blocks that are put together like that are found again (`blocks_joined`), and nothing that a block
says bears on another one. What a block says under a key is said by the last line with that key,
and what it stands for is a pair of two such values; a machine has as many cores as there are
different pairs.
-/

set_option autoImplicit false

namespace EmbeddingLatency.Host

open EmbeddingLatency.Text (trim lines splitOnce splitOnce_eq_some_iff)

/-- The description of one processor: no line end follows another one or stands at either end. -/
structure IsBlock (block : List Char) : Prop where
  noGap : ¬['\n', '\n'] <:+: block
  start : block.head? ≠ some '\n'
  finish : block.getLast? ≠ some '\n'

/-- Blocks with an empty line between two of them. -/
def joined (described : List String) : String := String.intercalate "\n\n" described

section Blocks

theorem blocks_cons {c : Char} {rest : List Char} (noGap : ¬(c = '\n' ∧ rest.head? = some '\n')) :
    blocks (c :: rest) =
      match blocks rest with
      | [] => [[c]]
      | block :: more => (c :: block) :: more := by
  have apart : ∀ more, c = '\n' → rest = '\n' :: more → False := by
    rintro more rfl rfl
    exact noGap ⟨rfl, rfl⟩
  exact blocks.eq_3 c rest apart

theorem head?_of_noGap {c : Char} {rest : List Char} (noGap : ¬['\n', '\n'] <:+: c :: rest) :
    ¬(c = '\n' ∧ rest.head? = some '\n') := by
  rintro ⟨rfl, next⟩
  obtain ⟨more, rfl⟩ := List.head?_eq_some_iff.mp next
  exact noGap ⟨[], more, rfl⟩

/-- A text without an empty line is one block. -/
theorem blocks_of_noGap {block : List Char} (noGap : ¬['\n', '\n'] <:+: block) :
    blocks block = [block] := by
  induction block with
  | nil => rfl
  | cons c rest ih =>
    rw [blocks_cons (head?_of_noGap noGap),
      ih fun gap => noGap (gap.trans (List.suffix_cons c rest).isInfix)]

/-- A block ends at the first empty line. -/
theorem blocks_append {block : List Char} (noGap : ¬['\n', '\n'] <:+: block)
    (finish : block.getLast? ≠ some '\n') (rest : List Char) :
    blocks (block ++ '\n' :: '\n' :: rest) = block :: blocks rest := by
  induction block with
  | nil => rfl
  | cons c tail ih =>
    have unbroken : ¬(c = '\n' ∧ (tail ++ '\n' :: '\n' :: rest).head? = some '\n') := by
      cases tail with
      | nil =>
        rintro ⟨rfl, _⟩
        exact finish rfl
      | cons next others => simpa using head?_of_noGap noGap
    have finish' : tail.getLast? ≠ some '\n' := by
      cases tail with
      | nil => simp
      | cons next others => simpa using finish
    rw [List.cons_append, blocks_cons unbroken,
      ih (fun gap => noGap (gap.trans (List.suffix_cons c tail).isInfix)) finish']

/-- Blocks are found again where they have been put together. -/
theorem blocks_joined {described : List String} (some : described ≠ [])
    (apart : ∀ block ∈ described, IsBlock block.toList) :
    blocks (joined described).toList = described.map String.toList := by
  rw [joined, String.toList_intercalate]
  induction described with
  | nil => exact absurd rfl some
  | cons block rest ih =>
    have here := apart block List.mem_cons_self
    cases rest with
    | nil => simpa using blocks_of_noGap here.noGap
    | cons next more =>
      have later := ih (List.cons_ne_nil _ _) fun block member =>
        apart block (List.mem_cons_of_mem _ member)
      have first := blocks_append here.noGap here.finish
        ("\n\n".toList.intercalate ((next :: more).map String.toList))
      rw [later] at first
      simpa using first

end Blocks

section Values

/-- A line states a value for a key: the key stands in front of the first colon and the value behind
    it, white space at their ends apart. -/
def States (line : List Char) (key : String) (value : List Char) : Prop :=
  ∃ before after, line = before ++ ':' :: after ∧ ':' ∉ before ∧ trim before = key.toList ∧
    trim after = value

/-- The value that the last line with a key states. -/
def LastValue (block : List Char) (key : String) (value : List Char) : Prop :=
  ∃ earlier line later, lines block = earlier ++ line :: later ∧ States line key value ∧
    ∀ other ∈ later, ∀ value, ¬States other key value

/-- A block stands for a core, which is its socket and its place there. -/
def StandsFor (block : List Char) (core : List Char × List Char) : Prop :=
  LastValue block "physical id" core.1 ∧ LastValue block "core id" core.2

/-- The value that a line states for a key. -/
def value? (key : String) (line : List Char) : Option (List Char) :=
  (splitOnce [':'] line).bind fun p => if trim p.1 = key.toList then some (trim p.2) else none

theorem value?_eq_some_iff {key : String} {line value : List Char} :
    value? key line = some value ↔ States line key value := by
  rw [value?, Option.bind_eq_some_iff]
  constructor
  · rintro ⟨⟨before, after⟩, split, stated⟩
    obtain ⟨whole, first⟩ := splitOnce_eq_some_iff.mp split
    split_ifs at stated with same
    exact ⟨before, after, whole, first, same, Option.some.inj stated⟩
  · rintro ⟨before, after, whole, first, same, rfl⟩
    exact ⟨(before, after), splitOnce_eq_some_iff.mpr ⟨whole, first⟩, if_pos same⟩

theorem value?_eq_none_iff {key : String} {line : List Char} :
    value? key line = none ↔ ∀ value, ¬States line key value := by
  simp only [Option.eq_none_iff_forall_not_mem, Option.mem_def, value?_eq_some_iff]

/-- Looking for a pair is looking for the line that it comes from. -/
theorem find?_filterMap {α β γ : Type} (f : α → Option β) (p : β → Bool) (g : β → γ)
    (items : List α) :
    ((items.filterMap f).find? p).map g = items.findSome? fun a => ((f a).filter p).map g := by
  induction items with
  | nil => rfl
  | cons a rest ih =>
    cases here : f a with
    | none =>
      rw [List.filterMap_cons_none here, ih]
      simp [here]
    | some b =>
      rw [List.filterMap_cons_some here]
      by_cases holds : p b
      · simp [here, holds, Option.filter]
      · rw [List.find?_cons_of_neg holds, ih]
        simp [here, holds, Option.filter]

theorem filter_pair_eq_value? (key : String) (line : List Char) :
    (((splitOnce [':'] line).map fun p => (trim p.1, trim p.2)).filter
      fun p => p.1 = key.toList).map (·.2) = value? key line := by
  rw [value?]
  cases splitOnce [':'] line with
  | none => rfl
  | some p => by_cases same : trim p.1 = key.toList <;> simp [Option.filter, same]

theorem lastValue?_eq_findSome? (key : String) (block : List Char) :
    lastValue? key block = (lines block).reverse.findSome? (value? key) := by
  rw [lastValue?, pairs, ← List.filterMap_reverse, find?_filterMap]
  simp only [filter_pair_eq_value?]

theorem lastValue?_eq_some_iff {key : String} {block value : List Char} :
    lastValue? key block = some value ↔ LastValue block key value := by
  rw [lastValue?_eq_findSome?, List.findSome?_eq_some_iff]
  simp only [value?_eq_some_iff, value?_eq_none_iff]
  constructor
  · rintro ⟨later, line, earlier, split, stated, others⟩
    refine ⟨earlier.reverse, line, later.reverse, ?_, stated, ?_⟩
    · simpa using congrArg List.reverse split
    · exact fun other member => others other (List.mem_reverse.mp member)
  · rintro ⟨earlier, line, later, split, stated, others⟩
    refine ⟨later.reverse, line, earlier.reverse, by simp [split], stated, ?_⟩
    exact fun other member => others other (List.mem_reverse.mp member)

theorem core?_eq_some_iff {block : List Char} {core : List Char × List Char} :
    core? block = some core ↔ StandsFor block core := by
  rw [StandsFor, ← lastValue?_eq_some_iff, ← lastValue?_eq_some_iff, core?]
  cases lastValue? "physical id" block <;> cases lastValue? "core id" block <;>
    simp [Prod.ext_iff]

end Values

section Summaries

theorem length_distinct {α : Type} [DecidableEq α] (items : List α) :
    (distinct items).length = items.toFinset.card := by
  rw [← List.toFinset_card_of_nodup (nodup_distinct items)]
  congr 1
  ext a
  simp

/-- The number of cores that blocks stand for, if they stand for any. -/
def CountsCores (described : List String) (count : Option Nat) : Prop :=
  ∃ cores : Finset (List Char × List Char),
    (∀ core, core ∈ cores ↔ ∃ block ∈ described, StandsFor block.toList core) ∧
      count = if cores.card = 0 then none else some cores.card

/-- The first model name that is not empty, if there is one. -/
inductive FirstModel (described : List String) : Option String → Prop
  | named {earlier later : List (List Char)} {line name : List Char} :
      described.flatMap (fun block => lines block.toList) = earlier ++ line :: later →
      States line "model name" name → name ≠ [] →
      (∀ other ∈ earlier, ∀ value, States other "model name" value → value = []) →
      FirstModel described (some (String.ofList name))
  | unnamed : (∀ line ∈ described.flatMap (fun block => lines block.toList),
      ∀ value, States line "model name" value → value = []) → FirstModel described none

/-- The value that a line states for a key, if it is not empty. -/
def filled? (key : String) (line : List Char) : Option (List Char) :=
  (value? key line).filter (· ≠ [])

theorem filled?_eq_some_iff {key : String} {line value : List Char} :
    filled? key line = some value ↔ States line key value ∧ value ≠ [] := by
  simp [filled?, Option.filter_eq_some_iff, value?_eq_some_iff]

theorem filled?_eq_none_iff {key : String} {line : List Char} :
    filled? key line = none ↔ ∀ value, States line key value → value = [] := by
  simp [Option.eq_none_iff_forall_not_mem, filled?_eq_some_iff]

theorem filter_pair_eq_filled? (key : String) (line : List Char) :
    (((splitOnce [':'] line).map fun p => (trim p.1, trim p.2)).filter
      fun p => p.1 = key.toList && p.2 ≠ []).map (fun p => String.ofList p.2) =
        (filled? key line).map String.ofList := by
  rw [filled?, ← filter_pair_eq_value?]
  cases splitOnce [':'] line with
  | none => rfl
  | some p =>
    by_cases same : trim p.1 = key.toList <;> by_cases empty : trim p.2 = [] <;>
      simp [Option.filter, same, empty]

theorem modelName?_eq_findSome? (allBlocks : List (List Char)) :
    modelName? allBlocks =
      (allBlocks.flatMap lines).findSome? fun line =>
        (filled? "model name" line).map String.ofList := by
  have all : allBlocks.flatMap pairs = (allBlocks.flatMap lines).filterMap fun line =>
      (splitOnce [':'] line).map fun p => (trim p.1, trim p.2) := List.filterMap_flatMap.symm
  rw [modelName?, all, find?_filterMap]
  exact congrArg (List.findSome? · _) (funext (filter_pair_eq_filled? "model name"))

/-- What blocks say when they are put together is what they say by themselves; if there are none,
    the text is one block that says nothing. -/
theorem of_blocks_joined {described : List String}
    (apart : ∀ block ∈ described, IsBlock block.toList) {α : Type} (read : List (List Char) → α)
    (silent : read [[]] = read []) :
    read (blocks (joined described).toList) = read (described.map String.toList) := by
  by_cases none : described = []
  · subst none
    exact silent
  · rw [blocks_joined none apart]

/-- The cores that blocks stand for. -/
def coresOf (described : List String) : Finset (List Char × List Char) :=
  ((described.map String.toList).filterMap core?).toFinset

theorem mem_coresOf {described : List String} {core : List Char × List Char} :
    core ∈ coresOf described ↔ ∃ block ∈ described, StandsFor block.toList core := by
  simp [coresOf, ← core?_eq_some_iff]

/-- Only one number counts the cores. -/
theorem countsCores_iff {described : List String} {count : Option Nat} :
    CountsCores described count ↔
      count = if (coresOf described).card = 0 then none else some (coresOf described).card := by
  constructor
  · rintro ⟨cores, members, counted⟩
    rwa [Finset.ext fun core => (mem_coresOf.trans (members core).symm)]
  · exact fun counted => ⟨coresOf described, fun _ => mem_coresOf, counted⟩

theorem coresOf_congr {described others : List String}
    (same : ∀ block, block ∈ others ↔ block ∈ described) : coresOf others = coresOf described := by
  ext core
  simp only [mem_coresOf, same]

theorem card_coresOf_le (described : List String) : (coresOf described).card ≤ described.length :=
  calc (coresOf described).card
      ≤ ((described.map String.toList).filterMap core?).length := List.toFinset_card_le _
    _ ≤ (described.map String.toList).length := List.length_filterMap_le core? _
    _ = described.length := List.length_map ..

section

variable {described : List String} (apart : ∀ block ∈ described, IsBlock block.toList)

include apart

theorem physicalCores_joined :
    (Processors.ofText (joined described)).physicalCores =
      if (coresOf described).card = 0 then none else some (coresOf described).card := by
  have found := of_blocks_joined apart (fun all => distinct (all.filterMap core?)) rfl
  rw [Processors.ofText, coresOf, ← length_distinct]
  dsimp only
  rw [found]
  exact if_congr List.length_eq_zero_iff.symm rfl rfl

theorem firstModel_joined : FirstModel described (Processors.ofText (joined described)).model := by
  have found := of_blocks_joined apart modelName? rfl
  rw [Processors.ofText]
  dsimp only
  rw [found, modelName?_eq_findSome?, List.flatMap_map]
  cases named : (described.flatMap fun block => lines block.toList).findSome? fun line =>
      (filled? "model name" line).map String.ofList with
  | none =>
    refine .unnamed fun line member => filled?_eq_none_iff.mp ?_
    simpa using List.findSome?_eq_none_iff.mp named line member
  | some name =>
    obtain ⟨earlier, line, later, split, here, before⟩ := List.findSome?_eq_some_iff.mp named
    obtain ⟨value, stated, rfl⟩ := Option.map_eq_some_iff.mp here
    obtain ⟨stated, filled⟩ := filled?_eq_some_iff.mp stated
    refine .named split stated filled fun other member => filled?_eq_none_iff.mp ?_
    simpa using before other member

end

end Summaries

section OnePass

variable {key : String}

/-- What has been met in one pass over a text: a model name, and the socket and the place in the
    present block. -/
structure Met where
  model : Option String
  socket : Option (List Char)
  place : Option (List Char)

/-- What has been met behind one more pair. -/
def Met.next (met : Met) (pair : List Char × List Char) : Met where
  model := met.model.or
    (if pair.1 = "model name".toList && pair.2 ≠ [] then some (String.ofList pair.2) else none)
  socket := if pair.1 = "physical id".toList then some pair.2 else met.socket
  place := if pair.1 = "core id".toList then some pair.2 else met.place

/-- Passes over one block, in which neither a socket nor a place has been met. -/
def passBlock (found : Option String × Finset (List Char × List Char)) (block : List Char) :
    Option String × Finset (List Char × List Char) :=
  let met := (pairs block).foldl Met.next ⟨found.1, none, none⟩
  match met.socket, met.place with
  | some socket, some place => (met.model, insert (socket, place) found.2)
  | _, _ => (met.model, found.2)

/-- Reads a text about processors in one pass. -/
def onePass (text : String) : Processors :=
  let found := (blocks text.toList).foldl passBlock (none, ∅)
  { model := found.1
    physicalCores := if found.2.card = 0 then none else some found.2.card }

/-- The last value of a key among some pairs. -/
def lastOf? (key : String) (listed : List (List Char × List Char)) : Option (List Char) :=
  (listed.reverse.find? fun p => p.1 = key.toList).map (·.2)

theorem lastOf?_nil : lastOf? key [] = none := rfl

theorem lastOf?_cons (pair : List Char × List Char) (rest : List (List Char × List Char)) :
    lastOf? key (pair :: rest) =
      (lastOf? key rest).or (if pair.1 = key.toList then some pair.2 else none) := by
  rw [lastOf?, lastOf?, List.reverse_cons, List.find?_append]
  cases rest.reverse.find? fun p => p.1 = key.toList with
  | none => by_cases same : pair.1 = key.toList <;> simp [same]
  | some p => rfl

/-- The first value of a key among some pairs that is not empty, as a text. -/
def firstOf? (key : String) (listed : List (List Char × List Char)) : Option String :=
  (listed.find? fun p => p.1 = key.toList && p.2 ≠ []).map fun p => String.ofList p.2

theorem firstOf?_nil : firstOf? key [] = none := rfl

theorem firstOf?_cons (pair : List Char × List Char) (rest : List (List Char × List Char)) :
    firstOf? key (pair :: rest) =
      (if pair.1 = key.toList && pair.2 ≠ [] then some (String.ofList pair.2) else none).or
        (firstOf? key rest) := by
  rw [firstOf?, firstOf?, List.find?_cons]
  cases pair.1 = key.toList && pair.2 ≠ [] <;> rfl

theorem firstOf?_append (front back : List (List Char × List Char)) :
    firstOf? key (front ++ back) = (firstOf? key front).or (firstOf? key back) := by
  rw [firstOf?, List.find?_append, Option.map_or]
  rfl

theorem ite_eq_or {α : Type} (condition : Prop) [Decidable condition] (a : α) (before : Option α) :
    (if condition then some a else before) = (if condition then some a else none).or before := by
  split_ifs <;> rfl

theorem foldl_next (listed : List (List Char × List Char)) (met : Met) :
    listed.foldl Met.next met =
      ⟨met.model.or (firstOf? "model name" listed), (lastOf? "physical id" listed).or met.socket,
        (lastOf? "core id" listed).or met.place⟩ := by
  induction listed generalizing met with
  | nil => simp only [List.foldl_nil, firstOf?_nil, lastOf?_nil, Option.or_none, Option.none_or]
  | cons pair rest ih =>
    rw [List.foldl_cons, ih, firstOf?_cons, lastOf?_cons, lastOf?_cons, Met.next,
      ite_eq_or _ _ met.socket, ite_eq_or _ _ met.place]
    simp only [Option.or_assoc]

/-- A block adds the core that it stands for to those that have been found. -/
theorem passBlock_eq (found : Option String × Finset (List Char × List Char)) (block : List Char) :
    passBlock found block =
      (found.1.or (firstOf? "model name" (pairs block)),
        found.2 ∪ ([block].filterMap core?).toFinset) := by
  have core : core? block =
      match lastOf? "physical id" (pairs block), lastOf? "core id" (pairs block) with
      | some socket, some place => some (socket, place)
      | _, _ => none := rfl
  simp only [passBlock, foldl_next, Option.or_none]
  cases socket : lastOf? "physical id" (pairs block) with
  | none => simp [core, socket]
  | some socket =>
    cases place : lastOf? "core id" (pairs block) with
    | none => simp [core, socket, place]
    | some place => simp [core, socket, place]

theorem foldl_passBlock (all : List (List Char))
    (found : Option String × Finset (List Char × List Char)) :
    all.foldl passBlock found =
      (found.1.or (modelName? all), found.2 ∪ (all.filterMap core?).toFinset) := by
  induction all generalizing found with
  | nil =>
    have none : modelName? [] = none := rfl
    rw [List.foldl_nil, none, Option.or_none, List.filterMap_nil, List.toFinset_nil,
      Finset.union_empty]
  | cons block rest ih =>
    have names : modelName? (block :: rest) =
        (firstOf? "model name" (pairs block)).or (modelName? rest) :=
      firstOf?_append (pairs block) (rest.flatMap pairs)
    have cores :
        (block :: rest).filterMap core? = [block].filterMap core? ++ rest.filterMap core? :=
      List.filterMap_append (l := [block])
    rw [List.foldl_cons, ih, passBlock_eq, names, cores, List.toFinset_append, Option.or_assoc,
      Finset.union_assoc]

/-- One pass finds what reading block by block finds. -/
theorem onePass_eq (text : String) : onePass text = Processors.ofText text := by
  rw [onePass, foldl_passBlock, Processors.ofText]
  simp only [Option.none_or, Finset.empty_union, ← length_distinct, List.length_eq_zero_iff]

end OnePass

/-- Every text of separate blocks, however often a block occurs in it, is read as having as many
    cores as the blocks stand for, and as many whatever the order of the blocks is. -/
theorem cores_are_counted (described : List String)
    (apart : ∀ block ∈ described, IsBlock block.toList) :
    CountsCores described (Processors.ofText (joined described)).physicalCores ∧
      FirstModel described (Processors.ofText (joined described)).model ∧
      (∀ others : List String, (∀ block, block ∈ others ↔ block ∈ described) →
        (Processors.ofText (joined others)).physicalCores =
          (Processors.ofText (joined described)).physicalCores) ∧
      (∀ count ∈ (Processors.ofText (joined described)).physicalCores,
        0 < count ∧ count ≤ described.length) ∧
      onePass (joined described) = Processors.ofText (joined described) := by
  refine ⟨countsCores_iff.mpr (physicalCores_joined apart), firstModel_joined apart, ?_, ?_,
    onePass_eq _⟩
  · intro others same
    rw [physicalCores_joined apart, physicalCores_joined fun block member =>
      apart block ((same block).mp member), coresOf_congr same]
  · intro count reported
    rw [physicalCores_joined apart, Option.mem_def] at reported
    split_ifs at reported with empty
    obtain rfl := Option.some.inj reported
    exact ⟨Nat.pos_of_ne_zero empty, card_coresOf_le described⟩

/-- Two threads of one core, whose number the second block gives twice, a core of another socket,
    and a block that does not say where it stands. -/
def fourThreads : List String :=
  ["physical id\t: 0\ncore id: 3\nmodel name :",
   "core id: 9\nmodel name\t: Ryzen: 7950X\nphysical id: 0\ncore id\t\t: 3",
   "core id: 3\nphysical id: 1\nmodel name: Epyc", "processor: 3\ncore id: 4"]

theorem fourThreads_cores :
    (∀ block ∈ fourThreads, IsBlock block.toList) ∧
      Processors.ofText (joined fourThreads) = ⟨some "Ryzen: 7950X", some 2⟩ ∧
      CountsCores fourThreads (some 2) ∧ FirstModel fourThreads (some "Ryzen: 7950X") ∧
      (Processors.ofText (joined (fourThreads.reverse ++ fourThreads))).physicalCores = some 2 := by
  have apart : ∀ block ∈ fourThreads, IsBlock block.toList := by
    have noGap : ∀ block ∈ fourThreads, ¬['\n', '\n'] <:+: block.toList := by decide +kernel
    have ends : ∀ block ∈ fourThreads,
        block.toList.head? ≠ some '\n' ∧ block.toList.getLast? ≠ some '\n' := by decide +kernel
    exact fun block member => ⟨noGap block member, (ends block member).1, (ends block member).2⟩
  have read : Processors.ofText (joined fourThreads) = ⟨some "Ryzen: 7950X", some 2⟩ := by
    decide +kernel
  obtain ⟨counted, named, stable, -, -⟩ := cores_are_counted fourThreads apart
  rw [read] at counted named
  refine ⟨apart, read, counted, named, ?_⟩
  rw [stable (fourThreads.reverse ++ fourThreads) (by simp), read]

end EmbeddingLatency.Host
