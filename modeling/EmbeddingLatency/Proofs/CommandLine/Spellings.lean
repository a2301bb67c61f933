import EmbeddingLatency.CommandLine.Grammar
import EmbeddingLatency.Fault
import Mathlib.Data.List.Basic
import Mathlib.Data.List.Nodup
import Mathlib.Data.List.Pairwise

/-!
# Spellings

A grammar without operands reads arguments as uses of its switches, one after the other. `Written`
lists the ways to write a use. Whatever such a grammar accepts is written in one of them
(`exists_line_of_parse`), and what is written like that is carried out use by use in its order
(`parse_eq_carry`), although a value is not checked before the next switch begins.
-/

set_option autoImplicit false

namespace EmbeddingLatency.CommandLine

/-- A value that stands by itself: it has no dash in front, or is nothing but a dash. -/
def StandsApart (value : String) : Prop := ∀ c rest, value.toList ≠ '-' :: c :: rest

theorem standsApart_iff {value : String} :
    StandsApart value ↔ value.toList.head? ≠ some '-' ∨ value.toList.length ≤ 1 := by
  rw [StandsApart]
  match value.toList with
  | [] => simp
  | [c] => simp
  | c :: d :: rest => simp

instance (value : String) : Decidable (StandsApart value) := decidable_of_iff' _ standsApart_iff

/-- The ways to write a switch without or with a value. -/
inductive Written (long : String) (short : Option Char) : Option String → List String → Prop
  | bare : Written long short none ["--" ++ long]
  | apart {value : String} : StandsApart value →
      Written long short (some value) ["--" ++ long, value]
  | joined {value : String} : Written long short (some value) ["--" ++ long ++ "=" ++ value]
  | shortApart {c : Char} {value : String} : short = some c → StandsApart value →
      Written long short (some value) [String.ofList ['-', c], value]
  | shortAttached {c d : Char} {rest : List Char} : short = some c → d ≠ '=' →
      Written long short (some (String.ofList (d :: rest))) [String.ofList ('-' :: c :: d :: rest)]
  | shortJoined {c : Char} {value : List Char} : short = some c →
      Written long short (some (String.ofList value)) [String.ofList ('-' :: c :: '=' :: value)]

/-- Items one after the other, each as it is spelled; two dashes may stand behind the last one. -/
inductive Line {α : Type} (spells : α → List String → Prop) : List α → List String → Prop
  | done : Line spells [] []
  | closed : Line spells [] ["--"]
  | next {a : α} {items : List α} {front back : List String} : spells a front →
      Line spells items back → Line spells (a :: items) (front ++ back)

/-- A switch that is used, with the change that it asks for. -/
structure Use (σ : Type) where
  name : String
  repeatable : Bool
  change : Except UsageFault (σ → σ)

variable {σ : Type}

/-- A switch in use, if the value suits it. -/
def Switch.use? (s : Switch σ) (value : Option String) : Option (Use σ) :=
  match s.effect, value with
  | .sets change, none => some ⟨s.long, s.repeatable, .ok change⟩
  | .takes read, some text => some ⟨s.long, s.repeatable, read text⟩
  | _, _ => none

section

variable {s : Switch σ} {value : Option String} {u : Use σ}

theorem use?_takes {read : ValueReader σ} (takes : s.effect = .takes read) :
    s.use? value = some u ↔ ∃ text, value = some text ∧ u = ⟨s.long, s.repeatable, read text⟩ := by
  cases value <;> simp [Switch.use?, takes, eq_comm]

theorem use?_sets {change : σ → σ} (sets : s.effect = .sets change) :
    s.use? value = some u ↔ value = none ∧ u = ⟨s.long, s.repeatable, .ok change⟩ := by
  cases value <;> simp [Switch.use?, sets, eq_comm]

theorem use?_stops {fault : UsageFault} (stops : s.effect = .stops fault) :
    s.use? value = none := by
  simp [Switch.use?, stops]

theorem takes_of_use? {text : String} (use : s.use? (some text) = some u) :
    ∃ read, s.effect = .takes read ∧ u = ⟨s.long, s.repeatable, read text⟩ := by
  cases effect : s.effect with
  | takes read => exact ⟨read, rfl, by simpa [use?_takes effect] using use⟩
  | sets change => simp [use?_sets effect] at use
  | stops fault => simp [use?_stops effect] at use

theorem takesValue_iff : s.takesValue = true ↔ ∃ read, s.effect = .takes read := by
  rw [Switch.takesValue]
  cases s.effect <;> simp

end

/-- Arguments spell the use of a switch. -/
inductive Spells (g : Grammar σ) (u : Use σ) (args : List String) : Prop
  | intro {s : Switch σ} {value : Option String} : s ∈ g.switches →
      Written s.long s.short value args → s.use? value = some u → Spells g u args

/-- A grammar without operands, in which names lead to one switch and only switches with a value, or
    those that end everything, have a short name. -/
structure Grammar.Plain (g : Grammar σ) : Prop where
  noOperands : g.operands = []
  longs : (g.switches.map (·.long)).Nodup
  shorts : (g.switches.filterMap (·.short)).Nodup
  named : ∀ s ∈ g.switches, s.long ≠ "" ∧ '=' ∉ s.long.toList ∧ s.short ≠ some '-'
  bare : ∀ s ∈ g.switches, ∀ change, s.effect = .sets change → s.short = none

/-- The kinds of arguments. -/
inductive Shape : String → Prop
  | close : Shape "--"
  | long {name : String} : name ≠ "" → '=' ∉ name.toList → Shape ("--" ++ name)
  | joined {name value : String} : '=' ∉ name.toList → Shape ("--" ++ name ++ "=" ++ value)
  | short {c : Char} {rest : List Char} : c ≠ '-' → Shape (String.ofList ('-' :: c :: rest))
  | apart {value : String} : StandsApart value → Shape value

theorem toList_dashes (name : String) : ("--" ++ name).toList = '-' :: '-' :: name.toList := by
  simp

theorem toList_joined (name value : String) :
    ("--" ++ name ++ "=" ++ value).toList = '-' :: '-' :: (name.toList ++ '=' :: value.toList) := by
  simp

theorem shape (arg : String) : Shape arg := by
  by_cases apart : StandsApart arg
  · exact .apart apart
  · obtain ⟨c, rest, chars⟩ : ∃ c rest, arg.toList = '-' :: c :: rest := by
      simpa [StandsApart] using apart
    by_cases dash : c = '-'
    · subst dash
      cases split : Text.splitOnce ['='] rest with
      | none =>
        have free := Text.splitOnce_eq_none_iff.mp split
        by_cases empty : rest = []
        · have same : arg = "--" := String.toList_injective (by simp [chars, empty])
          exact same ▸ .close
        · have same : arg = "--" ++ String.ofList rest := String.toList_injective (by simp [chars])
          refine same ▸ .long (fun nothing => empty ?_) (by simpa using free)
          simpa using congrArg String.toList nothing
      | some parts =>
        obtain ⟨whole, free⟩ := Text.splitOnce_eq_some_iff.mp split
        have same : arg = "--" ++ String.ofList parts.1 ++ "=" ++ String.ofList parts.2 :=
          String.toList_injective (by simp [chars, whole])
        exact same ▸ .joined (by simpa using free)
    · have same : arg = String.ofList ('-' :: c :: rest) :=
        String.toList_injective (by simp [chars])
      exact same ▸ .short dash

namespace Progress

/-- Uses are carried out one after the other. -/
def carry (p : Progress σ) (uses : List (Use σ)) : Except UsageFault (Progress σ) :=
  uses.foldlM (fun p u => p.apply u.name u.repeatable u.change) p

/-- What is asked for when all arguments have been taken. -/
def taken (g : Grammar σ) (p : Progress σ) (args : List String) : Except UsageFault σ := do
  let p ← args.foldlM (take g) p
  let p ← p.settle
  if p.ahead.any (·.required) then .error .operandMissing else .ok p.asked

/-- Neither has an operand begun, nor is there one. -/
structure Open (p : Progress σ) : Prop where
  noOperands : p.ahead = []
  switches : p.operandsOnly = false

/-- A switch waits for its value. -/
def Waits (p : Progress σ) : Prop :=
  ∃ name repeatable read, p.pending = some ⟨name, repeatable, read, none⟩

variable {g : Grammar σ} {p q : Progress σ}

section Take

variable (switches : p.operandsOnly = false)

include switches

theorem take_close : take g p "--" = .ok { p with operandsOnly := true } := by
  rw [take, switches]
  rfl

theorem take_long {name : String} (some : name ≠ "") (free : '=' ∉ name.toList) :
    take g p ("--" ++ name) = takeLong g p name none := by
  obtain ⟨c, rest, chars⟩ : ∃ c rest, name.toList = c :: rest :=
    List.exists_cons_of_ne_nil fun nothing => some (String.toList_injective nothing)
  have whole : Text.splitOnce ['='] (c :: rest) = none :=
    Text.splitOnce_eq_none_iff.mpr (chars ▸ free)
  rw [take, switches, toList_dashes, chars]
  simp only [Bool.false_eq_true, if_false, whole]
  rw [← chars, String.ofList_toList]

theorem take_joined {name : String} (value : String) (free : '=' ∉ name.toList) :
    take g p ("--" ++ name ++ "=" ++ value) = takeLong g p name (some value) := by
  have split : Text.splitOnce ['='] (name.toList ++ '=' :: value.toList) =
      some (name.toList, value.toList) := Text.splitOnce_eq_some_iff.mpr ⟨rfl, free⟩
  obtain ⟨c, rest, chars⟩ : ∃ c rest, name.toList ++ '=' :: value.toList = c :: rest :=
    List.exists_cons_of_ne_nil (by simp)
  rw [chars] at split
  rw [take, switches, toList_joined, chars]
  simp only [Bool.false_eq_true, if_false, split, String.ofList_toList]

theorem take_short {c : Char} (rest : List Char) (other : c ≠ '-') :
    take g p (String.ofList ('-' :: c :: rest)) = takeShort g p (c :: rest) := by
  rw [take, switches, String.toList_ofList]
  simp only [Bool.false_eq_true, if_false]
  split
  · next close => exact absurd (List.cons.inj (List.cons.inj close).2).1 other
  · next long => exact absurd (List.cons.inj (List.cons.inj long).2).1 other
  · next same =>
    obtain ⟨rfl, rfl⟩ := List.cons.inj (List.cons.inj same).2
    rfl
  · next none => exact absurd rfl (none c rest)

theorem take_value {value : String} (apart : StandsApart value) :
    take g p value = p.takeValue value := by
  rw [take, switches]
  simp only [Bool.false_eq_true, if_false]
  split
  · next close => exact absurd close (apart _ _)
  · next long => exact absurd long (apart _ _)
  · next short => exact absurd short (apart _ _)
  · rfl

end Take

section Settling

theorem apply_eq_ok_iff {name : String} {repeatable : Bool} {change : Except UsageFault (σ → σ)} :
    p.apply name repeatable change = .ok q ↔
      (name ∈ p.used → repeatable = true) ∧ ∃ f, change = .ok f ∧
        q = { p with asked := f p.asked, used := name :: p.used } := by
  rw [apply]
  by_cases repeated : name ∈ p.used ∧ repeatable = false
  · have refused : (!repeatable && p.used.contains name) = true := by simp [repeated]
    rw [if_pos refused]
    simp [repeated]
  · have fresh : ¬(!repeatable && p.used.contains name) = true := by
      simpa [and_comm] using repeated
    have once : name ∈ p.used → repeatable = true := by simpa using repeated
    rw [if_neg fresh]
    cases change with
    | error fault => simp [Except.map]
    | ok f =>
      constructor
      · rintro ⟨⟩
        exact ⟨once, f, rfl, rfl⟩
      · rintro ⟨-, f, ⟨⟩, rfl⟩
        rfl

theorem settle_of_settled (settled : p.pending = none) : p.settle = .ok p := by
  rw [settle, settled]

theorem settle_of_waits (waits : p.Waits) : p.settle = .error .valueRefused := by
  obtain ⟨name, repeatable, read, pending⟩ := waits
  rw [settle, pending]

theorem settle_of_valued {name value : String} {repeatable : Bool} {read : ValueReader σ}
    (settled : p.pending = none) :
    settle { p with pending := some ⟨name, repeatable, read, some value⟩ } =
      p.apply name repeatable (read value) := by
  obtain ⟨asked, used, pending, ahead, only⟩ := p
  cases settled
  rfl

/-- Nothing is left to be checked when a value has been, and the rest stays as it is. -/
theorem of_settle (checked : p.settle = .ok q) :
    q.pending = none ∧ q.ahead = p.ahead ∧ q.operandsOnly = p.operandsOnly := by
  rw [settle] at checked
  split at checked
  · next settled =>
    cases checked
    exact ⟨settled, rfl, rfl⟩
  · cases checked
  · obtain ⟨-, f, -, rfl⟩ := apply_eq_ok_iff.mp checked
    exact ⟨rfl, rfl, rfl⟩

theorem Open.settle (isOpen : p.Open) (checked : p.settle = .ok q) : q.Open := by
  obtain ⟨-, ahead, only⟩ := of_settle checked
  exact ⟨ahead.trans isOpen.noOperands, only.trans isOpen.switches⟩

theorem Open.apply {name : String} {repeatable : Bool} {change : Except UsageFault (σ → σ)}
    (isOpen : p.Open) (applied : p.apply name repeatable change = .ok q) :
    q.Open ∧ q.pending = p.pending := by
  obtain ⟨-, f, -, rfl⟩ := apply_eq_ok_iff.mp applied
  exact ⟨⟨isOpen.noOperands, isOpen.switches⟩, rfl⟩

/-- Two dashes at the end change nothing that is asked for. -/
theorem settle_close :
    (settle { p with operandsOnly := true }).map (·.asked) = p.settle.map (·.asked) := by
  obtain ⟨asked, used, pending, ahead, only⟩ := p
  cases pending with
  | none => rfl
  | some last =>
    obtain ⟨name, repeatable, read, value⟩ := last
    cases value with
    | none => rfl
    | some text =>
      simp only [settle, apply]
      split_ifs
      · rfl
      · cases read text <;> rfl

end Settling

section Switches

variable {s : Switch σ} {u : Use σ}

theorem takeSwitch_of_use {value : Option String} (use : s.use? value = some u) :
    p.takeSwitch s value = p.settle >>= fun p => p.apply u.name u.repeatable u.change := by
  rw [takeSwitch]
  cases effect : s.effect <;> cases value <;> simp [Switch.use?, effect] at use <;>
    subst use <;> rfl

theorem takeSwitch_of_takes {read : ValueReader σ} (takes : s.effect = .takes read) :
    p.takeSwitch s none = p.settle >>= fun p =>
      .ok { p with pending := some ⟨s.long, s.repeatable, read, none⟩ } := by
  rw [takeSwitch, takes]

theorem find?_long (plain : g.Plain) (member : s ∈ g.switches) :
    g.switches.find? (·.long = s.long) = some s := by
  cases found : g.switches.find? (·.long = s.long) with
  | none => exact absurd (List.find?_eq_none.mp found s member) (by simp)
  | some t =>
    have same : t.long = s.long := by simpa using List.find?_some found
    rw [List.inj_on_of_nodup_map plain.longs (List.mem_of_find?_eq_some found) member same]

theorem find?_short {c : Char} (plain : g.Plain) (member : s ∈ g.switches)
    (short : s.short = some c) :
    g.switches.find? (·.short = some c) = some s := by
  have symmetric : Std.Symm fun s t : Switch σ =>
      ∀ c, s.short = some c → ∀ d, t.short = some d → c ≠ d :=
    ⟨fun _ _ differ c first d second => (differ d second c first).symm⟩
  have unique : ∀ t ∈ g.switches, t.short = some c → t = s := by
    intro t other also
    by_contra differ
    exact (List.pairwise_filterMap.mp plain.shorts).forall other member differ c also c short rfl
  cases found : g.switches.find? (·.short = some c) with
  | none => exact absurd short (by simpa using List.find?_eq_none.mp found s member)
  | some t =>
    have same : t.short = some c := by simpa using List.find?_some found
    rw [unique t (List.mem_of_find?_eq_some found) same]

theorem takeLong_of_mem {attached : Option String} (plain : g.Plain) (member : s ∈ g.switches)
    (fits : attached.isSome → s.takesValue) :
    takeLong g p s.long attached = p.takeSwitch s attached := by
  have suits : ¬(attached.isSome && !s.takesValue) = true := by simpa using fits
  rw [takeLong, find?_long plain member]
  simp only [suits]
  rfl

theorem takeShort_of_mem {c : Char} {rest : List Char} (plain : g.Plain) (member : s ∈ g.switches)
    (short : s.short = some c) (takes : s.takesValue) :
    takeShort g p (c :: rest) = p.takeSwitch s (attachedValue rest) := by
  rw [takeShort, find?_short plain member short]
  simp only [takes, if_true]

theorem attachedValue_of_ne {d : Char} {rest : List Char} (other : d ≠ '=') :
    attachedValue (d :: rest) = some (String.ofList (d :: rest)) := by
  rw [attachedValue]
  · exact List.cons_ne_nil d rest
  · exact fun _ same => other (List.cons.inj same).1

end Switches

section Carried

theorem taken_nil (noOperands : p.ahead = []) : taken g p [] = p.settle.map (·.asked) := by
  rw [taken]
  cases checked : p.settle with
  | error fault => simp [checked, bind, Except.bind, pure, Except.pure, Except.map]
  | ok q =>
    have ahead : q.ahead = [] := (of_settle checked).2.1.trans noOperands
    simp [checked, bind, Except.bind, pure, Except.pure, Except.map, ahead]

theorem taken_cons (arg : String) (rest : List String) :
    taken g p (arg :: rest) = take g p arg >>= fun q => taken g q rest := by
  simp only [taken, List.foldlM_cons, bind_assoc]

variable {s : Switch σ} {u : Use σ} {uses : List (Use σ)} {arg : String} {back : List String}

theorem carry_cons : p.carry (u :: uses) =
    p.apply u.name u.repeatable u.change >>= fun p => p.carry uses := List.foldlM_cons

variable (isOpen : p.Open) (later : ∀ {q : Progress σ}, q.Open →
  taken g q back = (q.settle >>= fun q => q.carry uses).map (·.asked))

include isOpen later

/-- A switch without a value, or with its value in the same argument, has its effect at once. -/
theorem taken_switch {value : Option String} (first : take g p arg = p.takeSwitch s value)
    (use : s.use? value = some u) :
    taken g p (arg :: back) = (p.settle >>= fun p => p.carry (u :: uses)).map (·.asked) := by
  rw [taken_cons, first, takeSwitch_of_use use]
  cases checked : p.settle with
  | error fault => rfl
  | ok q =>
    show (q.apply u.name u.repeatable u.change >>= fun q => taken g q back) =
      (q.carry (u :: uses)).map (·.asked)
    rw [carry_cons]
    cases applied : q.apply u.name u.repeatable u.change with
    | error fault => rfl
    | ok r =>
      obtain ⟨goesOn, pending⟩ := (isOpen.settle checked).apply applied
      show taken g r back = (r.carry uses).map (·.asked)
      rw [later goesOn, settle_of_settled (pending.trans (of_settle checked).1)]
      rfl

/-- A switch whose value is an argument of its own has its effect when the value is checked. -/
theorem taken_apart {read : ValueReader σ} {value : String}
    (first : take g p arg = p.takeSwitch s none) (takes : s.effect = .takes read)
    (apart : StandsApart value) :
    taken g p (arg :: value :: back) =
      (p.settle >>= fun p => p.carry (⟨s.long, s.repeatable, read value⟩ :: uses)).map
        (·.asked) := by
  rw [taken_cons, first, takeSwitch_of_takes takes]
  cases checked : p.settle with
  | error fault => rfl
  | ok q =>
    obtain ⟨noOperands, switches⟩ := isOpen.settle checked
    have valued : take g { q with pending := some ⟨s.long, s.repeatable, read, none⟩ } value =
        .ok { q with pending := some ⟨s.long, s.repeatable, read, some value⟩ } :=
      take_value (by exact switches) apart
    show taken g { q with pending := some ⟨s.long, s.repeatable, read, none⟩ } (value :: back) =
      (q.carry (⟨s.long, s.repeatable, read value⟩ :: uses)).map (·.asked)
    rw [taken_cons, valued, carry_cons, ← settle_of_valued (of_settle checked).1]
    exact later ⟨noOperands, switches⟩

end Carried

/-- Uses that are written one after the other are carried out one after the other. -/
theorem taken_line (plain : g.Plain) {uses : List (Use σ)} {args : List String}
    (line : Line (Spells g) uses args) (isOpen : p.Open) :
    taken g p args = (p.settle >>= fun p => p.carry uses).map (·.asked) := by
  induction line generalizing p with
  | done =>
    rw [taken_nil isOpen.noOperands]
    cases p.settle <;> rfl
  | closed =>
    rw [taken_cons, take_close isOpen.switches]
    show taken g { p with operandsOnly := true } [] = _
    rw [taken_nil (by exact isOpen.noOperands), settle_close]
    cases p.settle <;> rfl
  | next spelled rest ih =>
    obtain ⟨member, written, use⟩ := spelled
    obtain ⟨nonempty, free, noDash⟩ := plain.named _ member
    have named {c : Char} (short : _ = some c) : c ≠ '-' := fun dash => noDash (dash ▸ short)
    have switches := isOpen.switches
    cases written with
    | bare =>
      exact taken_switch isOpen ih ((take_long switches nonempty free).trans
        (takeLong_of_mem plain member (by simp))) use
    | apart apart =>
      obtain ⟨read, takes, rfl⟩ := takes_of_use? use
      exact taken_apart isOpen ih ((take_long switches nonempty free).trans
        (takeLong_of_mem plain member (by simp))) takes apart
    | joined =>
      obtain ⟨read, takes, -⟩ := takes_of_use? use
      exact taken_switch isOpen ih ((take_joined switches _ free).trans
        (takeLong_of_mem plain member fun _ => takesValue_iff.mpr ⟨read, takes⟩)) use
    | shortApart short apart =>
      obtain ⟨read, takes, rfl⟩ := takes_of_use? use
      exact taken_apart isOpen ih ((take_short switches [] (named short)).trans
        (takeShort_of_mem plain member short (takesValue_iff.mpr ⟨read, takes⟩))) takes apart
    | shortAttached short other =>
      obtain ⟨read, takes, -⟩ := takes_of_use? use
      exact taken_switch isOpen ih ((take_short switches _ (named short)).trans
        ((takeShort_of_mem plain member short (takesValue_iff.mpr ⟨read, takes⟩)).trans
          (congrArg _ (attachedValue_of_ne other)))) use
    | shortJoined short =>
      obtain ⟨read, takes, -⟩ := takes_of_use? use
      exact taken_switch isOpen ih ((take_short switches _ (named short)).trans
        (takeShort_of_mem plain member short (takesValue_iff.mpr ⟨read, takes⟩))) use

section Reading

/-- What arguments are read as, behind a switch that waits for its value and behind
    any other one. -/
structure ReadsOn (g : Grammar σ) (p : Progress σ) (args : List String) : Prop where
  uses : ¬p.Waits → ∃ uses, Line (Spells g) uses args
  value : p.Waits → ∃ value rest, args = value :: rest ∧ StandsApart value ∧
    ∃ uses, Line (Spells g) uses rest

variable {s : Switch σ} {attached : Option String} {arg : String} {rest : List String} {result : σ}

theorem not_waits_of_settle (checked : p.settle = .ok q) : ¬p.Waits := by
  intro waits
  rw [settle_of_waits waits] at checked
  cases checked

theorem not_waits_of_settled (settled : p.pending = none) : ¬p.Waits := by
  rintro ⟨name, repeatable, read, pending⟩
  rw [settled] at pending
  cases pending

/-- A switch that is taken has its effect or waits for its value. -/
theorem of_takeSwitch (isOpen : p.Open) (fits : attached.isSome → s.takesValue)
    (switch : p.takeSwitch s attached = .ok q) :
    ¬p.Waits ∧ q.Open ∧ ((∃ u, s.use? attached = some u) ∧ ¬q.Waits ∨
      attached = none ∧ (∃ read, s.effect = .takes read) ∧ q.Waits) := by
  cases use : s.use? attached with
  | some u =>
    rw [takeSwitch_of_use use] at switch
    obtain ⟨p', checked, applied⟩ := bind_eq_ok switch
    obtain ⟨goesOn, pending⟩ := (isOpen.settle checked).apply applied
    exact ⟨not_waits_of_settle checked, goesOn,
      .inl ⟨⟨u, rfl⟩, not_waits_of_settled (pending.trans (of_settle checked).1)⟩⟩
  | none =>
    cases effect : s.effect with
    | takes read =>
      cases attached with
      | some value => simp [Switch.use?, effect] at use
      | none =>
        rw [takeSwitch_of_takes effect] at switch
        obtain ⟨p', checked, waiting⟩ := bind_eq_ok switch
        cases waiting
        obtain ⟨noOperands, switches⟩ := isOpen.settle checked
        exact ⟨not_waits_of_settle checked, ⟨noOperands, switches⟩,
          .inr ⟨rfl, ⟨read, rfl⟩, _, _, _, rfl⟩⟩
    | sets change =>
      cases attached with
      | none => simp [Switch.use?, effect] at use
      | some value => simp [takesValue_iff, effect] at fits
    | stops fault =>
      rw [takeSwitch] at switch
      obtain ⟨p', -, stopped⟩ := bind_eq_ok switch
      simp [effect] at stopped

theorem of_takeLong {name : String} (long : takeLong g p name attached = .ok q) :
    ∃ s ∈ g.switches, s.long = name ∧ (attached.isSome → s.takesValue) ∧
      p.takeSwitch s attached = .ok q := by
  rw [takeLong] at long
  split at long
  · cases long
  · next s found =>
    split_ifs at long with unexpected
    exact ⟨s, List.mem_of_find?_eq_some found, by simpa using List.find?_some found,
      by simpa using unexpected, long⟩

theorem of_takeShort {c : Char} {chars : List Char} (plain : g.Plain)
    (taken : takeShort g p (c :: chars) = .ok q) :
    ∃ s ∈ g.switches, s.short = some c ∧ s.takesValue ∧
      p.takeSwitch s (attachedValue chars) = .ok q := by
  rw [takeShort] at taken
  split at taken
  · cases taken
  · next s found =>
    have member := List.mem_of_find?_eq_some found
    have short : s.short = some c := by simpa using List.find?_some found
    split_ifs at taken with takes
    · exact ⟨s, member, short, takes, taken⟩
    · obtain ⟨p', switch, -⟩ := bind_eq_ok taken
      rw [takeSwitch] at switch
      obtain ⟨p', -, ended⟩ := bind_eq_ok switch
      cases effect : s.effect with
      | sets change => simp [plain.bare s member change effect] at short
      | takes read => exact absurd (takesValue_iff.mpr ⟨read, effect⟩) takes
      | stops fault => simp [effect] at ended

theorem readsOn_switch (isOpen : p.Open) (member : s ∈ g.switches)
    (fits : attached.isSome → s.takesValue) (switch : p.takeSwitch s attached = .ok q)
    (alone : ∀ u, s.use? attached = some u → Written s.long s.short attached [arg])
    (apart : attached = none → ∀ value, StandsApart value →
      Written s.long s.short (some value) [arg, value])
    (later : q.Open → ReadsOn g q rest) : ReadsOn g p (arg :: rest) := by
  obtain ⟨ready, goesOn, ⟨⟨u, use⟩, settled⟩ | ⟨none, ⟨read, takes⟩, waits⟩⟩ :=
    of_takeSwitch isOpen fits switch
  · obtain ⟨uses, line⟩ := (later goesOn).uses settled
    exact ⟨fun _ => ⟨u :: uses, .next ⟨member, alone u use, use⟩ line⟩,
      fun waits => absurd waits ready⟩
  · obtain ⟨value, behind, rfl, standsApart, uses, line⟩ := (later goesOn).value waits
    refine ⟨fun _ => ⟨⟨s.long, s.repeatable, read value⟩ :: uses, ?_⟩,
      fun waits => absurd waits ready⟩
    exact .next ⟨member, apart none value standsApart,
      (use?_takes takes).mpr ⟨value, rfl, rfl⟩⟩ line

/-- A value is taken only where a switch waits for it. -/
theorem of_takeValue {value : String} (isOpen : p.Open) (taken : p.takeValue value = .ok q) :
    p.Waits ∧ q.Open ∧ ¬q.Waits := by
  rw [takeValue] at taken
  split at taken
  · next name repeatable read pending =>
    cases taken
    refine ⟨⟨name, repeatable, read, pending⟩, ⟨isOpen.noOperands, isOpen.switches⟩, ?_⟩
    rintro ⟨_, _, _, waits⟩
    cases waits
  · rw [takeOperand, isOpen.noOperands] at taken
    cases taken

/-- Nothing stands behind two dashes, and no switch waits for a value in front of them. -/
theorem readsOn_close (isOpen : p.Open)
    (accepted : taken g { p with operandsOnly := true } rest = .ok result) :
    ReadsOn g p ("--" :: rest) := by
  cases rest with
  | nil =>
    refine ⟨fun _ => ⟨[], .closed⟩, fun waits => ?_⟩
    rw [taken_nil (by exact isOpen.noOperands), settle_of_waits (by exact waits)] at accepted
    cases accepted
  | cons next more =>
    rw [taken_cons, take, if_pos rfl, takeOperand] at accepted
    simp only [isOpen.noOperands] at accepted
    cases accepted

theorem attachedValue_eq_none {chars : List Char} (none : attachedValue chars = .none) :
    chars = [] := by
  cases chars with
  | nil => rfl
  | cons d more =>
    by_cases equals : d = '='
    · subst equals
      cases none
    · rw [attachedValue_of_ne equals] at none
      cases none

theorem written_attached {c : Char} {chars : List Char} {u : Use σ} (short : s.short = some c)
    (takes : s.takesValue) (use : s.use? (attachedValue chars) = some u) :
    Written s.long s.short (attachedValue chars) [String.ofList ('-' :: c :: chars)] := by
  cases chars with
  | nil =>
    obtain ⟨read, effect⟩ := takesValue_iff.mp takes
    obtain ⟨text, none, -⟩ := (use?_takes effect).mp use
    cases none
  | cons d more =>
    by_cases equals : d = '='
    · subst equals
      exact .shortJoined short
    · rw [attachedValue_of_ne equals]
      exact .shortAttached short equals

/-- Whatever is taken is read as uses of switches. -/
theorem readsOn_of_taken (plain : g.Plain) {args : List String} (isOpen : p.Open)
    (accepted : taken g p args = .ok result) : ReadsOn g p args := by
  induction args generalizing p with
  | nil =>
    rw [taken_nil isOpen.noOperands] at accepted
    refine ⟨fun _ => ⟨[], .done⟩, fun waits => ?_⟩
    rw [settle_of_waits waits] at accepted
    cases accepted
  | cons arg rest ih =>
    rw [taken_cons] at accepted
    obtain ⟨q, first, behind⟩ := bind_eq_ok accepted
    have later (goesOn : q.Open) : ReadsOn g q rest := ih goesOn behind
    -- a dash decides what an argument is, also where a switch waits for its value
    cases shape arg with
    | close =>
      rw [take_close isOpen.switches] at first
      cases first
      exact readsOn_close isOpen behind
    | long nonempty free =>
      rw [take_long isOpen.switches nonempty free] at first
      obtain ⟨s, member, rfl, fits, switch⟩ := of_takeLong first
      exact readsOn_switch isOpen member fits switch (fun _ _ => .bare)
        (fun _ _ apart => .apart apart)
        later
    | joined free =>
      rw [take_joined isOpen.switches _ free] at first
      obtain ⟨s, member, rfl, fits, switch⟩ := of_takeLong first
      exact readsOn_switch isOpen member fits switch (fun _ _ => .joined)
        (fun none => by cases none)
        later
    | @short c chars other =>
      rw [take_short isOpen.switches _ other] at first
      obtain ⟨s, member, short, takes, switch⟩ := of_takeShort plain first
      refine readsOn_switch isOpen member (fun _ => takes) switch
        (fun u use => written_attached short takes use) (fun none => ?_) later
      obtain rfl := attachedValue_eq_none none
      exact fun value apart => .shortApart short apart
    | apart apart =>
      rw [take_value isOpen.switches apart] at first
      obtain ⟨waits, goesOn, settled⟩ := of_takeValue isOpen first
      exact ⟨fun ready => absurd waits ready,
        fun _ => ⟨arg, rest, rfl, apart, (later goesOn).uses settled⟩⟩

end Reading

end Progress

variable {g : Grammar σ} {args : List String}

/-- Everything that is accepted is written as uses of switches. -/
theorem exists_line_of_parse (plain : g.Plain) {start result : σ}
    (accepted : g.parse start args = .ok result) : ∃ uses, Line (Spells g) uses args :=
  (Progress.readsOn_of_taken plain ⟨plain.noOperands, rfl⟩ accepted).uses
    (Progress.not_waits_of_settled rfl)

/-- What is written as uses of switches is carried out use by use. -/
theorem parse_eq_carry (plain : g.Plain) {uses : List (Use σ)} (line : Line (Spells g) uses args)
    (start : σ) : g.parse start args =
      (Progress.carry ⟨start, [], none, g.operands, false⟩ uses).map (·.asked) :=
  Progress.taken_line plain line ⟨plain.noOperands, rfl⟩

end EmbeddingLatency.CommandLine
