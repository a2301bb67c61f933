import EmbeddingLatency.Json.Token

/-!
# Reading JSON into types

`Reader.decode` reads a whole text. What it reads is said by a reader built from `scalar`,
`optional`, `array`, `record` and `oneOf`, or by `value`, which accepts every document whose
nesting stays below a limit. A record is written as an object, whose unknown members are passed
over and whose known members may not be repeated, or as an array of its fields in order.
-/

set_option autoImplicit false

namespace EmbeddingLatency.Json

/-- A token that is a value by itself. -/
inductive Scalar where
  | null
  | bool (b : Bool)
  | number (n : Number)
  | text (s : String)

/-- A scalar whose first character is known; an opening bracket is a value of another kind. -/
def scalarFrom (c : Char) (rest : List Char) : Except ReadFault (Scalar × List Char) :=
  match c with
  | '"' => (textBody rest).map fun (body, rest) => (.text (String.ofList body), rest)
  | 'n' => (keyword ['u', 'l', 'l'] rest).map fun rest => (.null, rest)
  | 't' => (keyword ['r', 'u', 'e'] rest).map fun rest => (.bool true, rest)
  | 'f' => (keyword ['a', 'l', 's', 'e'] rest).map fun rest => (.bool false, rest)
  | '[' => .error .mismatch
  | '\x7b' => .error .mismatch
  | c =>
    if c = '-' ∨ c.isDigit then
      match numeral .truncated (c :: rest) with
      | .error e => .error e
      | .ok (n, rest) => n.number?.map fun n => (.number n, rest)
    else .error .malformed

theorem length_scalarFrom {c : Char} {text rest : List Char} {s : Scalar}
    (h : scalarFrom c text = .ok (s, rest)) : rest.length < (c :: text).length := by
  unfold scalarFrom at h
  split at h
  case h_7 =>
    split at h
    · split at h
      · simp at h
      · rename_i n tail hn
        have := length_numeral hn
        obtain ⟨a, _, ha⟩ := map_eq_ok h
        simp only [Prod.mk.injEq] at ha
        obtain ⟨_, rfl⟩ := ha
        exact this
    · simp at h
  case h_1 =>
    obtain ⟨⟨body, tail⟩, hb, ha⟩ := map_eq_ok h
    simp only [Prod.mk.injEq] at ha
    obtain ⟨_, rfl⟩ := ha
    have := length_textBody hb
    simp only [List.length_cons]; omega
  case h_5 => simp at h
  case h_6 => simp at h
  all_goals
    obtain ⟨tail, hb, ha⟩ := map_eq_ok h
    simp only [Prod.mk.injEq] at ha
    obtain ⟨_, rfl⟩ := ha
    have := length_keyword hb
    simp only [List.length_cons]; omega

/-- A value without parts. -/
def scalar : Reader Scalar where
  run text :=
    match skipGap text with
    | [] => .error .truncated
    | c :: rest => scalarFrom c rest
  shorter := by
    intro text value rest h
    split at h
    · cases h
    · rename_i c tail hs
      have gap := length_skipGap_le text
      rw [hs] at gap
      exact Nat.lt_of_lt_of_le (length_scalarFrom h) gap

/-- A scalar of a wanted kind. -/
def scalarOf {α : Type} (f : Scalar → Option α) : Reader α :=
  scalar.refine fun s => match f s with
    | some a => .ok a
    | none => .error .mismatch

/-- A text. -/
def text : Reader String := scalarOf fun
  | .text s => some s
  | _ => none

/-- A truth value. -/
def bool : Reader Bool := scalarOf fun
  | .bool b => some b
  | _ => none

/-- A natural number of 64 bits. -/
def nat : Reader Nat := scalarOf fun
  | .number (.natural n) => some n
  | _ => none

/-- The double that a number stands for. -/
def Number.toFloat : Number → Float
  | .natural n => Decimal.ofNat n
  | .negative n => Decimal.nearest true n 1
  | .real x => x

/-- Any number, as a double. -/
def real : Reader Float := scalarOf fun
  | .number n => some n.toFloat
  | _ => none

/-- The word `null`. -/
def unit : Reader Unit := scalarOf fun
  | .null => some ()
  | _ => none

/-- A value or `null`. -/
def optional {α : Type} (item : Reader α) : Reader (Option α) where
  run text :=
    match skipGap text with
    | 'n' :: rest => (keyword ['u', 'l', 'l'] rest).map fun rest => (none, rest)
    | text => (item.run text).map fun (a, rest) => (some a, rest)
  shorter := by
    intro text value rest h
    have hle := length_skipGap_le text
    split at h
    · rename_i tail hs
      obtain ⟨tail', hb, ha⟩ := map_eq_ok h
      simp only [Prod.mk.injEq] at ha
      obtain ⟨_, rfl⟩ := ha
      have := length_keyword hb
      rw [hs] at hle
      simp only [List.length_cons] at hle
      omega
    · obtain ⟨⟨a, tail⟩, hb, ha⟩ := map_eq_ok h
      simp only [Prod.mk.injEq] at ha
      obtain ⟨_, rfl⟩ := ha
      have := item.shorter hb
      omega

/-- Where a list of items or members goes on. -/
inductive Next where
  /-- The list is closed, and this follows it. -/
  | closed (rest : List Char)
  /-- One more stands at the front of this. -/
  | more (text : List Char)

/-- What follows in an array: its end, or one more item. -/
def nextItem (first : Bool) (text : List Char) : Except ReadFault Next :=
  match skipGap text with
  | [] => .error .truncated
  | c :: rest =>
    if c = ']' then .ok (.closed rest)
    else if first then .ok (.more (c :: rest))
    else if c = ',' then
      match skipGap rest with
      | [] => .error .truncated
      | d :: tail => if d = ']' then .error .malformed else .ok (.more (d :: tail))
    else .error .malformed

theorem length_nextItem_closed {first : Bool} {text rest : List Char}
    (h : nextItem first text = .ok (.closed rest)) : rest.length < text.length := by
  have hle := length_skipGap_le text
  unfold nextItem at h
  split at h
  · simp at h
  · rename_i c tail hs
    rw [hs] at hle
    simp only [List.length_cons] at hle
    split at h
    · simp only [Except.ok.injEq, Next.closed.injEq] at h
      subst h
      omega
    · split at h
      · simp at h
      · split at h
        · split at h
          · simp at h
          · split at h <;> simp at h
        · simp at h

theorem length_nextItem_more {first : Bool} {text rest : List Char}
    (h : nextItem first text = .ok (.more rest)) : rest.length ≤ text.length := by
  have hle := length_skipGap_le text
  unfold nextItem at h
  split at h
  · simp at h
  · rename_i c tail hs
    rw [hs] at hle
    simp only [List.length_cons] at hle
    split at h
    · simp at h
    · split at h
      · simp only [Except.ok.injEq, Next.more.injEq] at h
        subst h
        simp only [List.length_cons]
        omega
      · split at h
        · have hle' := length_skipGap_le tail
          split at h
          · simp at h
          · rename_i d tail' hs'
            rw [hs'] at hle'
            split at h
            · simp at h
            · simp only [Except.ok.injEq, Next.more.injEq] at h
              subst h
              omega
        · simp at h

/-- What follows in an object: its end, or one more member; `more` starts behind the opening quote
    of its key. -/
def nextMember (first : Bool) (text : List Char) : Except ReadFault Next :=
  match skipGap text with
  | [] => .error .truncated
  | c :: rest =>
    if c = '\x7d' then .ok (.closed rest)
    else if first then if c = '"' then .ok (.more rest) else .error .malformed
    else if c = ',' then
      match skipGap rest with
      | [] => .error .truncated
      | d :: tail => if d = '"' then .ok (.more tail) else .error .malformed
    else .error .malformed

theorem length_nextMember {first : Bool} {text rest : List Char}
    (h : nextMember first text = .ok (.closed rest) ∨ nextMember first text = .ok (.more rest)) :
    rest.length < text.length := by
  have hle := length_skipGap_le text
  unfold nextMember at h
  split at h
  · simp at h
  · rename_i c tail hs
    rw [hs] at hle
    simp only [List.length_cons] at hle
    have hle' := length_skipGap_le tail
    split at h
    · simp only [Except.ok.injEq, Next.closed.injEq, reduceCtorEq, or_false] at h
      subst h
      omega
    · split at h
      · split at h
        · simp only [Except.ok.injEq, Next.more.injEq, reduceCtorEq, false_or] at h
          subst h
          omega
        · simp at h
      · split at h
        · split at h
          · simp at h
          · rename_i d tail' hs'
            rw [hs'] at hle'
            simp only [List.length_cons] at hle'
            split at h
            · simp only [Except.ok.injEq, Next.more.injEq, reduceCtorEq, false_or] at h
              subst h
              omega
            · simp at h
        · simp at h

/-- The colon between a key and its value. -/
def colon (text : List Char) : Except ReadFault (List Char) :=
  match skipGap text with
  | [] => .error .truncated
  | c :: rest => if c = ':' then .ok rest else .error .malformed

theorem length_colon {text rest : List Char} (h : colon text = .ok rest) :
    rest.length < text.length := by
  have hle := length_skipGap_le text
  unfold colon at h
  split at h
  · simp at h
  · rename_i c tail hs
    rw [hs] at hle
    simp only [List.length_cons] at hle
    split at h
    · simp only [Except.ok.injEq] at h
      subst h
      omega
    · simp at h

/-- The items of an array up to its closing bracket. -/
def items {α : Type} (item : Reader α) (first : Bool) (text : List Char) :
    Except ReadFault (List α × List Char) :=
  match hn : nextItem first text with
  | .error e => .error e
  | .ok (.closed rest) => .ok ([], rest)
  | .ok (.more text') =>
    match hi : item.run text' with
    | .error e => .error e
    | .ok (a, rest) =>
      have := item.shorter hi
      have := length_nextItem_more hn
      match items item false rest with
      | .error e => .error e
      | .ok (as, rest) => .ok (a :: as, rest)
termination_by text.length

theorem length_items {α : Type} {item : Reader α} {first : Bool} {text rest : List Char}
    {as : List α} (h : items item first text = .ok (as, rest)) : rest.length < text.length := by
  fun_induction items item first text generalizing as with
  | case2 first text rest' hn =>
    simp only [Except.ok.injEq, Prod.mk.injEq] at h
    obtain ⟨_, rfl⟩ := h
    exact length_nextItem_closed hn
  | case5 first text text' hn a tail hi _ hr as' rest' hx ih =>
    simp only [Except.ok.injEq, Prod.mk.injEq] at h
    obtain ⟨_, rfl⟩ := h
    have := ih hx
    have := item.shorter hi
    have := length_nextItem_more hn
    omega
  | _ => simp at h

/-- The fault of a text that does not begin with the wanted bracket. -/
def otherKind (text : List Char) : ReadFault :=
  match scalar.run text with
  | .error e => e
  | .ok _ => .mismatch

/-- A list of values. -/
def array {α : Type} (item : Reader α) : Reader (List α) where
  run text :=
    match skipGap text with
    | '[' :: rest => items item true rest
    | _ => .error (otherKind text)
  shorter := by
    intro text value rest h
    have hle := length_skipGap_le text
    split at h
    · rename_i tail hs
      have := length_items h
      rw [hs] at hle
      simp only [List.length_cons] at hle
      omega
    · simp at h

/-- The members of an object up to its closing brace. Each key says what the state becomes, or
    that it may not stand here. -/
def members {σ : Type} (entry : σ → String → Except ReadFault (Reader (σ → σ))) (first : Bool)
    (state : σ) (text : List Char) : Except ReadFault (σ × List Char) :=
  match hn : nextMember first text with
  | .error e => .error e
  | .ok (.closed rest) => .ok (state, rest)
  | .ok (.more text₁) =>
    match hk : textBody text₁ with
    | .error e => .error e
    | .ok (key, text₂) =>
      match entry state (String.ofList key) with
      | .error e => .error e
      | .ok value =>
        match hc : colon text₂ with
        | .error e => .error e
        | .ok text₃ =>
          match hv : value.run text₃ with
          | .error e => .error e
          | .ok (update, rest) =>
            have := length_nextMember (.inr hn)
            have := length_textBody hk
            have := length_colon hc
            have := value.shorter hv
            members entry false (update state) rest
termination_by text.length

theorem length_members {σ : Type} {entry : σ → String → Except ReadFault (Reader (σ → σ))}
    {first : Bool} {state result : σ} {text rest : List Char}
    (h : members entry first state text = .ok (result, rest)) : rest.length < text.length := by
  fun_induction members entry first state text with
  | case2 first state text rest' hn =>
    simp only [Except.ok.injEq, Prod.mk.injEq] at h
    obtain ⟨_, rfl⟩ := h
    exact length_nextMember (.inl hn)
  | case7 first state text text₁ hn key text₂ hk value _ text₃ hc update rest' hv _ _ _ _ ih =>
    have := ih h
    have := length_nextMember (.inr hn)
    have := length_textBody hk
    have := length_colon hc
    have := value.shorter hv
    omega
  | _ => simp at h

/-- A bracket that is open while a value is passed over. -/
inductive Bracket where
  | square
  | brace
  deriving DecidableEq

/-- What follows a value that is passed over. -/
inductive Passed where
  /-- The outermost value is complete, and this follows it. -/
  | complete (rest : List Char)
  /-- One more value stands at the front of the text, inside these brackets. -/
  | more (text : List Char) (stack : List Bracket)

/-- Closes brackets, from the innermost outwards, up to the next value; `first` tells whether the
    innermost bracket has just been opened. -/
def passOn (first : Bool) (stack : List Bracket) (text : List Char) : Except ReadFault Passed :=
  match stack with
  | [] => .ok (.complete text)
  | .square :: outer =>
    match nextItem first text with
    | .error e => .error e
    | .ok (.closed rest) => passOn false outer rest
    | .ok (.more rest) => .ok (.more rest (.square :: outer))
  | .brace :: outer =>
    match nextMember first text with
    | .error e => .error e
    | .ok (.closed rest) => passOn false outer rest
    | .ok (.more rest) =>
      match passText rest with
      | .error e => .error e
      | .ok rest => (colon rest).map fun rest => .more rest (.brace :: outer)

/-- A scalar that is passed over, or the bracket that it begins with. Numbers may have any size,
    and a numeral that breaks off is malformed. -/
def passFrom (c : Char) (rest : List Char) : Except ReadFault (Option Bracket × List Char) :=
  match c with
  | '[' => .ok (some .square, rest)
  | '\x7b' => .ok (some .brace, rest)
  | '"' => (passText rest).map fun rest => (none, rest)
  | 'n' => (keyword ['u', 'l', 'l'] rest).map fun rest => (none, rest)
  | 't' => (keyword ['r', 'u', 'e'] rest).map fun rest => (none, rest)
  | 'f' => (keyword ['a', 'l', 's', 'e'] rest).map fun rest => (none, rest)
  | c =>
    if c = '-' ∨ c.isDigit then (numeral .malformed (c :: rest)).map fun (_, rest) => (none, rest)
    else .error .malformed

/-- The text that is left of a step over values. -/
def Passed.text : Passed → List Char
  | .complete rest => rest
  | .more text _ => text

theorem length_passOn {first : Bool} {stack : List Bracket} {text : List Char} {p : Passed}
    (h : passOn first stack text = .ok p) : p.text.length ≤ text.length := by
  fun_induction passOn first stack text with
  | case1 =>
    simp only [Except.ok.injEq] at h
    subst h
    simp [Passed.text]
  | case3 first text outer rest hn ih =>
    have := ih h
    have := length_nextItem_closed hn
    omega
  | case4 first text outer rest hn =>
    simp only [Except.ok.injEq] at h
    subst h
    exact length_nextItem_more hn
  | case6 first text outer rest hn ih =>
    have := ih h
    have := length_nextMember (.inl hn)
    omega
  | case8 first text outer rest hn rest' hp =>
    obtain ⟨rest'', hc, ha⟩ := map_eq_ok h
    subst ha
    have := length_nextMember (.inr hn)
    have := length_passText hp
    have := length_colon hc
    simp only [Passed.text]
    omega
  | _ => simp at h

theorem length_passFrom {c : Char} {text rest : List Char} {b : Option Bracket}
    (h : passFrom c text = .ok (b, rest)) : rest.length < (c :: text).length := by
  unfold passFrom at h
  split at h
  case h_3 =>
    obtain ⟨tail, hb, ha⟩ := map_eq_ok h
    simp only [Prod.mk.injEq] at ha
    obtain ⟨_, rfl⟩ := ha
    have := length_passText hb
    simp only [List.length_cons]; omega
  case h_7 =>
    split at h
    · obtain ⟨⟨n, tail⟩, hn, ha⟩ := map_eq_ok h
      simp only [Prod.mk.injEq] at ha
      obtain ⟨_, rfl⟩ := ha
      exact length_numeral hn
    · simp at h
  all_goals first
    | simp only [Except.ok.injEq, Prod.mk.injEq] at h
      obtain ⟨_, rfl⟩ := h
      simp only [List.length_cons, Nat.lt_add_one]
    | obtain ⟨tail, hb, ha⟩ := map_eq_ok h
      simp only [Prod.mk.injEq] at ha
      obtain ⟨_, rfl⟩ := ha
      have := length_keyword hb
      simp only [List.length_cons]; omega

/-- What follows the values inside the open brackets and the brackets themselves. -/
def pass (stack : List Bracket) (text : List Char) : Except ReadFault (List Char) :=
  match hs : skipGap text with
  | [] => .error .truncated
  | c :: tail =>
    match hf : passFrom c tail with
    | .error e => .error e
    | .ok (bracket, rest) =>
      match ho : passOn bracket.isSome (bracket.toList ++ stack) rest with
      | .error e => .error e
      | .ok (.complete rest) => .ok rest
      | .ok (.more text' stack') =>
        have := length_skipGap_le text
        have := length_passFrom hf
        have : text'.length ≤ rest.length := length_passOn ho
        have : (skipGap text).length = (c :: tail).length := by rw [hs]
        pass stack' text'
termination_by text.length

theorem length_pass {stack : List Bracket} {text rest : List Char}
    (h : pass stack text = .ok rest) : rest.length < text.length := by
  fun_induction pass stack text with
  | case4 stack text c tail hs bracket rest' hf rest'' ho =>
    simp only [Except.ok.injEq] at h
    subst h
    have := length_skipGap_le text
    have := length_passFrom hf
    have : rest''.length ≤ rest'.length := length_passOn ho
    rw [hs] at *
    omega
  | case5 stack text c tail hs bracket rest' hf text' stack' ho _ _ _ _ ih =>
    have := ih h
    omega
  | _ => simp at h

/-- Any value, passed over: nesting, numbers and lone surrogates have no limits here. -/
def ignored : Reader Unit where
  run text := (pass [] text).map fun rest => ((), rest)
  shorter := by
    intro text value rest h
    obtain ⟨tail, hp, ha⟩ := map_eq_ok h
    simp only [Prod.mk.injEq] at ha
    obtain ⟨_, rfl⟩ := ha
    exact length_pass hp

/-- A document nested less than `depth + 1` levels deep, put together from its scalars. -/
def tree {α : Type} (leaf : Reader α) (ofItems : List α → α) (ofMembers : List (String × α) → α) :
    (depth : Nat) → Reader α
  | 0 =>
    { run := fun text =>
        match (skipGap text).head? with
        | some '[' => .error .malformed
        | some '\x7b' => .error .malformed
        | _ => leaf.run text
      shorter := by
        intro text value rest h
        split at h
        · simp at h
        · simp at h
        · exact leaf.shorter h }
  | depth + 1 =>
    { run := fun text =>
        match skipGap text with
        | '[' :: rest =>
          (items (tree leaf ofItems ofMembers depth) true rest).map fun (vs, rest) =>
            (ofItems vs, rest)
        | '\x7b' :: rest =>
          (members
            (fun _ key => .ok ((tree leaf ofItems ofMembers depth).map fun v ms => (key, v) :: ms))
            true [] rest).map fun (ms, rest) => (ofMembers ms.reverse, rest)
        | _ => leaf.run text
      shorter := by
        intro text v rest h
        have hle := length_skipGap_le text
        split at h
        · rename_i tail hs
          obtain ⟨⟨vs, tail'⟩, hi, ha⟩ := map_eq_ok h
          simp only [Prod.mk.injEq] at ha
          obtain ⟨_, rfl⟩ := ha
          have := length_items hi
          rw [hs] at hle
          simp only [List.length_cons] at hle
          omega
        · rename_i tail hs
          obtain ⟨⟨ms, tail'⟩, hi, ha⟩ := map_eq_ok h
          simp only [Prod.mk.injEq] at ha
          obtain ⟨_, rfl⟩ := ha
          have := length_members hi
          rw [hs] at hle
          simp only [List.length_cons] at hle
          omega
        · exact leaf.shorter h }

/-- A scalar as a document. -/
def Value.ofScalar : Scalar → Value
  | .null => .null
  | .bool b => .bool b
  | .number n => .number n
  | .text s => .text s

/-- A document nested less than `depth + 1` levels deep. -/
def value : (depth : Nat) → Reader Value := tree (scalar.map Value.ofScalar) .array .object

/-- The deepest nesting of a document. -/
def maxDepth : Nat := 127

/-- One field of a record that is filled in while its members are read. -/
structure Field (σ : Type) where
  name : String
  /-- Has the field been read? -/
  isSet : σ → Bool
  reader : Reader (σ → σ)

/-- The fields of a record in their order, from an array. An array that ends before the last field
    is accepted only if `short` says so. -/
def positional {σ : Type} (short : Bool) : (fields : List (Field σ)) → (first : Bool) → σ →
    List Char → Except ReadFault (σ × List Char)
  | [], _, state, text =>
    match skipGap text with
    | [] => .error .truncated
    | c :: rest => if c = ']' then .ok (state, rest) else .error .malformed
  | field :: fields, first, state, text =>
    match nextItem first text with
    | .error e => .error e
    | .ok (.closed rest) => if short then .ok (state, rest) else .error .mismatch
    | .ok (.more text) =>
      match field.reader.run text with
      | .error e => .error e
      | .ok (update, rest) => positional short fields false (update state) rest

theorem length_positional {σ : Type} {short first : Bool} {fields : List (Field σ)}
    {state result : σ} {text rest : List Char}
    (h : positional short fields first state text = .ok (result, rest)) :
    rest.length < text.length := by
  fun_induction positional short fields first state text with
  | case2 _ _ text tail hs =>
    have hle := length_skipGap_le text
    rw [hs] at hle
    simp only [Except.ok.injEq, Prod.mk.injEq] at h
    obtain ⟨_, rfl⟩ := h
    simp only [List.length_cons] at hle
    omega
  | case5 _ _ _ _ text tail hn =>
    simp only [Except.ok.injEq, Prod.mk.injEq] at h
    obtain ⟨_, rfl⟩ := h
    exact length_nextItem_closed hn
  | case8 field fields first state text text' hn update rest' hv ih =>
    have := ih h
    have := length_nextItem_more hn
    have := field.reader.shorter hv
    omega
  | _ => simp at h

/-- What a key of a record stands for: a field that has not been read yet, or a member that is
    passed over. -/
def keyed {σ : Type} (fields : List (Field σ)) (state : σ) (key : String) :
    Except ReadFault (Reader (σ → σ)) :=
  match fields.find? (·.name = key) with
  | none => .ok (ignored.map fun _ state => state)
  | some field => if field.isSet state then .error .mismatch else .ok field.reader

/-- A record, as an object or as an array of its fields. `finish` says which fields may be
    missing. -/
def record {σ α : Type} (fields : List (Field σ)) (short : Bool) (start : σ)
    (finish : σ → Option α) : Reader α :=
  let filled : Reader σ :=
    { run := fun text =>
        match skipGap text with
        | '[' :: rest => positional short fields true start rest
        | '\x7b' :: rest => members (keyed fields) true start rest
        | _ => .error (otherKind text)
      shorter := by
        intro text v rest h
        have hle := length_skipGap_le text
        split at h
        · rename_i tail hs
          have := length_positional h
          rw [hs] at hle
          simp only [List.length_cons] at hle
          omega
        · rename_i tail hs
          have := length_members h
          rw [hs] at hle
          simp only [List.length_cons] at hle
          omega
        · simp at h }
  filled.refine fun state => match finish state with
    | some a => .ok a
    | none => .error .mismatch

/-- The name of a constructor without arguments. -/
def nameOf {α : Type} (names : List (String × α)) : Reader α :=
  text.refine fun s => match names.find? (·.1 = s) with
    | some (_, a) => .ok a
    | none => .error .mismatch

/-- A name in the place of a key, where nothing but a text is well formed. -/
def keyOf {α : Type} (names : List (String × α)) : Reader α where
  run text :=
    match skipGap text with
    | [] => .error .truncated
    | c :: rest => if c = '"' then (nameOf names).run (c :: rest) else .error .malformed
  shorter := by
    intro text v rest h
    have hle := length_skipGap_le text
    split at h
    · simp at h
    · rename_i c tail hs
      split at h
      · have := (nameOf names).shorter h
        rw [hs] at hle
        omega
      · simp at h

/-- One of several names: as a text, or as the only key of an object whose value is `null`. -/
def oneOf {α : Type} (names : List (String × α)) : Reader α where
  run text :=
    match skipGap text with
    | [] => .error .truncated
    | '"' :: rest => (nameOf names).run ('"' :: rest)
    | '\x7b' :: rest =>
      match (keyOf names).run rest with
      | .error e => .error e
      | .ok (a, rest) =>
        match colon rest with
        | .error e => .error e
        | .ok rest =>
          match unit.run rest with
          | .error e => .error e
          | .ok (_, rest) =>
            match skipGap rest with
            | [] => .error .truncated
            | c :: rest => if c = '\x7d' then .ok (a, rest) else .error .malformed
    | _ => .error .malformed
  shorter := by
    intro text v rest h
    have hle := length_skipGap_le text
    split at h
    · simp at h
    · rename_i tail hs
      have := (nameOf names).shorter h
      rw [hs] at hle
      omega
    · rename_i tail hs
      rw [hs] at hle
      simp only [List.length_cons] at hle
      split at h
      · simp at h
      · rename_i a r₁ h₁
        have := (keyOf names).shorter h₁
        split at h
        · simp at h
        · rename_i r₂ h₂
          have := length_colon h₂
          split at h
          · simp at h
          · rename_i u r₃ h₃
            have := unit.shorter h₃
            have hle' := length_skipGap_le r₃
            split at h
            · simp at h
            · rename_i c r₄ h₄
              rw [h₄] at hle'
              simp only [List.length_cons] at hle'
              split at h
              · simp only [Except.ok.injEq, Prod.mk.injEq] at h
                obtain ⟨_, rfl⟩ := h
                omega
              · simp at h
    · simp at h

/-- Reads a whole text: one value, with nothing but a gap behind it. -/
def decode {α : Type} (r : Reader α) (text : String) : Except ReadFault α :=
  match r.run text.toList with
  | .error e => .error e
  | .ok (a, rest) => if skipGap rest = [] then .ok a else .error .malformed

/-- Reads a document. -/
def Value.parse (text : String) : Except ReadFault Value := decode (value maxDepth) text

end EmbeddingLatency.Json
