import EmbeddingLatency.Proofs.Json.Written

/-!
# Spellings of documents

JSON leaves open how a document is spelled: gaps may stand around every token, and a character has
several spellings inside a text. `Spelled` relates a document to each of its texts.

The entries of an array or an object are `Listed`, whatever an entry is, so that the readers of
items, of members and of the fields of a record share what is said here of commas, gaps and
closing brackets.
-/

set_option autoImplicit false

namespace EmbeddingLatency.Json

/-- Characters that may stand between tokens, and nothing else. -/
def IsSpace (gap : List Char) : Prop := ∀ c ∈ gap, isGap c = true

theorem isSpace_nil : IsSpace [] := by simp [IsSpace]

theorem skipGap_append {gap : List Char} (space : IsSpace gap) (rest : List Char) :
    skipGap (gap ++ rest) = skipGap rest := List.dropWhile_append_of_pos space

/-- What stands in front of an item or a member: a comma, unless it is the first. -/
def separator (first : Bool) : List Char := if first then [] else [',']

/-- A list of entries from behind its opening bracket, or from behind one of them, up to its closing
    bracket. -/
inductive Listed {β : Type} (spells : β → List Char → Prop) (close : Char) :
    (first : Bool) → List β → List Char → Prop where
  | closed {first : Bool} {gap : List Char} (space : IsSpace gap) :
      Listed spells close first [] (gap ++ [close])
  /-- A comma stands in front of every entry but the first, with gaps on both sides. -/
  | entry {first : Bool} {b : β} {later : List β} {before inside text others : List Char}
      (space : IsSpace before) (inner : IsSpace inside) (spelled : spells b text)
      (more : Listed spells close false later others) :
      Listed spells close first (b :: later)
        (before ++ (separator first ++ (inside ++ (text ++ others))))

/-- A member of an object: its key, a colon and its value. -/
inductive Labelled {β : Type} (spells : β → List Char → Prop) : String × β → List Char → Prop where
  | member {key : String} {b : β} {body before behind text : List Char}
      (named : SpellsText key.toList body) (space : IsSpace before) (inner : IsSpace behind)
      (spelled : spells b text) :
      Labelled spells (key, b) ('"' :: (body ++ '"' :: (before ++ ':' :: (behind ++ text))))

/-- The texts of a document, from its first character to its last. -/
inductive Spelled : Written → List Char → Prop where
  | null : Spelled .null "null".toList
  | yes : Spelled (.bool true) "true".toList
  | no : Spelled (.bool false) "false".toList
  | number {token : String} (isNumeral : IsNumeral token.toList) :
      Spelled (.number token) token.toList
  | text {s : String} {body : List Char} (spells : SpellsText s.toList body) :
      Spelled (.text s) ('"' :: (body ++ ['"']))
  | array {items : List Written} {text : List Char} (listed : Listed Spelled ']' true items text) :
      Spelled (.array items) ('[' :: text)
  | object {members : List (String × Written)} {text : List Char}
      (listed : Listed (Labelled Spelled) '\x7d' true members text) :
      Spelled (.object members) ('\x7b' :: text)

/-- The text holds the document, and gaps around it. -/
def Written.StandsIn (w : Written) (text : String) : Prop :=
  ∃ front body back, text.toList = front ++ (body ++ back) ∧ IsSpace front ∧ Spelled w body ∧
    IsSpace back

section Gaps

variable {gap : List Char}

/-- White space, commas and closing brackets do not go on with a number. -/
theorem endsNumber_of_head {text : List Char}
    (ends : ∀ c ∈ text.head?, isGap c = true ∨ c ∈ [',', ']', '\x7d']) : EndsNumber text := by
  have blanks : ∀ c, isGap c = true → c ∈ [' ', '\n', '\t', '\r'] := by simp [isGap, or_assoc]
  have others : ∀ c ∈ [' ', '\n', '\t', '\r'] ++ [',', ']', '\x7d'],
      c.isDigit = false ∧ c ≠ '.' ∧ c ≠ 'e' ∧ c ≠ 'E' := by simp
  exact fun c first => others c (List.mem_append.mpr ((ends c first).imp_left (blanks c)))

theorem endsNumber_space (space : IsSpace gap) : EndsNumber gap :=
  endsNumber_of_head fun c first => .inl (space c (List.mem_of_mem_head? first))

theorem endsNumber_append {c : Char} (space : IsSpace gap) (ends : c ∈ [',', ']', '\x7d'])
    (rest : List Char) : EndsNumber (gap ++ c :: rest) := by
  refine endsNumber_of_head fun d first => ?_
  cases gap with
  | nil =>
    obtain rfl : c = d := by simpa using first
    exact .inr ends
  | cons blank gap =>
    obtain rfl : blank = d := by simpa using first
    exact .inl (space blank List.mem_cons_self)

end Gaps

section Lists

variable {β : Type} {spells : β → List Char → Prop} {close : Char} {first : Bool}

/-- What stands behind an entry does not go on with a number. -/
theorem Listed.endsNumber {bs : List β} {text : List Char}
    (listed : Listed spells close false bs text) (bracket : close ∈ [']', '\x7d'])
    (rest : List Char) : EndsNumber (text ++ rest) := by
  cases listed with
  | closed space =>
    rw [List.append_assoc]
    exact endsNumber_append space (List.mem_cons_of_mem _ bracket) _
  | entry space =>
    rw [List.append_assoc]
    exact endsNumber_append space List.mem_cons_self _

/-- Entries may be listed under other names. -/
theorem Listed.map {γ : Type} {f : γ → β} {cs : List γ} {text : List Char}
    (listed : Listed (fun c => spells (f c)) close first cs text) :
    Listed spells close first (cs.map f) text := by
  induction listed with
  | closed space => exact .closed space
  | entry space inner spelled _ ih => exact .entry space inner spelled ih

/-- Entries that are written with a comma in front of each, and the same gap behind every comma. -/
theorem listed_of_write (write : β → List Char) {inside gap : List Char} (inner : IsSpace inside)
    (space : IsSpace gap) {bs : List β} (spelled : ∀ b ∈ bs, spells b (write b)) :
    Listed spells close false bs
      ((bs.flatMap fun b => ',' :: (inside ++ write b)) ++ (gap ++ [close])) := by
  induction bs with
  | nil => exact .closed space
  | cons b bs ih =>
    have later := ih fun c member => spelled c (List.mem_cons_of_mem b member)
    have here : Listed spells close false (b :: bs) _ :=
      .entry isSpace_nil inner (spelled b List.mem_cons_self) later
    simpa [separator] using here

/-- The first entry has no comma in front of it. -/
theorem listed_of_write_cons (write : β → List Char) {inside gap : List Char}
    (inner : IsSpace inside) (space : IsSpace gap) {b : β} {bs : List β}
    (spelled : ∀ c ∈ b :: bs, spells c (write c)) :
    Listed spells close true (b :: bs)
      (inside ++ (write b ++ ((bs.flatMap fun c => ',' :: (inside ++ write c)) ++
        (gap ++ [close])))) := by
  have later : Listed spells close false bs _ :=
    listed_of_write write inner space fun c member => spelled c (List.mem_cons_of_mem b member)
  have here : Listed spells close true (b :: bs) _ :=
    .entry isSpace_nil inner (spelled b List.mem_cons_self) later
  simpa [separator] using here

end Lists

section Writers

/-- Documents are scalars, arrays or objects; the parts of the latter are smaller. -/
@[elab_as_elim]
theorem Value.induct {motive : Value → Prop} (scalar : ∀ v : Value, v.IsScalar → motive v)
    (array : ∀ items, (∀ v ∈ items, motive v) → motive (.array items))
    (object : ∀ members, (∀ m ∈ members, motive m.2) → motive (.object members)) (v : Value) :
    motive v :=
  match v with
  | .array items => array items fun v _ => Value.induct scalar array object v
  | .object members => object members fun m _ => Value.induct scalar array object m.2
  | .null => scalar .null trivial
  | .bool b => scalar (.bool b) trivial
  | .number n => scalar (.number n) trivial
  | .text s => scalar (.text s) trivial
termination_by sizeOf v
decreasing_by
  · have := List.sizeOf_lt_of_mem ‹_ ∈ items›
    simp only [Value.array.sizeOf_spec]
    omega
  · obtain ⟨key, value⟩ := m
    have := List.sizeOf_lt_of_mem ‹_ ∈ members›
    simp only [Value.object.sizeOf_spec, Prod.mk.sizeOf_spec] at this ⊢
    omega

theorem isSpace_newLine (level : Nat) : IsSpace (newLine level).toList := by
  intro c member
  simp only [newLine, String.toList_append, List.mem_append, String.toList_ofList] at member
  rcases member with line | space
  · obtain rfl : c = '\n' := by simpa using line
    rfl
  · rw [List.eq_of_mem_replicate space]
    rfl

theorem spelled_text (s : String) : Spelled (.text s) (quotedText s).toList := by
  rw [toList_quotedText]
  exact .text (spellsText_escaped s.toList)

/-- The key of a member is written like a text. -/
theorem labelled_of_spelled {key : String} {w : Written} {behind text : List Char}
    (inner : IsSpace behind) (spelled : Spelled w text) :
    Labelled Spelled (key, w) ((quotedText key).toList ++ ':' :: (behind ++ text)) := by
  have member := Labelled.member (spellsText_escaped key.toList) isSpace_nil inner spelled
  simpa [toList_quotedText] using member

theorem Number.spelled (n : Number) : Spelled n.written n.render.toList := by
  cases n with
  | natural n => exact .number (isNumber_natural n false).isNumeral
  | negative n => exact .number (isNumber_natural n true).isNumeral
  | real x =>
    rw [render, written, Written.figure]
    cases kind : Decimal.isFinite x with
    | true => exact .number (isNumber_realText kind).isNumeral
    | false =>
      rw [realText_of_not_isFinite kind]
      exact .null

/-- A scalar is written the same in both layouts, and this is one of its spellings. -/
theorem Value.IsScalar.spelled {v : Value} (isScalar : v.IsScalar) (level : Nat) :
    Spelled v.written v.compact.toList ∧ v.prettyAt level = v.compact := by
  cases v with
  | null => exact ⟨.null, by rw [prettyAt, compact]⟩
  | bool b => cases b with
    | false => exact ⟨.no, by rw [prettyAt, compact]⟩
    | true => exact ⟨.yes, by rw [prettyAt, compact]⟩
  | number n => exact ⟨n.spelled, by rw [prettyAt, compact]⟩
  | text s => exact ⟨spelled_text s, by rw [prettyAt, compact]⟩
  | array items => exact isScalar.elim
  | object members => exact isScalar.elim

/-- A member of an object as it is written, with this gap behind its colon. -/
def writeMember (behind : List Char) (write : Value → List Char) (m : String × Value) : List Char :=
  (quotedText m.1).toList ++ ':' :: (behind ++ write m.2)

theorem compactItems_cons (v : Value) (vs : List Value) :
    (compactItems (v :: vs)).toList =
      v.compact.toList ++ vs.flatMap fun w => ',' :: w.compact.toList := by
  induction vs generalizing v with
  | nil => simp [compactItems]
  | cons w vs ih =>
    rw [compactItems]
    · simp [ih]
    · simp

theorem compactMembers_cons (m : String × Value) (ms : List (String × Value)) :
    (compactMembers (m :: ms)).toList = writeMember [] (·.compact.toList) m ++
      ms.flatMap fun m => ',' :: writeMember [] (·.compact.toList) m := by
  induction ms generalizing m with
  | nil => simp [compactMembers, writeMember]
  | cons n ms ih =>
    rw [compactMembers]
    · simp [ih, writeMember]
    · simp

theorem prettyItems_cons (level : Nat) (v : Value) (vs : List Value) :
    (prettyItems level (v :: vs)).toList = (newLine level).toList ++ ((v.prettyAt level).toList ++
      vs.flatMap fun w => ',' :: ((newLine level).toList ++ (w.prettyAt level).toList)) := by
  induction vs generalizing v with
  | nil => simp [prettyItems]
  | cons w vs ih =>
    rw [prettyItems]
    · simp [ih]
    · simp

theorem prettyMembers_cons (level : Nat) (m : String × Value) (ms : List (String × Value)) :
    (prettyMembers level (m :: ms)).toList = (newLine level).toList ++
      (writeMember [' '] (·.prettyAt level |>.toList) m ++
        ms.flatMap fun m => ',' :: ((newLine level).toList ++
          writeMember [' '] (·.prettyAt level |>.toList) m)) := by
  induction ms generalizing m with
  | nil => simp [prettyMembers, writeMember]
  | cons n ms ih =>
    rw [prettyMembers]
    · simp [ih, writeMember]
    · simp

/-- The items of an array and their closing bracket, laid out with one gap in front of each item and
    another in front of the bracket. -/
theorem listed_items {inside gap : List Char} (write : Value → List Char) (inner : IsSpace inside)
    (space : IsSpace gap) {v : Value} {vs : List Value}
    (spelled : ∀ w ∈ v :: vs, Spelled w.written (write w)) :
    Listed Spelled ']' true ((v :: vs).map Value.written)
      (inside ++ (write v ++ ((vs.flatMap fun w => ',' :: (inside ++ write w)) ++
        (gap ++ [']'])))) := by
  have listed : Listed (fun v : Value => Spelled v.written) ']' true (v :: vs) _ :=
    listed_of_write_cons write inner space spelled
  exact listed.map

/-- The members of an object and their closing brace, laid out like the items of an array. -/
theorem listed_members {behind inside gap : List Char} (write : Value → List Char)
    (aside : IsSpace behind) (inner : IsSpace inside) (space : IsSpace gap) {m : String × Value}
    {ms : List (String × Value)} (spelled : ∀ n ∈ m :: ms, Spelled n.2.written (write n.2)) :
    Listed (Labelled Spelled) '\x7d' true ((m :: ms).map fun m => (m.1, m.2.written))
      (inside ++ (writeMember behind write m ++
        ((ms.flatMap fun n => ',' :: (inside ++ writeMember behind write n)) ++
          (gap ++ ['\x7d'])))) := by
  have each : ∀ n ∈ m :: ms, Labelled Spelled (n.1, n.2.written) (writeMember behind write n) :=
    fun n member => labelled_of_spelled aside (spelled n member)
  have listed : Listed (fun m : String × Value => Labelled Spelled (m.1, m.2.written)) '\x7d' true
      (m :: ms) _ := listed_of_write_cons (writeMember behind write) inner space each
  exact listed.map

/-- What is written without any space is a spelling of the document. -/
theorem Value.spelled_compact (v : Value) : Spelled v.written v.compact.toList := by
  induction v using Value.induct with
  | scalar v isScalar => exact (isScalar.spelled 0).1
  | array items ih =>
    cases items with
    | nil => simpa [written, compact, compactItems] using Spelled.array (.closed isSpace_nil)
    | cons v vs =>
      have listed := Spelled.array (listed_items (·.compact.toList) isSpace_nil isSpace_nil ih)
      simpa [written, compact, compactItems_cons] using listed
  | object members ih =>
    cases members with
    | nil => simpa [written, compact, compactMembers] using Spelled.object (.closed isSpace_nil)
    | cons m ms =>
      have listed := Spelled.object
        (listed_members (·.compact.toList) isSpace_nil isSpace_nil isSpace_nil ih)
      simpa [written, compact, compactMembers_cons] using listed

/-- What is written with one item or member a line is a spelling of the document. -/
theorem Value.spelled_prettyAt (v : Value) (level : Nat) :
    Spelled v.written (v.prettyAt level).toList := by
  induction v using Value.induct generalizing level with
  | scalar v isScalar =>
    obtain ⟨spelled, same⟩ := isScalar.spelled level
    rwa [same]
  | array items ih =>
    cases items with
    | nil => simpa [written, prettyAt] using Spelled.array (.closed isSpace_nil)
    | cons v vs =>
      have listed := Spelled.array (listed_items (·.prettyAt (level + 1) |>.toList)
        (isSpace_newLine (level + 1)) (isSpace_newLine level) fun w member => ih w member _)
      simpa [written, prettyAt, prettyItems_cons] using listed
  | object members ih =>
    cases members with
    | nil => simpa [written, prettyAt] using Spelled.object (.closed isSpace_nil)
    | cons m ms =>
      have blank : IsSpace [' '] := by simp [IsSpace, isGap]
      have listed := Spelled.object (listed_members (·.prettyAt (level + 1) |>.toList) blank
        (isSpace_newLine (level + 1)) (isSpace_newLine level) fun w member => ih w member _)
      simpa [written, prettyAt, prettyMembers_cons] using listed

theorem Value.standsIn_compact (v : Value) : v.written.StandsIn v.compact :=
  ⟨[], _, [], by simp, isSpace_nil, v.spelled_compact, isSpace_nil⟩

theorem Value.standsIn_pretty (v : Value) : v.written.StandsIn v.pretty :=
  ⟨[], _, [], by simp [Value.pretty], isSpace_nil, v.spelled_prettyAt 0, isSpace_nil⟩

end Writers

end EmbeddingLatency.Json
