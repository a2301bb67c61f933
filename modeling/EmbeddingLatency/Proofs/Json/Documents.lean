import EmbeddingLatency.Proofs.Json.Entries

/-!
# Documents that are read back

Any spelling of a document that is not nested too deeply is read as this document, and so is the
text that is written for it. The induction over documents is the recursion of `tree` over the depth;
items and members are an induction over their list, once for each.
-/

set_option autoImplicit false

namespace EmbeddingLatency.Json

/-- The document lies inside of at most `depth` brackets. -/
def Value.Within : (depth : Nat) → Value → Prop
  | 0, .array _ => False
  | 0, .object _ => False
  | depth + 1, .array items => ∀ v ∈ items, v.Within depth
  | depth + 1, .object members => ∀ m ∈ members, m.2.Within depth
  | _, _ => True

section Documents

variable {α : Type} {item : Reader α} {depth : Nat}

/-- The reader of an entry: its value is put in front of what has been read so far. -/
def entryOf (item : Reader α) (_ : List (String × α)) (key : String) :
    Except ReadFault (Reader (List (String × α) → List (String × α))) :=
  .ok (item.map fun a read => (key, a) :: read)

/-- The members of an object are read up to its closing brace, and the last of them
    stands in front. -/
theorem members_listed {ms : List (String × Written)} {first : Bool} {text : List Char}
    (listed : Listed (Labelled Spelled) '\x7d' first ms text) (f : Written → α)
    (accepts : ∀ m ∈ ms, item.Accepts m.2 (f m.2)) (read : List (String × α)) (rest : List Char) :
    members (entryOf item) first read (text ++ rest) =
      .ok ((ms.map fun m => (m.1, f m.2)).reverse ++ read, rest) := by
  induction listed generalizing read with
  | closed space =>
    rw [List.append_assoc]
    exact members_closed (nextMember_close space rest)
  | @entry first m later before inside text others space inner labelled more ih =>
    have here := (accepts m List.mem_cons_self).map fun a read => (m.1, a) :: read
    simp only [List.append_assoc]
    rw [members_labelled space inner labelled (more.endsNumber (by decide) rest) rfl here,
      ih fun n member => accepts n (List.mem_cons_of_mem m member)]
    simp

end Documents

section Scalars

variable {w : Written} {text : List Char}

/-- The letters that a word begins with begin neither a number nor a bracket. -/
theorem word_beginnings : ∀ c ∈ ['n', 't', 'f', '"'],
    ¬(c = '-' ∨ c.isDigit = true) ∧ c ≠ '[' ∧ c ≠ '\x7b' := by simp

/-- A document without parts is taken as a scalar, and begins with no bracket. -/
theorem Spelled.scalar_takes (spelled : Spelled w text) (isScalar : w.IsScalar) :
    Reader.Takes Written.scalar text w ∧ ∃ c tail, text = c :: tail ∧ c ≠ '[' ∧ c ≠ '\x7b' := by
  have word {c : Char} {tail : List Char} {s : Scalar} {w : Written}
      (first : c ∈ ['n', 't', 'f', '"'])
      (read : ∀ rest, scalarFrom c (tail ++ rest) = .ok (s, rest))
      (kind : Written.ofScalar? s = some w) : Reader.Takes Written.scalar (c :: tail) w ∧
        ∃ d others, c :: tail = d :: others ∧ d ≠ '[' ∧ d ≠ '\x7b' :=
    ⟨Written.scalar_takes (word_beginnings c first).1 read kind, c, tail, rfl,
      (word_beginnings c first).2⟩
  cases spelled with
  | null => exact word (by decide) (fun _ => rfl) rfl
  | yes => exact word (by decide) (fun _ => rfl) rfl
  | no => exact word (by decide) (fun _ => rfl) rfl
  | number isNumeral =>
    obtain ⟨c, others, text, first⟩ := isNumeral.exists_cons
    refine ⟨Written.scalar_takes_number isNumeral, c, others, text, ?_⟩
    constructor <;> rintro rfl <;> simp at first
  | text spells => exact word (by decide) (scalarFrom_text spells) (by simp [Written.ofScalar?])
  | array => exact isScalar.elim
  | object => exact isScalar.elim

/-- Documents without parts are accepted at any depth. -/
theorem tree_accepts_scalar (isScalar : w.IsScalar) (depth : Nat) :
    Reader.Accepts (tree Written.scalar .array .object depth) w w := by
  intro text spelled input rest ends found
  obtain ⟨leaf, c, tail, rfl, square, brace⟩ := spelled.scalar_takes isScalar
  have read := leaf input rest ends found
  cases depth with
  | zero =>
    rw [tree]
    simp only [found, List.cons_append, List.head?_cons]
    split
    case h_1 bracket => exact absurd (Option.some.inj bracket) square
    case h_2 bracket => exact absurd (Option.some.inj bracket) brace
    case h_3 => exact read
  | succ depth =>
    rw [tree]
    simp only [found, List.cons_append]
    split
    case h_1 bracket => exact absurd (List.cons.inj bracket).1 square
    case h_2 bracket => exact absurd (List.cons.inj bracket).1 brace
    case h_3 => exact read

end Scalars

section Trees

variable {depth : Nat}

/-- An array is accepted, if its items are accepted one level deeper. -/
theorem tree_accepts_array {ws : List Written}
    (accepts : ∀ w ∈ ws, Reader.Accepts (tree Written.scalar .array .object depth) w w) :
    Reader.Accepts (tree Written.scalar .array .object (depth + 1)) (.array ws) (.array ws) := by
  intro text spelled input rest _ found
  cases spelled with
  | array listed =>
    have read := items_listed listed (List.forall₂_same.mpr accepts) rest
    rw [List.cons_append] at found
    simp only [tree, found, read]
    rfl

/-- An object is accepted, if the values of its members are accepted one level deeper. -/
theorem tree_accepts_object {ms : List (String × Written)}
    (accepts : ∀ m ∈ ms, Reader.Accepts (tree Written.scalar .array .object depth) m.2 m.2) :
    Reader.Accepts (tree Written.scalar .array .object (depth + 1)) (.object ms) (.object ms) := by
  intro text spelled input rest _ found
  cases spelled with
  | object listed =>
    have read := members_listed listed id accepts [] rest
    unfold entryOf at read
    rw [List.cons_append] at found
    simp only [tree, found, read, Except.map]
    simp

/-- A document is accepted by a reader that allows for its depth. -/
theorem Value.tree_accepts {v : Value} (within : v.Within depth) :
    Reader.Accepts (tree Written.scalar .array .object depth) v.written v.written := by
  induction depth generalizing v with
  | zero =>
    cases v with
    | array items => exact within.elim
    | object members => exact within.elim
    | _ => exact tree_accepts_scalar (IsScalar.written (by exact trivial)) 0
  | succ depth ih =>
    cases v with
    | array items =>
      rw [written, writtenItems_eq_map]
      exact tree_accepts_array (List.forall_mem_map.mpr fun v member => ih (within v member))
    | object members =>
      rw [written, writtenMembers_eq_map]
      exact tree_accepts_object (List.forall_mem_map.mpr fun m member => ih (within m member))
    | _ => exact tree_accepts_scalar (IsScalar.written (by exact trivial)) (depth + 1)

/-- The text of a document is read back as what was written. -/
theorem Written.parse_pretty {v : Value} (within : v.Within maxDepth) :
    Written.parse v.pretty = .ok v.written :=
  v.standsIn_pretty.decode (Value.tree_accepts within)

end Trees

end EmbeddingLatency.Json
