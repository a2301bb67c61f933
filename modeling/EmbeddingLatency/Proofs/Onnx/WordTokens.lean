import EmbeddingLatency.Onnx.Tokenizer

/-!
# The tokens of word tokenizers

Whatever the text is, the numbers of its tokens are places in the vocabulary (`id_lt_of_encode`),
and there are no more of them than the limit allows (`length_le_of_encode`), provided that the
template has one place for the text and that the special words alone do not exceed the limit. So a
graph needs no more vectors than the tokenizer has words, and no more positions than the limit is.
-/

set_option autoImplicit false

namespace EmbeddingLatency.Onnx.Tokenizer

variable {t : Tokenizer}

theorem id?_lt {word : String} {id : Nat} (found : t.id? word = some id) :
    id < t.vocabulary.length := by
  obtain ⟨⟨name, place⟩, listed, rfl⟩ := Option.map_eq_some_iff.mp found
  have member := List.mem_reverse.mp (List.mem_of_find?_eq_some listed)
  simpa using List.snd_lt_of_mem_zipIdx member

theorem lookUp_lt {word : String} {id : Nat} (found : t.lookUp word = .ok id) :
    id < t.vocabulary.length := by
  unfold lookUp at found
  split at found
  case h_1 place known =>
    cases found
    rcases Option.or_eq_some_iff.mp known with own | ⟨-, unknown⟩
    · exact id?_lt own
    · exact id?_lt unknown
  case h_2 => cases found

theorem lt_of_mapM_lookUp {words : List String} {ids : List Nat}
    (found : words.mapM t.lookUp = .ok ids) :
    ∀ id ∈ ids, id < t.vocabulary.length := by
  induction words generalizing ids with
  | nil =>
    cases found
    simp
  | cons word words ih =>
    rw [List.mapM_cons] at found
    obtain ⟨first, known, found⟩ := bind_eq_ok found
    obtain ⟨others, later, found⟩ := bind_eq_ok found
    cases found
    intro id member
    rcases List.mem_cons.mp member with rfl | member
    · exact lookUp_lt known
    · exact ih later id member

/-- The tokens of a text are those of the template around the first words of the text. -/
theorem tokens_of_encode {limit : Nat} {text : String} {e : Encoding}
    (encoded : t.encode limit text = .ok e) :
    ∃ ids, (∀ id ∈ ids, id < t.vocabulary.length) ∧ ids.length ≤ limit - t.specialCount ∧
      e.ids = (t.template.flatMap (t.partTokens ids)).map fun p => (p.1 : Int) := by
  obtain ⟨ids, found, encoded⟩ := bind_eq_ok encoded
  cases encoded
  refine ⟨ids.take (limit - t.specialCount), ?_, List.length_take_le _ _, rfl⟩
  exact fun id member => lt_of_mapM_lookUp found id (List.mem_of_mem_take member)

/-- The numbers of tokens are places in the vocabulary. -/
theorem id_lt_of_encode (nonempty : t.vocabulary ≠ []) {limit : Nat} {text : String} {e : Encoding}
    (encoded : t.encode limit text = .ok e) : ∀ id ∈ e.ids, 0 ≤ id ∧ id < t.vocabulary.length := by
  obtain ⟨ids, small, -, tokens⟩ := tokens_of_encode encoded
  rw [tokens]
  intro id member
  obtain ⟨⟨place, typeId⟩, token, rfl⟩ := List.mem_map.mp member
  obtain ⟨part, -, made⟩ := List.mem_flatMap.mp token
  have inside : place < t.vocabulary.length := by
    cases part with
    | text kind =>
      obtain ⟨id, listed, same⟩ := List.mem_map.mp made
      cases same
      exact small place listed
    | special word kind =>
      cases List.mem_singleton.mp made
      -- A special word outside of the vocabulary has the number of the first word.
      cases known : t.id? word with
      | none => exact List.length_pos_iff.mpr nonempty
      | some id => exact id?_lt known
  exact ⟨Int.natCast_nonneg _, Int.ofNat_lt.mpr inside⟩

/-- The number of places that the template has for the text. -/
def textCount (t : Tokenizer) : Nat :=
  t.template.countP fun
    | .text _ => true
    | .special _ _ => false

theorem length_tokens (t : Tokenizer) (ids : List Nat) :
    (t.template.flatMap (t.partTokens ids)).length = t.specialCount + t.textCount * ids.length := by
  unfold specialCount textCount
  induction t.template with
  | nil => simp
  | cons part parts ih =>
    cases part with
    | text kind => simp [partTokens, ih, Nat.succ_mul]; omega
    | special word kind => simp [partTokens, ih]; omega

/-- The whole encoding keeps to the limit. -/
theorem length_le_of_encode (once : t.textCount = 1) {limit : Nat} (room : t.specialCount ≤ limit)
    {text : String} {e : Encoding} (encoded : t.encode limit text = .ok e) : e.length ≤ limit := by
  obtain ⟨ids, -, short, tokens⟩ := tokens_of_encode encoded
  rw [Encoding.length, tokens, List.length_map, length_tokens, once]
  omega

end EmbeddingLatency.Onnx.Tokenizer
