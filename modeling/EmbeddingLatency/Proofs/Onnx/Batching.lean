import EmbeddingLatency.Onnx.Embedder
import EmbeddingLatency.Proofs.Onnx.PaddedRows
import EmbeddingLatency.Proofs.Onnx.WordTokens

/-!
# Batches and single texts

A text has the same vector in a batch as by itself. The batch pads it to another length, so the
graph is fed another rectangle and answers another one; but a graph that keeps its texts apart
answers the same vectors for the tokens of the text, and pooling looks at nothing else. The result
of a batch is therefore one vector for each text (`Embedder.embedAll_eq`), and everything else
follows: batches may be put into another order, cut into smaller ones or into single texts.

Graphs may change with every run. What they answer has to be the same in all states that a
model passes through, which are the `steady` ones. Nor does a graph have vectors for every
number and every place: it has to answer encodings that the model's own tokenizer yields, and
may refuse all others.
-/

set_option autoImplicit false

namespace EmbeddingLatency.Onnx

open TokenBatch (batchAt_buffer getElem?_buffer ids_ofEncodings length_buffer length_le_longest
  longest mask_ofEncodings)

variable {G T : Type}

/-- A graph answers vectors of one width for all tokens of a batch, if its texts have `possible`
    encodings. Where a text has a token, its mask bit set, the vector is `own` to the encoding of
    the text and the place of the token in it. Nothing is said of the vectors of other places, nor
    of other encodings. -/
structure TextsApart (runtime : GraphRuntime G) (tokenTypes : Bool) (possible : Encoding → Prop)
    (steady : G → Prop) (width : Nat) (own : Encoding → Nat → Embedding) : Prop where
  wide : 0 < width
  answers : ∀ graph encodings, steady graph → encodings ≠ [] →
    (∀ encoding ∈ encodings, possible encoding ∧ 0 < encoding.length) →
    ∃ flat next,
      runtime.run graph (.ofBatch (.ofEncodings encodings) tokenTypes) =
        (.ok (.reals [encodings.length, longest encodings, width] flat), next) ∧
      steady next ∧
      flat.length = encodings.length * (longest encodings * width) ∧
      ∀ i (encoding : Encoding) j bit, encodings[i]? = some encoding →
        encoding.mask[j]? = some bit → bit ≠ 0 →
          (flat.drop ((i * longest encodings + j) * width)).take width = own encoding j

/-- The vector of a text: what is pooled from the vectors of its own tokens. -/
def textVector (kind : VectorKind) (width : Nat) (own : Encoding → Nat → Embedding)
    (encoding : Encoding) : Embedding :=
  pooled kind width
    (keptRows ((List.range encoding.length).map (own encoding)) encoding.mask)

theorem longest_pos {encodings : List Encoding} (nonempty : encodings ≠ [])
    (filled : ∀ encoding ∈ encodings, 0 < encoding.length) : 0 < longest encodings := by
  obtain ⟨first, others, rfl⟩ := List.exists_cons_of_ne_nil nonempty
  exact Nat.lt_of_lt_of_le (filled first List.mem_cons_self)
    (length_le_longest List.mem_cons_self)

/-- A batch is pooled to the vectors of its texts. -/
theorem pool_textVectors (kind : VectorKind) {width : Nat} (wide : 0 < width)
    {own : Encoding → Nat → Embedding} {encodings : List Encoding} (nonempty : encodings ≠ [])
    (good : ∀ encoding ∈ encodings, encoding.Aligned ∧ 0 < encoding.length) {flat : List Float32}
    (length : flat.length = encodings.length * (longest encodings * width))
    (values : ∀ i (encoding : Encoding) j bit, encodings[i]? = some encoding →
      encoding.mask[j]? = some bit → bit ≠ 0 →
        (flat.drop ((i * longest encodings + j) * width)).take width = own encoding j) :
    pool kind encodings.length (longest encodings) (TokenBatch.ofEncodings encodings).mask
        [encodings.length, longest encodings, width] flat =
      .ok (encodings.map (textVector kind width own)) := by
  have long : 0 < longest encodings :=
    longest_pos nonempty fun encoding member => (good encoding member).2
  have maskLengths : ∀ encoding ∈ encodings, encoding.mask.length = encoding.length :=
    fun encoding member => (good encoding member).1.mask
  rw [mask_ofEncodings, pool_texts kind long wide (length_buffer maskLengths) length]
  congr 1
  refine List.ext_getElem? fun i => ?_
  rw [List.getElem?_map, List.getElem?_map]
  cases found : encodings[i]? with
  | none => simpa using found
  | some encoding =>
    obtain ⟨row, -⟩ := List.getElem?_eq_some_iff.mp found
    have member : encoding ∈ encodings := List.mem_of_getElem? found
    rw [List.getElem?_range row, Option.map_some, Option.map_some, textVector,
      batchAt_buffer maskLengths long found, keptRows_paddedRow]
    congr 2
    refine keptRows_congr fun j bit unmasked set => ?_
    have token : j < encoding.length := by
      rw [← maskLengths encoding member]
      exact (List.getElem?_eq_some_iff.mp unmasked).1
    have column : j < longest encodings := Nat.lt_of_lt_of_le token (length_le_longest member)
    rw [batches_of_full wide (length_batchAt length row), List.getElem?_map,
      List.getElem?_range column, List.getElem?_map, List.getElem?_range token, Option.map_some,
      Option.map_some, batchAt_batchAt column, batchAt, values i encoding j bit found unmasked set]

namespace Embedder

variable [TextEncoder T] {runtime : GraphRuntime G} {steady : G → Prop} {width : Nat}
  {own : Encoding → Nat → Embedding} {e : Embedder G T}

/-- The encodings of texts. -/
def Yields (e : Embedder G T) (encoding : Encoding) : Prop :=
  ∃ text, TextEncoder.encode e.tokenizer e.limit text = .ok encoding

/-- The text has an encoding, with one token at least. -/
def Encodes (e : Embedder G T) (text : String) : Prop :=
  ∃ encoding, TextEncoder.encode e.tokenizer e.limit text = .ok encoding ∧ 0 < encoding.length

/-- The encoding of a text that has one. -/
def encoding (e : Embedder G T) (text : String) : Encoding :=
  (TextEncoder.encode e.tokenizer e.limit text).toOption.getD ⟨[], [], []⟩

theorem Yields.aligned {encoding : Encoding} (yields : e.Yields encoding) : encoding.Aligned :=
  TextEncoder.aligned yields.choose_spec

theorem Encodes.encoded {text : String} (encodes : e.Encodes text) :
    TextEncoder.encode e.tokenizer e.limit text = .ok (e.encoding text) ∧
      0 < (e.encoding text).length := by
  obtain ⟨encoding, encoded, filled⟩ := encodes
  have same : e.encoding text = encoding := by rw [Embedder.encoding, encoded]; rfl
  rw [same]
  exact ⟨encoded, filled⟩

theorem mapM_encode {texts : List String}
    (encode : ∀ text ∈ texts, e.Encodes text) :
    texts.mapM (TextEncoder.encode e.tokenizer e.limit) = .ok (texts.map e.encoding) := by
  induction texts with
  | nil => rfl
  | cons text others ih =>
    rw [List.mapM_cons, (encode text List.mem_cons_self).encoded.1,
      ih fun text member => encode text (List.mem_cons_of_mem _ member)]
    rfl

/-- The vector that a text has by itself. -/
def ownVector (e : Embedder G T) (width : Nat) (own : Encoding → Nat → Embedding) (text : String) :
    Embedding :=
  textVector e.entry.kind width own (e.encoding text)

/-- **One vector for each text.** Each vector of a batch is that of its own text, whatever texts
    stand beside it. -/
theorem embedAll_eq (apart : TextsApart runtime e.tokenTypes e.Yields steady width own)
    (start : steady e.graph) {texts : List String} (encode : ∀ text ∈ texts, e.Encodes text) :
    ∃ graph, steady graph ∧
      e.embedAll runtime texts = (.ok (texts.map (e.ownVector width own)), { e with graph }) := by
  cases texts with
  | nil => exact ⟨e.graph, start, rfl⟩
  | cons first others =>
    let encodings := (first :: others).map e.encoding
    have nonempty : encodings ≠ [] := by simp [encodings]
    have good : ∀ encoding ∈ encodings, e.Yields encoding ∧ 0 < encoding.length := by
      intro encoding member
      obtain ⟨text, listed, rfl⟩ := List.mem_map.mp member
      have ⟨encoded, filled⟩ := (encode text listed).encoded
      exact ⟨⟨text, encoded⟩, filled⟩
    obtain ⟨flat, next, answer, steadyNext, length, values⟩ :=
      apart.answers e.graph encodings start nonempty good
    have batch : e.encode (first :: others) = .ok (.ofEncodings encodings) := by
      rw [Embedder.encode, mapM_encode encode]
      rfl
    have ran : e.runGraph runtime (.ofEncodings encodings) =
        (.ok ([encodings.length, longest encodings, width], flat), { e with graph := next }) := by
      have filled : (TokenBatch.ofEncodings encodings).seqLen ≠ 0 :=
        Nat.ne_of_gt (longest_pos nonempty fun encoding member => (good encoding member).2)
      simp only [runGraph, if_neg filled, answer]
    have vectors := pool_textVectors e.entry.kind apart.wide nonempty
      (fun encoding member => ⟨(good encoding member).1.aligned, (good encoding member).2⟩)
      length values
    rw [List.map_map] at vectors
    refine ⟨next, steadyNext, ?_⟩
    simp only [embedAll, List.isEmpty_cons, Bool.false_eq_true, if_false, batch, ran]
    exact congrArg (·, _) vectors

theorem embed_eq (apart : TextsApart runtime e.tokenTypes e.Yields steady width own)
    (start : steady e.graph) {text : String} (encodes : e.Encodes text) :
    (e.embed runtime text).1 = .ok (e.ownVector width own text) := by
  have encode : ∀ other ∈ [text], e.Encodes other := by simpa using encodes
  obtain ⟨graph, -, batch⟩ := embedAll_eq apart start encode
  simp only [embed, batch, List.map_singleton, List.getLast?_singleton]

/-- Embeds some batches one after the other and puts their vectors together. -/
def embedInTurn (runtime : GraphRuntime G) (e : Embedder G T) :
    List (List String) → Except Fault (List Embedding) × Embedder G T
  | [] => (.ok [], e)
  | texts :: later =>
    match e.embedAll runtime texts with
    | (.error fault, e) => (.error fault, e)
    | (.ok vectors, e) =>
      match embedInTurn runtime e later with
      | (.error fault, e) => (.error fault, e)
      | (.ok others, e) => (.ok (vectors ++ others), e)

theorem embedInTurn_eq (apart : TextsApart runtime e.tokenTypes e.Yields steady width own)
    (start : steady e.graph) {parts : List (List String)}
    (encode : ∀ text ∈ parts.flatten, e.Encodes text) :
    (e.embedInTurn runtime parts).1 = .ok (parts.flatten.map (e.ownVector width own)) := by
  induction parts generalizing e with
  | nil => rfl
  | cons texts later ih =>
    have encodeFirst : ∀ text ∈ texts, e.Encodes text :=
      fun text member => encode text (List.mem_append_left _ member)
    obtain ⟨graph, next, batch⟩ := embedAll_eq apart start encodeFirst
    have others : (({ e with graph } : Embedder G T).embedInTurn runtime later).1 =
        .ok (later.flatten.map (e.ownVector width own)) :=
      ih (e := { e with graph }) apart next
        fun text member => encode text (List.mem_append_right _ member)
    cases rest : ({ e with graph } : Embedder G T).embedInTurn runtime later with
    | mk answer last =>
      rw [rest] at others
      simp only at others
      simp only [embedInTurn, batch, rest, others, List.flatten_cons, List.map_append]

/-- Some vectors are what a model answers to some texts as one batch, and single texts and other
    batches of them are answered alike. -/
structure Agrees (runtime : GraphRuntime G) (steady : G → Prop) (e : Embedder G T)
    (texts : List String) (vectors : List Embedding) : Prop where
  batch : ∃ graph, steady graph ∧ e.embedAll runtime texts = (.ok vectors, { e with graph })
  count : vectors.length = texts.length
  /-- Each text has its own vector, whenever it is embedded alone. -/
  single : ∀ (i : Nat) (text : String), texts[i]? = some text →
    ∃ vector, vectors[i]? = some vector ∧
      ∀ graph, steady graph → (({ e with graph } : Embedder G T).embed runtime text).1 = .ok vector
  /-- The vectors go with their texts to other places of the batch. -/
  rearranged : ∀ pairs : List (String × Embedding), pairs.Perm (texts.zip vectors) →
    ∀ graph, steady graph →
    (({ e with graph } : Embedder G T).embedAll runtime (pairs.map (·.1))).1 =
      .ok (pairs.map (·.2))
  /-- Smaller batches of the same texts have the same vectors. -/
  split : ∀ parts : List (List String), parts.flatten = texts → ∀ graph, steady graph →
    (({ e with graph } : Embedder G T).embedInTurn runtime parts).1 = .ok vectors

/-- **Batching is invisible.** A graph that keeps the texts of a batch apart gives each text of a
    batch the vector that it has alone. -/
theorem batch_agrees_with_single (runtime : GraphRuntime G) (steady : G → Prop) (width : Nat)
    (own : Encoding → Nat → Embedding) (e : Embedder G T)
    (apart : TextsApart runtime e.tokenTypes e.Yields steady width own) (start : steady e.graph)
    (texts : List String) (encode : ∀ text ∈ texts, e.Encodes text) :
    ∃ vectors, e.Agrees runtime steady texts vectors := by
  refine ⟨texts.map (e.ownVector width own), ?_⟩
  refine
    { batch := embedAll_eq apart start encode
      count := List.length_map _
      single := ?single
      rearranged := ?rearranged
      split := ?split }
  case single =>
    intro i text found
    refine ⟨e.ownVector width own text, by rw [List.getElem?_map, found]; rfl, ?_⟩
    intro graph state
    exact embed_eq (e := { e with graph }) apart state (encode text (List.mem_of_getElem? found))
  case rearranged =>
    intro pairs perm graph state
    have paired : ∀ pair ∈ pairs, pair.1 ∈ texts ∧ pair.2 = e.ownVector width own pair.1 := by
      intro pair member
      have listed := perm.subset member
      rw [← List.map_prod_left_eq_zip] at listed
      obtain ⟨text, text_mem, rfl⟩ := List.mem_map.mp listed
      exact ⟨text_mem, rfl⟩
    have encode' : ∀ text ∈ pairs.map (·.1), e.Encodes text := by
      intro text member
      obtain ⟨pair, listed, rfl⟩ := List.mem_map.mp member
      exact encode _ (paired pair listed).1
    obtain ⟨_, _, answer⟩ := embedAll_eq (e := { e with graph }) apart state encode'
    have vectors : (pairs.map (·.1)).map (e.ownVector width own) = pairs.map (·.2) := by
      rw [List.map_map]
      exact List.map_congr_left fun pair member => (paired pair member).2.symm
    rw [answer]
    exact congrArg Except.ok vectors
  case split =>
    rintro parts rfl graph state
    exact embedInTurn_eq (e := { e with graph }) apart state encode

end Embedder

/-- The number of a token. What stands for padding depends on the batch and on how many batches
    there have been. -/
def echo (runs columns : Nat) (id bit : Int) : Float32 :=
  Float32.ofNat (if bit = 0 then runs + columns else id.toNat)

/-- A graph that has so many vectors for numbers and so many for places, and refuses what lies
    beyond. It answers the number of each token. -/
def echoing (numbers places : Nat) : GraphRuntime Nat where
  run runs feed :=
    let ids := (feed.input? "input_ids").getD []
    let mask := (feed.input? "attention_mask").getD []
    let output :=
      if feed.columns ≤ places ∧ ∀ id ∈ ids, 0 ≤ id ∧ id < numbers then
        .ok (.reals [feed.rows, feed.columns, 1] (ids.zipWith (echo runs feed.columns) mask))
      else .error "indices element out of data bounds"
    (output, runs + 1)

theorem run_echoing {numbers places : Nat} {encodings : List Encoding}
    (short : longest encodings ≤ places)
    (known : ∀ id ∈ (TokenBatch.ofEncodings encodings).ids, 0 ≤ id ∧ id < numbers) (runs : Nat)
    (tokenTypes : Bool) :
    (echoing numbers places).run runs (.ofBatch (.ofEncodings encodings) tokenTypes) =
      (.ok (.reals [encodings.length, longest encodings, 1]
        ((TokenBatch.ofEncodings encodings).ids.zipWith (echo runs (longest encodings))
          (TokenBatch.ofEncodings encodings).mask)), runs + 1) := by
  have ids : (Feed.ofBatch (.ofEncodings encodings) tokenTypes).input? "input_ids" =
      some (TokenBatch.ofEncodings encodings).ids := by
    simp [Feed.ofBatch, Feed.input?]
  have mask : (Feed.ofBatch (.ofEncodings encodings) tokenTypes).input? "attention_mask" =
      some (TokenBatch.ofEncodings encodings).mask := by
    simp [Feed.ofBatch, Feed.input?]
  simp only [echoing, ids, mask, Option.getD_some]
  exact congrArg (·, runs + 1) (if_pos ⟨short, known⟩)

/-- The graph keeps texts apart if it has a vector for every word of the tokenizer and for every
    place up to the limit. -/
theorem echoing_textsApart (e : Embedder Nat) (nonempty : e.tokenizer.vocabulary ≠ [])
    (once : e.tokenizer.textCount = 1) (room : e.tokenizer.specialCount ≤ e.limit) :
    TextsApart (echoing e.tokenizer.vocabulary.length e.limit) e.tokenTypes e.Yields
      (fun _ => True) 1
      fun encoding j => [Float32.ofNat (encoding.ids.getD j 0).toNat] where
  wide := Nat.one_pos
  answers := by
    intro runs encodings _ nonempty' good
    have short : longest encodings ≤ e.limit := by
      refine TokenBatch.longest_le_iff.mpr fun encoding member => ?_
      obtain ⟨text, encoded⟩ := (good encoding member).1
      exact Tokenizer.length_le_of_encode once room encoded
    have known : ∀ id ∈ (TokenBatch.ofEncodings encodings).ids,
        0 ≤ id ∧ id < e.tokenizer.vocabulary.length := by
      intro id member
      rcases TokenBatch.mem_buffer member with ⟨encoding, member, listed⟩ | rfl
      · obtain ⟨text, encoded⟩ := (good encoding member).1
        exact Tokenizer.id_lt_of_encode nonempty encoded id listed
      · exact ⟨Int.le_refl 0, Int.natCast_pos.mpr (List.length_pos_iff.mpr nonempty)⟩
    have maskLengths := fun encoding member => (good encoding member).1.aligned.mask
    refine ⟨_, runs + 1, run_echoing short known runs e.tokenTypes, trivial, ?length, ?values⟩
    case length =>
      simp only [ids_ofEncodings, mask_ofEncodings, List.length_zipWith,
        length_buffer fun _ _ => rfl, length_buffer maskLengths, Nat.min_self, Nat.mul_one]
    case values =>
      intro i encoding j bit found unmasked set
      have aligned := (good encoding (List.mem_of_getElem? found)).1.aligned
      have token : j < encoding.length := by
        rw [← aligned.mask]
        exact (List.getElem?_eq_some_iff.mp unmasked).1
      have id : encoding.ids[j]? = some (encoding.ids.getD j 0) := by
        rw [List.getD_eq_getElem?_getD, List.getElem?_eq_getElem token]
        rfl
      rw [Nat.mul_one, List.take_one, List.head?_drop]
      simp only [echo, ids_ofEncodings, mask_ofEncodings, List.getElem?_zipWith,
        getElem?_buffer (fun _ _ => rfl) found token, getElem?_buffer maskLengths found token, id,
        unmasked, if_neg set]
      rfl

/-- A model that knows two words. -/
def twoWords : Embedder Nat where
  entry := ⟨"small", "minilm", .dense⟩
  device := .cpu
  graph := 0
  tokenizer := ⟨["[UNK]", "hello", "world"], "[UNK]", false, Tokenizer.bareTemplate⟩
  limit := 8
  tokenTypes := true
  config := none
  sentence := none

/-- A text of two words has its own vector beside one of three words, and so has that one. The graph
    has vectors for three numbers and eight places. -/
theorem twoWords_batch_agrees : ∃ vectors,
    twoWords.Agrees (echoing 3 8) (fun _ => True) ["hello world", "world hello there"] vectors := by
  have encode : ∀ text ∈ ["hello world", "world hello there"], twoWords.Encodes text := by
    intro text member
    simp only [List.mem_cons, List.not_mem_nil, or_false] at member
    rcases member with rfl | rfl
    · exact ⟨⟨[1, 2], [1, 1], [0, 0]⟩, by rfl, by decide⟩
    · exact ⟨⟨[2, 1, 0], [1, 1, 1], [0, 0, 0]⟩, by rfl, by decide⟩
  have apart := echoing_textsApart twoWords (by decide) (by decide) (by decide)
  exact Embedder.batch_agrees_with_single (echoing 3 8) (fun _ => True) 1 _ twoWords apart
    trivial _ encode

end EmbeddingLatency.Onnx
