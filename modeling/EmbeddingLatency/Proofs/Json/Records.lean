import EmbeddingLatency.Proofs.Json.Ignored
import EmbeddingLatency.Proofs.Json.Typed
import Mathlib.Data.List.Perm.Subperm

/-!
# Records that are read

A record is read into a state that knows which of its fields have been met. `Describes` says that
the states on the way to a value depend on nothing but the names that have been met, one name for
each member of the value; so the order of the members does not matter, and what has not been met in
the end may be missing if the value says there what it says without it (`usual`).
-/

set_option autoImplicit false

namespace EmbeddingLatency.Json

/-- The members whose names `own` has too. -/
def knownMembers (own ms : List (String × Written)) : List (String × Written) :=
  ms.filter fun m => m.1 ∈ own.map (·.1)

/-- The members say what `own` says: none of its members twice, in any order, and members of other
    names between them; what `usual` says too may be left out. -/
structure Restates (own usual ms : List (String × Written)) : Prop where
  once : (knownMembers own ms).Subperm own
  all : ∀ m ∈ own, m ∈ ms ∨ m ∈ usual

/-- The members say what they say. -/
theorem Restates.refl (own usual : List (String × Written)) : Restates own usual own where
  once := List.filter_sublist.subperm
  all _ member := .inl member

variable {σ α : Type} {draft : List String → σ} {fields : List (Field σ)}
  {own usual ms : List (String × Written)}

/-- The field takes the member: where some names have been met, it adds its own. -/
structure Fills (draft : List String → σ) (field : Field σ) (m : String × Written) : Prop where
  named : field.name = m.1
  isSet : ∀ met, field.isSet (draft met) = decide (m.1 ∈ met)
  reads : ∃ update, field.reader.Accepts m.2 update ∧ ∀ met, update (draft met) = draft (m.1 :: met)

/-- The value is written with the members `own`, one for each field, and reading
    them leads to it. -/
structure Describes (fields : List (Field σ)) (start : σ) (finish : σ → Option α)
    (draft : List String → σ) (own usual : List (String × Written)) (a : α) : Prop where
  start : start = draft []
  fills : List.Forall₂ (Fills draft) fields own
  distinct : (own.map (·.1)).Nodup
  complete : ∀ met, (∀ m ∈ own, m.1 ∈ met ∨ m ∈ usual) → finish (draft met) = some a

section Objects

/-- A member of the value has its field under its name. -/
theorem exists_field (fills : List.Forall₂ (Fills draft) fields own)
    (distinct : (own.map (·.1)).Nodup) {m : String × Written} (member : m ∈ own) :
    ∃ field, fields.find? (·.name = m.1) = some field ∧ Fills draft field m := by
  induction fills with
  | nil => cases member
  | @cons field n fields own here later ih =>
    rw [List.map_cons, List.nodup_cons] at distinct
    rcases List.mem_cons.mp member with rfl | member
    · exact ⟨field, by rw [List.find?_cons_of_pos (by simpa using here.named)], here⟩
    · obtain ⟨other, found, fill⟩ := ih distinct.2 member
      have apart : field.name ≠ m.1 := by
        rw [here.named]
        intro same
        exact distinct.1 (same ▸ List.mem_map_of_mem member)
      exact ⟨other, by rw [List.find?_cons_of_neg (by simpa using apart), found], fill⟩

/-- Other names have no field. -/
theorem find?_field_eq_none (fills : List.Forall₂ (Fills draft) fields own) {key : String}
    (unknown : key ∉ own.map (·.1)) : fields.find? (·.name = key) = none := by
  induction fills with
  | nil => rfl
  | cons here later ih =>
    rw [List.map_cons, List.mem_cons, not_or] at unknown
    rw [List.find?_cons_of_neg (by simpa [here.named] using Ne.symm unknown.1)]
    exact ih unknown.2

/-- A member that has not been met fills its field. -/
theorem keyed_known (fills : List.Forall₂ (Fills draft) fields own)
    (distinct : (own.map (·.1)).Nodup) {m : String × Written} (member : m ∈ own)
    {met : List String} (new : m.1 ∉ met) :
    ∃ value update, keyed fields (draft met) m.1 = .ok value ∧ value.Accepts m.2 update ∧
      update (draft met) = draft (m.1 :: met) := by
  obtain ⟨field, found, fill⟩ := exists_field fills distinct member
  obtain ⟨update, accepts, changes⟩ := fill.reads
  refine ⟨field.reader, update, ?_, accepts, changes met⟩
  have fresh : field.isSet (draft met) = false := by rw [fill.isSet, decide_eq_false new]
  simp only [keyed, found, fresh, Bool.false_eq_true, if_false]

/-- A member of another name is passed over. -/
theorem keyed_unknown (fills : List.Forall₂ (Fills draft) fields own) {m : String × Written}
    (unknown : m.1 ∉ own.map (·.1)) (state : σ) :
    ∃ value, keyed fields state m.1 = .ok value ∧ value.Accepts m.2 id := by
  refine ⟨ignored.map fun _ state => state, ?_, (ignored_accepts m.2).map fun _ state => state⟩
  simp only [keyed, find?_field_eq_none fills unknown]

/-- The members of an object fill their fields, in whatever order they come. -/
theorem members_keyed (fills : List.Forall₂ (Fills draft) fields own)
    (distinct : (own.map (·.1)).Nodup) {first : Bool} {text : List Char}
    (listed : Listed (Labelled Spelled) '\x7d' first ms text) (rest : List Char) (met : List String)
    (same : ∀ m ∈ knownMembers own ms, m ∈ own)
    (once : ((knownMembers own ms).map (·.1) ++ met).Nodup) :
    members (keyed fields) first (draft met) (text ++ rest) =
      .ok (draft (((knownMembers own ms).map (·.1)).reverse ++ met), rest) := by
  induction listed generalizing met with
  | closed space =>
    rw [List.append_assoc]
    exact members_closed (nextMember_close space rest)
  | @entry first m later before inside text others space inner labelled more ih =>
    have ends := more.endsNumber (by decide) rest
    simp only [List.append_assoc]
    by_cases known : m.1 ∈ own.map (·.1)
    -- Its name joins those that have been met, and none of the later members may have it again.
    · have split : knownMembers own (m :: later) = m :: knownMembers own later :=
        List.filter_cons_of_pos (by simpa using known)
      rw [split] at same once ⊢
      rw [List.map_cons, List.cons_append] at once
      have new : m.1 ∉ met := fun member =>
        (List.nodup_cons.mp once).1 (List.mem_append_right _ member)
      obtain ⟨value, update, allowed, accepts, changes⟩ :=
        keyed_known fills distinct (same m List.mem_cons_self) new
      rw [members_labelled space inner labelled ends allowed accepts, changes,
        ih (m.1 :: met) (fun n member => same n (List.mem_cons_of_mem m member))
          (List.perm_middle.nodup_iff.mpr once)]
      simp
    · have split : knownMembers own (m :: later) = knownMembers own later :=
        List.filter_cons_of_neg (by simpa using known)
      rw [split] at same once ⊢
      obtain ⟨value, allowed, accepts⟩ := keyed_unknown fills known (draft met)
      rw [members_labelled space inner labelled ends allowed accepts]
      exact ih met same once

end Objects

section Arrays

/-- The items of an array fill the fields in their order. -/
theorem positional_listed (fills : List.Forall₂ (Fills draft) fields own) {short first : Bool}
    {text : List Char} (listed : Listed Spelled ']' first (own.map (·.2)) text) (rest : List Char)
    (met : List String) :
    positional short fields first (draft met) (text ++ rest) =
      .ok (draft ((own.map (·.1)).reverse ++ met), rest) := by
  -- The fields are gone through; the items are as many, so their list ends where the fields do.
  induction fills generalizing first text met with
  | nil =>
    cases listed with
    | closed space =>
      rw [positional, List.append_assoc, skipGap_append space, List.singleton_append,
        skipGap_cons rfl]
      simp
  | @cons field m fields own here later ih =>
    obtain ⟨update, accepts, changes⟩ := here.reads
    rw [List.map_cons] at listed
    cases listed with
    | @entry _ _ _ before inside text behind space inner spelled more =>
      have found := nextItem_spelled first space inner spelled (behind ++ rest)
      have read := accepts text spelled _ _ (more.endsNumber (by decide) rest)
        (spelled.skipGap_append isSpace_nil _)
      rw [List.nil_append] at read
      simp only [List.append_assoc]
      rw [positional]
      simp only [found, read, changes]
      rw [ih more]
      simp

end Arrays

section Values

variable {start : σ} {finish : σ → Option α} {a : α} {short : Bool}

/-- No name comes twice among the members that restate those of a value. -/
theorem Restates.nodup (restates : Restates own usual ms) (distinct : (own.map (·.1)).Nodup) :
    ((knownMembers own ms).map (·.1)).Nodup := by
  obtain ⟨kept, perm, sublist⟩ := restates.once
  have kept : (kept.map (·.1)).Nodup := distinct.sublist (sublist.map (·.1))
  exact (perm.map (·.1)).nodup_iff.mp kept

/-- A value is read from an object with any members that restate its own. -/
theorem Describes.accepts_object (describes : Describes fields start finish draft own usual a)
    (restates : Restates own usual ms) :
    Reader.Accepts (record fields short start finish) (.object ms) a := by
  intro _ spelled input rest _ found
  cases spelled with
  | object listed =>
    have read := members_keyed describes.fills describes.distinct listed rest []
      (fun _ member => restates.once.subset member)
      (by simpa using restates.nodup describes.distinct)
    have complete : finish (draft (((knownMembers own ms).map (·.1)).reverse ++ [])) = some a := by
      refine describes.complete _ fun m member => (restates.all m member).imp_left fun stated => ?_
      have known : m ∈ knownMembers own ms :=
        List.mem_filter.mpr ⟨stated, by simpa using ⟨m.2, member⟩⟩
      simpa using ⟨m.2, known⟩
    rw [List.cons_append] at found
    simp only [record, Text.Reader.refine, found, describes.start, read, complete]

/-- A value is read from the array of what its members say. -/
theorem Describes.accepts_array (describes : Describes fields start finish draft own usual a) :
    Reader.Accepts (record fields short start finish) (.array (own.map (·.2))) a := by
  intro _ spelled input rest _ found
  cases spelled with
  | array listed =>
    have read : positional short fields true (draft []) _ = _ :=
      positional_listed describes.fills listed rest []
    have complete : finish (draft ((own.map (·.1)).reverse ++ [])) = some a :=
      describes.complete _ fun m member => .inl (by simpa using ⟨m.2, member⟩)
    rw [List.cons_append] at found
    simp only [record, Text.Reader.refine, found, describes.start, read, complete]

end Values

section Invariants

variable {P : σ → Prop} {start : σ} {finish : σ → Option α} {Q : α → Prop} {short : Bool}
  (keeps : ∀ field ∈ fields, field.reader.Yields fun update => ∀ state, P state → P (update state))

include keeps

/-- What the fields preserve is preserved by an array of them. -/
theorem positional_keeps {first : Bool} {state result : σ} {text rest : List Char} (holds : P state)
    (read : positional short fields first state text = .ok (result, rest)) : P result := by
  fun_induction positional short fields first state text with
  | case2 => exact (Prod.mk.inj (Except.ok.inj read)).1 ▸ holds
  | case5 => exact (Prod.mk.inj (Except.ok.inj read)).1 ▸ holds
  | case8 field fields first state text text' found update behind taken ih =>
    have kept := keeps field List.mem_cons_self _ update _ taken state holds
    exact ih (fun other member => keeps other (List.mem_cons_of_mem field member)) kept read
  | _ => cases read

/-- What the fields preserve is preserved by a member, whether it has a field or not. -/
theorem keyed_yields {state : σ} {key : String} {value : Reader (σ → σ)}
    (allowed : keyed fields state key = .ok value) :
    value.Yields fun update => ∀ state, P state → P (update state) := by
  unfold keyed at allowed
  split at allowed
  case h_1 =>
    have passed : Reader.Yields ignored fun _ => True := fun _ _ _ _ => trivial
    obtain rfl := Except.ok.inj allowed
    exact passed.map fun _ _ state holds => holds
  case h_2 field found =>
    split at allowed
    case isTrue => cases allowed
    case isFalse =>
      obtain rfl := Except.ok.inj allowed
      exact keeps field (List.mem_of_find?_eq_some found)

/-- What the fields preserve is preserved by an object. -/
theorem members_keeps {first : Bool} {state result : σ} {text rest : List Char} (holds : P state)
    (read : members (keyed fields) first state text = .ok (result, rest)) : P result := by
  fun_induction members (keyed fields) first state text with
  | case2 => exact (Prod.mk.inj (Except.ok.inj read)).1 ▸ holds
  | case7 first state text inside _ key _ _ value allowed _ _ update _ taken _ _ _ _ ih =>
    exact ih (keyed_yields keeps allowed _ update _ taken state holds) read
  | _ => cases read

/-- What holds at the start and is preserved by the fields holds of the state that a value is taken
    from. -/
theorem record_yields (holds : P start)
    (finished : ∀ state a, P state → finish state = some a → Q a) :
    Reader.Yields (record fields short start finish) Q := by
  intro text a rest read
  obtain ⟨state, found, wanted⟩ := refine_eq_ok read
  have kept : P state := by
    simp only at found
    split at found
    case h_1 => exact positional_keeps keeps holds found
    case h_2 => exact members_keeps keeps holds found
    case h_3 => cases found
  split at wanted
  case h_1 result taken => exact Except.ok.inj wanted ▸ finished state result kept taken
  case h_2 => cases wanted

end Invariants

section RoundTrips

/-- Values of a type are written as objects of their own members and read back from their JSON: from
    the text that is written for them, from every spelling of an object with members that restate
    those of the value, and from every spelling of the array of what the members say. So what is
    read from any text at all is written and read back. -/
structure RoundTrips {α : Type} (r : Reader α) (toJson : α → Value)
    (own : α → List (String × Written)) (Fits : α → Prop) (usual : List (String × Written)) :
    Prop where
  written : ∀ a, (toJson a).written = .object (own a)
  compact : ∀ a, Fits a → decode r (toJson a).compact = .ok a
  object : ∀ a, Fits a → ∀ ms text, Restates (own a) usual ms →
    (Written.object ms).StandsIn text → decode r text = .ok a
  array : ∀ a, Fits a → ∀ text, (Written.array ((own a).map (·.2))).StandsIn text →
    decode r text = .ok a
  again : ∀ text a, decode r text = .ok a → Fits a ∧ decode r (toJson a).compact = .ok a

/-- Whatever a reader yields holds of what is read from a whole text. -/
theorem Reader.Yields.decode {α : Type} {r : Reader α} {P : α → Prop} (yields : r.Yields P)
    {text : String} {a : α} (read : decode r text = .ok a) : P a := by
  unfold Json.decode at read
  split at read
  case h_1 => cases read
  case h_2 b rest found =>
    split at read
    case isTrue => exact Except.ok.inj read ▸ yields _ b rest found
    case isFalse => cases read

/-- A record whose values are described by their own members is read back. -/
theorem roundTrips_record {fields : List (Field σ)} {short : Bool} {start : σ}
    {finish : σ → Option α} {toJson : α → Value} {own : α → List (String × Written)}
    {Fits : α → Prop} (draft : α → List String → σ)
    (written : ∀ a, (toJson a).written = .object (own a))
    (describes : ∀ a, Fits a → Describes fields start finish (draft a) (own a) usual a)
    (yields : Reader.Yields (record fields short start finish) Fits) :
    RoundTrips (record fields short start finish) toJson own Fits usual := by
  have object : ∀ a, Fits a → ∀ ms text, Restates (own a) usual ms →
      (Written.object ms).StandsIn text → decode (record fields short start finish) text = .ok a :=
    fun a fits ms text restates stands => stands.decode ((describes a fits).accepts_object restates)
  have compact : ∀ a, Fits a →
      decode (record fields short start finish) (toJson a).compact = .ok a := fun a fits =>
    object a fits (own a) _ (.refl (own a) usual) (written a ▸ (toJson a).standsIn_compact)
  exact {
    written, compact, object
    array a fits text stands := stands.decode (describes a fits).accepts_array
    again text a read := ⟨yields.decode read, compact a (yields.decode read)⟩ }

/-- A field that sets what its reader gives takes a member that the reader accepts. -/
theorem fills_of_accepts {σ β : Type} {draft : List String → σ} {r : Reader β} {w : Written} {v : β}
    {name : String} {isSet : σ → Bool} {set : β → σ → σ} (accepts : r.Accepts w v)
    (shown : ∀ met, isSet (draft met) = decide (name ∈ met))
    (changes : ∀ met, set v (draft met) = draft (name :: met)) :
    Fills draft ⟨name, isSet, Text.Reader.map r set⟩ (name, w) :=
  ⟨rfl, shown, set v, accepts.map set, changes⟩

end RoundTrips

end EmbeddingLatency.Json
