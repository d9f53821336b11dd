import FilterQuery.Proofs.FilterMap.Insertion
import FilterQuery.Proofs.FilterMap.Payload
import FilterQuery.Proofs.Json.Writer

/-!
# Filter maps and their payloads

Between filters and the texts that they are sent as stands a relation: a text renders a list of
filters in written order (`Payload.Renders`).  A list has many renderings, for blanks, escapes, the
two forms of entries, the two names of values and members without meaning are all free.

**Shape.** What a payload must look like is also said of its tree alone (`Node.IsPayload`), without
reference to what it means.

**Results.**
* `parse_renderings`: every rendering is read back, within the limits.
* `parse_shape`: nothing but payloads is accepted, and all that is not one is refused as such.
-/

namespace FilterQuery

open Json

/-- The text of a payload of some filters. -/
def Payload.Renders (fs : List Filter) (payload : String) : Prop :=
  ∃ n, Node.Spelled n payload.toList ∧ Payload.Means n fs

namespace Payload

/-- A payload of some filters as data, with each entry as an array of its two parts. -/
def toJson (fs : List Filter) : Json :=
  .object (fs.map fun f => (f.name, .array (f.entries.map fun e =>
    .array [.array (e.values.map .string), .string e.operator])))

/-- The value that is written for filters means them. -/
theorem means_toJson (fs : List Filter) :
    Means (Node.ofJson (toJson fs)) fs := by
  refine ⟨_, rfl, ?_⟩
  rw [Node.ofMembers_eq_map, List.map_map, List.forall₂_map_left_iff, List.forall₂_map_right_iff,
    List.forall₂_same]
  intro f _
  refine .mk ⟨_, rfl, ?_⟩
  rw [Node.ofItems_eq_map, List.map_map, List.forall₂_map_left_iff, List.forall₂_same]
  intro e _
  refine .pair (.many ⟨_, rfl, ?_⟩) rfl
  rw [Node.ofItems_eq_map, List.map_map, List.forall₂_map_left_iff, List.forall₂_same]
  exact fun _ _ => rfl

/-- Every list of filters has a rendering. -/
theorem exists_renders (fs : List Filter) :
    ∃ payload, Renders fs payload :=
  ⟨Json.pretty (toJson fs), _, spelled_pretty (toJson fs), means_toJson fs⟩

end Payload

namespace Json
namespace Node

/-- A string of the grammar whose units are those of a text. -/
def IsTextual (n : Node) : Prop :=
  ∃ x, n.IsText x

/-- A string, or an array of strings only. -/
def IsValuesPart (n : Node) : Prop :=
  n.IsTextual ∨ ∃ items, n = .array items ∧ ∀ item ∈ items, item.IsTextual

/-- The values of the members of an object that have one of the given names. -/
def valuesUnder (names : List String) (members : List (List Nat × Node)) : List Node :=
  (members.filter fun m => m.1 ∈ names.map textUnits).map Prod.snd

/-- An array of exactly the two parts of an entry, or an object in which exactly one member has a
name of either part. -/
def IsEntryShaped (n : Node) : Prop :=
  ∃ v o, v.IsValuesPart ∧ o.IsTextual ∧
    (n = .array [v, o] ∨
      ∃ members, n = .object members ∧ valuesUnder ["value", "values"] members = [v] ∧
        valuesUnder ["op"] members = [o])

/-- An object all of whose members are arrays of entries. -/
def IsPayload (n : Node) : Prop :=
  ∃ members, n = .object members ∧
    ∀ m ∈ members, ∃ entries, m.2 = .array entries ∧ ∀ e ∈ entries, e.IsEntryShaped

end Node
end Json

namespace Payload

variable {n : Node} {fs : List Filter}

theorem valuesUnder_spelledNames
    {names : List String} {p : String → Prop} [DecidablePred p]
    (hp : ∀ name, p name ↔ name ∈ names)
    (ms : List (String × Node)) :
    Node.valuesUnder names (spelledNames ms) = fieldValues p ms := by
  have hname : ∀ name, textUnits name ∈ names.map textUnits ↔ p name := by
    intro name
    rw [List.mem_map_of_injective fun _ _ h => textUnits_injective h, hp]
  induction ms with
  | nil =>
      rfl
  | cons m ms ih =>
      obtain ⟨name, n⟩ := m
      rw [spelledNames, List.map_cons, ← spelledNames, Node.valuesUnder]
      by_cases h : p name
      · rw [List.filter_cons_of_pos (by simpa using (hname name).2 h), fieldValues_cons_of_pos h,
          ← ih]
        rfl
      · rw [List.filter_cons_of_neg (by simpa using fun h' => h ((hname name).1 h')),
          fieldValues_cons_of_neg h, ← ih]
        rfl

theorem IsValues.shaped
    {xs : List String}
    (h : IsValues n xs) :
    n.IsValuesPart := by
  cases h with
  | one hx =>
      exact .inl ⟨_, hx⟩
  | many hxs =>
      obtain ⟨items, rfl, hitems⟩ := hxs
      exact .inr ⟨items, rfl, forall_mem_of_forall₂ hitems fun _ x hx => ⟨x, hx⟩⟩

theorem IsEntry.shaped
    {e : FilterEntry}
    (h : IsEntry n e) :
    n.IsEntryShaped := by
  cases h with
  | @pair v o _ _ hv ho =>
      exact ⟨v, o, hv.shaped, ⟨_, ho⟩, .inl rfl⟩
  | @object ms v o _ _ hvalues hoperator hv ho =>
      refine ⟨v, o, hv.shaped, ⟨_, ho⟩, .inr ⟨spelledNames ms, rfl, ?_, ?_⟩⟩
      · rw [valuesUnder_spelledNames (p := IsValuesName), hvalues]
        intro name
        simp [IsValuesName, or_comm]
      · rw [valuesUnder_spelledNames (p := IsOperatorName), hoperator]
        intro name
        simp [IsOperatorName]

theorem Means.shaped
    (h : Means n fs) :
    n.IsPayload := by
  obtain ⟨members, rfl, hmembers⟩ := h
  refine ⟨members, rfl, forall_mem_of_forall₂ hmembers ?_⟩
  rintro _ _ ⟨items, rfl, hitems⟩
  exact ⟨items, rfl, forall_mem_of_forall₂ hitems fun _ _ he => he.shaped⟩

/-- The names of the members are those of the filters, in written order. -/
theorem Means.names
    {members : List (List Nat × Node)}
    (h : Means (.object members) fs) :
    members.map Prod.fst = (fs.map Filter.name).map textUnits := by
  obtain ⟨_, ⟨⟩, hmembers⟩ := h
  induction fs generalizing members with
  | nil =>
      cases hmembers
      rfl
  | cons f fs ih =>
      cases hmembers with
      | cons hm hms =>
          cases hm
          rw [List.map_cons, ih hms]
          rfl

end Payload

namespace FilterMap

open Payload

variable {payload : String} {fs : List Filter}

/-- A payload with too many bytes is refused before it is read. -/
theorem parse_eq_of_tooLong
    (h : maxBytes < payload.utf8ByteSize) :
    parse payload = .error (.payloadTooLarge maxBytes) :=
  if_pos h

/-- A text that renders filters is read as their map unless there are too many names. -/
theorem parse_eq_of_renders
    (hbytes : payload.utf8ByteSize ≤ maxBytes)
    (h : Renders fs payload) :
    parse payload =
      if maxFilters < (fs.map Filter.name).dedup.length then .error (.tooManyFilters maxFilters)
      else .ok (ofList fs) := by
  rw [parse, if_neg (Nat.not_lt.2 hbytes), readText_eq_ok_iff.2 h]
  simp only [size_ofList]

/-- A text that renders no filters is refused. -/
theorem parse_eq_of_not_renders
    (hbytes : payload.utf8ByteSize ≤ maxBytes)
    (h : ∀ fs, ¬ Renders fs payload) :
    ∃ reason, parse payload = .error (.invalidPayload reason) := by
  rw [parse, if_neg (Nat.not_lt.2 hbytes)]
  split
  · rename_i problem _
    exact ⟨_, rfl⟩
  · rename_i fs hread
    exact absurd (readText_eq_ok_iff.1 hread) (h fs)

/-- Only a text that renders filters is accepted. -/
theorem exists_renders_of_parse_eq_ok
    {m : FilterMap}
    (h : parse payload = .ok m) :
    ∃ fs, Renders fs payload ∧ (fs.map Filter.name).dedup.length ≤ maxFilters ∧ m = ofList fs := by
  unfold parse at h
  split at h
  · cases h
  · split at h
    · cases h
    · rename_i fs hread
      simp only [size_ofList] at h
      split at h
      · cases h
      · rename_i hsize
        cases h
        exact ⟨fs, readText_eq_ok_iff.1 hread, Nat.not_lt.1 hsize, rfl⟩

/-- A text beyond the limit of bytes is refused for its size.  Of a text within it that renders
filters, the names are counted: beyond the limit of filters it is refused for their number, and else
it gives for each name the entries of the last filter of that name. -/
theorem parse_renderings (payload : String) :
    (65536 < payload.utf8ByteSize → parse payload = .error (.payloadTooLarge 65536)) ∧
      ∀ fs, Renders fs payload → payload.utf8ByteSize ≤ 65536 →
        (50 < (fs.map Filter.name).dedup.length →
          parse payload = .error (.tooManyFilters 50)) ∧
        ((fs.map Filter.name).dedup.length ≤ 50 →
          ∃ m, parse payload = .ok m ∧ ∀ name, m.find? name = lastEntries? fs name) := by
  refine ⟨parse_eq_of_tooLong, fun fs h hbytes => ⟨fun hcount => ?_, fun hcount => ?_⟩⟩
  · rw [parse_eq_of_renders hbytes h]
    exact if_pos hcount
  · refine ⟨ofList fs, ?_, fun name => find?_ofList fs name⟩
    rw [parse_eq_of_renders hbytes h]
    exact if_neg (Nat.not_lt.2 hcount)

/-- A payload in which the second of two members with one name, written with an escape, replaces the
first; its entries are in both forms, with a member that means nothing and a pair of surrogates. -/
def replacedBrand : String :=
  "\x7b\"brand\":[\x7b\"op\":\"eq\",\"value\":\"audi\"\x7d],\"\\u0062rand\": " ++
    "[\x7b\"x\":[1e999],\"values\":[\"bmw\",\"vw\"],\"op\":\"any\"\x7d," ++
    "[\"\\ud83d\\ude97\",\"ne\"]]\x7d"

theorem renders_replacedBrand :
    Renders [⟨"brand", [⟨["audi"], "eq"⟩]⟩,
      ⟨"brand", [⟨["bmw", "vw"], "any"⟩, ⟨["🚗"], "ne"⟩]⟩] replacedBrand := by
  rw [Renders, ← readText_eq_ok_iff]
  decide +kernel

theorem parse_renderings_replacedBrand :
    ∃ m, parse replacedBrand = .ok m ∧
      m.find? "brand" = some [⟨["bmw", "vw"], "any"⟩, ⟨["🚗"], "ne"⟩] := by
  obtain ⟨m, hm, hfind⟩ :=
    ((parse_renderings replacedBrand).2 _ renders_replacedBrand (by decide +kernel)).2 (by decide)
  exact ⟨m, hm, hfind "brand"⟩

/-- What is accepted is spelled by one tree only, which has the shape of a payload and no more names
than are allowed; the map has exactly these names.  A text within the limit of bytes whose tree has
another shape, be it in an entry that would be overwritten, is refused as no payload. -/
theorem parse_shape (payload : String) :
    (∀ m, parse payload = .ok m →
      ∃ members, (∀ n, Node.Spelled n payload.toList ↔ n = .object members) ∧
        (Node.object members).IsPayload ∧
        (members.map Prod.fst).dedup.length ≤ 50 ∧
        ∀ us, us ∈ members.map Prod.fst ↔ ∃ name ∈ m.names, us = textUnits name) ∧
      ∀ n, Node.Spelled n payload.toList → payload.utf8ByteSize ≤ 65536 → ¬ n.IsPayload →
        ∃ e, parse payload = .error e ∧ e.code = "INVALID_FILTER_JSON" := by
  constructor
  · intro m hm
    obtain ⟨fs, ⟨n, hn, hmeans⟩, hcount, rfl⟩ := exists_renders_of_parse_eq_ok hm
    obtain ⟨members, rfl, hshape⟩ := hmeans.shaped
    have hnames := hmeans.names
    refine ⟨members, fun n' => ⟨fun h => h.unique hn, fun h => h ▸ hn⟩, ⟨members, rfl, hshape⟩,
      ?_, fun us => ?_⟩
    · rw [hnames, List.dedup_map_of_injective fun _ _ h => textUnits_injective h, List.length_map]
      exact hcount
    · simp only [hnames, List.mem_map (f := textUnits), mem_names_ofList, eq_comm]
  · intro n hn hbytes hshape
    obtain ⟨reason, hparse⟩ := parse_eq_of_not_renders hbytes fun fs ⟨n', hn', hmeans⟩ =>
      hshape (hn'.unique hn ▸ hmeans.shaped)
    exact ⟨_, hparse, rfl⟩

/-- A payload whose only entry has its values twice, under both names; it is then overwritten. -/
def doubledValues : Json :=
  .object [
    ("brand", .array [
      .object [("value", .string "audi"), ("values", .string "bmw"), ("op", .string "eq")]]),
    ("brand", .array [])]

theorem parse_shape_doubledValues :
    (∃ e, parse (Json.pretty doubledValues) = .error e ∧ e.code = "INVALID_FILTER_JSON") ∧
      ∃ m members, parse replacedBrand = .ok m ∧
        Node.Spelled (.object members) replacedBrand.toList ∧ (Node.object members).IsPayload := by
  constructor
  · refine (parse_shape _).2 _ (spelled_pretty doubledValues) (by decide +kernel) ?_
    rintro ⟨members, heq, hmembers⟩
    obtain rfl := Node.object.inj heq
    obtain ⟨entries, heq, hentries⟩ := hmembers _ (List.mem_cons_self ..)
    obtain rfl := Node.array.inj heq
    obtain ⟨v, o, -, -, heq | ⟨members, heq, hvalues, -⟩⟩ := hentries _ (List.mem_cons_self ..)
    · cases heq
    · obtain rfl := Node.object.inj heq
      have hlength := congrArg List.length hvalues
      exact absurd hlength (by decide : (Node.valuesUnder ["value", "values"] (Node.ofMembers
        [("value", string "audi"), ("values", string "bmw"), ("op", string "eq")])).length ≠ 1)
  · have hm := (parse_eq_of_renders (by decide +kernel) renders_replacedBrand).trans
      (if_neg (by decide))
    obtain ⟨members, hspelled, hshape, -⟩ := (parse_shape replacedBrand).1 _ hm
    exact ⟨_, members, hm, (hspelled _).2 rfl, hshape⟩

end FilterMap
end FilterQuery
