import FilterQuery.Proofs.FilterMap.Parse

/-!
# Payloads and what stands behind them

The brace that closes a payload ends it.  What stands behind is looked at when the filters have all
been read, and it must be blank.  Hence no payload is the beginning of another one, blanks at its
end apart.

**Method.** Reading depends on the tree of a payload and not on what follows its last character
(`Payload.readFilters_of_written`).  So a text that was read is read again in front of any other
text, and the end of the two is that of the other one.

**Results.**
* `readText_append`: the filters of a text are read again in front of another text.
* `parse_append_of_blank`, `parse_append_of_not_blank`: what becomes of an accepted payload with
  more behind it.
* `accepted_append_iff`: accepted payloads are prefix-free.
-/

namespace FilterQuery

open Json

namespace Json

/-- The characters that may stand between tokens, one by one. -/
theorem blank_iff
    {w : List Char} :
    Blank w ↔ ∀ c ∈ w, c ∈ [' ', '\t', '\n', '\r'] := by
  refine forall₂_congr fun c _ => ?_
  simp only [isBlank, Bool.or_eq_true, decide_eq_true_eq, List.mem_cons, List.not_mem_nil, or_false]
  tauto

theorem not_blank_iff
    {w : List Char} :
    ¬ Blank w ↔ ∃ c ∈ w, c ∉ [' ', '\t', '\n', '\r'] := by
  rw [blank_iff]
  push Not
  rfl

theorem endText_append
    {w : List Char}
    (hw : Blank w)
    (s : List Char) :
    endText (w ++ s) = endText s := by
  rw [endText, skipBlanks_append hw, ← endText]

/-- What is not blank is reported as trailing characters, whatever it is. -/
theorem endText_of_not_blank
    {s : List Char}
    (hs : ¬ Blank s) :
    endText s = .error .trailingCharacters := by
  have hne : skipBlanks s ≠ [] := by
    intro hnil
    obtain ⟨w, hw, heq⟩ := exists_blank s
    rw [hnil, List.append_nil] at heq
    exact hs (heq ▸ hw)
  rw [endText]
  split
  · rename_i hnil
    exact absurd hnil hne
  · rfl

end Json

namespace Payload

variable {s : List Char} {fs : List Filter}

/-- What stands behind the filters is looked at when they have been read. -/
theorem readText_append
    (h : readText s = .ok fs)
    (t : List Char) :
    readText (s ++ t) = (endText t).map fun _ => fs := by
  obtain ⟨n, ⟨w, u, w', hw, hn, hw', rfl⟩, hmeans⟩ := readText_eq_ok_iff.1 h
  have hread : readFilters ((w ++ (u ++ (w' ++ t))).length + 1) (w ++ (u ++ (w' ++ t))) =
      .ok (fs, w' ++ t) :=
    readFilters_of_written hw hn hmeans (Nat.lt_succ_self _)
  rw [List.append_assoc, List.append_assoc, readText, hread, ok_bind]
  simp only [endText_append hw' t]
  cases endText t <;> rfl

/-- A payload has a character that is not blank. -/
theorem not_blank_of_readText
    (h : readText s = .ok fs) :
    ¬ Blank s := by
  intro hs
  obtain ⟨n, ⟨w, u, w', -, hn, -, rfl⟩, -⟩ := readText_eq_ok_iff.1 h
  obtain ⟨c, u, rfl, hc, -⟩ := hn.opens
  have hblank : isBlank c = true := hs c (by simp)
  rw [hc] at hblank
  cases hblank

end Payload

namespace FilterMap

open Payload

variable {payload : String} {m : FilterMap}

/-- What is accepted was read, and its filters make up the map. -/
theorem exists_readText_of_parse
    (h : parse payload = .ok m) :
    ∃ fs, readText payload.toList = .ok fs ∧ ¬ maxFilters < (ofList fs).size ∧ m = ofList fs := by
  obtain ⟨fs, hrenders, hcount, rfl⟩ := exists_renders_of_parse_eq_ok h
  refine ⟨fs, readText_eq_ok_iff.2 hrenders, ?_, rfl⟩
  rw [size_ofList]
  exact Nat.not_lt.2 hcount

/-- Blanks behind a payload change nothing while it is not too long. -/
theorem parse_append_of_blank
    (h : parse payload = .ok m)
    {tail : String}
    (hbytes : (payload ++ tail).utf8ByteSize ≤ maxBytes)
    (htail : Blank tail.toList) :
    parse (payload ++ tail) = .ok m := by
  obtain ⟨fs, hread, hsize, rfl⟩ := exists_readText_of_parse h
  have happend := readText_append hread tail.toList
  rw [endText_eq_ok_iff.2 htail] at happend
  rw [parse, if_neg (Nat.not_lt.2 hbytes), String.toList_append, happend]
  exact if_neg hsize

/-- Anything else behind a payload is refused as characters that trail it. -/
theorem parse_append_of_not_blank
    (h : parse payload = .ok m)
    {tail : String}
    (hbytes : (payload ++ tail).utf8ByteSize ≤ maxBytes)
    (htail : ¬ Blank tail.toList) :
    ∃ e, parse (payload ++ tail) = .error e ∧ e.code = "INVALID_FILTER_JSON" ∧
      "Invalid filter JSON: trailing characters".toList <+: e.message.toList := by
  obtain ⟨fs, hread, -, -⟩ := exists_readText_of_parse h
  have happend := readText_append hread tail.toList
  rw [endText_of_not_blank htail] at happend
  refine ⟨.invalidPayload Problem.trailingCharacters.message, ?_, rfl, List.prefix_refl _⟩
  rw [parse, if_neg (Nat.not_lt.2 hbytes), String.toList_append, happend]
  rfl

/-- A payload can be continued by blanks only. -/
theorem exists_parse_append_iff
    (h : parse payload = .ok m)
    (tail : String) :
    (∃ m', parse (payload ++ tail) = .ok m') ↔
      Blank tail.toList ∧ (payload ++ tail).utf8ByteSize ≤ maxBytes := by
  constructor
  · rintro ⟨m', hm'⟩
    have hbytes : (payload ++ tail).utf8ByteSize ≤ maxBytes := by
      by_contra hbytes
      rw [parse_eq_of_tooLong (Nat.lt_of_not_le hbytes)] at hm'
      cases hm'
    refine ⟨?_, hbytes⟩
    by_contra htail
    obtain ⟨e, he, -⟩ := parse_append_of_not_blank h hbytes htail
    rw [he] at hm'
    cases hm'
  · rintro ⟨htail, hbytes⟩
    exact ⟨m, parse_append_of_blank h hbytes htail⟩

/-- An accepted payload with more behind it is accepted exactly when that is blank and the limit of
bytes is kept, and then the map is the same; within the limit all else is refused with the code of
an invalid payload and a message that begins by naming trailing characters.  So the beginning of an
accepted payload, with more than blanks cut off, is refused, and so are two payloads one behind the
other. -/
theorem accepted_append_iff
    (h : parse payload = .ok m) :
    (∀ tail : String,
      ((∃ m', parse (payload ++ tail) = .ok m') ↔
        (∀ c ∈ tail.toList, c ∈ [' ', '\t', '\n', '\r']) ∧
          (payload ++ tail).utf8ByteSize ≤ 65536) ∧
      (∀ m', parse (payload ++ tail) = .ok m' → m' = m) ∧
      ((payload ++ tail).utf8ByteSize ≤ 65536 →
        (∃ c ∈ tail.toList, c ∉ [' ', '\t', '\n', '\r']) →
          ∃ e, parse (payload ++ tail) = .error e ∧ e.code = "INVALID_FILTER_JSON" ∧
            "Invalid filter JSON: trailing characters".toList <+: e.message.toList)) ∧
    (∀ front tail : String, payload = front ++ tail →
      (∃ c ∈ tail.toList, c ∉ [' ', '\t', '\n', '\r']) → ∃ e, parse front = .error e) ∧
    ∀ (other : String) (m' : FilterMap), parse other = .ok m' →
      ∃ e, parse (payload ++ other) = .error e := by
  simp only [exists_error_iff, ← not_blank_iff, ← blank_iff]
  refine ⟨fun tail => ⟨exists_parse_append_iff h tail, ?_, ?_⟩, ?_, ?_⟩
  · intro m' hm'
    obtain ⟨htail, hbytes⟩ := (exists_parse_append_iff h tail).1 ⟨m', hm'⟩
    rw [parse_append_of_blank h hbytes htail] at hm'
    exact (Except.ok.inj hm').symm
  · intro hbytes htail
    exact parse_append_of_not_blank h hbytes htail
  · rintro front tail rfl htail ⟨m', hm'⟩
    exact htail ((exists_parse_append_iff hm' tail).1 ⟨m, h⟩).1
  · rintro other m' hother haccepted
    obtain ⟨fs, hread, -⟩ := exists_readText_of_parse hother
    exact not_blank_of_readText hread ((exists_parse_append_iff h other).1 haccepted).1

/-- Blanks behind a payload do no harm; a brace does, and so does the loss of the last one. -/
theorem accepted_append_iff_replacedBrand :
    ∃ m, parse replacedBrand = .ok m ∧ parse (replacedBrand ++ " \t\r\n") = .ok m ∧
      (∃ e, parse (replacedBrand ++ "\n\x7d") = .error e ∧ e.code = "INVALID_FILTER_JSON" ∧
        "Invalid filter JSON: trailing characters".toList <+: e.message.toList) ∧
      (∃ e, parse (replacedBrand.dropEnd 1).copy = .error e) ∧
      ∃ e, parse (replacedBrand ++ replacedBrand) = .error e := by
  have hm := (parse_eq_of_renders (by decide +kernel) renders_replacedBrand).trans
    (if_neg (by decide))
  obtain ⟨htails, hfronts, hothers⟩ := accepted_append_iff hm
  obtain ⟨hblank, hsame, -⟩ := htails " \t\r\n"
  obtain ⟨m', hm'⟩ := hblank.2 ⟨by simp, by decide +kernel⟩
  obtain ⟨-, -, hbrace⟩ := htails "\n\x7d"
  refine ⟨_, hm, hsame m' hm' ▸ hm', hbrace (by decide +kernel) ⟨'\x7d', by decide, by decide⟩,
    hfronts _ "\x7d" (by decide +kernel) ⟨'\x7d', by decide, by decide⟩, hothers _ _ hm⟩

end FilterMap
end FilterQuery
