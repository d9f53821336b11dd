import FilterQuery.Proofs.Settings.Members
import FilterQuery.Settings.Layers

/-!
# Layers of settings

The settings are loaded from two files, the profile and the overlay, under the command line and
above a default.  The two files are read in the same way (`fileAt`): they differ in their places,
in their names in messages and in whether they may be missing.  So what one of them gives, and how
it can be broken, is said once (`Layer`, `Broken`).

**Results.**
* `exists_fileAt_iff`, `fileAt_eq_error_iff`: what a file gives and how it fails.
* `rows_load_eq_ok_iff`, `rows_load_eq_error_iff`, `load_congr`: what loading gives, how it fails
  and what it depends on.
* `load_layered`: all of it.
-/

namespace FilterQuery
namespace Settings

open Json

/-- What a layer of files gives.  A file that has no place gives nothing, nor does a missing one,
unless it must be there; a file gives what the tree of its text says. -/
inductive Layer (disk : Disk) : Option Source → Bool → Option UInt32 → Prop
  | nowhere
      {required : Bool} :
      Layer disk none required none
  | missing
      {source : Source} {why : ReadFailure} {required : Bool}
      (hstatus : disk.status source.path = .absent why)
      (hrequired : required = false) :
      Layer disk (some source) required none
  | file
      {source : Source} {required : Bool}
      {bytes : ByteArray} {text : String} {document : Document} {n : Node} {rows : Option UInt32}
      (hstatus : disk.status source.path = .file bytes)
      (htext : String.fromUTF8? bytes = some text)
      (hparse : Document.parse text = .ok document)
      (htree : n.Spelled text.toList)
      (hrows : Document.IsDocument n rows) :
      Layer disk (some source) required rows

/-- How a layer of files is broken. -/
inductive Broken (disk : Disk) : Option Source → Bool → Failure → Prop
  | missing
      {source : Source} {why : ReadFailure} {required : Bool}
      (hstatus : disk.status source.path = .absent why)
      (hrequired : required = true) :
      Broken disk (some source) required (.overlayMissing source.shown)
  | directory
      {source : Source} {required : Bool}
      (hstatus : disk.status source.path = .directory) :
      Broken disk (some source) required (.unreadable source.shown .isADirectory)
  | notText
      {source : Source} {required : Bool} {bytes : ByteArray}
      (hstatus : disk.status source.path = .file bytes)
      (htext : String.fromUTF8? bytes = none) :
      Broken disk (some source) required (.unreadable source.shown .notText)
  | malformed
      {source : Source} {required : Bool} {bytes : ByteArray} {text : String} {problem : Problem}
      (hstatus : disk.status source.path = .file bytes)
      (htext : String.fromUTF8? bytes = some text)
      (hparse : Document.parse text = .error problem) :
      Broken disk (some source) required (.malformed source.shown problem)

/-- The document of a file, which may be missing or must be there if it has a place. -/
def fileAt (disk : Disk) (source? : Option Source) (required : Bool) :
    Except Failure (Option Document) :=
  match source? with
  | none => .ok none
  | some source =>
      if disk.isPresent source.path then (source.load disk).map some
      else if required then .error (.overlayMissing source.shown)
      else .ok none

section File

variable {disk disk' : Disk} {source : Source} {source? : Option Source} {required : Bool}
variable {rows : Option UInt32} {failure : Failure}

/-- What a file gives depends on what stands at its place. -/
theorem fileAt_congr
    (h : ∀ source ∈ source?, disk'.status source.path = disk.status source.path) :
    fileAt disk' source? required = fileAt disk source? required := by
  cases source? with
  | none =>
      rfl
  | some source =>
      have hpresent : disk'.isPresent source.path = disk.isPresent source.path := by
        simp only [Disk.isPresent, h source rfl]
      have hread : disk'.readText source.path = disk.readText source.path := by
        simp only [Disk.readText, h source rfl]
      simp only [fileAt, Source.load, hpresent, hread]

theorem fileAt_absent
    {why : ReadFailure}
    (h : disk.status source.path = .absent why) :
    fileAt disk (some source) required =
      if required then .error (.overlayMissing source.shown) else .ok none := by
  simp [fileAt, Disk.isPresent, h]

theorem fileAt_directory
    (h : disk.status source.path = .directory) :
    fileAt disk (some source) required = .error (.unreadable source.shown .isADirectory) := by
  simp [fileAt, Disk.isPresent, Source.load, Disk.readText, h, Except.map]

theorem fileAt_notText
    {bytes : ByteArray}
    (h : disk.status source.path = .file bytes)
    (htext : String.fromUTF8? bytes = none) :
    fileAt disk (some source) required = .error (.unreadable source.shown .notText) := by
  simp [fileAt, Disk.isPresent, Source.load, Disk.readText, h, htext, Except.map]

theorem fileAt_text
    {bytes : ByteArray} {text : String}
    (h : disk.status source.path = .file bytes)
    (htext : String.fromUTF8? bytes = some text) :
    fileAt disk (some source) required =
      match Document.parse text with
      | .error problem => .error (.malformed source.shown problem)
      | .ok document => .ok (some document) := by
  simp only [fileAt, Disk.isPresent, Source.load, Disk.readText, h, htext, if_true]
  cases Document.parse text <;> rfl

/-- Each file is read or broken, and it is told how.  The cases are those of what may stand at a
place. -/
theorem fileAt_cases (disk : Disk) (source? : Option Source) (required : Bool) :
    (∃ document, fileAt disk source? required = .ok document ∧
      Layer disk source? required (document.bind Document.rows)) ∨
    ∃ failure, fileAt disk source? required = .error failure ∧
      Broken disk source? required failure := by
  rcases source? with _ | source
  · exact .inl ⟨none, rfl, .nowhere⟩
  cases hstatus : disk.status source.path with
  | absent why =>
      rw [fileAt_absent hstatus]
      cases required with
      | false =>
          exact .inl ⟨none, rfl, .missing hstatus rfl⟩
      | true =>
          exact .inr ⟨_, rfl, .missing hstatus rfl⟩
  | directory =>
      exact .inr ⟨_, fileAt_directory hstatus, .directory hstatus⟩
  | file bytes =>
      cases htext : String.fromUTF8? bytes with
      | none =>
          exact .inr ⟨_, fileAt_notText hstatus htext, .notText hstatus htext⟩
      | some text =>
          rw [fileAt_text hstatus htext]
          cases hparse : Document.parse text with
          | error problem =>
              exact .inr ⟨_, rfl, .malformed hstatus htext hparse⟩
          | ok document =>
              obtain ⟨n, htree, hrows⟩ := Document.isDocument_of_parse hparse
              exact .inl ⟨some document, rfl, .file hstatus htext hparse htree hrows⟩

theorem fileAt_of_layer
    (h : Layer disk source? required rows) :
    ∃ document, fileAt disk source? required = .ok document ∧
      document.bind Document.rows = rows := by
  cases h with
  | nowhere =>
      exact ⟨none, rfl, rfl⟩
  | missing hstatus hrequired =>
      rw [fileAt_absent hstatus, hrequired]
      exact ⟨none, rfl, rfl⟩
  | file hstatus htext hparse htree hrows =>
      rw [fileAt_text hstatus htext, hparse]
      obtain ⟨n, htree', hrows'⟩ := Document.isDocument_of_parse hparse
      obtain rfl := htree'.unique htree
      exact ⟨_, rfl, hrows'.unique hrows⟩

theorem fileAt_of_broken
    (h : Broken disk source? required failure) :
    fileAt disk source? required = .error failure := by
  cases h with
  | missing hstatus hrequired =>
      rw [fileAt_absent hstatus, if_pos hrequired]
  | directory hstatus =>
      exact fileAt_directory hstatus
  | notText hstatus htext =>
      exact fileAt_notText hstatus htext
  | malformed hstatus htext hparse =>
      rw [fileAt_text hstatus htext, hparse]

/-- A file whose text is read as a document gives its number of rows. -/
theorem layer_of_parse
    {text : String} {unknown : List String}
    (hstatus : disk.status source.path = .file text.toUTF8)
    (hparse : Document.parse text = .ok ⟨rows, unknown⟩) :
    Layer disk (some source) required rows := by
  have htext : String.fromUTF8? text.toUTF8 = some text :=
    dif_pos text.isValidUTF8
  obtain ⟨n, htree, hrows⟩ := Document.isDocument_of_parse hparse
  exact .file hstatus htext hparse htree hrows

/-- A file is read without failure when it gives a layer. -/
theorem exists_fileAt_iff :
    (∃ document, fileAt disk source? required = .ok document ∧
      document.bind Document.rows = rows) ↔ Layer disk source? required rows := by
  constructor
  · rintro ⟨document, hdocument, rfl⟩
    obtain ⟨d, hd, hlayer⟩ | ⟨failure, hfailure, -⟩ := fileAt_cases disk source? required
    · obtain rfl := Except.ok.inj (hdocument.symm.trans hd)
      exact hlayer
    · cases hdocument.symm.trans hfailure
  · exact fileAt_of_layer

/-- A file is reported when it is broken, and as it is. -/
theorem fileAt_eq_error_iff :
    fileAt disk source? required = .error failure ↔ Broken disk source? required failure := by
  constructor
  · intro h
    obtain ⟨d, hd, -⟩ | ⟨failure', hfailure, hbroken⟩ := fileAt_cases disk source? required
    · cases h.symm.trans hd
    · obtain rfl := Except.error.inj (h.symm.trans hfailure)
      exact hbroken
  · exact fileAt_of_broken

end File

/-- The document of the profile file. -/
def profileDocument (disk : Disk) (places : Places) : Except Failure (Option Document) :=
  fileAt disk (profileSource? places) false

def overlayDocument (disk : Disk) (places : Places) (config : Option String) :
    Except Failure (Option Document) :=
  fileAt disk (some (overlaySource places config)) config.isSome

section Load

variable {disk : Disk} {places : Places} {request : Request}

theorem loadOption_profile :
    loadOption disk (profile? disk places) = profileDocument disk places := by
  unfold profile? profileDocument fileAt
  cases profileSource? places with
  | none =>
      rfl
  | some source =>
      cases hpresent : disk.isPresent source.path <;> simp [Option.filter, hpresent, loadOption]

theorem loadOption_overlay
    {config : Option String} :
    (overlay? disk places config).bind (loadOption disk) =
      overlayDocument disk places config := by
  simp only [overlay?, overlayDocument, fileAt]
  split
  · rfl
  · split <;> rfl

/-- Loading in the order in which it fails: the profile, the overlay, and then the number. -/
theorem load_rows :
    (load disk places request).rows =
      profileDocument disk places >>= fun profile =>
        overlayDocument disk places request.config >>= fun overlay =>
          effective request.rows (overlay.bind Document.rows) (profile.bind Document.rows) := by
  unfold load
  rw [loadOption_profile, loadOption_overlay]
  cases profileDocument disk places with
  | error =>
      rfl
  | ok profile =>
      cases overlayDocument disk places request.config <;> rfl

/-- Nothing on the disk matters but the two files. -/
theorem load_congr
    {disk' : Disk}
    (hprofile : ∀ source ∈ profileSource? places,
      disk'.status source.path = disk.status source.path)
    (hoverlay : disk'.status (overlaySource places request.config).path =
      disk.status (overlaySource places request.config).path) :
    load disk' places request = load disk places request := by
  have hoverlay' : ∀ source ∈ some (overlaySource places request.config),
      disk'.status source.path = disk.status source.path := by
    rintro source ⟨⟩
    exact hoverlay
  unfold load
  simp only [loadOption_profile, loadOption_overlay, profileDocument, overlayDocument,
    fileAt_congr hprofile, fileAt_congr hoverlay']

variable {requested overlay profile : Option UInt32}

/-- The highest layer that gives a number decides. -/
theorem findSome?_layers :
    [requested, overlay, profile, some 20].findSome? id =
      some (((requested.or overlay).or profile).getD defaultRows) := by
  cases requested <;> cases overlay <;> cases profile <;> rfl

/-- The number of the highest layer holds unless it is zero. -/
theorem effective_eq_ok_iff
    {r : UInt32} :
    effective requested overlay profile = .ok r ↔
      [requested, overlay, profile, some 20].findSome? id = some r ∧ r ≠ 0 := by
  rw [findSome?_layers, Option.some.injEq]
  constructor
  · intro h
    simp only [effective] at h
    split at h
    · cases h
    · rename_i hne
      cases h
      exact ⟨rfl, hne⟩
  · rintro ⟨rfl, hne⟩
    exact if_neg hne

/-- Zero is refused, also when it comes from a file. -/
theorem effective_eq_error_iff
    {failure : Failure} :
    effective requested overlay profile = .error failure ↔
      [requested, overlay, profile, some 20].findSome? id = some 0 ∧ failure = .zeroRows := by
  rw [findSome?_layers, Option.some.injEq]
  constructor
  · intro h
    simp only [effective] at h
    split at h
    · rename_i hzero
      cases h
      exact ⟨hzero, rfl⟩
    · cases h
  · rintro ⟨hzero, rfl⟩
    exact if_pos hzero

/-- When settings are loaded, and with which number of rows. -/
theorem rows_load_eq_ok_iff
    {r : UInt32} :
    (load disk places request).rows = .ok r ↔
      ∃ profile overlay,
        Layer disk (profileSource? places) false profile ∧
        Layer disk (some (overlaySource places request.config)) request.config.isSome overlay ∧
        [request.rows, overlay, profile, some 20].findSome? id = some r ∧ r ≠ 0 := by
  rw [load_rows]
  constructor
  · intro h
    obtain ⟨profile, hprofile, h⟩ := bind_eq_ok_iff.1 h
    obtain ⟨overlay, hoverlay, h⟩ := bind_eq_ok_iff.1 h
    exact ⟨_, _, exists_fileAt_iff.1 ⟨profile, hprofile, rfl⟩,
      exists_fileAt_iff.1 ⟨overlay, hoverlay, rfl⟩, effective_eq_ok_iff.1 h⟩
  · rintro ⟨_, _, hfirst, hsecond, h⟩
    obtain ⟨profile, hprofile, rfl⟩ := exists_fileAt_iff.2 hfirst
    obtain ⟨overlay, hoverlay, rfl⟩ := exists_fileAt_iff.2 hsecond
    have heffective := effective_eq_ok_iff.2 h
    exact bind_eq_ok_iff.2 ⟨profile, hprofile, bind_eq_ok_iff.2 ⟨overlay, hoverlay, heffective⟩⟩

/-- When settings are refused: the profile is read first, then the overlay, and zero is noticed
last. -/
theorem rows_load_eq_error_iff
    {failure : Failure} :
    (load disk places request).rows = .error failure ↔
      Broken disk (profileSource? places) false failure ∨
      ∃ profile, Layer disk (profileSource? places) false profile ∧
        (Broken disk (some (overlaySource places request.config)) request.config.isSome failure ∨
        ∃ overlay,
          Layer disk (some (overlaySource places request.config)) request.config.isSome overlay ∧
          [request.rows, overlay, profile, some 20].findSome? id = some 0 ∧
          failure = .zeroRows) := by
  rw [load_rows, bind_eq_error_iff]
  refine or_congr fileAt_eq_error_iff ⟨?_, ?_⟩
  · rintro ⟨profile, hprofile, h⟩
    refine ⟨_, exists_fileAt_iff.1 ⟨profile, hprofile, rfl⟩, ?_⟩
    obtain h | ⟨overlay, hoverlay, h⟩ := bind_eq_error_iff.1 h
    · exact .inl (fileAt_eq_error_iff.1 h)
    · exact .inr ⟨_, exists_fileAt_iff.1 ⟨overlay, hoverlay, rfl⟩, effective_eq_error_iff.1 h⟩
  · rintro ⟨_, hfirst, h⟩
    obtain ⟨profile, hprofile, rfl⟩ := exists_fileAt_iff.2 hfirst
    refine ⟨profile, hprofile, bind_eq_error_iff.2 ?_⟩
    obtain h | ⟨_, hsecond, h⟩ := h
    · exact .inl (fileAt_eq_error_iff.2 h)
    · obtain ⟨overlay, hoverlay, rfl⟩ := exists_fileAt_iff.2 hsecond
      exact .inr ⟨overlay, hoverlay, effective_eq_error_iff.2 h⟩

end Load

/-- The rows are loaded exactly when neither file is broken and the first number among those of the
request, the overlay, the profile and the default is not zero.  Otherwise the failure is that of the
profile, or else that of the overlay, or else that the number is zero.  Nothing else on the disk is
of account.  A text is well formed, whatever number it gives, if it is a document without unknown
members. -/
theorem load_layered (disk : Disk) (places : Places) (request : Request) :
    (∀ r, (load disk places request).rows = .ok r ↔
      ∃ profile overlay,
        Layer disk (profileSource? places) false profile ∧
        Layer disk (some (overlaySource places request.config)) request.config.isSome overlay ∧
        [request.rows, overlay, profile, some 20].findSome? id = some r ∧ r ≠ 0) ∧
      (∀ failure, (load disk places request).rows = .error failure ↔
        Broken disk (profileSource? places) false failure ∨
        ∃ profile, Layer disk (profileSource? places) false profile ∧
          (Broken disk (some (overlaySource places request.config)) request.config.isSome failure ∨
          ∃ overlay,
            Layer disk (some (overlaySource places request.config)) request.config.isSome overlay ∧
            [request.rows, overlay, profile, some 20].findSome? id = some 0 ∧
            failure = .zeroRows)) ∧
      (∀ disk' : Disk,
        (∀ source ∈ profileSource? places,
          disk'.status source.path = disk.status source.path) →
        disk'.status (overlaySource places request.config).path =
          disk.status (overlaySource places request.config).path →
        load disk' places request = load disk places request) ∧
      ∀ (text : String) (n : Node) (rows : Option UInt32),
        n.Spelled text.toList → Document.IsDocument n rows → Document.IsKnown n →
        Document.parse text = .ok ⟨rows, []⟩ := by
  refine ⟨fun r => ?_, fun failure => ?_, fun disk' hprofile hoverlay => ?_,
    fun text n rows htree hrows hknown => ?_⟩
  · exact rows_load_eq_ok_iff
  · exact rows_load_eq_error_iff
  · exact load_congr hprofile hoverlay
  · exact Document.parse_of_isDocument htree hrows hknown

def rowsText (rows : String) : String :=
  "\x7b\"query\": \x7b\"rows_per_page\": " ++ rows ++ "\x7d\x7d"

theorem parse_rowsText :
    Document.parse (rowsText "7") = .ok ⟨some 7, []⟩ ∧
      Document.parse (rowsText "null") = .ok ⟨none, []⟩ := by
  decide +kernel

/-- A disk with a profile that gives a number, an overlay that says null and must be asked for, and
a directory in the place of the overlay that need not be asked for. -/
def quietOverlay : Disk where
  status path :=
    if path = "/home/ann/.fmak/fmak.json" then .file (rowsText "7").toUTF8
    else if path = "/home/ann/own.json" then .file (rowsText "null").toUTF8
    else if path = "/work/fmak.json" then .directory
    else .absent .notFound

/-- A directory in the place of the overlay is no harm if another one is asked for, and the profile
counts for nothing where there is no home directory. -/
theorem load_layered_quietOverlay :
    (load quietOverlay ⟨some "/home/ann", "/work"⟩ ⟨some "~/own.json", none⟩).rows = .ok 7 ∧
      (load quietOverlay ⟨some "/home/ann", "/work"⟩ ⟨none, some 5⟩).rows =
        .error (.unreadable "fmak.json" .isADirectory) ∧
      (load quietOverlay ⟨none, "/home/ann"⟩ ⟨some "own.json", none⟩).rows = .ok 20 := by
  have hprofileSource : profileSource? ⟨some "/home/ann", "/work"⟩ =
      some ⟨"/home/ann/.fmak/fmak.json", "/home/ann/.fmak/fmak.json"⟩ := by
    decide +kernel
  have hprofile :
      Layer quietOverlay (profileSource? ⟨some "/home/ann", "/work"⟩) false (some 7) := by
    rw [hprofileSource]
    exact layer_of_parse rfl parse_rowsText.1
  have hown : ∀ required,
      Layer quietOverlay (some ⟨"/home/ann/own.json", "/home/ann/own.json"⟩) required none :=
    fun required => layer_of_parse rfl parse_rowsText.2
  refine ⟨?_, ?_, ?_⟩
  · have hsource : overlaySource ⟨some "/home/ann", "/work"⟩ (some "~/own.json") =
        ⟨"/home/ann/own.json", "/home/ann/own.json"⟩ := by
      decide +kernel
    refine ((load_layered quietOverlay ⟨some "/home/ann", "/work"⟩
      ⟨some "~/own.json", none⟩).1 7).2 ⟨some 7, none, hprofile, ?_, by decide, by decide⟩
    rw [hsource]
    exact hown true
  · have hsource : overlaySource ⟨some "/home/ann", "/work"⟩ none =
        ⟨"/work/fmak.json", "fmak.json"⟩ := by
      decide +kernel
    refine ((load_layered quietOverlay ⟨some "/home/ann", "/work"⟩ ⟨none, some 5⟩).2.1 _).2
      (.inr ⟨some 7, hprofile, .inl ?_⟩)
    rw [hsource]
    exact .directory rfl
  · have hsource : overlaySource ⟨none, "/home/ann"⟩ (some "own.json") =
        ⟨"/home/ann/own.json", "/home/ann/own.json"⟩ := by
      decide +kernel
    refine ((load_layered quietOverlay ⟨none, "/home/ann"⟩ ⟨some "own.json", none⟩).1 20).2
      ⟨none, none, .nowhere, ?_, by decide, by decide⟩
    rw [hsource]
    exact hown true

end Settings
end FilterQuery
