import FilterQuery.Proofs.Json.Writer
import FilterQuery.Proofs.Settings.Layers
import FilterQuery.Proofs.Settings.Members

/-!
# Unknown members of settings files

Members that mean nothing may be inserted anywhere in a document, and anywhere in the object that is
about queries: the number of rows stays what it was (`Enlarged`).  In the document itself their
values must be such that they can be read whole; in the object about queries any value will do.

**Warnings.** A file that was read gives a warning if it has unknown members, with the first of each
name (`Warned`).  The profile comes before the overlay, and its warning is given even if the overlay
is broken.

**Results.**
* `parse_of_enlarged`: an enlarged document is accepted and gives the same number.
* `load_warnings`: what is warned of.
* `unknown_members_harmless`: all of it, for the settings that are loaded.
-/

namespace FilterQuery

open Json

/-- A list of items that are related to those of another list, with further items between them. -/
inductive Inserted {α : Type} (R : α → α → Prop) (P : α → Prop) : List α → List α → Prop
  | nil : Inserted R P [] []
  | keep
      {a b : α} {l l' : List α}
      (hab : R a b)
      (h : Inserted R P l l') :
      Inserted R P (a :: l) (b :: l')
  | insert
      {b : α} {l l' : List α}
      (hb : P b)
      (h : Inserted R P l l') :
      Inserted R P l (b :: l')

section Insertion

variable {R : String × Node → String × Node → Prop} {P : String × Node → Prop}
variable {S : Node → Node → Prop} {p : String → Prop} [DecidablePred p]
variable {ms ms' : List (String × Node)}

/-- Members of other names do not count among the values of a field. -/
theorem Inserted.fieldValues
    (h : Inserted R P ms ms')
    (hR : ∀ m m', R m m' → m'.1 = m.1 ∧ (p m.1 → S m.2 m'.2))
    (hP : ∀ m, P m → ¬ p m.1) :
    List.Forall₂ S (Json.fieldValues p ms) (Json.fieldValues p ms') := by
  induction h with
  | nil =>
      exact .nil
  | @keep m m' l l' hm _ ih =>
      obtain ⟨name, n⟩ := m
      obtain ⟨name', n'⟩ := m'
      obtain ⟨hname, hn⟩ := hR _ _ hm
      obtain rfl : name' = name := hname
      by_cases hp : p name'
      · rw [fieldValues_cons_of_pos hp, fieldValues_cons_of_pos hp]
        exact .cons (hn hp) ih
      · rw [fieldValues_cons_of_neg hp, fieldValues_cons_of_neg hp]
        exact ih
  | @insert m l l' hm _ ih =>
      rw [fieldValues_cons_of_neg (hP m hm)]
      exact ih

/-- A field takes from changed values what it takes from the values themselves. -/
theorem fills_of_forall₂
    {α : Type} {Q : Node → α → Prop} {ns ns' : List Node} {a b : Option α}
    (h : Fills Q a ns b)
    (hns : List.Forall₂ S ns ns')
    (hQ : ∀ {n n' x}, S n n' → Q n x → Q n' x) :
    Fills Q a ns' b := by
  cases h with
  | keep =>
      cases hns
      exact .keep
  | fill hx =>
      cases hns with
      | cons hn hrest =>
          cases hrest
          exact .fill (hQ hn hx)

end Insertion

namespace Document

/-- What may be done to a member of a document: nothing, or further members are inserted in its
object, if it is the one about queries. -/
inductive MemberEnlarged : String × Node → String × Node → Prop
  | same
      {m : String × Node} :
      MemberEnlarged m m
  | query
      {name : String} {ms ms' : List (String × Node)}
      (hname : IsQueryName name)
      (hms : Inserted Eq (fun m => ¬ IsRowsName m.1) ms ms') :
      MemberEnlarged (name, .object (spelledNames ms)) (name, .object (spelledNames ms'))

/-- Whether the members of a document are those of another one with further members that mean
nothing, each of which can be read whole where it stands: one container is open around it. -/
def Enlarged (ms ms' : List (String × Node)) : Prop :=
  Inserted MemberEnlarged (fun m => ¬ IsQueryName m.1 ∧ m.2.Readable (maxDepth - 1)) ms ms'

variable {ms ms' : List (String × Node)} {text text' : String} {d : Document}

/-- Members without a number of rows may be put into the query anywhere. -/
theorem isQuery_of_inserted
    {rows : Option UInt32}
    (h : IsQuery (.object (spelledNames ms)) rows)
    (hms : Inserted Eq (fun m => ¬ IsRowsName m.1) ms ms') :
    IsQuery (.object (spelledNames ms')) rows := by
  generalize hmembers : spelledNames ms = members at h
  cases h with
  | object hrows =>
      obtain rfl := spelledNames_injective hmembers
      have hvalues : List.Forall₂ Eq (fieldValues IsRowsName ms) (fieldValues IsRowsName ms') := by
        refine hms.fieldValues ?_ fun _ h => h
        rintro m _ rfl
        exact ⟨rfl, fun _ => rfl⟩
      rw [List.forall₂_eq_eq_eq] at hvalues
      exact .object (hvalues ▸ hrows)

theorem MemberEnlarged.isQuery
    {m m' : String × Node} {rows : Option UInt32}
    (h : MemberEnlarged m m')
    (hrows : IsQuery m.2 rows) :
    IsQuery m'.2 rows := by
  cases h with
  | same =>
      exact hrows
  | query _ hms =>
      exact isQuery_of_inserted hrows hms

theorem MemberEnlarged.fst_eq
    {m m' : String × Node}
    (h : MemberEnlarged m m') :
    m'.1 = m.1 := by
  cases h <;> rfl

/-- What is put in is readable where the rest is. -/
theorem Enlarged.unknownReadable
    (h : Enlarged ms ms')
    (hms : UnknownReadable ms) :
    UnknownReadable ms' := by
  induction h with
  | nil =>
      exact hms
  | keep hm _ ih =>
      rw [UnknownReadable, List.forall_mem_cons] at hms ⊢
      refine ⟨fun hname => ?_, ih hms.2⟩
      cases hm with
      | same =>
          exact hms.1 hname
      | query hquery =>
          exact absurd hquery hname
  | insert hm _ ih =>
      rw [UnknownReadable, List.forall_mem_cons]
      exact ⟨fun _ => hm.2, ih hms⟩

/-- Further members that mean nothing leave the number of rows as it is. -/
theorem Describes.enlarged
    (h : Describes ms d)
    (hms : Enlarged ms ms') :
    ∃ d', Describes ms' d' ∧ d'.rows = d.rows := by
  obtain ⟨⟨field, hfield, hrows⟩, hreadable, -⟩ := h
  have hvalues : List.Forall₂ (fun n n' => ∀ rows, IsQuery n rows → IsQuery n' rows)
      (fieldValues IsQueryName ms) (fieldValues IsQueryName ms') :=
    Inserted.fieldValues hms (fun m m' hm => ⟨hm.fst_eq, fun _ rows => hm.isQuery⟩)
      fun m hm => hm.1
  have hfield' := fills_of_forall₂ hfield hvalues fun hn => hn _
  exact ⟨⟨field.join, (unknownNames ms').eraseDups⟩,
    ⟨⟨field, hfield', rfl⟩, hms.unknownReadable hreadable, keeps_eraseDups _⟩, hrows.symm⟩

/-- A document with further members is read, with the same number of rows. -/
theorem parse_of_enlarged
    (htext : (Node.object (spelledNames ms)).Spelled text.toList)
    (htext' : (Node.object (spelledNames ms')).Spelled text'.toList)
    (hms : Enlarged ms ms')
    (h : parse text = .ok d) :
    ∃ d', parse text' = .ok d' ∧ d'.rows = d.rows := by
  obtain ⟨d', hdescribes', hrows⟩ := (describes_of_parse htext h).enlarged hms
  exact ⟨d', parse_of_describes htext' hdescribes', hrows⟩

end Document

namespace Settings

open Document

/-- Whether a place has what it had, or a file with a document that was enlarged. -/
inductive Grown : Status → Status → Prop
  | same
      {status : Status} :
      Grown status status
  | file
      {bytes bytes' : ByteArray} {text text' : String} {document : Document}
      {ms ms' : List (String × Node)}
      (htext : String.fromUTF8? bytes = some text)
      (hparse : Document.parse text = .ok document)
      (hms : (Node.object (spelledNames ms)).Spelled text.toList)
      (htext' : String.fromUTF8? bytes' = some text')
      (hms' : (Node.object (spelledNames ms')).Spelled text'.toList)
      (hgrown : Enlarged ms ms') :
      Grown (.file bytes) (.file bytes')

/-- What a layer of files warns of: nothing if there is no file or if all members of its document
are known, and else the names of those that are not, each where it appears first. -/
inductive Warned (disk : Disk) : Option Source → Bool → List (List String) → Prop
  | nowhere
      {required : Bool} :
      Warned disk none required []
  | missing
      {source : Source} {why : ReadFailure} {required : Bool}
      (hstatus : disk.status source.path = .absent why)
      (hrequired : required = false) :
      Warned disk (some source) required []
  | known
      {source : Source} {required : Bool}
      {bytes : ByteArray} {text : String} {document : Document} {ms : List (String × Node)}
      (hstatus : disk.status source.path = .file bytes)
      (htext : String.fromUTF8? bytes = some text)
      (hparse : Document.parse text = .ok document)
      (hms : (Node.object (spelledNames ms)).Spelled text.toList)
      (hknown : ∀ m ∈ ms, IsQueryName m.1) :
      Warned disk (some source) required []
  | unknown
      {source : Source} {required : Bool}
      {bytes : ByteArray} {text : String} {document : Document} {ms : List (String × Node)}
      {names : List String}
      (hstatus : disk.status source.path = .file bytes)
      (htext : String.fromUTF8? bytes = some text)
      (hparse : Document.parse text = .ok document)
      (hms : (Node.object (spelledNames ms)).Spelled text.toList)
      (hunknown : ∃ m ∈ ms, ¬ IsQueryName m.1)
      (hnames : Keeps (unknownNames ms) names) :
      Warned disk (some source) required [names]

section File

variable {disk disk' : Disk} {source : Source} {source? : Option Source} {required : Bool}

/-- A file that has grown gives the number that it gave. -/
theorem map_rows_fileAt
    (required : Bool)
    (h : ∀ source ∈ source?, Grown (disk.status source.path) (disk'.status source.path)) :
    (fileAt disk' source? required).map (fun document => document.bind Document.rows) =
      (fileAt disk source? required).map fun document => document.bind Document.rows := by
  rcases source? with _ | source
  · rfl
  replace h := h source rfl
  generalize hstatus : disk.status source.path = status at h
  generalize hstatus' : disk'.status source.path = status' at h
  cases h with
  | same =>
      have hcongr : ∀ s ∈ some source, disk'.status s.path = disk.status s.path := by
        rintro s ⟨⟩
        exact hstatus'.trans hstatus.symm
      rw [fileAt_congr hcongr]
  | file htext hparse hms htext' hms' hgrown =>
      obtain ⟨document', hparse', hrows⟩ := parse_of_enlarged hms hms' hgrown hparse
      rw [fileAt_text hstatus htext, fileAt_text hstatus' htext', hparse, hparse']
      exact congrArg Except.ok hrows

theorem eq_nil_iff_of_keeps
    {ms : List (String × Node)} {names : List String}
    (h : Keeps (unknownNames ms) names) :
    names = [] ↔ ∀ m ∈ ms, IsQueryName m.1 := by
  have hnil : names = [] ↔ unknownNames ms = [] := by
    constructor
    · rintro rfl
      exact List.eq_nil_of_subset_nil h.subset
    · intro hnone
      have hsublist := h.sublist
      rw [hnone] at hsublist
      exact List.eq_nil_of_sublist_nil hsublist
  rw [hnil, unknownNames, List.filter_eq_nil_iff]
  simp

/-- What is warned of a file that was read, from what its members say. -/
theorem warned_of_describes
    {bytes : ByteArray} {text : String} {document : Document} {ms : List (String × Node)}
    (hstatus : disk.status source.path = .file bytes)
    (htext : String.fromUTF8? bytes = some text)
    (hms : (Node.object (spelledNames ms)).Spelled text.toList)
    (hdescribes : Describes ms document) :
    Warned disk (some source) required (warnings (some document)) := by
  have hparse := parse_of_describes hms hdescribes
  have hnil := eq_nil_iff_of_keeps hdescribes.unknown
  by_cases hnone : document.unknown = []
  · have hquiet : warnings (some document) = [] := if_pos hnone
    rw [hquiet]
    exact .known hstatus htext hparse hms (hnil.1 hnone)
  · have hloud : warnings (some document) = [document.unknown] := if_neg hnone
    rw [hloud]
    refine .unknown hstatus htext hparse hms ?_ hdescribes.unknown
    by_contra hall
    refine hnone (hnil.2 fun m hm => ?_)
    by_contra hname
    exact hall ⟨m, hm, hname⟩

/-- A file that is read is warned of as its document says. -/
theorem warned_of_fileAt
    {document : Option Document}
    (h : fileAt disk source? required = .ok document) :
    Warned disk source? required (warnings document) := by
  rcases source? with _ | source
  · cases h
    exact .nowhere
  cases hstatus : disk.status source.path with
  | absent why =>
      rw [fileAt_absent hstatus] at h
      cases required with
      | false =>
          cases h
          exact .missing hstatus rfl
      | true =>
          cases h
  | directory =>
      rw [fileAt_directory hstatus] at h
      cases h
  | file bytes =>
      cases htext : String.fromUTF8? bytes with
      | none =>
          rw [fileAt_notText hstatus htext] at h
          cases h
      | some text =>
          rw [fileAt_text hstatus htext] at h
          cases hparse : Document.parse text with
          | error =>
              rw [hparse] at h
              cases h
          | ok d =>
              rw [hparse] at h
              cases h
              obtain ⟨ms, hms, hdescribes⟩ := exists_describes_of_parse hparse
              exact warned_of_describes hstatus htext hms hdescribes

theorem Warned.eq_warnings
    {document : Option Document} {ws : List (List String)}
    (h : Warned disk source? required ws)
    (hdocument : fileAt disk source? required = .ok document) :
    ws = warnings document := by
  cases h with
  | nowhere =>
      cases hdocument
      rfl
  | missing hstatus hrequired =>
      rw [fileAt_absent hstatus, hrequired] at hdocument
      cases hdocument
      rfl
  | known hstatus htext hparse hms hknown =>
      rw [fileAt_text hstatus htext, hparse] at hdocument
      cases hdocument
      have hdescribes := describes_of_parse hms hparse
      exact (if_pos ((eq_nil_iff_of_keeps hdescribes.unknown).2 hknown)).symm
  | unknown hstatus htext hparse hms hunknown hnames =>
      rw [fileAt_text hstatus htext, hparse] at hdocument
      cases hdocument
      have hdescribes := describes_of_parse hms hparse
      obtain ⟨m, hm, hname⟩ := hunknown
      rw [hnames.eq_firsts.trans hdescribes.unknown.eq_firsts.symm]
      refine (if_neg fun hnone => ?_).symm
      exact hname ((eq_nil_iff_of_keeps hdescribes.unknown).1 hnone m hm)

/-- A file that is read is warned of for its unknown members only. -/
theorem warned_iff_of_ok
    {document : Option Document} {ws : List (List String)}
    (h : fileAt disk source? required = .ok document) :
    Warned disk source? required ws ↔ ws = warnings document := by
  constructor
  · intro hwarned
    exact hwarned.eq_warnings h
  · rintro rfl
    exact warned_of_fileAt h

/-- Nothing is warned of in a broken file. -/
theorem not_warned_of_error
    {failure : Failure} {ws : List (List String)}
    (h : fileAt disk source? required = .error failure) :
    ¬ Warned disk source? required ws := by
  intro hwarned
  cases hwarned with
  | nowhere =>
      cases h
  | missing hstatus hrequired =>
      rw [fileAt_absent hstatus, hrequired] at h
      cases h
  | known hstatus htext hparse | unknown hstatus htext hparse =>
      rw [fileAt_text hstatus htext, hparse] at h
      cases h

theorem not_broken_of_ok
    {document : Option Document}
    (h : fileAt disk source? required = .ok document) :
    ¬ ∃ failure, Broken disk source? required failure := by
  rintro ⟨failure, hbroken⟩
  cases h.symm.trans (fileAt_of_broken hbroken)

end File

section Load

variable {disk disk' : Disk} {places : Places} {request : Request}

theorem bind_eq_map_bind
    {ε α β γ : Type}
    (x : Except ε α)
    (f : α → β)
    (g : β → Except ε γ) :
    (x >>= fun a => g (f a)) = x.map f >>= g := by
  cases x <;> rfl

/-- Files with further members give the same number of rows. -/
theorem load_rows_of_grown
    (hprofile : ∀ source ∈ profileSource? places,
      Grown (disk.status source.path) (disk'.status source.path))
    (hoverlay : Grown (disk.status (overlaySource places request.config).path)
      (disk'.status (overlaySource places request.config).path)) :
    (load disk' places request).rows = (load disk places request).rows := by
  have hload : ∀ disk : Disk, (load disk places request).rows =
      (profileDocument disk places).map (fun document => document.bind Document.rows) >>=
        fun profile =>
          (overlayDocument disk places request.config).map
              (fun document => document.bind Document.rows) >>= fun overlay =>
            effective request.rows overlay profile := by
    intro disk
    rw [load_rows, ← bind_eq_map_bind]
    simp only [← bind_eq_map_bind]
  have hoverlay' : ∀ source ∈ some (overlaySource places request.config),
      Grown (disk.status source.path) (disk'.status source.path) := by
    rintro source ⟨⟩
    exact hoverlay
  have hrows := map_rows_fileAt false hprofile
  have hrows' := map_rows_fileAt request.config.isSome hoverlay'
  rw [hload, hload]
  unfold profileDocument overlayDocument
  rw [hrows, hrows']

/-- The warnings of the profile come first, and those of the overlay only if both are read. -/
theorem warnings_load :
    (load disk places request).warnings =
      match profileDocument disk places with
      | .error _ => []
      | .ok profile =>
          match overlayDocument disk places request.config with
          | .error _ => warnings profile
          | .ok overlay => warnings profile ++ warnings overlay := by
  unfold load
  rw [loadOption_profile, loadOption_overlay]
  cases profileDocument disk places with
  | error =>
      rfl
  | ok profile =>
      cases overlayDocument disk places request.config <;> rfl

/-- Which warnings there are, whether the settings are loaded or not. -/
theorem load_warnings
    {ws : List (List String)} :
    (load disk places request).warnings = ws ↔
      (∃ failure, Broken disk (profileSource? places) false failure) ∧ ws = [] ∨
      ∃ first, Warned disk (profileSource? places) false first ∧
        ((∃ failure, Broken disk (some (overlaySource places request.config))
            request.config.isSome failure) ∧ ws = first ∨
        ∃ second, Warned disk (some (overlaySource places request.config))
            request.config.isSome second ∧
          ws = first ++ second) := by
  rw [warnings_load]
  cases hprofile : profileDocument disk places with
  | error failure =>
      have hbroken : ∃ failure,
          Broken disk (profileSource? places) false failure :=
        ⟨failure, fileAt_eq_error_iff.1 hprofile⟩
      simp [hbroken, not_warned_of_error hprofile, eq_comm]
  | ok profile =>
      cases hoverlay : overlayDocument disk places request.config with
      | error failure =>
          have hbroken : ∃ failure, Broken disk (some (overlaySource places request.config))
              request.config.isSome failure :=
            ⟨failure, fileAt_eq_error_iff.1 hoverlay⟩
          simp [not_broken_of_ok hprofile, warned_iff_of_ok hprofile, hbroken,
            not_warned_of_error hoverlay, eq_comm]
      | ok overlay =>
          simp [not_broken_of_ok hprofile, warned_iff_of_ok hprofile, not_broken_of_ok hoverlay,
            warned_iff_of_ok hoverlay, eq_comm]

end Load

/-- A text that is accepted stays so and gives the same number if members that mean nothing are
inserted anywhere in its document or in the object about queries, provided that those of the
document can be read whole; all that it has itself can be.  Nor does it matter for what is loaded.
For each file that was read the names are warned of, the first of each, and of nothing else; the
profile comes first, whether or not the overlay is broken. -/
theorem unknown_members_harmless (disk : Disk) (places : Places) (request : Request) :
    (∀ (text : String) (d : Document), Document.parse text = .ok d →
      ∃ ms, (Node.object (spelledNames ms)).Spelled text.toList ∧ UnknownReadable ms ∧
        ∀ (ms' : List (String × Node)) (text' : String),
          (Node.object (spelledNames ms')).Spelled text'.toList → Enlarged ms ms' →
          ∃ d', Document.parse text' = .ok d' ∧ d'.rows = d.rows) ∧
      (∀ disk' : Disk,
        (∀ source ∈ profileSource? places,
          Grown (disk.status source.path) (disk'.status source.path)) →
        Grown (disk.status (overlaySource places request.config).path)
          (disk'.status (overlaySource places request.config).path) →
        (load disk' places request).rows = (load disk places request).rows) ∧
      ∀ ws, (load disk places request).warnings = ws ↔
        (∃ failure, Broken disk (profileSource? places) false failure) ∧ ws = [] ∨
        ∃ first, Warned disk (profileSource? places) false first ∧
          ((∃ failure, Broken disk (some (overlaySource places request.config))
              request.config.isSome failure) ∧ ws = first ∨
          ∃ second, Warned disk (some (overlaySource places request.config))
              request.config.isSome second ∧
            ws = first ++ second) := by
  refine ⟨fun text d hparse => ?_, fun disk' hprofile hoverlay => ?_, fun ws => ?_⟩
  · obtain ⟨ms, hms, hdescribes⟩ := exists_describes_of_parse hparse
    refine ⟨ms, hms, hdescribes.readable, fun ms' text' hms' henlarged => ?_⟩
    exact parse_of_enlarged hms hms' henlarged hparse
  · exact load_rows_of_grown hprofile hoverlay
  · exact load_warnings

/-- A document with given members. -/
def documentText (members : List (String × Json)) : String :=
  pretty (.object members)

def memberTrees (members : List (String × Json)) : List (String × Node) :=
  members.map fun m => (m.1, Node.ofJson m.2)

theorem spelled_documentText (members : List (String × Json)) :
    (Node.object (spelledNames (memberTrees members))).Spelled (documentText members).toList := by
  have hspelled := spelled_pretty (.object members)
  rw [Node.ofJson, Node.ofMembers_eq_map] at hspelled
  rw [memberTrees, spelledNames, List.map_map]
  exact hspelled

/-- The members of a document that gives a number. -/
def fewMembers : List (String × Json) :=
  [("query", .object [("rows_per_page", .number (.integer 7))])]

/-- The same members with further ones, of which two have the same name. -/
def moreMembers : List (String × Json) :=
  [("qurey", .array []),
    ("query", .object [("page", .null), ("rows_per_page", .number (.integer 7))]),
    ("qurey", .boolean true)]

theorem parse_documentText :
    Document.parse (documentText fewMembers) = .ok ⟨some 7, []⟩ ∧
      Document.parse (documentText moreMembers) = .ok ⟨some 7, ["qurey"]⟩ := by
  decide +kernel

theorem enlarged_moreMembers :
    Enlarged (memberTrees fewMembers) (memberTrees moreMembers) := by
  have harray : (Node.array []).Readable (maxDepth - 1) :=
    ⟨.array [], .inr (.inl ⟨[], ⟨[], rfl, .nil⟩, rfl⟩)⟩
  have hboolean : (Node.boolean true).Readable (maxDepth - 1) :=
    ⟨_, Node.IsScalar.boolean.readsAs _⟩
  have hquery : Inserted Eq (fun m => ¬ IsRowsName m.1)
      [("rows_per_page", Node.ofNumber (.integer 7))]
      [("page", .null), ("rows_per_page", Node.ofNumber (.integer 7))] :=
    .insert (by decide) (.keep rfl .nil)
  exact .insert ⟨by decide, harray⟩
    (.keep (.query rfl hquery) (.insert ⟨by decide, hboolean⟩ .nil))

/-- A disk with a profile and a directory in the place of the overlay. -/
def profileOnly (members : List (String × Json)) : Disk where
  status path :=
    if path = "/home/ann/.fmak/fmak.json" then .file (documentText members).toUTF8
    else if path = "/work/fmak.json" then .directory
    else .absent .notFound

/-- Members of one name are inserted twice in the profile, and the overlay is broken. -/
theorem unknown_members_harmless_repeated :
    (∃ d', Document.parse (documentText moreMembers) = .ok d' ∧ d'.rows = some 7) ∧
      (load (profileOnly moreMembers) ⟨some "/home/ann", "/work"⟩ ⟨none, none⟩).rows =
        (load (profileOnly fewMembers) ⟨some "/home/ann", "/work"⟩ ⟨none, none⟩).rows ∧
      (load (profileOnly moreMembers) ⟨some "/home/ann", "/work"⟩ ⟨none, none⟩).warnings =
        [["qurey"]] := by
  have hprofile : profileSource? ⟨some "/home/ann", "/work"⟩ =
      some ⟨"/home/ann/.fmak/fmak.json", "/home/ann/.fmak/fmak.json"⟩ := by
    decide +kernel
  have hoverlay : overlaySource ⟨some "/home/ann", "/work"⟩ none =
      ⟨"/work/fmak.json", "fmak.json"⟩ := by
    decide +kernel
  have htext : ∀ text : String, String.fromUTF8? text.toUTF8 = some text :=
    fun text => dif_pos text.isValidUTF8
  obtain ⟨hparse, hrows, -⟩ :=
    unknown_members_harmless (profileOnly fewMembers) ⟨some "/home/ann", "/work"⟩ ⟨none, none⟩
  obtain ⟨-, -, hwarnings⟩ :=
    unknown_members_harmless (profileOnly moreMembers) ⟨some "/home/ann", "/work"⟩ ⟨none, none⟩
  have hspelled := spelled_documentText fewMembers
  have hspelled' := spelled_documentText moreMembers
  refine ⟨?_, hrows _ ?_ ?_, (hwarnings _).2 (.inr ⟨[["qurey"]], ?_, .inl ⟨?_, rfl⟩⟩)⟩
  · obtain ⟨ms, hms, -, hinsert⟩ := hparse _ _ parse_documentText.1
    have hmembers := hms.unique hspelled
    rw [Node.object.injEq] at hmembers
    obtain rfl := spelledNames_injective hmembers
    exact hinsert _ _ hspelled' enlarged_moreMembers
  · rw [hprofile]
    rintro source ⟨⟩
    exact .file (htext _) parse_documentText.1 hspelled (htext _) hspelled' enlarged_moreMembers
  · rw [hoverlay]
    exact .same
  · have hnames : Keeps (unknownNames (memberTrees moreMembers)) ["qurey"] :=
      keeps_eraseDups (unknownNames (memberTrees moreMembers))
    have hmember : ("qurey", Node.array []) ∈ memberTrees moreMembers :=
      List.mem_cons_self
    rw [hprofile]
    exact .unknown rfl (htext _) parse_documentText.2 hspelled' ⟨_, hmember, by decide⟩ hnames
  · rw [hoverlay]
    exact ⟨_, .directory rfl⟩

end Settings
end FilterQuery
