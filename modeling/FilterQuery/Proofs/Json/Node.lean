import FilterQuery.Json.Skip
import FilterQuery.Proofs.Json.Token

/-!
# The tree of a JSON text

The grammar of JSON as a relation between characters and trees.  A tree keeps all that the text
says: numbers as they are written, strings as the units that they denote, members in their order
and with their repetitions.

**Containers.** `Listed` says what stands between the brackets of a container whose items have a
given written form: blanks only, or items with a comma between any two of them.  It is the same for
arrays and for objects, whose items are a name, a colon and a value.

**Results.**
* `Node.written_determined`: where a value ends and which tree it has is determined by the
  characters from its beginning on.
* `Node.Spelled.unique`: a text has at most one tree.
-/

namespace FilterQuery
namespace Json

section Containers

variable {α β : Type}

/-- What stands behind an item up to the end of its container: blanks, or a comma and a further
item. -/
inductive More (P : α → List Char → Prop) : List α → List Char → Prop
  | done
      {w : List Char}
      (hw : Blank w) :
      More P [] w
  | item
      {x : α} {xs : List α} {w w' t s : List Char}
      (hw : Blank w)
      (hw' : Blank w')
      (hx : P x t)
      (hxs : More P xs s) :
      More P (x :: xs) (w ++ ',' :: (w' ++ (t ++ s)))

/-- What stands between the brackets of a container. -/
inductive Listed (P : α → List Char → Prop) : List α → List Char → Prop
  | empty
      {w : List Char}
      (hw : Blank w) :
      Listed P [] w
  | items
      {x : α} {xs : List α} {w t s : List Char}
      (hw : Blank w)
      (hx : P x t)
      (hxs : More P xs s) :
      Listed P (x :: xs) (w ++ (t ++ s))

/-- A name in quotes, a colon and a value. -/
inductive Labelled (P : α → List Char → Prop) : List Nat × α → List Char → Prop
  | mk
      {us : List Nat} {x : α} {name w w' t : List Char}
      (hname : Quoted name us)
      (hw : Blank w)
      (hw' : Blank w')
      (hx : P x t) :
      Labelled P (us, x) ('"' :: (name ++ '"' :: (w ++ ':' :: (w' ++ t))))

/-- Characters that begin with a token by which no container ends or goes on. -/
def Opens (t : List Char) : Prop :=
  ∃ c r, t = c :: r ∧ isBlank c = false ∧ c ≠ ',' ∧ c ≠ ']' ∧ c ≠ '}'

/-- Whether a written form is determined by the characters from its beginning on. -/
def Determined (P : α → List Char → Prop) : Prop :=
  ∀ {x x' : α} {t t' r r' : List Char}, P x t → P x' t' → Stops r → Stops r' →
    t ++ r = t' ++ r' → x = x' ∧ t = t' ∧ r = r'

variable {P Q : α → List Char → Prop} {x : α} {xs ys : List α} {s s' t r r' : List Char}
variable {k : Container}

theorem Container.isBlank_closing (k : Container) :
    isBlank k.closing = false := by
  cases k <;> decide

theorem Container.closing_ne_comma (k : Container) :
    k.closing ≠ ',' := by
  cases k <;> decide

theorem Container.stops_closing (k : Container) (r : List Char) :
    Stops (k.closing :: r) := by
  cases k <;> exact stops_cons (by decide)

theorem Opens.append
    (h : Opens t)
    (r : List Char) :
    Opens (t ++ r) := by
  obtain ⟨c, t', rfl, hc⟩ := h
  exact ⟨c, t' ++ r, rfl, hc⟩

theorem Opens.length_pos
    (h : Opens t) :
    0 < t.length := by
  obtain ⟨c, r, rfl, -⟩ := h
  simp

/-- Blanks in front of a value end where it begins. -/
theorem Opens.blank_append_inj
    {w w' : List Char}
    (h : Opens t)
    (h' : Opens s)
    (hw : Blank w)
    (hw' : Blank w')
    (heq : w ++ (t ++ r) = w' ++ (s ++ r')) :
    w = w' ∧ t ++ r = s ++ r' := by
  obtain ⟨c, t, rfl, hc, -⟩ := h
  obtain ⟨d, s, rfl, hd, -⟩ := h'
  obtain ⟨rfl, rfl, hrest⟩ := Json.blank_append_inj hw hw' hc hd heq
  exact ⟨rfl, congrArg (List.cons c) hrest⟩

theorem Labelled.opens
    {m : List Nat × α}
    (h : Labelled P m s) :
    Opens s := by
  obtain ⟨hname, hw, hw', hx⟩ := h
  exact ⟨'"', _, rfl, by decide, by decide, by decide, by decide⟩

/-- Items may be described by any weaker relation, on texts no longer than theirs. -/
theorem More.mono
    (h : More P xs s)
    (hPQ : ∀ {x t}, P x t → t.length ≤ s.length → Q x t) :
    More Q xs s := by
  induction h with
  | done hw =>
      exact .done hw
  | item hw hw' hx hxs ih =>
      refine .item hw hw' (hPQ hx ?_) (ih fun hx hle => hPQ hx ?_)
      all_goals
        simp only [List.length_append, List.length_cons]
        omega

/-- A container is written in any form that its items are written in. -/
theorem Listed.mono
    (h : Listed P xs s)
    (hPQ : ∀ {x t}, P x t → t.length ≤ s.length → Q x t) :
    Listed Q xs s := by
  cases h with
  | empty hw =>
      exact .empty hw
  | items hw hx hxs =>
      refine .items hw (hPQ hx ?_) (hxs.mono fun hx hle => hPQ hx ?_)
      all_goals
        simp only [List.length_append]
        omega

theorem Labelled.mono
    {m : List Nat × α}
    (h : Labelled P m s)
    (hPQ : ∀ {x t}, P x t → t.length < s.length → Q x t) :
    Labelled Q m s := by
  obtain ⟨hname, hw, hw', hx⟩ := h
  refine ⟨hname, hw, hw', hPQ hx ?_⟩
  simp only [List.length_append, List.length_cons]
  omega

/-- Items behind a comma go on from an item before it. -/
theorem Listed.more
    (h : Listed P (x :: xs) s) :
    More P (x :: xs) (',' :: s) := by
  cases h with
  | items hw hx hxs =>
      exact .item blank_nil hw hx hxs

theorem More.stops
    (h : More P xs s)
    (k : Container)
    (r : List Char) :
    Stops (s ++ k.closing :: r) := by
  cases h with
  | done hw =>
      exact hw.stops (k.stops_closing r)
  | item hw hw' hx hxs =>
      rw [List.append_assoc]
      exact hw.stops (stops_cons (by decide))

/-- Items behind one another are determined when each of them is. -/
theorem More.unique
    (hP : Determined P)
    (hopens : ∀ {x t}, P x t → Opens t)
    (h : More P xs s)
    (h' : More P ys s')
    (heq : s ++ k.closing :: r = s' ++ k.closing :: r') :
    xs = ys ∧ s = s' ∧ r = r' := by
  have hk := k.isBlank_closing
  induction h generalizing ys s' with
  | done hw =>
      cases h' with
      | done hw' =>
          obtain ⟨rfl, -, rfl⟩ := blank_append_inj hw hw' hk hk heq
          exact ⟨rfl, rfl, rfl⟩
      | item hv hv' hy hys =>
          rw [List.append_assoc] at heq
          obtain ⟨-, hcomma, -⟩ := blank_append_inj hw hv hk (by decide) heq
          exact absurd hcomma k.closing_ne_comma
  | item hw hw' hx hxs ih =>
      cases h' with
      | done hv =>
          rw [List.append_assoc] at heq
          obtain ⟨-, hcomma, -⟩ := blank_append_inj hw hv (by decide) hk heq
          exact absurd hcomma.symm k.closing_ne_comma
      | item hv hv' hy hys =>
          simp only [List.append_assoc, List.cons_append] at heq
          obtain ⟨rfl, -, hitem⟩ := blank_append_inj hw hv (by decide) (by decide) heq
          obtain ⟨rfl, htext⟩ := (hopens hx).blank_append_inj (hopens hy) hw' hv' hitem
          obtain ⟨rfl, rfl, hrest⟩ := hP hx hy (hxs.stops k r) (hys.stops k r') htext
          obtain ⟨rfl, rfl, rfl⟩ := ih hys hrest
          exact ⟨rfl, rfl, rfl⟩

/-- What stands between brackets, up to the closing one, is written in one way only. -/
theorem Listed.unique
    (hP : Determined P)
    (hopens : ∀ {x t}, P x t → Opens t)
    (h : Listed P xs s)
    (h' : Listed P ys s')
    (heq : s ++ k.closing :: r = s' ++ k.closing :: r') :
    xs = ys ∧ s = s' ∧ r = r' := by
  have hk := k.isBlank_closing
  have hne : ∀ {c}, c ≠ ']' → c ≠ '}' → k.closing ≠ c := by
    intro c hbracket hbrace
    cases k
    · exact hbracket.symm
    · exact hbrace.symm
  cases h with
  | empty hw =>
      cases h' with
      | empty hw' =>
          obtain ⟨rfl, -, rfl⟩ := blank_append_inj hw hw' hk hk heq
          exact ⟨rfl, rfl, rfl⟩
      | items hv hy hys =>
          obtain ⟨d, u, rfl, hd, -, hbracket, hbrace⟩ := hopens hy
          rw [List.append_assoc] at heq
          obtain ⟨-, hclosing, -⟩ := blank_append_inj hw hv hk hd heq
          exact absurd hclosing (hne hbracket hbrace)
  | items hw hx hxs =>
      cases h' with
      | empty hv =>
          obtain ⟨c, t, rfl, hc, -, hbracket, hbrace⟩ := hopens hx
          rw [List.append_assoc] at heq
          obtain ⟨-, hclosing, -⟩ := blank_append_inj hw hv hc hk heq
          exact absurd hclosing.symm (hne hbracket hbrace)
      | items hv hy hys =>
          simp only [List.append_assoc] at heq
          obtain ⟨rfl, htext⟩ := (hopens hx).blank_append_inj (hopens hy) hw hv heq
          obtain ⟨rfl, rfl, hrest⟩ := hP hx hy (hxs.stops k r) (hys.stops k r') htext
          obtain ⟨rfl, rfl, rfl⟩ := hxs.unique hP hopens hys hrest
          exact ⟨rfl, rfl, rfl⟩

theorem Labelled.determined
    (hP : Determined P)
    (hopens : ∀ {x t}, P x t → Opens t) :
    Determined (Labelled P) := by
  rintro ⟨us, x⟩ ⟨vs, y⟩ t t' r r' ⟨hname, hw, hw', hx⟩ ⟨hname', hv, hv', hy⟩ hr hr' heq
  simp only [List.cons_append, List.append_assoc, List.cons.injEq, true_and] at heq
  obtain ⟨rfl, rfl, hcolon⟩ := hname.unique hname' heq
  obtain ⟨rfl, -, hvalue⟩ := blank_append_inj hw hv (by decide) (by decide) hcolon
  obtain ⟨rfl, htext⟩ := (hopens hx).blank_append_inj (hopens hy) hw' hv' hvalue
  obtain ⟨rfl, rfl, rfl⟩ := hP hx hy hr hr' htext
  exact ⟨rfl, rfl, rfl⟩

end Containers

/-- The tree of a JSON value. -/
inductive Node where
  | null
  | boolean (b : Bool)
  | number (token : List Char)
  | string (units : List Nat)
  | array (items : List Node)
  | object (members : List (List Nat × Node))

namespace Node

/-- The characters of a value, from its first to its last. -/
inductive Written : Node → List Char → Prop
  | null : Written .null ['n', 'u', 'l', 'l']
  | yes : Written (.boolean true) ['t', 'r', 'u', 'e']
  | no : Written (.boolean false) ['f', 'a', 'l', 's', 'e']
  | number
      {token : List Char}
      (htoken : IsNumber token) :
      Written (.number token) token
  | string
      {units : List Nat} {s : List Char}
      (hs : Quoted s units) :
      Written (.string units) ('"' :: (s ++ ['"']))
  | array
      {items : List Node} {s : List Char}
      (hs : Listed Written items s) :
      Written (.array items) ('[' :: (s ++ [']']))
  | object
      {members : List (List Nat × Node)} {s : List Char}
      (hs : Listed (Labelled Written) members s) :
      Written (.object members) ('{' :: (s ++ ['}']))

/-- A text that is a value with blanks around it. -/
def Spelled (n : Node) (s : List Char) : Prop :=
  ∃ w t w', Blank w ∧ n.Written t ∧ Blank w' ∧ s = w ++ (t ++ w')

variable {n n' : Node} {s t t' r r' : List Char}

/-- A written value opens with one of the characters that values open with. -/
theorem Written.opens
    (h : n.Written t) :
    Opens t := by
  cases h with
  | number htoken =>
      obtain ⟨c, r, rfl⟩ := List.exists_cons_of_ne_nil htoken.ne_nil
      have hc : isNumeric c = true := htoken.numeric c (by simp)
      refine ⟨c, r, rfl, ?_, ?_, ?_, ?_⟩
      · rw [← Bool.not_eq_true]
        intro hblank
        simp only [isBlank, Bool.or_eq_true, decide_eq_true_eq] at hblank
        rcases hblank with ((rfl | rfl) | rfl) | rfl <;> exact absurd hc (by decide)
      all_goals
        rintro rfl
        exact absurd hc (by decide)
  | null | yes | no | string | array | object =>
      exact ⟨_, _, rfl, by decide, by decide, by decide, by decide⟩

/-- The induction is on the length of the text: the values in a container are shorter. -/
theorem determined_of_length (N : Nat) :
    Determined fun n t => Written n t ∧ t.length ≤ N := by
  induction N with
  | zero =>
      rintro n n' t t' r r' ⟨h, hle⟩
      have := h.opens.length_pos
      omega
  | succ N ih =>
      have hopens : ∀ {n t}, (fun n t => Written n t ∧ t.length ≤ N) n t → Opens t :=
        fun h => h.1.opens
      rintro n n' t t' r r' ⟨h, hle⟩ ⟨h', hle'⟩ hr hr' heq
      cases h with
      | null | yes | no =>
          cases h' with
          | number htoken' =>
              exact absurd heq.symm (htoken'.append_ne_cons (by decide))
          | null | yes | no | string | array | object =>
              simp_all
      | number htoken =>
          cases h' with
          | number htoken' =>
              obtain ⟨rfl, rfl⟩ := htoken.unique htoken' hr hr' heq
              exact ⟨rfl, rfl, rfl⟩
          | null | yes | no | string | array | object =>
              exact absurd heq (htoken.append_ne_cons (by decide))
      | string hs =>
          cases h' with
          | number htoken' =>
              exact absurd heq.symm (htoken'.append_ne_cons (by decide))
          | string hs' =>
              simp only [List.cons_append, List.append_assoc, List.nil_append, List.cons.injEq,
                true_and] at heq
              obtain ⟨rfl, rfl, rfl⟩ := hs.unique hs' heq
              exact ⟨rfl, rfl, rfl⟩
          | null | yes | no | array | object =>
              simp_all
      | array hs =>
          cases h' with
          | number htoken' =>
              exact absurd heq.symm (htoken'.append_ne_cons (by decide))
          | array hs' =>
              simp only [List.cons_append, List.append_assoc, List.nil_append, List.cons.injEq,
                true_and, List.length_cons, List.length_append] at heq hle hle'
              have hlisted := hs.mono (Q := fun n t => Written n t ∧ t.length ≤ N)
                fun hn hle => ⟨hn, by omega⟩
              have hlisted' := hs'.mono (Q := fun n t => Written n t ∧ t.length ≤ N)
                fun hn hle => ⟨hn, by omega⟩
              obtain ⟨rfl, rfl, rfl⟩ := hlisted.unique (k := .array) ih hopens hlisted' heq
              exact ⟨rfl, rfl, rfl⟩
          | null | yes | no | string | object =>
              simp_all
      | object hs =>
          cases h' with
          | number htoken' =>
              exact absurd heq.symm (htoken'.append_ne_cons (by decide))
          | object hs' =>
              simp only [List.cons_append, List.append_assoc, List.nil_append, List.cons.injEq,
                true_and, List.length_cons, List.length_append] at heq hle hle'
              have hlisted := hs.mono (Q := Labelled fun n t => Written n t ∧ t.length ≤ N)
                fun hm hle => hm.mono fun hn hlt => ⟨hn, by omega⟩
              have hlisted' := hs'.mono (Q := Labelled fun n t => Written n t ∧ t.length ≤ N)
                fun hm hle => hm.mono fun hn hlt => ⟨hn, by omega⟩
              obtain ⟨rfl, rfl, rfl⟩ :=
                hlisted.unique (k := .object) (Labelled.determined ih hopens) Labelled.opens
                  hlisted' heq
              exact ⟨rfl, rfl, rfl⟩
          | null | yes | no | string | array =>
              simp_all

/-- What a text spells from its beginning on is one value, and it ends at one place. -/
theorem written_determined :
    Determined Written := by
  intro n n' t t' r r' h h'
  exact determined_of_length (max t.length t'.length) ⟨h, Nat.le_max_left _ _⟩
    ⟨h', Nat.le_max_right _ _⟩

/-- A text spells one value. -/
theorem Spelled.unique
    (h : n.Spelled s)
    (h' : n'.Spelled s) :
    n = n' := by
  obtain ⟨w, t, v, hw, ht, hv, rfl⟩ := h
  obtain ⟨w', t', v', hw', ht', hv', heq⟩ := h'
  obtain ⟨-, htext⟩ := ht.opens.blank_append_inj ht'.opens hw hw' heq
  have hstops : Stops v := by
    simpa using hv.stops stops_nil
  have hstops' : Stops v' := by
    simpa using hv'.stops stops_nil
  exact (written_determined ht ht' hstops hstops' htext).1

end Node
end Json
end FilterQuery
