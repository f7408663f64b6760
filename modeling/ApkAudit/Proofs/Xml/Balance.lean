import ApkAudit.Xml.Document
import Mathlib.Data.List.Basic
import Mathlib.Tactic.Common

/-! How deep the events of a document lead.  The reader keeps the elements that are open, and it
closes no element that has not been opened. -/

namespace ApkAudit.Xml

def Event.rise : Event → Int
  | .opened _ _ => 1
  | .closed => -1
  | .other => 0

def depth : List Event → Int
  | [] => 0
  | event :: events => event.rise + depth events

@[simp] lemma depth_nil : depth [] = 0 := rfl

@[simp] lemma depth_cons (event : Event) (events : List Event) :
    depth (event :: events) = event.rise + depth events := rfl

@[simp] lemma depth_append (front back : List Event) :
    depth (front ++ back) = depth front + depth back := by
  induction front with
  | nil => rw [List.nil_append, depth_nil, Int.zero_add]
  | cons event front ih => rw [List.cons_append, depth_cons, ih, depth_cons, Int.add_assoc]

/-- Nothing closes that has not been opened. -/
def Balanced (events : List Event) : Prop :=
  ∀ front, front <+: events → 0 ≤ depth front

def climb : Nat → List Event → Option Nat
  | n, [] => some n
  | n, .opened _ _ :: rest => climb (n + 1) rest
  | n + 1, .closed :: rest => climb n rest
  | 0, .closed :: _ => none
  | n, .other :: rest => climb n rest

@[simp] lemma climb_nil (n : Nat) : climb n [] = some n := rfl

@[simp] lemma climb_opened (n : Nat) (name : String) (attributes : List Attribute)
    (rest : List Event) : climb n (.opened name attributes :: rest) = climb (n + 1) rest := rfl

@[simp] lemma climb_closed (n : Nat) (rest : List Event) :
    climb (n + 1) (.closed :: rest) = climb n rest := rfl

@[simp] lemma climb_other (n : Nat) (rest : List Event) :
    climb n (.other :: rest) = climb n rest := rfl

lemma climb_append (n : Nat) (front back : List Event) :
    climb n (front ++ back) = (climb n front).bind (climb · back) := by
  induction front generalizing n with
  | nil => rfl
  | cons event front ih =>
    cases event with
    | opened name attributes => exact ih (n + 1)
    | other => exact ih n
    | closed =>
      cases n with
      | zero => rfl
      | succ n => exact ih n

lemma depth_of_climb {n m : Nat} {events : List Event} (h : climb n events = some m) :
    ∀ front, front <+: events → 0 ≤ n + depth front := by
  induction events generalizing n with
  | nil =>
    intro front hp
    rw [List.prefix_nil.mp hp, depth_nil]
    omega
  | cons event events ih =>
    intro front hp
    rcases List.prefix_cons_iff.mp hp with rfl | ⟨front, rfl, hf⟩
    · rw [depth_nil]
      omega
    · rw [depth_cons]
      cases event with
      | opened name attributes =>
        have hd := ih h front hf
        simp only [Event.rise]
        omega
      | other =>
        have hd := ih h front hf
        simp only [Event.rise]
        omega
      | closed =>
        cases n with
        | zero => cases h
        | succ n =>
          have hd := ih h front hf
          simp only [Event.rise]
          omega

lemma balanced_of_climb {m : Nat} {events : List Event} (h : climb 0 events = some m) :
    Balanced events := by
  intro front hp
  simpa using depth_of_climb h front hp

namespace Reader

def Counts (r : Reader) (outcome : Except Error Step) : Prop :=
  ∀ step, outcome = .ok step →
    climb r.openTags.length step.events = some step.reader.openTags.length

section Counts

variable (r : Reader)

@[simp] lemma counts_error (e : Error) : r.Counts (.error e) := nofun

@[simp] lemma counts_refuse (t : Token) : r.Counts (refuse t) := nofun

@[simp] lemma counts_ok {step : Step} : r.Counts (.ok step) ↔
    climb r.openTags.length step.events = some step.reader.openTags.length := by
  simp [Counts]

@[simp] lemma counts_moveTo (place : Place) : r.Counts (r.moveTo place) :=
  (counts_ok r).mpr rfl

@[simp] lemma counts_moveIn (part : Doctype) : r.Counts (r.moveIn part) :=
  (counts_ok r).mpr rfl

@[simp] lemma counts_addEntity (name : String) (value : List Char) (part : Doctype) :
    r.Counts (r.addEntity name value part) :=
  (counts_ok r).mpr rfl

@[simp] lemma counts_declared : r.Counts r.declared :=
  (counts_ok r).mpr rfl

@[simp] lemma counts_ite {c : Prop} [Decidable c] {a b : Except Error Step} :
    r.Counts (if c then a else b) ↔ (c → r.Counts a) ∧ (¬ c → r.Counts b) := by
  split <;> simp [*]

lemma counts_bind {α : Type} {x : Except Error α} {f : α → Except Error Step}
    (h : ∀ a, r.Counts (f a)) : r.Counts (x >>= f) := by
  cases x with
  | error e => exact counts_error r e
  | ok a => exact h a

lemma counts_opened (tag : Tag) (closed : Bool) : r.Counts (r.opened tag closed) := by
  unfold opened
  apply counts_bind
  intro _
  apply counts_bind
  intro attributes
  simp

lemma counts_closed (name : QName) : r.Counts (r.closed name) := by
  unfold closed
  split
  · next top rest ho => simp [ho]
  · simp

lemma counts_content (t : Token) : r.Counts (r.content t) := by
  have hmarkup : r.Counts (r.markup t) := by
    unfold markup
    split <;> simp
  unfold content
  cases t <;> simp [hmarkup]

lemma counts_openName (seen : List Char) (t : Token) : r.Counts (r.openName seen t) := by
  unfold openName
  split <;> simp [counts_bind, counts_opened]

lemma counts_inTag (tag : Tag) (t : Token) : r.Counts (r.inTag tag t) := by
  unfold inTag
  split <;> simp [counts_opened]

lemma counts_attributeName (tag : Tag) (seen : List Char) (t : Token) :
    r.Counts (r.attributeName tag seen t) := by
  unfold attributeName
  split <;> simp [counts_bind]

lemma counts_attributeValue (tag : Tag) (name : QName) (quote : Option Char) (seen : List Char)
    (t : Token) : r.Counts (r.attributeValue tag name quote seen t) := by
  unfold attributeValue
  apply counts_bind
  intro value
  cases value <;> simp [counts_bind]

lemma counts_afterAttributeValue (tag : Tag) (t : Token) :
    r.Counts (r.afterAttributeValue tag t) := by
  unfold afterAttributeValue
  split <;> simp [counts_opened]

lemma counts_closeName (seen : List Char) (t : Token) : r.Counts (r.closeName seen t) := by
  unfold closeName
  split <;> simp [counts_bind, counts_closed]

lemma counts_reference (seen : List Char) (back : Place) (t : Token) :
    r.Counts (r.reference seen back t) := by
  have hend : r.Counts (r.referenceEnd seen back) := by
    unfold referenceEnd
    dsimp only
    split
    · simp
    · simp [counts_bind]
    · simp
    · split <;> simp
  unfold reference
  split <;> simp [hend]

lemma counts_instructionName (seen : List Char) (t : Token) :
    r.Counts (r.instructionName seen t) := by
  have hnamed : ∀ name ended, r.Counts (r.instructionNamed name ended) := by
    intro name ended
    simp [instructionNamed]
  unfold instructionName
  split <;> simp [hnamed]

lemma counts_instructionBody (t : Token) : r.Counts (r.instructionBody t) := by
  unfold instructionBody
  split <;> simp

lemma counts_beforePseudo (allowed : List Pseudo) (mayEnd : Bool) (t : Token) :
    r.Counts (r.beforePseudo allowed mayEnd t) := by
  unfold beforePseudo
  split
  · simp
  · split
    · simp
    · split <;> simp
  · simp

lemma counts_afterPseudo (allowed : List Pseudo) (t : Token) :
    r.Counts (r.afterPseudo allowed t) := by
  unfold afterPseudo
  split <;> simp

lemma counts_pseudoName (pseudo : Pseudo) (seen : List Char) (t : Token) :
    r.Counts (r.pseudoName pseudo seen t) := by
  unfold pseudoName
  split <;> simp [counts_bind]

lemma counts_pseudoValue (pseudo : Pseudo) (quote : Option Char) (seen : List Char) (t : Token) :
    r.Counts (r.pseudoValue pseudo quote seen t) := by
  have hdeclared : ∀ value, r.Counts (r.pseudoDeclared pseudo value) := by
    intro value
    cases pseudo <;> simp [pseudoDeclared]
  unfold pseudoValue
  apply counts_bind
  intro value
  cases value <;> simp [hdeclared]

lemma counts_doctype (part : Doctype) (t : Token) : r.Counts (r.doctype part t) := by
  unfold doctype
  cases part <;> cases t
  -- the two places at which a parameter entity is looked up
  case parameterInValue.char name quote seen entity c =>
    dsimp only
    cases r.entities.lookup (String.ofList ('%' :: entity.reverse)) <;> simp
  case parameter.referenceEnd entity =>
    dsimp only
    cases r.entities.lookup (String.ofList ('%' :: entity.reverse)) <;> simp
  all_goals simp [counts_bind]

lemma counts_step (t : Token) : r.Counts (r.step t) := by
  unfold step
  cases r.place with
  | start => exact counts_content r t
  | content => exact counts_content r t
  | comment => cases t <;> simp
  | cdata => cases t <;> simp
  | openName seen => exact counts_openName r seen t
  | inTag tag => exact counts_inTag r tag t
  | attributeName tag seen => exact counts_attributeName r tag seen t
  | afterAttributeName tag name => cases t <;> simp
  | attributeValue tag name quote seen => exact counts_attributeValue r tag name quote seen t
  | afterAttributeValue tag => exact counts_afterAttributeValue r tag t
  | closeName seen => exact counts_closeName r seen t
  | afterCloseName name => cases t <;> simp [counts_closed]
  | instructionName seen => exact counts_instructionName r seen t
  | instructionBody => exact counts_instructionBody r t
  | beforePseudo allowed mayEnd => exact counts_beforePseudo r allowed mayEnd t
  | afterPseudo allowed => exact counts_afterPseudo r allowed t
  | pseudoName pseudo seen => exact counts_pseudoName r pseudo seen t
  | afterPseudoName pseudo => cases t <;> simp
  | pseudoValue pseudo quote seen => exact counts_pseudoValue r pseudo quote seen t
  | doctype part => exact counts_doctype r part t
  | reference seen back => exact counts_reference r seen back t

end Counts

end Reader

namespace Session

/-- The reader has open what the events so far have opened. -/
def Tracks (s : Session) : Prop :=
  climb 0 s.events.reverse = some s.reader.openTags.length

structure Accounts {α : Type} (session : α → Session) (pass : Pass α) : Prop where
  goesOn : ∀ a, pass = .ok a → (session a).Tracks
  failed : ∀ events e, pass = .error (events, e) → Balanced events.reverse

section Accounts

variable {α β : Type} {session : α → Session}

lemma accounts_ok {a : α} (h : (session a).Tracks) : Accounts session (.ok a) := by
  refine ⟨?_, nofun⟩
  rintro _ ⟨⟩
  exact h

lemma accounts_error {p : List Event × Error} (h : Balanced p.1.reverse) :
    Accounts session (.error p) := by
  refine ⟨nofun, ?_⟩
  rintro _ _ ⟨⟩
  exact h

lemma accounts_fail {s : Session} (h : s.Tracks) (e : Error) : Accounts session (s.fail e) :=
  accounts_error (balanced_of_climb h)

lemma accounts_foldlM {f : α → β → Pass α}
    (h : ∀ a b, (session a).Tracks → Accounts session (f a b)) (bs : List β) {a : α}
    (ha : (session a).Tracks) : Accounts session (bs.foldlM f a) := by
  induction bs generalizing a with
  | nil => exact accounts_ok ha
  | cons b bs ih =>
    have hb := h a b ha
    rw [List.foldlM_cons]
    cases hf : f a b with
    | ok next => exact ih (hb.goesOn next hf)
    | error e => exact accounts_error (hb.failed _ _ hf)

end Accounts

lemma Tracks.step {s : Session} (h : s.Tracks) {t : Token} {step : Step}
    (hs : s.reader.step t = .ok step) (decoder : Decoder) :
    Tracks ⟨decoder, s.lexer, step.reader, step.events.reverse ++ s.events⟩ := by
  have hc := s.reader.counts_step t step hs
  rw [Tracks, List.reverse_append, List.reverse_reverse, climb_append, h]
  exact hc

lemma Tracks.token {p : Session × List Char} (h : p.1.Tracks) (t : Token) :
    Accounts Prod.fst (token p t) := by
  unfold Session.token
  dsimp only
  split
  · exact accounts_fail h _
  · next step hs =>
    split
    · exact accounts_ok (h.step hs _)
    · exact accounts_ok (h.step hs _)
    · exact accounts_fail h _

lemma Tracks.char {s : Session} (h : s.Tracks) (c : Char) : Accounts Prod.fst (s.char c) := by
  unfold Session.char
  split
  · exact accounts_fail h _
  · next lexer tokens _ =>
    exact accounts_foldlM (fun p t hp => hp.token t) tokens
      (a := ({ s with lexer := lexer }, [])) h

lemma Tracks.chars {s : Session} (h : s.Tracks) (insertions : Nat) (waiting : List Char) :
    Accounts id (chars insertions s waiting) := by
  fun_induction Session.chars insertions s waiting with
  | case1 => exact accounts_ok h
  | case2 insertions s c rest e hc =>
    apply accounts_error
    exact (h.char c).failed _ _ hc
  | case3 insertions s c rest next hc ih => exact ih ((h.char c).goesOn _ hc)
  | case4 s c rest next d more hc => exact accounts_fail ((h.char c).goesOn _ hc) _
  | case5 s c rest next d more hc left hl => exact accounts_fail ((h.char c).goesOn _ hc) _
  | case6 s c rest next d more hc left hl ih => exact ih ((h.char c).goesOn _ hc)

lemma Tracks.byte {s : Session} (h : s.Tracks) (b : UInt8) : Accounts id (s.byte b) := by
  unfold Session.byte
  split
  · exact accounts_fail h _
  · exact accounts_ok h
  · next decoder c _ =>
    have hd : Tracks { s with decoder := decoder } := h
    exact hd.chars maxInsertions [c]

end Session

/-- The events of a document are balanced, up to an error that ends them. -/
lemma events_balanced (bytes : ByteArray) :
    ∃ front, Balanced front ∧
      (events bytes = front.map .ok ∨ ∃ e, events bytes = front.map .ok ++ [.error e]) := by
  have h : Session.Accounts id (bytes.toList.foldlM Session.byte {}) :=
    Session.accounts_foldlM (fun s b hs => hs.byte b) bytes.toList rfl
  unfold events
  split
  · next front e he => exact ⟨front.reverse, h.failed _ _ he, Or.inr ⟨e, rfl⟩⟩
  · next s hs =>
    refine ⟨s.events.reverse, balanced_of_climb (h.goesOn s hs), ?_⟩
    split
    · exact Or.inl rfl
    · exact Or.inr ⟨_, rfl⟩

end ApkAudit.Xml
