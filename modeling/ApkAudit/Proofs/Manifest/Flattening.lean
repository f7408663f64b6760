import ApkAudit.Proofs.Manifest.Placement
import ApkAudit.Proofs.Xml.Balance

/-! A tree is read back from its events.  The open elements, innermost first, stand for the events
that have been read: each has opened, and its children so far are complete. -/

namespace ApkAudit

open Xml

def Xml.ClosesRoot (events : List Event) : Prop :=
  ∃ front, front ++ [.closed] <+: events ∧ depth (front ++ [.closed]) = 0

namespace Element

mutual

def events : Element → List Event
  | ⟨name, attributes, children⟩ => .opened name attributes :: (eventsIn children ++ [.closed])

def eventsIn : List Element → List Event
  | [] => []
  | child :: rest => child.events ++ eventsIn rest

end

lemma eventsIn_append (es more : List Element) :
    eventsIn (es ++ more) = eventsIn es ++ eventsIn more := by
  induction es with
  | nil => rfl
  | cons e es ih => rw [List.cons_append, eventsIn, ih, eventsIn, List.append_assoc]

def WrittenAs (e : Element) (front : List Event) : Prop :=
  front.filter (· ≠ .other) = e.events

def begun (e : Element) : List Event :=
  .opened e.name e.attributes :: eventsIn e.children

lemma begun_concat_closed (e : Element) : e.begun ++ [.closed] = e.events := by
  obtain ⟨name, attributes, children⟩ := e
  rfl

lemma begun_withChild (e child : Element) :
    (e.withChild child).begun = e.begun ++ child.events := by
  rw [begun, withChild, eventsIn_append, eventsIn, eventsIn, List.append_nil]
  rfl

def begunAll : List Element → List Event
  | [] => []
  | e :: outer => begunAll outer ++ e.begun

section Reading

variable (opened : List Element) (after : List (Except Xml.Error Event))

lemma build_filter (front : List Event) :
    build opened (front.map .ok ++ after) =
      build opened ((front.filter (· ≠ .other)).map .ok ++ after) := by
  induction front generalizing opened with
  | nil => rfl
  | cons event front ih =>
    cases event with
    | opened name attributes => exact ih _
    | other => exact ih opened
    | closed =>
      match opened with
      | [] => rfl
      | [e] => rfl
      | e :: parent :: outer => exact ih _

def attach (e : Element) : Except Fault Element :=
  match opened with
  | [] => .ok e
  | parent :: outer => build (parent.withChild e :: outer) after

lemma build_closed (e : Element) : build (e :: opened) (.ok .closed :: after) =
    attach opened after e := by
  cases opened <;> rfl

lemma build_eventsIn {children : List Element}
    (h : ∀ child ∈ children, ∀ opened after,
      build opened (child.events.map .ok ++ after) = attach opened after child) (e : Element) :
    build (e :: opened) ((eventsIn children).map .ok ++ after) =
      build ({ e with children := e.children ++ children } :: opened) after := by
  induction children generalizing e with
  | nil =>
    obtain ⟨name, attributes, own⟩ := e
    simp [eventsIn]
  | cons child children ih =>
    have hchild := h child List.mem_cons_self (e :: opened) ((eventsIn children).map .ok ++ after)
    rw [eventsIn, List.map_append, List.append_assoc, hchild, attach,
      ih fun d hd => h d (List.mem_cons_of_mem child hd)]
    simp [withChild]

lemma build_events (e : Element) : build opened (e.events.map .ok ++ after) =
    attach opened after e := by
  induction e using induct generalizing opened after with
  | node name attributes children ih =>
    rw [events, List.map_cons, List.map_append, List.cons_append, List.append_assoc, build,
      build_eventsIn _ _ ih]
    exact build_closed _ _ _

end Reading

lemma depth_events (e : Element) : depth e.events = 0 := by
  induction e using induct with
  | node name attributes children ih =>
    have hin : depth (eventsIn children) = 0 := by
      induction children with
      | nil => rfl
      | cons child children hc =>
        rw [eventsIn, depth_append, ih child List.mem_cons_self,
          hc fun d hd => ih d (List.mem_cons_of_mem child hd)]
        rfl
    rw [events, depth_cons, depth_append, hin]
    rfl

lemma depth_filter (front : List Event) : depth (front.filter (· ≠ .other)) = depth front := by
  induction front with
  | nil => rfl
  | cons event front ih => cases event <;> simp_all [Event.rise]

lemma WrittenAs.closesRoot {e : Element} {front : List Event} (h : e.WrittenAs front) :
    ClosesRoot front := by
  obtain ⟨name, attributes, children⟩ := e
  have hlast : front.filter (· ≠ .other) =
      (.opened name attributes :: eventsIn children) ++ [.closed] := h
  obtain ⟨start, rest, rfl, -, hrest⟩ := List.filter_eq_append_iff.mp hlast
  obtain ⟨others, more, rfl, hothers, -, hmore⟩ := List.filter_eq_cons_iff.mp hrest
  refine ⟨start ++ others, by simp, ?_⟩
  have hd := depth_filter (start ++ (others ++ .closed :: more))
  have hm := depth_filter more
  rw [h, depth_events] at hd
  rw [hmore, depth_nil] at hm
  simp only [depth_append, depth_cons, depth_nil] at hd ⊢
  omega

lemma of_build {opened : List Element} {events : List (Except Xml.Error Event)} {e : Element}
    (h : build opened events = .ok e) :
    ∃ (front : List Event) (after : List (Except Xml.Error Event)),
      events = front.map .ok ++ after ∧
        begunAll opened ++ front.filter (· ≠ .other) = e.events := by
  induction events generalizing opened with
  | nil => cases h
  | cons event events ih =>
    match event with
    | .error _ => cases h
    | .ok .other =>
      obtain ⟨front, after, rfl, hf⟩ := ih h
      exact ⟨.other :: front, after, rfl, hf⟩
    | .ok (.opened name attributes) =>
      obtain ⟨front, after, rfl, hf⟩ := ih h
      refine ⟨.opened name attributes :: front, after, rfl, ?_⟩
      rw [begunAll, List.append_assoc] at hf
      exact hf
    | .ok .closed =>
      match opened with
      | [] => cases h
      | [element] =>
        obtain rfl := Except.ok.inj h
        exact ⟨[.closed], events, rfl, begun_concat_closed element⟩
      | element :: parent :: outer =>
        obtain ⟨front, after, rfl, hf⟩ := ih h
        refine ⟨.closed :: front, after, rfl, ?_⟩
        rw [begunAll, begun_withChild, ← begun_concat_closed] at hf
        simpa [begunAll] using hf

lemma ofEvents_eq_ok_iff {events : List (Except Xml.Error Event)} {e : Element} :
    ofEvents events = .ok e ↔
      ∃ front after, events = front.map .ok ++ after ∧ e.WrittenAs front := by
  constructor
  · exact of_build
  · rintro ⟨front, after, rfl, hf⟩
    rw [ofEvents, build_filter, hf, build_events]
    rfl

lemma exists_build_eq {opened : List Element} {front : List Event}
    (h : ∀ part, part ++ [.closed] <+: front →
      0 < opened.length + depth (part ++ [.closed])) :
    ∃ opened', ∀ after, build opened (front.map .ok ++ after) = build opened' after := by
  induction front generalizing opened with
  | nil => exact ⟨opened, fun after => rfl⟩
  | cons event front ih =>
    have hnext : ∀ part, part ++ [.closed] <+: front →
        0 < opened.length + event.rise + depth (part ++ [.closed]) := by
      intro part hp
      have hd := h (event :: part) (List.prefix_cons_inj event |>.mpr hp)
      rw [List.cons_append, depth_cons] at hd
      omega
    cases event with
    | opened name attributes =>
      have hopened : ∀ part, part ++ [.closed] <+: front →
          0 < (⟨name, attributes, []⟩ :: opened : List Element).length +
            depth (part ++ [.closed]) := by
        simpa [Event.rise] using hnext
      exact ih hopened
    | other => exact ih (by simpa [Event.rise] using hnext)
    | closed =>
      have hfirst := h [] (by simp)
      rcases opened with _ | ⟨e, _ | ⟨parent, outer⟩⟩
      · simp [Event.rise] at hfirst
      · simp [Event.rise] at hfirst
      · have hparent : ∀ part, part ++ [.closed] <+: front →
            0 < (parent.withChild e :: outer).length + depth (part ++ [.closed]) := by
          intro part hp
          have hd := hnext part hp
          simp only [List.length_cons, Event.rise] at hd ⊢
          omega
        exact ih hparent

lemma exists_ofEvents_eq {front : List Event} (hb : Balanced front) (hr : ¬ ClosesRoot front) :
    ∃ opened, ∀ after, ofEvents (front.map .ok ++ after) = build opened after := by
  apply exists_build_eq
  intro part hp
  have hd := hb _ hp
  have hne : depth (part ++ [.closed]) ≠ 0 := fun he => hr ⟨part, hp, he⟩
  simp only [List.length_nil]
  omega

/-- What a reader of events has to do: it finds a tree exactly where the events of that tree come
first, it reports an error that comes before the root has closed, and without a root it fails. -/
structure ReadsTrees (read : List (Except Xml.Error Event) → Except Fault Element) : Prop where
  tree : ∀ events e, read events = .ok e ↔
    ∃ (front : List Event) (after : List (Except Xml.Error Event)),
      events = front.map .ok ++ after ∧ e.WrittenAs front
  error : ∀ (front : List Event) (e : Xml.Error) (after : List (Except Xml.Error Event)),
    Balanced front → ¬ ClosesRoot front →
      read (front.map .ok ++ .error e :: after) =
        .error (.parse s!"invalid XML document: {e.message}")
  rootless : ∀ front : List Event, ¬ ClosesRoot front →
    (∃ fault, read (front.map .ok) = .error fault) ∧
      (Balanced front →
        read (front.map .ok) = .error (.parse "the XML document has no root element"))

theorem ofEvents_readsTrees :
    ReadsTrees ofEvents ∧ ∀ bytes, ofBytes bytes = ofEvents (Xml.events bytes) := by
  refine ⟨⟨fun events e => ofEvents_eq_ok_iff, ?_, ?_⟩, fun bytes => rfl⟩
  · intro front e after hb hr
    obtain ⟨opened, ho⟩ := exists_ofEvents_eq hb hr
    rw [ho]
    rfl
  · intro front hr
    refine ⟨?_, fun hb => ?_⟩
    · cases h : ofEvents (front.map .ok) with
      | error fault => exact ⟨fault, rfl⟩
      | ok e =>
        -- a tree would have closed its root
        obtain ⟨part, after, hp, hw⟩ := ofEvents_eq_ok_iff.mp h
        obtain ⟨start, rest, rfl, hs, -⟩ := List.map_eq_append_iff.mp hp
        obtain rfl : start = part := (List.map_inj_right fun _ _ => Except.ok.inj).mp hs
        obtain ⟨inner, hi, hd⟩ := hw.closesRoot
        exact (hr ⟨inner, hi.trans (List.prefix_append start rest), hd⟩).elim
    · obtain ⟨opened, ho⟩ := exists_ofEvents_eq hb hr
      have hnil := ho []
      rw [List.append_nil] at hnil
      rw [hnil]
      rfl

end Element

end ApkAudit
