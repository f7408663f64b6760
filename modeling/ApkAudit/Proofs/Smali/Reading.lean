import ApkAudit.Proofs.Smali.Descriptor
import ApkAudit.Proofs.Smali.Layout

/-! A line is read as what it was written for: headers, calls and loads. -/

namespace ApkAudit.Smali

open Text

section Headers

lemma afterBlanks?_append {gap : List Char} (hn : gap ≠ []) (hg : IsIndent gap) (rest : List Char) :
    afterBlanks? (gap ++ rest) = some (trimStartChars rest) := by
  obtain ⟨c, gap, rfl⟩ := List.exists_cons_of_ne_nil hn
  have hc := hg.isBlank c List.mem_cons_self
  have hi : IsIndent gap := fun d hd => hg d (List.mem_cons_of_mem c hd)
  rw [List.cons_append, afterBlanks?, if_pos hc, trimStartChars_append hi]

lemma gap_head {gap : List Char} (hn : gap ≠ []) (hg : IsIndent gap) (rest : List Char) :
    ∃ c cs, gap ++ rest = c :: cs ∧ (c = ' ' ∨ c = '\t') := by
  obtain ⟨c, gap, rfl⟩ := List.exists_cons_of_ne_nil hn
  exact ⟨c, gap ++ rest, rfl, hg c List.mem_cons_self⟩

lemma afterBlanks?_of_solid {cs : List Char} (h : IsSolid cs) : afterBlanks? cs = none := by
  cases cs with
  | nil => rfl
  | cons c cs => simp [afterBlanks?, h c List.mem_cons_self]

lemma dropModifiers_of_solid {cs : List Char} (h : IsSolid cs) (fuel : Nat) :
    dropModifiers fuel cs = cs := by
  cases fuel with
  | zero => rfl
  | succ fuel =>
    have hd : IsSolid (cs.dropWhile isModifierChar) :=
      fun c hc => h c ((List.dropWhile_suffix isModifierChar).subset hc)
    rw [dropModifiers, afterBlanks?_of_solid hd]
    split <;> rfl

variable {declared text : List Char} {words : List (List Char)}

namespace Headed

lemma head_blank (h : Headed declared words text) :
    ∃ c rest, text = c :: rest ∧ (c = ' ' ∨ c = '\t') := by
  cases h with
  | declared hn hi => exact gap_head hn hi _
  | access hn hi _ => exact gap_head hn hi _

lemma afterBlanks?_eq (h : Headed declared words text) :
    afterBlanks? text = some (trimStartChars text) := by
  cases h with
  | declared hn hi => rw [afterBlanks?_append hn hi, trimStartChars_append hi]
  | access hn hi _ => rw [afterBlanks?_append hn hi, trimStartChars_append hi]

lemma dropModifiers_eq (h : Headed declared words text) (hw : IsAccess words)
    (hd : IsSolid declared) (fuel : Nat) (hf : (trimStartChars text).length ≤ fuel) :
    dropModifiers fuel (trimStartChars text) = declared := by
  induction h generalizing fuel with
  | declared hn hi =>
    rw [trimStartChars_append hi, hd.trimStart, dropModifiers_of_solid hd]
  | @access gap word text words hn hi ht ih =>
    have hws : IsAccess words := fun w hm => hw w (List.mem_cons_of_mem _ hm)
    rw [trimStartChars_append hi] at hf ⊢
    cases word with
    | nil => exact ih hws fuel hf -- a word without letters only makes the gap longer
    | cons c word =>
      have hm : ∀ d ∈ c :: word, isModifierChar d = true := by
        intro d hd
        rcases hw _ List.mem_cons_self d hd with ha | rfl
        · simp [isModifierChar, isWord_of_ascii ha]
        · rfl
      have hc : isBlank c = false := by
        rcases hw _ List.mem_cons_self c List.mem_cons_self with ha | rfl
        · exact isBlank_of_ascii ha
        · rfl
      have hs : trimStartChars (c :: word ++ text) = c :: word ++ text :=
        trimStartChars_cons hc (word ++ text)
      obtain ⟨g, rest, htext, hg⟩ := ht.head_blank
      have hstop : isModifierChar g = false := by rcases hg with rfl | rfl <;> rfl
      rw [hs] at hf ⊢
      -- what follows the word is shorter than the text, so one unit of fuel per word will do
      cases fuel with
      | zero => simp at hf
      | succ fuel =>
        have hle : (trimStartChars text).length ≤ fuel := by
          have := (List.dropWhile_suffix isBlank (l := text)).length_le
          simp only [List.length_append, List.length_cons] at hf
          simp only [trimStartChars]
          omega
        have htake : (c :: word ++ text).takeWhile isModifierChar = c :: word := by
          rw [htext, takeWhile_stop hm hstop]
        have hdrop : (c :: word ++ text).dropWhile isModifierChar = text := by
          rw [htext, dropWhile_stop hm hstop]
        rw [dropModifiers, htake, hdrop, ht.afterBlanks?_eq]
        exact ih hws fuel hle

lemma afterHeader?_eq (h : Headed declared words text) (hw : IsAccess words)
    (hd : IsSolid declared) (keyword : String) :
    afterHeader? keyword (keyword.toList ++ text) = some declared := by
  simp [afterHeader?, h.afterBlanks?_eq, h.dropModifiers_eq hw hd _ (Nat.le_refl _)]

lemma suffix (h : Headed declared words text) : declared <:+ text := by
  induction h with
  | declared => exact List.suffix_append _ _
  | access _ _ _ ih => exact (ih.trans (List.suffix_append _ _)).trans (List.suffix_append _ _)

end Headed

end Headers

section Parts

lemma classDescriptor?_eq {stop : Char → Bool} {path : List Char} (hn : path ≠ [])
    (hs : ';' ∉ path) (hp : ∀ c ∈ path, stop c = false) (rest : List Char) :
    classDescriptor? stop ('L' :: path ++ ';' :: rest) = some ('L' :: path ++ [';'], rest) := by
  have hw : ∀ c ∈ path, (decide (c ≠ ';') && !stop c) = true := by
    intro c hc
    rw [ne_of_not_mem hs c hc, hp c hc]
    rfl
  have hstop : (decide (';' ≠ ';') && !stop ';') = false := rfl
  rw [List.cons_append, classDescriptor?, takeWhile_stop hw hstop, dropWhile_stop hw hstop]
  simp [hn]

lemma signature?_append {name parameters result : List Char} (hn : name ≠ []) (hs : IsSolid name)
    (hp : '(' ∉ name) (hq : ')' ∉ parameters) (hr : result ≠ []) (hrs : IsSolid result)
    (rest : List Char) :
    signature? (name ++ '(' :: (parameters ++ ')' :: (result ++ rest))) =
      some (name,
        '(' :: (parameters ++ ')' :: (result ++ rest.takeWhile fun c => !isBlank c))) := by
  have hname : ∀ c ∈ name, (!isBlank c && decide (c ≠ '(')) = true := by
    intro c hc
    rw [ne_of_not_mem hp c hc, hs c hc]
    rfl
  have hparen : (!isBlank '(' && decide ('(' ≠ '(')) = false := rfl
  have hparameters := ne_of_not_mem hq
  have hclose : decide (')' ≠ ')') = false := rfl
  have hresult : ∀ c ∈ result, (!isBlank c) = true := by
    intro c hc
    rw [hrs c hc]
    rfl
  unfold signature?
  simp only [takeWhile_stop hname hparen, dropWhile_stop hname hparen,
    takeWhile_stop hparameters hclose, dropWhile_stop hparameters hclose,
    List.takeWhile_append_of_pos hresult]
  simp [hn, hr]

namespace Signature

variable (s : Signature)

lemma descriptor_solid : IsSolid s.descriptor := by
  intro c hc
  simp only [descriptor, List.cons_append, List.mem_cons, List.mem_append] at hc
  rcases hc with rfl | hc | rfl | hc
  · rfl
  · exact s.parameters_solid c hc
  · rfl
  · exact s.result_solid c hc

lemma text_solid : IsSolid s.text :=
  s.name_solid.append s.descriptor_solid

lemma text_ne_nil : s.text ≠ [] :=
  List.append_ne_nil_of_left_ne_nil s.name_ne_nil _

lemma signature?_text : signature? s.text = some (s.name, s.descriptor) := by
  have h := signature?_append s.name_ne_nil s.name_solid s.paren_not_mem_name
    s.paren_not_mem_parameters s.result_ne_nil s.result_solid []
  rw [List.takeWhile_nil, List.append_nil] at h
  exact h

end Signature

lemma ClassSource.descriptor_solid (c : ClassSource) : IsSolid c.descriptor := by
  intro d hd
  simp only [descriptor, List.cons_append, List.mem_cons, List.mem_append, List.not_mem_nil,
    or_false] at hd
  rcases hd with rfl | hd | rfl
  · rfl
  · exact c.path_solid d hd
  · rfl

lemma Primitive.letter_ne_bracket (p : Primitive) : decide (p.letter = '[') = false := by
  cases p <;> rfl

lemma Primitive.letter_ne_object (p : Primitive) : p.letter ≠ 'L' := by
  cases p <;> decide

lemma Primitive.isUpper_letter (p : Primitive) : p.letter.isUpper = true := by
  cases p <;> rfl

lemma callOf?_arrow (descriptor rest : List Char) :
    callOf? descriptor ("->".toList ++ rest) =
      (signature? rest).map fun parts => .call descriptor parts.1 parts.2 := by
  rw [callOf?, dropStart?_append, Option.bind_eq_bind, Option.bind_some, Option.bind_eq_bind]
  cases signature? rest <;> rfl

lemma callOf?_eq (descriptor : List Char) (s : Signature) :
    callOf? descriptor ("->".toList ++ s.text) = some (.call descriptor s.name s.descriptor) := by
  rw [callOf?_arrow, s.signature?_text, Option.map_some]

lemma of_callOf? {descriptor rest : List Char} {s : Statement}
    (h : callOf? descriptor rest = some s) :
    ∃ name signature, s = .call descriptor name signature ∧ "->".toList <+: rest := by
  simp only [callOf?, Option.bind_eq_bind, Option.bind_eq_some_iff, Prod.exists,
    Option.some.injEq] at h
  obtain ⟨behind, hb, name, signature, -, rfl⟩ := h
  exact ⟨name, signature, rfl, behind, (of_dropStart? hb).symm⟩

lemma of_callOn {cs : List Char} {s : Statement}
    (h : (callOnClass? cs <|> callOnPrimitive? cs) = some s) :
    ∃ descriptor name signature, s = .call descriptor name signature := by
  have hclass : ∀ {s}, callOnClass? cs = some s → ∃ d n g, s = .call d n g := by
    intro s h
    simp only [callOnClass?, Option.bind_eq_bind, Option.bind_eq_some_iff, Prod.exists] at h
    obtain ⟨d, rest, -, hc⟩ := h
    obtain ⟨n, g, rfl, -⟩ := of_callOf? hc
    exact ⟨_, n, g, rfl⟩
  have hprimitive : ∀ {s}, callOnPrimitive? cs = some s → ∃ d n g, s = .call d n g := by
    intro s h
    unfold callOnPrimitive? at h
    split at h
    · cases h
    · obtain ⟨-, hc⟩ := Option.ite_none_right_eq_some.mp h
      obtain ⟨n, g, rfl, -⟩ := of_callOf? hc
      exact ⟨_, n, g, rfl⟩
    · cases h
  cases hc : callOnClass? cs with
  | some s' =>
    rw [hc] at h
    obtain rfl := Option.some.inj h
    exact hclass hc
  | none =>
    rw [hc] at h
    exact hprimitive h

lemma of_call? {line : List Char} {s : Statement} (h : call? line = some s) :
    ∃ descriptor name signature, s = .call descriptor name signature := by
  simp only [call?, Option.bind_eq_bind, Option.bind_none, Option.bind_eq_some_iff,
    Option.ite_none_left_eq_some] at h
  obtain ⟨_, -, -, _, -, _, -, _, -, ht⟩ := h
  exact of_callOn ht

namespace Target

lemma classNameChars_descriptor (t : Target) : classNameChars t.descriptor = t.className := by
  cases t with
  | object path dimensions => exact classNameChars_object path dimensions
  | primitives element further =>
    rw [descriptor, classNameChars_brackets element.letter_ne_bracket,
      if_neg fun h => element.letter_ne_object h.1]
    rfl

lemma trimStart_descriptor (t : Target) (rest : List Char) :
    trimStartChars (t.descriptor ++ rest) = t.descriptor ++ rest := by
  cases t with
  | object path dimensions =>
    cases dimensions with
    | zero => exact trimStartChars_cons rfl _
    | succ n => exact trimStartChars_cons rfl _
  | primitives element further => exact trimStartChars_cons rfl _

lemma callOnClass?_object {path : List Char} (hn : path ≠ []) (hs : ';' ∉ path) (dimensions : Nat)
    (rest : List Char) :
    callOnClass? (List.replicate dimensions '[' ++ 'L' :: path ++ [';'] ++ rest) =
      callOf? (List.replicate dimensions '[' ++ 'L' :: path ++ [';']) rest := by
  have hl : decide ('L' = '[') = false := rfl
  have hd : classDescriptor? (fun _ => false) ('L' :: path ++ ';' :: rest) =
      some ('L' :: path ++ [';'], rest) :=
    classDescriptor?_eq hn hs (fun _ _ => rfl) rest
  have ht : List.replicate dimensions '[' ++ 'L' :: path ++ [';'] ++ rest =
      List.replicate dimensions '[' ++ 'L' :: (path ++ ';' :: rest) := by simp
  rw [ht, callOnClass?, takeWhile_stop (brackets dimensions) hl,
    dropWhile_stop (brackets dimensions) hl, ← List.cons_append, hd]
  simp only [Option.bind_eq_bind, Option.bind_some]
  rw [List.append_assoc]

lemma callOnClass?_primitives (element : Primitive) (further : Nat) (rest : List Char) :
    callOnClass? (List.replicate (further + 1) '[' ++ element.letter :: rest) = none := by
  have hd : classDescriptor? (fun _ => false) (element.letter :: rest) = none := by
    rw [classDescriptor?]
    exact fun _ he => element.letter_ne_object (List.cons.inj he).1
  rw [callOnClass?, dropWhile_stop (brackets (further + 1)) element.letter_ne_bracket, hd]
  rfl

lemma callOnPrimitive?_letter {letter : Char} (hb : decide (letter = '[') = false)
    (hu : letter.isUpper = true) (further : Nat) (rest : List Char) :
    callOnPrimitive? (List.replicate (further + 1) '[' ++ letter :: rest) =
      callOf? (List.replicate (further + 1) '[' ++ [letter]) rest := by
  rw [callOnPrimitive?, takeWhile_stop (brackets (further + 1)) hb,
    dropWhile_stop (brackets (further + 1)) hb, List.replicate_succ]
  simp only [hu, if_true]

lemma callOn_eq (t : Target) {rest : List Char} {s : Statement}
    (h : callOf? t.descriptor rest = some s) :
    (callOnClass? (t.descriptor ++ rest) <|> callOnPrimitive? (t.descriptor ++ rest)) =
      some s := by
  cases t with
  | object path dimensions hn hs _ =>
    rw [descriptor] at h ⊢
    rw [callOnClass?_object hn hs, h]
    rfl
  | primitives element further =>
    rw [descriptor] at h ⊢
    rw [List.append_assoc, List.singleton_append, callOnClass?_primitives,
      callOnPrimitive?_letter element.letter_ne_bracket element.isUpper_letter, h]
    rfl

end Target

lemma ClassSource.classNameChars_descriptor (c : ClassSource) :
    String.ofList (classNameChars c.descriptor) = c.name := by
  rw [descriptor, classNameChars_class, name]

end Parts

section Statements

variable {line : List Char}

lemma classHeader?_eq_none (h : ¬ ".class".toList <+: line) : classHeader? line = none := by
  rw [classHeader?, afterHeader?, dropStart?_eq_none h]
  rfl

lemma methodHeader?_eq_none (h : ¬ ".method".toList <+: line) : methodHeader? line = none := by
  rw [methodHeader?, afterHeader?, dropStart?_eq_none h]
  rfl

lemma endMethod?_eq_none (h : ¬ ".end method".toList <+: line) : endMethod? line = none := by
  rw [endMethod?, dropStart?_eq_none h]
  rfl

lemma call?_eq_none (h : ¬ "invoke-".toList <+: line) : call? line = none := by
  rw [call?, dropStart?_eq_none h]
  rfl

lemma loadString?_eq_none (h : ¬ "const-string".toList <+: line) : loadString? line = none := by
  rw [loadString?, dropStart?_eq_none h]
  rfl

lemma read?_eq_none (h : ∀ keyword ∈ keywords, ¬ keyword <+: line) :
    Statement.read? line = none := by
  simp only [keywords, List.forall_mem_cons] at h
  obtain ⟨hc, hm, he, hi, hs, -⟩ := h
  rw [Statement.read?, classHeader?_eq_none hc, methodHeader?_eq_none hm, endMethod?_eq_none he,
    call?_eq_none hi, loadString?_eq_none hs]
  rfl

lemma read?_classHeader {c : ClassSource} {text : List Char}
    (h : Headed c.descriptor c.access text) :
    Statement.read? (".class".toList ++ text) = some (.classHeader c.descriptor) := by
  have hd : classDescriptor? isBlank c.descriptor = some (c.descriptor, []) :=
    classDescriptor?_eq c.path_ne_nil c.stop_not_mem_path c.path_solid []
  have hc : classHeader? (".class".toList ++ text) = some (.classHeader c.descriptor) := by
    rw [classHeader?, h.afterHeader?_eq c.access_ok c.descriptor_solid]
    simp only [Option.bind_eq_bind, Option.bind_some, hd]
  rw [Statement.read?, hc]
  rfl

lemma read?_methodHeader {m : MethodSource} {text : List Char}
    (h : Headed m.signature.text m.access text) :
    Statement.read? (".method".toList ++ text) =
      some (.methodHeader m.signature.name m.signature.descriptor) := by
  have hm : methodHeader? (".method".toList ++ text) =
      some (.methodHeader m.signature.name m.signature.descriptor) := by
    rw [methodHeader?, h.afterHeader?_eq m.access_ok m.signature.text_solid]
    simp only [Option.bind_eq_bind, Option.bind_some, m.signature.signature?_text]
  rw [Statement.read?, classHeader?_eq_none (by simp), hm]
  rfl

lemma call?_eq {kind registers gap blanks : List Char} (t : Target) (hk : IsKind kind)
    (hr : '\x7d' ∉ registers) (hn : gap ≠ []) (hg : IsIndent gap) (hb : IsIndent blanks)
    (rest : List Char) :
    call? ("invoke-".toList ++ (kind ++ (gap ++ '\x7b' :: (registers ++ '\x7d' :: ',' ::
        (blanks ++ (t.descriptor ++ rest)))))) =
      (callOnClass? (t.descriptor ++ rest) <|> callOnPrimitive? (t.descriptor ++ rest)) := by
  obtain ⟨g, behind, hgap, hblank⟩ := gap_head hn hg ('\x7b' :: (registers ++ '\x7d' :: ',' ::
    (blanks ++ (t.descriptor ++ rest))))
  have hkind : ∀ c ∈ kind, (isWord c || decide (c = '/') || decide (c = '-')) = true := by
    intro c hc
    rcases hk.2 c hc with ha | rfl | rfl
    · simp [isWord_of_ascii ha]
    · rfl
    · rfl
  have hstop : (isWord g || decide (g = '/') || decide (g = '-')) = false := by
    rcases hblank with rfl | rfl <;> rfl
  have hregisters := ne_of_not_mem hr
  have hclose : decide ('\x7d' ≠ '\x7d') = false := rfl
  have hopen : ∀ rest, dropStart? ['\x7b'] ('\x7b' :: rest) = some rest :=
    dropStart?_append ['\x7b']
  have hend : ∀ rest, dropStart? ['\x7d', ','] ('\x7d' :: ',' :: rest) = some rest :=
    dropStart?_append ['\x7d', ',']
  have hafter := afterBlanks?_append hn hg ('\x7b' :: (registers ++ '\x7d' :: ',' ::
    (blanks ++ (t.descriptor ++ rest))))
  rw [hgap] at hafter ⊢
  rw [call?, dropStart?_append]
  simp only [Option.bind_eq_bind, Option.bind_some, takeWhile_stop hkind hstop,
    dropWhile_stop hkind hstop, List.isEmpty_eq_false_iff.mpr hk.1, hafter]
  rw [if_neg Bool.false_ne_true, trimStartChars_cons rfl, hopen, Option.bind_some,
    dropWhile_stop hregisters hclose, hend, Option.bind_some, trimStartChars_append hb,
    t.trimStart_descriptor]

lemma drop_loadForm (jumbo : Bool) {gap : List Char} (hn : gap ≠ []) (hg : IsIndent gap)
    (rest : List Char) :
    (dropStart? "/jumbo".toList (loadForm jumbo ++ (gap ++ rest))).getD
      (loadForm jumbo ++ (gap ++ rest)) = gap ++ rest := by
  cases jumbo with
  | true => rw [loadForm, if_pos rfl, dropStart?_append, Option.getD_some]
  | false =>
    obtain ⟨g, cs, hgap, hblank⟩ := gap_head hn hg rest
    have hp : ¬ "/jumbo".toList <+: gap ++ rest := by
      rw [hgap]
      rcases hblank with rfl | rfl <;> simp
    rw [loadForm, if_neg Bool.false_ne_true, List.nil_append, dropStart?_eq_none hp,
      Option.getD_none]

lemma loadString?_eq {register literal gap blanks : List Char} (jumbo : Bool)
    (hr : IsRegister register) (hn : gap ≠ []) (hg : IsIndent gap) (hb : IsIndent blanks)
    (hl : literal? (literal ++ ['"']) = some literal) :
    loadString? ("const-string".toList ++ (loadForm jumbo ++ (gap ++ (register ++
        ',' :: (blanks ++ '"' :: (literal ++ ['"'])))))) =
      some (.loadString register literal) := by
  have hword : ∀ c ∈ register, isWord c = true := fun c hc => isWord_of_ascii (hr.2 c hc)
  have hcomma : isWord ',' = false := rfl
  have hseparator : ∀ rest, dropStart? [','] (',' :: rest) = some rest := dropStart?_append [',']
  have hquote : ∀ rest, dropStart? ['"'] ('"' :: rest) = some rest := dropStart?_append ['"']
  have hstart : ∀ rest, trimStartChars (register ++ rest) = register ++ rest := by
    intro rest
    obtain ⟨c, cs, rfl⟩ := List.exists_cons_of_ne_nil hr.1
    exact trimStartChars_cons (isBlank_of_ascii (hr.2 c List.mem_cons_self)) _
  rw [loadString?, dropStart?_append]
  simp only [Option.bind_eq_bind, Option.bind_some, drop_loadForm jumbo hn hg,
    afterBlanks?_append hn hg, hstart, takeWhile_stop hword hcomma, dropWhile_stop hword hcomma,
    List.isEmpty_eq_false_iff.mpr hr.1]
  rw [if_neg Bool.false_ne_true, hseparator, Option.bind_some, trimStartChars_append hb,
    trimStartChars_cons rfl, hquote, Option.bind_some, hl, Option.bind_some]

lemma read?_invoke (rest : List Char) :
    Statement.read? ("invoke-".toList ++ rest) = call? ("invoke-".toList ++ rest) := by
  rw [Statement.read?, classHeader?_eq_none (by simp), methodHeader?_eq_none (by simp),
    endMethod?_eq_none (by simp), loadString?_eq_none (by simp)]
  cases call? ("invoke-".toList ++ rest) <;> rfl

lemma read?_call {kind registers gap blanks : List Char} (t : Target) (s : Signature)
    (hk : IsKind kind) (hr : '\x7d' ∉ registers) (hn : gap ≠ []) (hg : IsIndent gap)
    (hb : IsIndent blanks) :
    Statement.read? ("invoke-".toList ++ (kind ++ (gap ++ '\x7b' :: (registers ++ '\x7d' :: ',' ::
        (blanks ++ (t.descriptor ++ ("->".toList ++ s.text))))))) =
      some (.call t.descriptor s.name s.descriptor) := by
  rw [read?_invoke, call?_eq t hk hr hn hg hb, t.callOn_eq (callOf?_eq t.descriptor s)]

lemma read?_loadString {register literal gap blanks : List Char} (jumbo : Bool)
    (hr : IsRegister register) (hn : gap ≠ []) (hg : IsIndent gap) (hb : IsIndent blanks)
    (hl : literal? (literal ++ ['"']) = some literal) :
    Statement.read? (trimChars ("const-string".toList ++ (loadForm jumbo ++ (gap ++ (register ++
        ',' :: (blanks ++ '"' :: (literal ++ ['"']))))))) =
      some (.loadString register literal) := by
  have hs : ['"'] <:+ "const-string".toList ++ (loadForm jumbo ++ (gap ++ (register ++
      ',' :: (blanks ++ '"' :: (literal ++ ['"']))))) :=
    ⟨"const-string".toList ++ (loadForm jumbo ++ (gap ++ (register ++ ',' :: (blanks ++
      '"' :: literal)))), by simp⟩
  have hq : IsSolid ['"'] := by simp [IsSolid]; rfl
  rw [trimChars_eq_self rfl (List.cons_ne_nil _ _) hq hs, Statement.read?,
    classHeader?_eq_none (by simp), methodHeader?_eq_none (by simp), endMethod?_eq_none (by simp),
    call?_eq_none (by simp), loadString?_eq jumbo hr hn hg hb hl]
  rfl

end Statements

end ApkAudit.Smali
