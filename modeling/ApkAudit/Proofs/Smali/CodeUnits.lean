import ApkAudit.Proofs.Smali.RoundTrip
import ApkAudit.Proofs.Smali.SourceLog

/-! Literals that are written code unit by code unit, as a disassembler does.  A character of the
basic plane has one unit, and is read back.  Any other character has two, the escapes of which are
read one by one: neither stands for a character, so both stay in the text as they were written. -/

namespace ApkAudit.Smali

open Text

def codeUnits (c : Char) : List Nat :=
  if c.toNat ≤ 0xFFFF then [c.toNat]
  else [0xD800 + (c.toNat - 0x10000) / 0x400, 0xDC00 + (c.toNat - 0x10000) % 0x400]

def hexEscape (unit : Nat) : List Char :=
  ['\\', 'u', (unit / 4096).digitChar, (unit / 256 % 16).digitChar, (unit / 16 % 16).digitChar,
    (unit % 16).digitChar]

/-- A code unit in a literal.  Quotes, apostrophes and backslashes are covered, the rest of
printable ASCII stands for itself, three controls have letters, and all other units have
hexadecimal digits. -/
def escapeUnit (unit : Nat) : List Char :=
  if unit ∈ [0x22, 0x27, 0x5C] then ['\\', Char.ofNat unit]
  else if 0x20 ≤ unit ∧ unit ≤ 0x7E then [Char.ofNat unit]
  else if unit = 0xA then ['\\', 'n']
  else if unit = 0x9 then ['\\', 't']
  else if unit = 0xD then ['\\', 'r']
  else hexEscape unit

def escape (value : List Char) : List Char :=
  (value.flatMap codeUnits).flatMap escapeUnit

def InBasicPlane (value : List Char) : Prop :=
  ∀ c ∈ value, c.toNat ≤ 0xFFFF

section Units

variable {c : Char} {unit : Nat}

lemma spells_escapeUnit (hc : c.toNat ≤ 0xFFFF) : Spells c (escapeUnit c.toNat) := by
  have ne_of_code : ∀ {d : Char}, c.toNat ≠ d.toNat → c ≠ d := fun hn he => hn (he ▸ rfl)
  unfold escapeUnit
  rw [Char.ofNat_toNat]
  split
  · next hm =>
    apply Spells.covered
    intro hd
    simp only [List.mem_cons, List.not_mem_nil, or_false] at hd hm
    rcases hd with rfl | rfl | rfl | rfl | rfl <;> simp at hm
  · next hm =>
    simp only [List.mem_cons, List.not_mem_nil, or_false, not_or] at hm
    split
    · next hp =>
      refine .plain (ne_of_code hm.1) (ne_of_code hm.2.2) (ne_of_code ?_)
      have : '\n'.toNat = 0xA := rfl
      omega
    · have eq_of_code : ∀ {d : Char}, c.toNat = d.toNat → d = c :=
        fun he => Char.ext (UInt32.toNat_inj.mp he.symm)
      split
      · next he =>
        obtain rfl := eq_of_code (d := '\n') he
        exact .feed
      · split
        · next he =>
          obtain rfl := eq_of_code (d := '\t') he
          exact .tab
        · split
          · next he =>
            obtain rfl := eq_of_code (d := '\r') he
            exact .carriage
          · exact .code hc (.inl rfl) (.inl rfl) (.inl rfl) (.inl rfl)

def IsSurrogate (unit : Nat) : Prop :=
  0xD800 ≤ unit ∧ unit ≤ 0xDFFF

lemma IsSurrogate.le (h : IsSurrogate unit) : unit ≤ 0xFFFF := by
  have := h.2
  omega

lemma IsSurrogate.escapeUnit_eq (h : IsSurrogate unit) : escapeUnit unit = hexEscape unit := by
  obtain ⟨h₁, h₂⟩ := h
  have hm : unit ∉ [0x22, 0x27, 0x5C] := by
    simp only [List.mem_cons, List.not_mem_nil, or_false, not_or]
    omega
  rw [escapeUnit, if_neg hm, if_neg (by omega), if_neg (by omega), if_neg (by omega),
    if_neg (by omega)]

lemma IsSurrogate.charOfNat? (h : IsSurrogate unit) : Text.charOfNat? unit = none := by
  obtain ⟨h₁, h₂⟩ := h
  apply dif_neg
  simp only [Nat.isValidChar]
  omega

lemma IsSurrogate.unescape (h : IsSurrogate unit) (rest : List Char) :
    Smali.unescape (hexEscape unit ++ rest) = hexEscape unit ++ Smali.unescape rest := by
  have hr := readUnsigned_of_digits h.le (.inl rfl) (.inl rfl) (.inl rfl) (.inl rfl)
  simp [hexEscape, Smali.unescape, unicodeEscape, hr, h.charOfNat?]

lemma codeUnits_of_le (hc : c.toNat ≤ 0xFFFF) : codeUnits c = [c.toNat] :=
  if_pos hc

lemma codeUnits_of_lt (hc : 0xFFFF < c.toNat) :
    ∃ high low, IsSurrogate high ∧ IsSurrogate low ∧ codeUnits c = [high, low] := by
  have hv : c.toNat < 0x110000 := by
    rcases c.valid with hv | hv
    · exact Nat.lt_trans hv (by decide)
    · exact hv.2
  refine ⟨_, _, ?_, ?_, if_neg (by omega)⟩
  · unfold IsSurrogate
    omega
  · unfold IsSurrogate
    omega

end Units

section Literals

variable {value : List Char}

lemma escape_cons (c : Char) (value : List Char) :
    escape (c :: value) = (codeUnits c).flatMap escapeUnit ++ escape value := by
  simp [escape]

lemma written_cases (c : Char) :
    c.toNat ≤ 0xFFFF ∧ Spells c ((codeUnits c).flatMap escapeUnit) ∨
      0xFFFF < c.toNat ∧ ∃ high low, IsSurrogate high ∧ IsSurrogate low ∧
        (codeUnits c).flatMap escapeUnit = hexEscape high ++ hexEscape low ∧
        (codeUnits c).flatMap hexEscape = hexEscape high ++ hexEscape low := by
  rcases Nat.lt_or_ge 0xFFFF c.toNat with hc | hc
  · obtain ⟨high, low, hh, hl, hu⟩ := codeUnits_of_lt hc
    refine .inr ⟨hc, high, low, hh, hl, ?_, ?_⟩
    · simp [hu, hh.escapeUnit_eq, hl.escapeUnit_eq]
    · simp [hu]
  · refine .inl ⟨hc, ?_⟩
    simpa [codeUnits_of_le hc] using spells_escapeUnit hc

def remnant (c : Char) : List Char :=
  if c.toNat ≤ 0xFFFF then [c] else (codeUnits c).flatMap hexEscape

lemma unescape_escape (value : List Char) : unescape (escape value) = value.flatMap remnant := by
  induction value with
  | nil => simp [escape, unescape]
  | cons c value ih =>
    rw [escape_cons, List.flatMap_cons, ← ih]
    rcases written_cases c with ⟨hc, hs⟩ | ⟨hc, high, low, hh, hl, hw, hr⟩
    · rw [hs.unescape, remnant, if_pos hc, List.singleton_append]
    · rw [hw, List.append_assoc, hh.unescape, hl.unescape, remnant, if_neg (by omega), hr,
        List.append_assoc]

lemma length_remnant (c : Char) :
    (remnant c).length = 1 + if 0xFFFF < c.toNat then 11 else 0 := by
  rcases written_cases c with ⟨hc, -⟩ | ⟨hc, high, low, -, -, -, hr⟩
  · rw [remnant, if_pos hc, if_neg (by omega), List.length_singleton]
  · rw [remnant, if_neg (by omega), if_pos hc, hr]
    rfl

lemma length_flatMap_remnant (value : List Char) :
    (value.flatMap remnant).length =
      value.length + 11 * value.countP fun c => 0xFFFF < c.toNat := by
  -- a character that is not read back leaves twelve
  induction value with
  | nil => rfl
  | cons c value ih =>
    rw [List.flatMap_cons, List.length_append, length_remnant, ih, List.length_cons,
      List.countP_cons]
    by_cases hc : 0xFFFF < c.toNat
    · simp only [hc, if_true, decide_true]
      omega
    · simp only [hc, if_false, decide_false, Bool.false_eq_true]
      omega

lemma flatMap_remnant_eq_iff : value.flatMap remnant = value ↔ InBasicPlane value := by
  constructor
  · intro he c hc
    have hl := length_flatMap_remnant value
    rw [he] at hl
    have hz : value.countP (fun c => 0xFFFF < c.toNat) = 0 := by omega
    simpa using List.countP_eq_zero.mp hz c hc
  · intro h
    have hr : ∀ c ∈ value, remnant c = [c] := fun c hc => if_pos (h c hc)
    rw [List.flatMap_congr hr]
    exact List.flatMap_singleton' value

lemma literal?_hexEscape {unit : Nat} (hu : unit ≤ 0xFFFF) (rest : List Char) :
    literal? (hexEscape unit ++ rest) = (literal? rest).map (hexEscape unit ++ ·) :=
  literal?_code hu (.inl rfl) (.inl rfl) (.inl rfl) (.inl rfl) rest

lemma literal?_escape (value rest : List Char) :
    literal? (escape value ++ rest) = (literal? rest).map (escape value ++ ·) := by
  induction value with
  | nil => simp [escape]
  | cons c value ih =>
    rw [escape_cons]
    rcases written_cases c with ⟨-, hs⟩ | ⟨-, high, low, hh, hl, hw, -⟩
    · rw [List.append_assoc, hs.literal?, ih, Option.map_map]
      simp [Function.comp_def]
    · rw [hw, List.append_assoc, List.append_assoc, literal?_hexEscape hh.le,
        literal?_hexEscape hl.le, ih, Option.map_map, Option.map_map]
      simp [Function.comp_def]

lemma no_feed_escape (value : List Char) : '\n' ∉ escape value := by
  have no_feed : ∀ {unit : Nat}, IsSurrogate unit → '\n' ∉ hexEscape unit :=
    fun h => no_feed_code h.le (.inl rfl) (.inl rfl) (.inl rfl) (.inl rfl)
  induction value with
  | nil => exact List.not_mem_nil
  | cons c value ih =>
    rw [escape_cons]
    rcases written_cases c with ⟨-, hs⟩ | ⟨-, high, low, hh, hl, hw, -⟩
    · exact List.not_mem_append hs.no_feed ih
    · rw [hw]
      exact List.not_mem_append (List.not_mem_append (no_feed hh) (no_feed hl)) ih

end Literals

section Sources

structure LoadLine where
  jumbo : Bool
  indent : List Char
  gap : List Char
  register : List Char
  blanks : List Char
  indent_ok : IsIndent indent
  gap_ne_nil : gap ≠ []
  gap_ok : IsIndent gap
  register_ok : IsRegister register
  blanks_ok : IsIndent blanks

def LoadLine.text (l : LoadLine) (literal : List Char) : List Char :=
  l.indent ++ ("const-string".toList ++ (loadForm l.jumbo ++ (l.gap ++ (l.register ++
    ',' :: (l.blanks ++ '"' :: (literal ++ ['"']))))))

def LoadLine.within (l : LoadLine) (before : String) (value : List Char) (after : String) :
    String :=
  before ++ "\n" ++ String.ofList (l.text (escape value)) ++ "\n" ++ after

lemma LoadLine.read?_text (l : LoadLine) (value : List Char) :
    Statement.read? (trimChars (l.text (escape value))) =
      some (.loadString l.register (escape value)) := by
  have hl : literal? (escape value ++ ['"']) = some (escape value) := by
    rw [literal?_escape]
    simp [literal?]
  rw [LoadLine.text, trimChars_append l.indent_ok]
  exact read?_loadString l.jumbo l.register_ok l.gap_ne_nil l.gap_ok l.blanks_ok hl

lemma LoadLine.no_feed (l : LoadLine) (value : List Char) : '\n' ∉ l.text (escape value) :=
  List.not_mem_append l.indent_ok.no_feed
    (no_feed_loadString l.jumbo l.register_ok l.gap_ok l.blanks_ok (no_feed_escape value))

lemma LoadLine.statements_text (l : LoadLine) (value : List Char) :
    statements (String.ofList (l.text (escape value))) =
      [.loadString l.register (escape value)] := by
  have hs := filterMap_read?_lines (l.no_feed value) .textEnd
  rw [List.append_nil, List.append_nil, l.read?_text] at hs
  rw [statements, String.toList_ofList, hs]
  rfl

lemma LoadLine.operations_within (l : LoadLine) {before : String} {m : Method}
    (hm : (Scope.after before).method = some m) (value : List Char) (after : String) :
    operations (l.within before value after) = operations before ++
      .read (String.ofList (value.flatMap remnant)) m (String.ofList l.register) ::
        (Scope.after before).operations (statements after) := by
  -- a load leaves the reader where it stands
  have hload : (Scope.after before).operations
        (.loadString l.register (escape value) :: statements after) =
      .read (String.ofList (value.flatMap remnant)) m (String.ofList l.register) ::
        (Scope.after before).operations (statements after) := by
    simp [Scope.operations, Scope.operation?, Scope.next, hm, unescape_escape]
  rw [operations, LoadLine.within, statements_append, statements_append, l.statements_text,
    List.append_assoc, List.singleton_append, Scope.operations_append]
  exact congrArg _ hload

lemma mem_readsOf_addSource {log : List CodeIndex.Operation} {source value register : String}
    {reader : Method} :
    ⟨reader, register⟩ ∈ ((CodeIndex.ofLog log).addSource source).readsOf value ↔
      .read value reader register ∈ log ++ operations source := by
  rw [CodeIndex.addSource_ofLog, (CodeIndex.reflects_ofLog _).readsOf_eq_stringIn,
    CodeIndex.mem_reads_stringIn]

end Sources

/-- A string that is written unit by unit is read back exactly if it lies in the basic plane.  A
load of it in a method counts as a read of it in the same case, whatever stands around the line and
has been indexed before; else a read is there only if another line or an earlier source made it. -/
theorem escape_undone_iff (s : String) :
    (String.ofList (unescape (escape s.toList)) = s ↔ InBasicPlane s.toList) ∧
      ∀ (log : List CodeIndex.Operation) (l : LoadLine) (before after : String) (m : Method),
        (Scope.after before).method = some m →
          (⟨m, String.ofList l.register⟩ ∈
              ((CodeIndex.ofLog log).addSource (l.within before s.toList after)).readsOf s ↔
            InBasicPlane s.toList ∨ .read s m (String.ofList l.register) ∈
              log ++ operations before ++ (Scope.after before).operations (statements after)) := by
  have hread : String.ofList (s.toList.flatMap remnant) = s ↔ InBasicPlane s.toList := by
    rw [← flatMap_remnant_eq_iff, ← String.toList_inj, String.toList_ofList]
  constructor
  · rw [unescape_escape, hread]
  · intro log l before after m hm
    rw [mem_readsOf_addSource, l.operations_within hm, ← hread]
    simp only [List.mem_append, List.mem_cons, CodeIndex.Operation.read.injEq, and_true]
    rw [eq_comm (a := s)]
    simp only [or_assoc, or_left_comm]

def loadIntoV0 : LoadLine where
  jumbo := false
  indent := [' ', ' ']
  gap := [' ']
  register := "v0".toList
  blanks := [' ']
  indent_ok := by simp [IsIndent]
  gap_ne_nil := by simp
  gap_ok := by simp [IsIndent]
  register_ok := ⟨by decide, List.all_eq_true.mp (by decide)⟩
  blanks_ok := by simp [IsIndent]

theorem escape_undone_iff_accented :
    InBasicPlane "\"é\"\t\\".toList ∧
      ⟨⟨"A", "m", "()V"⟩, "v0"⟩ ∈ ((CodeIndex.ofLog []).addSource
        (loadIntoV0.within openMethod "\"é\"\t\\".toList ".end method")).readsOf
          "\"é\"\t\\" := by
  have hall : ("\"é\"\t\\".toList.all fun c => c.toNat ≤ 0xFFFF) = true := by decide
  have hp : InBasicPlane "\"é\"\t\\".toList := fun c hc =>
    of_decide_eq_true (List.all_eq_true.mp hall c hc)
  refine ⟨hp, ?_⟩
  exact ((escape_undone_iff "\"é\"\t\\").2 [] loadIntoV0 openMethod ".end method" _
    method_after_openMethod).mpr (.inl hp)

/-- A face is written as two escapes, which are read as they stand, so nothing reads the face. -/
theorem face_not_read_back :
    String.ofList (unescape (escape [Char.ofNat 0x1F600])) ≠ String.ofList [Char.ofNat 0x1F600] ∧
      ⟨⟨"A", "m", "()V"⟩, "v0"⟩ ∉ ((CodeIndex.ofLog []).addSource
        (loadIntoV0.within openMethod [Char.ofNat 0x1F600] ".end method")).readsOf
          (String.ofList [Char.ofNat 0x1F600]) := by
  constructor
  · rw [unescape_escape]
    decide
  · rw [mem_readsOf_addSource, loadIntoV0.operations_within method_after_openMethod]
    decide +kernel

end ApkAudit.Smali
