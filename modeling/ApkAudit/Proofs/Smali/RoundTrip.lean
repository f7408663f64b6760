import ApkAudit.Proofs.Smali.Reading

/-! Every way to write a class down is read back into the operations of the class. -/

namespace ApkAudit.Smali

open Text

section Feeds

lemma no_feed_of_ascii {word : List Char}
    (h : ∀ c ∈ word, isAsciiWord c = true ∨ c = '-' ∨ c = '/') : '\n' ∉ word := by
  intro hm
  rcases h _ hm with ha | he | he
  · cases ha
  · cases he
  · cases he

lemma Headed.no_feed {declared text : List Char} {words : List (List Char)}
    (h : Headed declared words text) (hw : IsAccess words) (hd : IsSolid declared) :
    '\n' ∉ text := by
  induction h with
  | declared _ hi => exact List.not_mem_append hi.no_feed hd.no_feed
  | @access gap word text words _ hi _ ih =>
    have hword : '\n' ∉ word :=
      no_feed_of_ascii fun c hc => (hw word List.mem_cons_self c hc).imp_right Or.inl
    have htext := ih fun w hm => hw w (List.mem_cons_of_mem _ hm)
    exact List.not_mem_append hi.no_feed (List.not_mem_append hword htext)

lemma Target.no_feed (t : Target) : '\n' ∉ t.descriptor := by
  cases t with
  | object path dimensions _ _ hf => simp [descriptor, hf]
  | primitives element further => cases element <;> simp [descriptor, Primitive.letter]

lemma no_feed_loadString {register literal gap blanks : List Char} (jumbo : Bool)
    (hr : IsRegister register) (hg : IsIndent gap) (hb : IsIndent blanks) (hl : '\n' ∉ literal) :
    '\n' ∉ "const-string".toList ++ (loadForm jumbo ++ (gap ++ (register ++
      ',' :: (blanks ++ '"' :: (literal ++ ['"']))))) := by
  have hregister : '\n' ∉ register := no_feed_of_ascii fun c hc => .inl (hr.2 c hc)
  have hform : '\n' ∉ loadForm jumbo := by cases jumbo <;> decide
  simp [hform, hg.no_feed, hregister, hb.no_feed, hl]

lemma Item.Written.no_feed {item : Item} {line : List Char} (h : item.Written line) :
    '\n' ∉ line := by
  cases h with
  | @classHeader c text ht => simp [ht.no_feed c.access_ok c.descriptor_solid]
  | @methodHeader m text ht => simp [ht.no_feed m.access_ok m.signature.text_solid]
  | endMethod => decide
  | @call kind registers t s hk _ hf gap blanks _ hg hb =>
    have hkind : '\n' ∉ kind := no_feed_of_ascii hk.2
    simp [hkind, hg.no_feed, hf, hb.no_feed, t.no_feed, s.text_solid.no_feed]
  | @loadString register value literal hr jumbo gap blanks _ hg hb hv =>
    exact no_feed_loadString jumbo hr hg hb hv.no_feed
  | other hl => exact hl.1

end Feeds

def Cursor.follow (cursor : Cursor) : Item → Cursor
  | .classHeader c => { cursor with className := some c.name }
  | .methodHeader m =>
    match cursor.className with
    | none => cursor
    | some className =>
      { cursor with
        method := some (m.signature.method className)
        index := cursor.index.apply (.declare (m.signature.method className)) }
  | .endMethod => { cursor with method := none }
  | .instruction i =>
    match cursor.method with
    | none => cursor
    | some m => { cursor with index := (i.operation? m).toList.foldl CodeIndex.apply cursor.index }

section Lines

lemma Item.Written.step {item : Item} {line : List Char} (h : item.Written line) (cursor : Cursor) :
    (Statement.read? (trimChars line)).toList.foldl Cursor.step cursor = cursor.follow item := by
  cases h with
  | @classHeader c text ht =>
    have hs : c.descriptor <:+ ".class".toList ++ text := ht.suffix.trans (List.suffix_append _ _)
    have htrim : trimChars (".class".toList ++ text) = ".class".toList ++ text :=
      trimChars_eq_self rfl (List.cons_ne_nil _ _) c.descriptor_solid hs
    rw [htrim, read?_classHeader ht]
    simp [Cursor.step, Cursor.follow, c.classNameChars_descriptor]
  | @methodHeader m text ht =>
    have hs : m.signature.text <:+ ".method".toList ++ text :=
      ht.suffix.trans (List.suffix_append _ _)
    have htrim : trimChars (".method".toList ++ text) = ".method".toList ++ text :=
      trimChars_eq_self rfl m.signature.text_ne_nil m.signature.text_solid hs
    rw [htrim, read?_methodHeader ht]
    cases hc : cursor.className <;>
      simp [Cursor.step, Cursor.follow, hc, CodeIndex.apply, Signature.method]
  | endMethod => rfl
  | @call kind registers t s hk hr hf gap blanks hn hg hb =>
    have hs : s.text <:+ "invoke-".toList ++ (kind ++ (gap ++ '\x7b' :: (registers ++
        '\x7d' :: ',' :: (blanks ++ (t.descriptor ++ ("->".toList ++ s.text)))))) :=
      ⟨"invoke-".toList ++ (kind ++ (gap ++ '\x7b' :: (registers ++ '\x7d' :: ',' ::
        (blanks ++ (t.descriptor ++ "->".toList))))), by simp⟩
    rw [trimChars_eq_self rfl s.text_ne_nil s.text_solid hs, read?_call t s hk hr hn hg hb]
    cases hm : cursor.method <;>
      simp [Cursor.step, Cursor.follow, hm, Instruction.operation?, CodeIndex.apply,
        Signature.method, t.classNameChars_descriptor]
  | @loadString register value literal hr jumbo gap blanks hn hg hb hv =>
    rw [read?_loadString jumbo hr hn hg hb (hv.literal? [])]
    cases hm : cursor.method <;>
      simp [Cursor.step, Cursor.follow, hm, Instruction.operation?, CodeIndex.apply, hv.unescape]
  | other hl =>
    rw [read?_eq_none hl.2]
    obtain ⟨className, method, index⟩ := cursor
    cases method <;> rfl

lemma IsIdle.no_feed {line : List Char} (h : IsIdle line) : '\n' ∉ line := by
  cases h with
  | blank hi => exact hi.no_feed
  | comment hi ht => exact List.not_mem_append hi.no_feed (by simpa using ht)

lemma IsIdle.read?_eq_none {line : List Char} (h : IsIdle line) :
    Statement.read? (trimChars line) = none := by
  apply Smali.read?_eq_none
  intro keyword hk hp
  cases h with
  | blank hi =>
    rw [← List.append_nil line, trimChars_append hi, trimChars_nil, List.prefix_nil] at hp
    subst hp
    exact absurd hk (by decide)
  | @comment indent text hi _ =>
    rw [trimChars_append hi, trimChars, trimStartChars_cons rfl] at hp
    have hs := hp.trans (trimEndChars_isPrefix _)
    simp only [keywords, List.mem_cons, List.not_mem_nil, or_false] at hk
    rcases hk with rfl | rfl | rfl | rfl | rfl <;> simp at hs

end Lines

section Runs

lemma filterMap_read?_lines {line ending rest : List Char} (h : '\n' ∉ line)
    (he : LineEnd ending rest) :
    ((lines (line ++ (ending ++ rest))).filterMap fun line => Statement.read? (trimChars line)) =
      (Statement.read? (trimChars line)).toList ++
        (lines rest).filterMap fun line => Statement.read? (trimChars line) := by
  refine filterMap_lines (fun cs => ?_) ?_ h he
  · rw [trimChars_dropReturn]
  · exact (IsIdle.blank isIndent_nil).read?_eq_none

lemma filterMap_lines_append (before rest : List Char) :
    ((lines (before ++ '\n' :: rest)).filterMap fun line => Statement.read? (trimChars line)) =
      ((lines before).filterMap fun line => Statement.read? (trimChars line)) ++
        (lines rest).filterMap fun line => Statement.read? (trimChars line) := by
  -- line by line, so the induction is on the length of what stands before
  induction hn : before.length using Nat.strong_induction_on generalizing before with
  | _ n ih =>
    by_cases hf : '\n' ∈ before
    · obtain ⟨line, more, rfl, hl⟩ := List.eq_append_cons_of_mem hf
      have hm := ih more.length (by simp at hn; omega) more rfl
      have ha := filterMap_read?_lines hl (.feed (more ++ '\n' :: rest))
      have hb := filterMap_read?_lines hl (.feed more)
      simp only [List.singleton_append] at ha hb
      rw [List.append_assoc, List.cons_append, ha, hb, hm, List.append_assoc]
    · have ha := filterMap_read?_lines hf (.feed rest)
      have hb := filterMap_read?_lines hf .textEnd
      simp only [List.singleton_append] at ha
      simp only [List.append_nil] at hb
      rw [ha, hb]
      simp [lines, linesFrom]

lemma statements_append (before rest : String) :
    statements (before ++ "\n" ++ rest) = statements before ++ statements rest := by
  have hl : (before ++ "\n" ++ rest).toList = before.toList ++ '\n' :: rest.toList := by simp
  rw [statements, hl]
  exact filterMap_lines_append before.toList rest.toList

lemma LaidOut.foldl_step {items : List Item} {text : List Char} (h : LaidOut items text)
    (cursor : Cursor) :
    ((lines text).filterMap fun line => Statement.read? (trimChars line)).foldl Cursor.step cursor =
      items.foldl Cursor.follow cursor := by
  induction h generalizing cursor with
  | nil => rfl
  | idle hi he _ ih =>
    rw [filterMap_read?_lines hi.no_feed he, hi.read?_eq_none]
    exact ih cursor
  | item hi hw he _ ih =>
    rw [filterMap_read?_lines (List.not_mem_append hi.no_feed hw.no_feed) he, trimChars_append hi,
      List.foldl_append, hw.step, ih, List.foldl_cons]

lemma foldl_follow_body {m : Method} (body : List Instruction) (cursor : Cursor)
    (hm : cursor.method = some m) :
    (body.map Item.instruction).foldl Cursor.follow cursor =
      { cursor with index :=
          (body.filterMap (Instruction.operation? m)).foldl CodeIndex.apply cursor.index } := by
  induction body generalizing cursor with
  | nil => rfl
  | cons i body ih =>
    have hi : cursor.follow (.instruction i) =
        { cursor with index := (i.operation? m).toList.foldl CodeIndex.apply cursor.index } := by
      simp [Cursor.follow, hm]
    have hb := ih { cursor with
      index := (i.operation? m).toList.foldl CodeIndex.apply cursor.index } hm
    rw [List.map_cons, List.foldl_cons, hi, hb, List.filterMap_cons]
    cases i.operation? m <;> rfl

lemma foldl_follow_method {className : String} (m : MethodSource) (cursor : Cursor)
    (hc : cursor.className = some className) :
    m.items.foldl Cursor.follow cursor =
      { cursor with
        method := none
        index := (m.operations className).foldl CodeIndex.apply cursor.index } := by
  have hh : cursor.follow (.methodHeader m) =
      { cursor with
        method := some (m.signature.method className)
        index := cursor.index.apply (.declare (m.signature.method className)) } := by
    simp [Cursor.follow, hc]
  rw [MethodSource.items, List.cons_append, List.foldl_cons, List.foldl_append, hh,
    foldl_follow_body m.body _ rfl]
  rfl

lemma foldl_follow_members {className : String} (members : List Member) (cursor : Cursor)
    (hc : cursor.className = some className) :
    ((members.flatMap Member.items).foldl Cursor.follow cursor).index =
      (members.flatMap (Member.operations className)).foldl CodeIndex.apply cursor.index := by
  induction members generalizing cursor with
  | nil => rfl
  | cons member members ih =>
    rw [List.flatMap_cons, List.flatMap_cons, List.foldl_append, List.foldl_append]
    -- a member leaves the class as it is, so the induction hypothesis applies behind it
    cases member with
    | method m =>
      rw [Member.items, foldl_follow_method m cursor hc]
      exact ih _ hc
    | other line line_ok =>
      have hl : (Member.other line line_ok).items.foldl Cursor.follow cursor = cursor := by
        obtain ⟨className, method, index⟩ := cursor
        cases method <;> rfl
      rw [hl]
      exact ih cursor hc

end Runs

section Existence

lemma exists_headed (declared : List Char) (words : List (List Char)) :
    ∃ text, Headed declared words text := by
  induction words with
  | nil => exact ⟨_, .declared (List.cons_ne_nil _ _) isIndent_space⟩
  | cons word words ih =>
    obtain ⟨text, ht⟩ := ih
    exact ⟨_, .access (List.cons_ne_nil _ _) isIndent_space ht⟩

lemma Item.exists_written (item : Item) : ∃ line, item.Written line := by
  have hi := isIndent_space
  cases item with
  | classHeader c =>
    obtain ⟨text, ht⟩ := exists_headed c.descriptor c.access
    exact ⟨_, .classHeader ht⟩
  | methodHeader m =>
    obtain ⟨text, ht⟩ := exists_headed m.signature.text m.access
    exact ⟨_, .methodHeader ht⟩
  | endMethod => exact ⟨_, .endMethod⟩
  | instruction i =>
    cases i with
    | call kind registers target signature hk hr hf =>
      exact ⟨_, .call hk hr hf (List.cons_ne_nil _ _) hi hi⟩
    | loadString jumbo register value hr =>
      obtain ⟨literal, hv⟩ := exists_spelled value
      exact ⟨_, .loadString hr (List.cons_ne_nil _ _) hi hi hv⟩
    | other line hl => exact ⟨_, .other hl⟩

lemma exists_laidOut (items : List Item) : ∃ text, LaidOut items text := by
  induction items with
  | nil => exact ⟨_, .nil⟩
  | cons item items ih =>
    obtain ⟨text, ht⟩ := ih
    obtain ⟨line, hl⟩ := item.exists_written
    exact ⟨_, .item isIndent_nil hl (.feed text) ht⟩

end Existence

namespace ClassSource

lemma exists_writtenAs (c : ClassSource) : ∃ source, c.WrittenAs source := by
  obtain ⟨text, ht⟩ := exists_laidOut c.items
  refine ⟨String.ofList text, ?_⟩
  rw [WrittenAs, String.toList_ofList]
  exact ht

lemma addSource_of_writtenAs {c : ClassSource} {source : String} (h : c.WrittenAs source)
    (index : CodeIndex) :
    index.addSource source = c.operations.foldl CodeIndex.apply index := by
  have hm := foldl_follow_members c.members
    (Cursor.follow { index := index } (.classHeader c)) rfl
  rw [CodeIndex.addSource, statements, LaidOut.foldl_step h, ClassSource.items,
    List.foldl_cons, hm]
  rfl

/-- A class can be written down, and whichever way it is, reading it adds the operations of the
class to the index: each method with its calls and loads, in order, and nothing else.  An index that
a log describes is then described by the log with these operations behind it. -/
theorem addSource_eq_operations (c : ClassSource) :
    (∃ source, c.WrittenAs source) ∧
      ∀ source, c.WrittenAs source →
        (∀ index : CodeIndex,
          index.addSource source = c.operations.foldl CodeIndex.apply index) ∧
        ∀ log, (CodeIndex.ofLog log).addSource source = CodeIndex.ofLog (log ++ c.operations) := by
  refine ⟨c.exists_writtenAs, fun source hs => ⟨addSource_of_writtenAs hs, fun log => ?_⟩⟩
  rw [addSource_of_writtenAs hs, CodeIndex.ofLog, CodeIndex.ofLog, List.foldl_append]

end ClassSource

def Signature.plain (name result : String)
    (hname : name ≠ "" ∧ IsSolid name.toList ∧ '(' ∉ name.toList)
    (hresult : result ≠ "" ∧ IsSolid result.toList) : Signature where
  name := name.toList
  parameters := []
  result := result.toList
  name_ne_nil := by simpa using hname.1
  name_solid := hname.2.1
  paren_not_mem_name := hname.2.2
  parameters_solid := by simp [IsSolid]
  paren_not_mem_parameters := by simp
  result_ne_nil := by simpa using hresult.1
  result_solid := hresult.2

def copying : MethodSource where
  access := ["public".toList, "constructor".toList]
  signature := .plain "<init>" "V" (by decide +kernel) (by decide +kernel)
  body := [
    .other ".locals 2".toList (by decide +kernel),
    .loadString true "v0".toList "a\t\"é".toList (by decide +kernel),
    .call "virtual".toList "v1".toList (.primitives .int 0)
      (.plain "clone" "Ljava/lang/Object;" (by decide +kernel) (by decide +kernel))
      (by decide +kernel) (by decide +kernel) (by decide +kernel)]
  access_ok := by decide +kernel

/-- A class whose constructor loads a text and copies an array. -/
def copier : ClassSource where
  access := ["public".toList]
  path := "a/Copier".toList
  members := [.other ".super Ljava/lang/Object;".toList (by decide +kernel), .method copying]
  access_ok := by decide +kernel
  path_ne_nil := by decide +kernel
  path_solid := by decide +kernel
  stop_not_mem_path := by decide +kernel

def copierText : String :=
  ".class public La/Copier;\r\n.super Ljava/lang/Object;\n\n# direct methods\n" ++
    ".method public constructor <init>()V\n    .locals 2\n" ++
    "    const-string/jumbo v0, \"a\\t\\\"\\u00E9\"\n" ++
    "    invoke-virtual \x7bv1\x7d, [I->clone()Ljava/lang/Object;\n.end method"

lemma spelled_copier : Spelled "a\t\"é".toList "a\\t\\\"\\u00E9".toList := by
  have hcode : Spells 'é' ['\\', 'u', '0', '0', 'E', '9'] :=
    .code (by decide) (.inl rfl) (.inl rfl) (.inr rfl) (.inl rfl)
  exact .cons (.plain (by decide) (by decide) (by decide)) (.cons .tab
    (.cons (.covered (by decide)) (.cons hcode .nil)))

lemma copier_writtenAs : copier.WrittenAs copierText := by
  have hnone := isIndent_nil
  have hone := isIndent_space
  have hfour : IsIndent "    ".toList := by simp [IsIndent]
  have hgap : [' '] ≠ [] := by simp
  have hclass : (Item.classHeader copier).Written ".class public La/Copier;".toList :=
    .classHeader (.access hgap hone (.declared hgap hone))
  have hmethod : (Item.methodHeader copying).Written
      ".method public constructor <init>()V".toList :=
    .methodHeader (.access hgap hone (.access hgap hone (.declared hgap hone)))
  have hcomment : IsIdle "# direct methods".toList := .comment hnone (by decide +kernel)
  have hblank : IsIdle [] := .blank hnone
  have hlaid : LaidOut copier.items _ :=
    .item hnone hclass (.returnFeed _) (.item hnone (.other _) (.feed _)
      (.idle hblank (.feed _) (.idle hcomment (.feed _) (.item hnone hmethod (.feed _)
        (.item hfour (.other _) (.feed _)
          (.item hfour (.loadString _ hgap hone hone spelled_copier) (.feed _)
            (.item hfour (.call _ _ _ hgap hone hone) (.feed _)
              (.item hnone .endMethod .textEnd .nil))))))))
  refine Eq.subst (motive := LaidOut copier.items) ?_ hlaid
  decide +kernel

theorem addSource_eq_operations_copier :
    copier.WrittenAs copierText ∧
      CodeIndex.empty.addSource copierText = CodeIndex.ofLog [
        .declare ⟨"a.Copier", "<init>", "()V"⟩,
        .read "a\t\"é" ⟨"a.Copier", "<init>", "()V"⟩ "v0",
        .call ⟨"a.Copier", "<init>", "()V"⟩ ⟨"I[]", "clone", "()Ljava/lang/Object;"⟩] :=
  ⟨copier_writtenAs, (copier.addSource_eq_operations.2 copierText copier_writtenAs).2 []⟩

end ApkAudit.Smali
