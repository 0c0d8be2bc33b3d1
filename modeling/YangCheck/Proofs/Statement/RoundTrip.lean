import YangCheck.Model.Source
import YangCheck.Proofs.Statement.Reading
import YangCheck.Proofs.Text.Words

namespace YangCheck

namespace Text

/-- Whether a text can stand between quotes. -/
def isSpeakable (text : String) : Bool :=
  !text.isEmpty && text.toList.all (· != '"')

variable {text : String}

theorem isBlank_of_isWord (h : isWord text = true) {c : Char} (hc : c ∈ text.toList) :
    isBlank c = false := by
  have hall := (Bool.and_eq_true_iff.mp h).2
  simpa using List.all_eq_true.mp hall c hc

theorem toList_ne_nil_of_isWord (h : isWord text = true) : text.toList ≠ [] := by
  have hempty := (Bool.and_eq_true_iff.mp h).1
  intro hnil
  simp [String.toList_eq_nil_iff.mp hnil] at hempty

theorem isBlank_head_of_isWord (h : isWord text = true) (rest : List Char) {c : Char}
    (hc : (text.toList ++ rest).head? = some c) : isBlank c = false := by
  cases hs : text.toList with
  | nil => exact absurd hs (toList_ne_nil_of_isWord h)
  | cons a s =>
    rw [hs] at hc
    obtain rfl := Option.some.inj hc
    exact isBlank_of_isWord h (hs ▸ List.mem_cons_self)

end Text

namespace NodeKind

theorem mem_all (kind : NodeKind) : kind ∈ all := by
  cases kind <;> decide

theorem keyword_injective {a b : NodeKind} (h : a.keyword = b.keyword) : a = b := by
  cases a <;> cases b <;> simp [keyword] at h ⊢

theorem forall_keyword_ne {other : String} :
    (∀ kind : NodeKind, ¬kind.keyword = other) ↔
      other ∉ ["container", "leaf", "leaf-list", "list"] := by
  constructor
  · intro h hmem
    have hc := h .container
    have hl := h .leaf
    have hll := h .leafList
    have hls := h .list
    simp_all [keyword, eq_comm]
  · intro h kind hkind
    subst other
    cases kind <;> simp [keyword] at h

end NodeKind

namespace Statement

open Text

/-- What follows the keyword and the blank behind it in the line that says a statement. -/
def afterKeyword : Statement → List Char
  | .openModule name | .openImport name | .openNode _ name => name.toList ++ [' ', '{']
  | .setPrefix name | .setType name => name.toList ++ [';']
  | .setNamespace text | .setDescription text => '"' :: text.toList ++ ['"', ';']
  | .setMandatory value => (toString value).toList ++ [';']
  | .close => []

/-- Whether the text of a statement can stand in a line. -/
def isSpeakable : Statement → Bool
  | .openModule name | .setPrefix name | .openImport name | .openNode _ name | .setType name =>
    isWord name
  | .setNamespace text | .setDescription text => Text.isSpeakable text
  | .setMandatory _ | .close => true

variable {statement : Statement}

theorem line_of_ne_close (h : statement ≠ .close) :
    statement.line.toList = statement.keyword.toList ++ ' ' :: statement.afterKeyword := by
  cases statement with
  | close => exact absurd rfl h
  | setMandatory value => cases value <;> rfl
  | _ => simp [line, opens, render, keyword, afterKeyword]

theorem isWord_keyword (statement : Statement) : isWord statement.keyword = true := by
  cases statement with
  | openNode kind name => cases kind <;> simp only [keyword, NodeKind.keyword] <;> decide
  | _ => simp only [keyword]; decide

theorem argument?_append {keyword found : String} (hk : isWord keyword = true)
    (hf : isWord found = true) (rest : List Char) :
    argument? keyword (found.toList ++ ' ' :: rest) =
      if keyword = found then some (skipBlanks rest) else none := by
  have hend : ∀ c, (' ' :: rest).head? = some c → isBlank c = true := by
    intro c hc
    obtain rfl := Option.some.inj hc
    rfl
  have hhead := skipBlanks_of_head fun c => isBlank_head_of_isWord hf (' ' :: rest) (c := c)
  simp only [argument?, hhead]
  by_cases hsame : keyword = found
  · subst hsame
    rw [if_pos rfl, if_pos (List.isPrefixOf_iff_prefix.mpr (List.prefix_append _ _)),
      List.drop_left]
    rfl
  · rw [if_neg hsame]
    split
    case isFalse => rfl
    case isTrue hprefix =>
      obtain ⟨behind, hbehind⟩ := List.isPrefixOf_iff_prefix.mp hprefix
      rw [← hbehind, List.drop_left]
      cases behind with
      | nil => rfl
      | cons c behind =>
        cases hc : isBlank c with
        | false => simp [hc]
        | true =>
          have hword := firstWord_append (fun _ => isBlank_of_isWord hf) hend
          rw [← hbehind, firstWord_append (fun _ => isBlank_of_isWord hk) ?_] at hword
          · exact absurd (String.toList_inj.mp hword) hsame
          · intro d hd
            obtain rfl := Option.some.inj hd
            exact hc

theorem argument?_line {keyword : String} (hk : isWord keyword = true)
    (h : statement ≠ .close) :
    argument? keyword statement.line.toList =
      if keyword = statement.keyword then some (skipBlanks statement.afterKeyword) else none := by
  rw [line_of_ne_close h, argument?_append hk (isWord_keyword statement)]

/-- A word in front of an opening brace is taken whole, whatever it consists of. -/
theorem word?_brace {name : String} (h : isWord name = true) :
    word? '{' (skipBlanks (name.toList ++ [' ', '{'])) = some name := by
  have hword : ∀ c ∈ name.toList, isBlank c = false := fun _ => isBlank_of_isWord h
  have hend : ∀ c, [' ', '{'].head? = some c → isBlank c = true := by
    intro c hc
    obtain rfl := Option.some.inj hc
    rfl
  have hempty : name.toList.isEmpty = false := by
    simpa using toList_ne_nil_of_isWord h
  rw [skipBlanks_of_head fun c => isBlank_head_of_isWord h _]
  simp only [word?, firstWord_append hword hend, afterWord_append hword hend, hempty]
  rw [if_neg Bool.false_ne_true, if_pos (by decide), String.ofList_toList]

theorem word?_semicolon {name : String} (h : isWord name = true) :
    word? ';' (skipBlanks (name.toList ++ [';'])) = some name := by
  have hword : ∀ c ∈ name.toList ++ [';'], isBlank c = false := by
    intro c hc
    rcases List.mem_append.mp hc with hc | hc
    · exact isBlank_of_isWord h hc
    · obtain rfl := List.mem_singleton.mp hc
      rfl
  have hfirst : firstWord (name.toList ++ [';']) = name.toList ++ [';'] :=
    List.takeWhile_eq_self_iff.mpr fun c hc => by simp [hword c hc]
  have hafter : afterWord (name.toList ++ [';']) = [] :=
    List.dropWhile_eq_nil_iff.mpr fun c hc => by simp [hword c hc]
  rw [skipBlanks_of_head fun c => isBlank_head_of_isWord h _]
  simp only [word?, hfirst, hafter, beforeLast?_append]
  cases hs : name.toList with
  | nil => exact absurd hs (toList_ne_nil_of_isWord h)
  | cons c front => simp [skipBlanks, ← hs]

theorem quotedText?_quotes {text : String} (h : Text.isSpeakable text = true) :
    quotedText? (skipBlanks ('"' :: text.toList ++ ['"', ';'])) = some text := by
  obtain ⟨hempty, hquote⟩ := Bool.and_eq_true_iff.mp h
  have hinside : ∀ c ∈ text.toList, (c != '"') = true := List.all_eq_true.mp hquote
  have hskip : skipBlanks ('"' :: text.toList ++ ['"', ';']) =
      '"' :: (text.toList ++ ['"', ';']) := rfl
  have hnil : text.toList.isEmpty = false := by simpa using hempty
  rw [hskip, quotedText?, List.takeWhile_append_of_pos hinside,
    List.dropWhile_append_of_pos hinside]
  simp only [bne_self_eq_false, Bool.false_eq_true, not_false_eq_true, List.takeWhile_cons_of_neg,
    List.dropWhile_cons_of_neg, List.append_nil, hnil, if_false, String.ofList_toList]
  rfl

theorem firstWord_of_argument? {keyword : String} {line rest : List Char}
    (hk : isWord keyword = true) (h : argument? keyword line = some rest) :
    firstWord (skipBlanks line) = keyword.toList := by
  simp only [argument?] at h
  split at h
  case isFalse => cases h
  case isTrue hprefix =>
    obtain ⟨behind, hbehind⟩ := List.isPrefixOf_iff_prefix.mp hprefix
    rw [← hbehind, List.drop_left] at h
    rw [← hbehind]
    apply firstWord_append fun _ => isBlank_of_isWord hk
    intro c hc
    cases behind with
    | nil => cases hc
    | cons d behind =>
      obtain rfl := Option.some.inj hc
      by_contra hblank
      simp [hblank] at h

theorem firstWord_of_reads {line : List Char} (h : Reads line statement) :
    firstWord (skipBlanks line) = statement.keyword.toList := by
  have hk := isWord_keyword statement
  cases statement with
  | close =>
    obtain rfl : line = ['}'] := h
    rfl
  | _ =>
    obtain ⟨rest, hrest, -⟩ := Option.bind_eq_some_iff.mp h
    exact firstWord_of_argument? hk hrest

theorem argument?_of_reads {line : List Char} (h : Reads line statement) {keyword : String}
    (hk : isWord keyword = true) (hne : keyword ≠ statement.keyword) :
    argument? keyword line = none := by
  cases ha : argument? keyword line with
  | none => rfl
  | some rest =>
    have hfirst := (firstWord_of_argument? hk ha).symm.trans (firstWord_of_reads h)
    exact absurd (String.toList_inj.mp hfirst) hne

theorem node?_eq_none {line : List Char} (h : Reads line statement)
    (hkinds : ∀ kind : NodeKind, kind.keyword ≠ statement.keyword) : node? line = none := by
  refine List.findSome?_eq_none_iff.mpr fun kind _ => ?_
  have hk : isWord kind.keyword = true := isWord_keyword (.openNode kind "")
  rw [header?, argument?_of_reads h hk (hkinds kind)]
  rfl

theorem node?_of_reads {line : List Char} {kind : NodeKind} {name : String}
    (h : Reads line (.openNode kind name)) : node? line = some (.openNode kind name) := by
  have hname : header? kind.keyword line = some name := h
  cases hnode : node? line with
  | none =>
    have hnone := List.findSome?_eq_none_iff.mp hnode kind (NodeKind.mem_all kind)
    rw [hname] at hnone
    cases hnone
  | some found =>
    obtain ⟨kind', -, hkind'⟩ := List.exists_of_findSome?_eq_some hnode
    obtain ⟨name', hname', rfl⟩ := Option.map_eq_some_iff.mp hkind'
    have hread : Reads line (.openNode kind' name') := hname'
    have hword := (firstWord_of_reads hread).symm.trans (firstWord_of_reads h)
    obtain rfl := NodeKind.keyword_injective (String.toList_inj.mp hword)
    obtain rfl := Option.some.inj (hname.symm.trans hname')
    rfl

theorem ofChars?_eq_some_iff {line : List Char} :
    ofChars? line = some statement ↔ Reads line statement := by
  refine ⟨reads_of_ofChars?, fun h => ?_⟩
  have hmodule : "module" ≠ statement.keyword → argument? "module" line = none :=
    argument?_of_reads h (by decide)
  have hnamespace : "namespace" ≠ statement.keyword → argument? "namespace" line = none :=
    argument?_of_reads h (by decide)
  have hprefix : "prefix" ≠ statement.keyword → argument? "prefix" line = none :=
    argument?_of_reads h (by decide)
  have himport : "import" ≠ statement.keyword → argument? "import" line = none :=
    argument?_of_reads h (by decide)
  have hnode : (∀ kind : NodeKind, kind.keyword ≠ statement.keyword) → node? line = none :=
    node?_eq_none h
  have htype : "type" ≠ statement.keyword → argument? "type" line = none :=
    argument?_of_reads h (by decide)
  have hmandatory : "mandatory" ≠ statement.keyword → argument? "mandatory" line = none :=
    argument?_of_reads h (by decide)
  have hdescription : "description" ≠ statement.keyword → argument? "description" line = none :=
    argument?_of_reads h (by decide)
  cases statement with
  | openModule name => exact ofChars?_of_module? h
  | openNode kind name =>
    have hread := node?_of_reads h
    cases kind <;>
      simp_all [ofChars?, module?, header?, setting?, quotedSetting?, keyword, NodeKind.keyword]
  | _ =>
    simp only [keyword, ne_eq] at hnode
    simp only [Reads, header?, setting?, quotedSetting?] at h
    simp_all [ofChars?, module?, header?, setting?, quotedSetting?, keyword,
      NodeKind.forall_keyword_ne]

theorem truth?_semicolon (value : Bool) :
    truth? (skipBlanks ((toString value).toList ++ [';'])) = some value := by
  cases value <;> decide

theorem reads_line (h : statement.isSpeakable = true) : Reads statement.line.toList statement := by
  by_cases hclose : statement = .close
  · subst statement
    rfl
  have ha : argument? statement.keyword statement.line.toList =
      some (skipBlanks statement.afterKeyword) := by
    rw [argument?_line (isWord_keyword statement) hclose, if_pos rfl]
  cases statement with
  | openModule name => exact Option.bind_eq_some_iff.mpr ⟨_, ha, word?_brace h⟩
  | setNamespace uri => exact Option.bind_eq_some_iff.mpr ⟨_, ha, quotedText?_quotes h⟩
  | setPrefix name => exact Option.bind_eq_some_iff.mpr ⟨_, ha, word?_semicolon h⟩
  | openImport name => exact Option.bind_eq_some_iff.mpr ⟨_, ha, word?_brace h⟩
  | openNode kind name => exact Option.bind_eq_some_iff.mpr ⟨_, ha, word?_brace h⟩
  | setType name => exact Option.bind_eq_some_iff.mpr ⟨_, ha, word?_semicolon h⟩
  | setMandatory value => exact Option.bind_eq_some_iff.mpr ⟨_, ha, truth?_semicolon value⟩
  | setDescription text => exact Option.bind_eq_some_iff.mpr ⟨_, ha, quotedText?_quotes h⟩
  | close => exact absurd rfl hclose

theorem ofChars?_line (h : statement.isSpeakable = true) :
    ofChars? statement.line.toList = some statement :=
  ofChars?_eq_some_iff.mpr (reads_line h)

theorem isWord_ofList {word : List Char} (hne : word ≠ [])
    (h : ∀ c ∈ word, isBlank c = false) : isWord (String.ofList word) = true := by
  rw [isWord, String.toList_ofList, Bool.and_eq_true_iff, List.all_eq_true]
  refine ⟨?_, fun c hc => by simp [h c hc]⟩
  simpa [← String.toList_eq_nil_iff] using hne

theorem isWord_of_word? {stop : Char} {s : List Char} {name : String}
    (h : word? stop s = some name) : isWord name = true := by
  simp only [word?] at h
  split at h
  case isTrue => cases h
  case isFalse hempty =>
    have hne : firstWord s ≠ [] := by simpa using hempty
    split at h
    case isTrue =>
      obtain rfl := Option.some.inj h
      exact isWord_ofList hne fun _ => isBlank_of_mem_firstWord
    case isFalse =>
      split at h
      · cases h
      · cases h
      · rename_i front hfront hlast
        obtain rfl := Option.some.inj h
        apply isWord_ofList
        · rintro rfl
          exact hfront rfl
        · intro c hc
          exact isBlank_of_mem_firstWord ((prefix_of_beforeLast? hlast).mem hc)

theorem isSpeakable_of_quotedText? {s : List Char} {text : String}
    (h : quotedText? s = some text) : Text.isSpeakable text = true ∧ ∀ c ∈ text.toList, c ∈ s := by
  unfold quotedText? at h
  split at h
  case h_2 => cases h
  case h_1 rest =>
    dsimp only at h
    split at h
    case h_2 => cases h
    case h_1 behind hbehind =>
      split at h
      case isTrue => cases h
      case isFalse hempty =>
        split at h
        case isFalse => cases h
        case isTrue =>
          obtain rfl := Option.some.inj h
          rw [Text.isSpeakable, String.toList_ofList, Bool.and_eq_true_iff, List.all_eq_true]
          refine ⟨⟨?_, fun c hc => ?_⟩, fun c hc => ?_⟩
          · simpa [← String.toList_eq_nil_iff] using hempty
          · exact List.mem_takeWhile_imp (p := (· != '"')) hc
          · exact List.mem_cons_of_mem _ ((List.takeWhile_prefix _).mem hc)

theorem suffix_of_argument? {keyword : String} {line rest : List Char}
    (h : argument? keyword line = some rest) : rest <:+ line := by
  simp only [argument?] at h
  split at h
  case isFalse => cases h
  case isTrue =>
    split at h
    case h_1 => cases h
    case h_2 c behind hbehind =>
      split at h
      case isFalse => cases h
      case isTrue =>
        obtain rfl := Option.some.inj h
        have hdrop : c :: behind <:+ skipBlanks line := hbehind ▸ List.drop_suffix _ _
        exact ((List.dropWhile_suffix _).trans (List.suffix_cons c behind)).trans
          (hdrop.trans (List.dropWhile_suffix _))

theorem mem_of_word? {stop : Char} {s : List Char} {name : String}
    (h : word? stop s = some name) : stop ∈ s := by
  have hword : firstWord s <+: s := List.takeWhile_prefix _
  simp only [word?] at h
  split at h
  case isTrue => cases h
  case isFalse =>
    split at h
    case isTrue hnext =>
      have hbehind : skipBlanks (afterWord s) <:+ s :=
        (List.dropWhile_suffix _).trans (List.dropWhile_suffix _)
      exact hbehind.mem (List.mem_of_mem_head? hnext)
    case isFalse =>
      split at h
      · cases h
      · cases h
      · rename_i hlast
        exact hword.mem (mem_of_beforeLast? hlast)

theorem mem_of_opens {line : List Char} (h : Reads line statement)
    (hopens : statement.opens = true) : '{' ∈ line := by
  have hheader : ∀ {keyword name}, header? keyword line = some name → '{' ∈ line := by
    intro keyword name hname
    obtain ⟨rest, hrest, hword⟩ := Option.bind_eq_some_iff.mp hname
    exact (suffix_of_argument? hrest).mem (mem_of_word? hword)
  cases statement with
  | openModule name => exact hheader h
  | openImport name => exact hheader h
  | openNode kind name => exact hheader h
  | _ => cases hopens

/-- Every statement that is read can be said, and its quoted text is part of the line. -/
theorem isSpeakable_of_reads {line : List Char} (h : Reads line statement) :
    statement.isSpeakable = true := by
  cases statement with
  | setMandatory value => rfl
  | close => rfl
  | setNamespace uri =>
    obtain ⟨rest, -, hrest⟩ := Option.bind_eq_some_iff.mp h
    exact (isSpeakable_of_quotedText? hrest).1
  | setDescription text =>
    obtain ⟨rest, -, hrest⟩ := Option.bind_eq_some_iff.mp h
    exact (isSpeakable_of_quotedText? hrest).1
  | _ =>
    obtain ⟨rest, -, hrest⟩ := Option.bind_eq_some_iff.mp h
    exact isWord_of_word? hrest

/-- What a line says can be said again: with the mark that ends it, the text of the statement is
read as the same statement. -/
theorem ofLine?_render {line : List Char} (h : ofChars? line = some statement) :
    (statement.opens = true → ofLine? (statement.render ++ " \x7b") = some statement) ∧
    (statement.opens = false → statement ≠ .close →
      ofLine? (statement.render ++ ";") = some statement) ∧
    (statement = .close → ofLine? statement.render = some statement) := by
  have hread : ofLine? statement.line = some statement :=
    ofChars?_line (isSpeakable_of_reads (reads_of_ofChars? h))
  rw [Statement.line] at hread
  refine ⟨fun hopens => ?_, fun hopens hclose => ?_, fun hclose => ?_⟩
  · rwa [if_pos hopens] at hread
  · rwa [if_neg (Bool.eq_false_iff.mp hopens), if_neg hclose] at hread
  · subst hclose
    exact hread

theorem ofLine?_render_markedWords :
    ofLine? "list \x7ba;\x7b\x7b // b" = some (.openNode .list "\x7ba;\x7b") ∧
    ofLine? "list \x7ba;\x7b \x7b" = some (.openNode .list "\x7ba;\x7b") ∧
    ofLine? "prefix ;p;;q" = some (.setPrefix ";p;") ∧
    ofLine? "prefix ;p;;" = some (.setPrefix ";p;") ∧
    ofLine? "description \"type t; \x7d\" ;;" = some (.setDescription "type t; \x7d") ∧
    ofLine? "description \"type t; \x7d\";" = some (.setDescription "type t; \x7d") := by
  have hlist : ofLine? "list \x7ba;\x7b\x7b // b" = some (.openNode .list "\x7ba;\x7b") := by
    decide
  have hprefix : ofLine? "prefix ;p;;q" = some (.setPrefix ";p;") := by decide
  have htext : ofLine? "description \"type t; \x7d\" ;;" =
      some (.setDescription "type t; \x7d") := by decide
  obtain ⟨hopens, -, -⟩ := ofLine?_render hlist
  obtain ⟨-, hsetting, -⟩ := ofLine?_render hprefix
  obtain ⟨-, hquoted, -⟩ := ofLine?_render htext
  exact ⟨hlist, hopens rfl, hprefix, hsetting rfl nofun, htext, hquoted rfl nofun⟩

end Statement

end YangCheck
