import YangCheck.Statement.Reading

namespace YangCheck.Statement

/-- What a line has to hold for a statement to be read from it. -/
def Reads (line : List Char) : Statement → Prop
  | .openModule name => header? "module" line = some name
  | .setNamespace uri => quotedSetting? "namespace" line = some uri
  | .setPrefix name => setting? "prefix" line = some name
  | .openImport name => header? "import" line = some name
  | .openNode kind name => header? kind.keyword line = some name
  | .setType name => setting? "type" line = some name
  | .setMandatory value => (argument? "mandatory" line).bind truth? = some value
  | .setDescription text => quotedSetting? "description" line = some text
  | .close => line = ['}']

variable {line : List Char} {statement : Statement}

theorem reads_of_node? (h : node? line = some statement) : Reads line statement := by
  obtain ⟨kind, _, hkind⟩ := List.exists_of_findSome?_eq_some h
  obtain ⟨name, hname, rfl⟩ := Option.map_eq_some_iff.mp hkind
  exact hname

theorem reads_of_ofChars? (h : ofChars? line = some statement) : Reads line statement := by
  simp only [ofChars?, Option.orElse_eq_orElse, Option.orElse_eq_or, Option.or_eq_some_iff,
    Option.map_eq_some_iff] at h
  rcases h with ⟨_, hr, rfl⟩ | ⟨-, h⟩
  · exact hr
  rcases h with ⟨_, hr, rfl⟩ | ⟨-, h⟩
  · exact hr
  rcases h with ⟨_, hr, rfl⟩ | ⟨-, h⟩
  · exact hr
  rcases h with ⟨_, hr, rfl⟩ | ⟨-, h⟩
  · exact hr
  rcases h with h | ⟨-, h⟩
  · exact reads_of_node? h
  rcases h with ⟨_, hr, rfl⟩ | ⟨-, h⟩
  · exact hr
  rcases h with ⟨_, hr, rfl⟩ | ⟨-, h⟩
  · exact hr
  rcases h with ⟨_, hr, rfl⟩ | ⟨-, h⟩
  · exact hr
  split at h
  · cases h
    assumption
  · cases h

theorem ofChars?_of_module? {name : String} (h : module? line = some name) :
    ofChars? line = some (.openModule name) := by
  simp only [ofChars?, h, Option.map_some, Option.orElse_eq_orElse, Option.orElse_some]

theorem isModule_of_ofChars? (h : ofChars? line = some statement) :
    statement.isModule = opensModule line := by
  cases hm : module? line with
  | some name =>
    obtain rfl := Option.some.inj (h.symm.trans (ofChars?_of_module? hm))
    simp only [isModule, opensModule, hm, Option.isSome_some]
  | none =>
    have hr := reads_of_ofChars? h
    cases statement with
    | openModule name => cases hm.symm.trans hr
    | _ => simp only [isModule, opensModule, hm, Option.isSome_none]

theorem trim_of_significant? {raw : String} (h : significant? raw = some line) :
    Text.trim raw.toList = line := by
  rw [significant?] at h
  split at h
  · cases h
  · cases h
  · exact Option.some.inj h

/-- Whether a line is neither blank nor a comment. -/
def isSignificant (raw : String) : Bool :=
  let line := Text.trim raw.toList
  !line.isEmpty && !(['/', '/'].isPrefixOf line)

theorem significant?_eq (raw : String) :
    significant? raw = if isSignificant raw then some (Text.trim raw.toList) else none := by
  rw [significant?, isSignificant]
  split
  case h_1 hblank => simp [hblank]
  case h_2 tail hcomment => simp [hcomment]
  case h_3 line hblank hcomment =>
    have hplain : ['/', '/'].isPrefixOf (Text.trim raw.toList) = false := by
      rw [← Bool.not_eq_true, List.isPrefixOf_iff_prefix]
      rintro ⟨tail, htail⟩
      exact hcomment tail htail.symm
    have hne : Text.trim raw.toList ≠ [] := hblank
    simp [hplain, hne]

end YangCheck.Statement
