import GatewayCache.Proofs.RetentionNames
import GatewayCache.Settings
import Mathlib.Data.List.Forall2

/-!
Where settings come from: what a file is read as, what the environment variable is read as, and
which of the two decides.
-/
namespace GatewayCache.Settings

open Retention (Reads Stands parseAll)
open Text (SameWord Separated Spells allBlank isBlank trim)

/-! ### The file -/

/--
What a section of a document gives for `retain`: a value, or nothing. A section is a table, or else
an array whose first item is the value; a date is a section without keys.
-/
inductive Gives : Toml.Node → Option Toml.Value → Prop
  | table {implicit dotted : Bool} {entries : List (String × Toml.Node)} {v : Toml.Value}
      (given : entries.lookup "retain" = some (.value v)) :
      Gives (.table implicit dotted entries) (some v)
  | bareTable {implicit dotted : Bool} {entries : List (String × Toml.Node)}
      (absent : entries.lookup "retain" = none) : Gives (.table implicit dotted entries) none
  | inlineTable {dotted : Bool} {entries : List (String × Toml.Value)} {v : Option Toml.Value}
      (given : entries.lookup "retain" = v) : Gives (.value (.table dotted entries)) v
  | array {items : List Toml.Value} {v : Option Toml.Value} (first : items.head? = v) :
      Gives (.value (.array items)) v
  | date {text : String} : Gives (.value (.datetime text)) none

/-- The names that a document lists in its section `cache`, if it lists any. -/
inductive Lists (document : Toml.Table) : Option (List String) → Prop
  | noSection (absent : document.get? "cache" = none) : Lists document none
  | noList {node : Toml.Node} (found : document.get? "cache" = some node)
      (gives : Gives node none) : Lists document none
  | names {node : Toml.Node} {names : List String} (found : document.get? "cache" = some node)
      (gives : Gives node (some (.array (names.map .string)))) : Lists document (some names)

theorem strings?_eq_some {v : Toml.Value} {names : List String} :
    strings? v = some names ↔ v = .array (names.map .string) := by
  cases v
  case array items =>
    simp only [strings?, Toml.Value.array.injEq]
    induction items generalizing names with
    | nil => cases names <;> simp
    | cons item items ih =>
      rw [List.mapM_cons]
      cases item
      case string s =>
        cases names with
        | nil => simp [Option.bind_eq_some_iff]
        | cons name names => simp [Option.bind_eq_some_iff, ← ih, and_comm]
      all_goals cases names <;> simp
  all_goals simp [strings?]

theorem retainNames?_eq_some {retain : Option Toml.Value} {given : Option (List String)} :
    retainNames? retain = some given ↔
      match given with
      | none => retain = none
      | some names => retain = some (.array (names.map .string)) := by
  cases retain with
  | none => cases given <;> simp [retainNames?]
  | some v => cases given <;> simp [retainNames?, strings?_eq_some]

theorem namesIn?_of_gives {document : Toml.Table} {node : Toml.Node} {v : Option Toml.Value}
    (found : document.get? "cache" = some node) (gives : Gives node v) :
    namesIn? document = retainNames? v := by
  cases gives with
  | table given => simp [namesIn?, found, given, plainValue?]
  | bareTable absent => simp [namesIn?, found, absent, retainNames?]
  | inlineTable given => simp [namesIn?, found, given]
  | array first => simp [namesIn?, found, first]
  | date => simp [namesIn?, found, retainNames?]

theorem exists_gives {document : Toml.Table} {node : Toml.Node} {given : Option (List String)}
    (found : document.get? "cache" = some node) (h : namesIn? document = some given) :
    ∃ v, Gives node v := by
  cases node with
  | value v =>
    cases v
    case table dotted entries => exact ⟨_, .inlineTable rfl⟩
    case array items => exact ⟨_, .array rfl⟩
    case datetime text => exact ⟨_, .date⟩
    -- No other value is a section.
    all_goals simp [namesIn?, found] at h
  | table implicit dotted entries =>
    cases given : entries.lookup "retain" with
    | none => exact ⟨_, .bareTable given⟩
    | some n =>
      cases n
      case value v => exact ⟨_, .table given⟩
      all_goals simp [namesIn?, found, given, plainValue?] at h
  | tables elements => simp [namesIn?, found] at h

theorem lists_iff {document : Toml.Table} {given : Option (List String)} :
    Lists document given ↔ namesIn? document = some given := by
  constructor
  · intro h
    cases h with
    | noSection absent => simp [namesIn?, absent]
    | noList found gives => rw [namesIn?_of_gives found gives, retainNames?]
    | names found gives => exact (namesIn?_of_gives found gives).trans (retainNames?_eq_some.2 rfl)
  · intro h
    cases found : document.get? "cache" with
    | none =>
      simp only [namesIn?, found, Option.some.injEq] at h
      exact h ▸ .noSection found
    | some node =>
      -- The section gives something, and only a list of names is read as one.
      obtain ⟨v, gives⟩ := exists_gives found h
      have read := retainNames?_eq_some.1 ((namesIn?_of_gives found gives).symm.trans h)
      cases given with
      | none => exact .noList found (read ▸ gives)
      | some names => exact .names found (read ▸ gives)

/-- What is at a path, and how it is read. -/
inductive FileReads : FileState → Except LoadError Retention → Prop
  | absent : FileReads .absent (.ok .standard)
  | directory : FileReads .directory (.error .unreadable)
  | locked : FileReads .locked (.error .unreadable)
  | noText {bytes : ByteArray} (noText : String.fromUTF8? bytes = none) :
      FileReads (.content bytes) (.error .unreadable)
  | noToml {bytes : ByteArray} {text : String} (decoded : String.fromUTF8? bytes = some text)
      (noToml : Toml.parse? text = none) :
      FileReads (.content bytes) (.error (.badFile .malformed))
  | wrongType {bytes : ByteArray} {text : String} {document : Toml.Table}
      (decoded : String.fromUTF8? bytes = some text) (parsed : Toml.parse? text = some document)
      (wrongType : ∀ given, ¬Lists document given) :
      FileReads (.content bytes) (.error (.badFile .malformed))
  | silent {bytes : ByteArray} {text : String} {document : Toml.Table}
      (decoded : String.fromUTF8? bytes = some text) (parsed : Toml.parse? text = some document)
      (silent : Lists document none) : FileReads (.content bytes) (.ok .standard)
  | known {bytes : ByteArray} {text : String} {document : Toml.Table} {names : List String}
      {kept : Retention} (decoded : String.fromUTF8? bytes = some text)
      (parsed : Toml.parse? text = some document) (lists : Lists document (some names))
      (reads : Reads names (.ok kept)) : FileReads (.content bytes) (.ok kept)
  | unknown {bytes : ByteArray} {text : String} {document : Toml.Table} {names : List String}
      {bad : String} (decoded : String.fromUTF8? bytes = some text)
      (parsed : Toml.parse? text = some document) (lists : Lists document (some names))
      (reads : Reads names (.error bad)) :
      FileReads (.content bytes) (.error (.badFile (.unknownCategory bad)))

theorem reads_ofFile (file : FileState) : FileReads file (ofFile file) := by
  cases file with
  | absent => exact .absent
  | directory => exact .directory
  | locked => exact .locked
  | content bytes =>
    cases decoded : String.fromUTF8? bytes with
    | none => simpa only [ofFile, decoded] using FileReads.noText decoded
    | some text =>
      simp only [ofFile, decoded, ofText]
      cases parsed : Toml.parse? text with
      | none => exact .noToml decoded parsed
      | some document =>
        simp only [Option.bind_some]
        cases inDocument : namesIn? document with
        | none =>
          -- A document that listed names, or was silent, would have been read.
          refine .wrongType decoded parsed fun given lists => ?_
          cases inDocument.symm.trans (lists_iff.1 lists)
        | some given =>
          have lists := lists_iff.2 inDocument
          cases given with
          | none => exact .silent decoded parsed lists
          | some names =>
            have reads := Retention.reads_parseAll names
            simp only [retentionOf]
            cases read : parseAll names with
            | error bad => exact .unknown decoded parsed lists (read ▸ reads)
            | ok kept => exact .known decoded parsed lists (read ▸ reads)

theorem ofFile_of_reads {file : FileState} {outcome : Except LoadError Retention}
    (h : FileReads file outcome) : ofFile file = outcome := by
  cases h with
  | absent => rfl
  | directory => rfl
  | locked => rfl
  | noText noText => simp only [ofFile, noText]
  | noToml decoded noToml => simp only [ofFile, decoded, ofText, noToml, Option.bind_none]
  | @wrongType _ _ document decoded parsed wrongType =>
    have nothing : namesIn? document = none :=
      Option.eq_none_iff_forall_ne_some.2 fun given found => wrongType given (lists_iff.2 found)
    simp only [ofFile, decoded, ofText, parsed, Option.bind_some, nothing]
  | silent decoded parsed silent =>
    simp only [ofFile, decoded, ofText, parsed, Option.bind_some, lists_iff.1 silent]
  | known decoded parsed lists reads =>
    simp only [ofFile, decoded, ofText, parsed, Option.bind_some, lists_iff.1 lists, retentionOf,
      Retention.parseAll_of_reads reads]
  | unknown decoded parsed lists reads =>
    simp only [ofFile, decoded, ofText, parsed, Option.bind_some, lists_iff.1 lists, retentionOf,
      Retention.parseAll_of_reads reads]

/-! ### The environment variable -/

/--
How the value of the environment variable is read: what stands between its commas, trimmed, is a
name unless nothing is left of it.
-/
inductive VariableReads (value : String) : Except LoadError Retention → Prop
  | known {pieces : List String} {kept : Retention} (split : Separated value pieces)
      (reads : Reads ((pieces.map trim).filter (! ·.isEmpty)) (.ok kept)) :
      VariableReads value (.ok kept)
  | unknown {pieces : List String} {bad : String} (split : Separated value pieces)
      (reads : Reads ((pieces.map trim).filter (! ·.isEmpty)) (.error bad)) :
      VariableReads value (.error (.badVariable bad))

theorem namesInVariable_of_separated {value : String} {pieces : List String}
    (split : Separated value pieces) :
    namesInVariable value = (pieces.map trim).filter (! ·.isEmpty) := by
  rw [namesInVariable, Text.splitOn_eq_iff.2 split]

/-! ### Both -/

/-- Which source decides: a file that cannot be used, then the variable, then the file. -/
inductive Loads (file : FileState) : Option String → Except LoadError Retention → Prop
  | unusable {cause : LoadError} (setting : Option String) (h : FileReads file (.error cause)) :
      Loads file setting (.error cause)
  | unset {kept : Retention} (h : FileReads file (.ok kept)) : Loads file none (.ok kept)
  | set {fromFile : Retention} {value : String} {outcome : Except LoadError Retention}
      (usable : FileReads file (.ok fromFile)) (h : VariableReads value outcome) :
      Loads file (some value) outcome

/-- With a file that can be used, what the variable says is all that counts. -/
theorem load_of_usable {file : FileState} {fromFile : Retention}
    (usable : FileReads file (.ok fromFile)) (value : String) :
    load file (some value) =
      match parseAll (namesInVariable value) with
      | .ok kept => .ok kept
      | .error name => .error (.badVariable name) := by
  rw [load, ofFile_of_reads usable]
  rfl

theorem loads_load (file : FileState) (setting : Option String) :
    Loads file setting (load file setting) := by
  have fileReads := reads_ofFile file
  cases read : ofFile file with
  | error cause =>
    rw [read] at fileReads
    rw [load, read]
    exact .unusable setting fileReads
  | ok fromFile =>
    rw [read] at fileReads
    cases setting with
    | none =>
      rw [load, read]
      exact .unset fileReads
    | some value =>
      have split : Separated value (value.splitOn ",") := Text.splitOn_eq_iff.1 rfl
      have reads := Retention.reads_parseAll (namesInVariable value)
      rw [load_of_usable fileReads]
      cases outcome : parseAll (namesInVariable value) with
      | ok kept => exact .set fileReads (.known split (outcome ▸ reads))
      | error bad => exact .set fileReads (.unknown split (outcome ▸ reads))

theorem load_of_loads {file : FileState} {setting : Option String}
    {outcome : Except LoadError Retention} (h : Loads file setting outcome) :
    load file setting = outcome := by
  cases h with
  | unusable _ h => rw [load, ofFile_of_reads h]; rfl
  | unset h => rw [load, ofFile_of_reads h]; rfl
  | set usable h =>
    rw [load_of_usable usable]
    cases h with
    | known split reads =>
      rw [namesInVariable_of_separated split, Retention.parseAll_of_reads reads]
    | unknown split reads =>
      rw [namesInVariable_of_separated split, Retention.parseAll_of_reads reads]

/-! ### Names in the variable -/

theorem exists_of_mem_left {α β : Type} {R : α → β → Prop} {as : List α} {bs : List β}
    (h : List.Forall₂ R as bs) {a : α} (mem : a ∈ as) : ∃ b ∈ bs, R a b := by
  induction h with
  | nil => cases mem
  | cons related _ ih =>
    obtain rfl | inRest := List.mem_cons.1 mem
    · exact ⟨_, List.mem_cons_self, related⟩
    · obtain ⟨b, inRest', related'⟩ := ih inRest
      exact ⟨b, List.mem_cons_of_mem _ inRest', related'⟩

theorem mem_namesInVariable_join {pieces : List String}
    (noComma : ∀ piece ∈ pieces, ',' ∉ piece.toList) {name : String} :
    name ∈ namesInVariable (",".intercalate pieces) ↔
      name ≠ "" ∧ ∃ piece ∈ pieces, trim piece = name := by
  by_cases empty : pieces = []
  · -- The empty text is one empty piece, which is no name.
    have split : Separated (",".intercalate pieces) [""] := by
      rw [empty]
      exact ⟨rfl, by simp, by simp⟩
    rw [namesInVariable_of_separated split, empty]
    have blank : trim "" = "" := by decide
    simp [blank]
  · rw [namesInVariable_of_separated ⟨rfl, empty, noComma⟩]
    simp [and_comm]

/-- A value of nothing but white space and commas has no names. -/
theorem namesInVariable_of_blank {value : String}
    (blank : ∀ c ∈ value.toList, isBlank c ∨ c = ',') : namesInVariable value = [] := by
  have split : Separated value (value.splitOn ",") := Text.splitOn_eq_iff.1 rfl
  rw [namesInVariable_of_separated split, List.filter_eq_nil_iff]
  intro name mem
  obtain ⟨piece, inPieces, rfl⟩ := List.mem_map.1 mem
  have blankPiece : allBlank piece := by
    rw [Text.mem_allBlank]
    intro c inPiece
    obtain blank | rfl := blank c (split.mem_toList inPieces inPiece)
    · exact blank
    · exact absurd inPiece (split.noComma piece inPieces)
  simp [Text.trim_of_allBlank blankPiece]

/-- The names of a set can be written to the variable with any padding, in any order and case. -/
theorem parseAll_namesInVariable {kept : Retention} {order pieces : List String}
    (reordered : order.Perm kept.names) (spelled : List.Forall₂ Spells pieces order) :
    parseAll (namesInVariable (",".intercalate pieces)) = .ok kept := by
  have spellsName {piece : String} (mem : piece ∈ pieces) :
      ∃ c, kept.keeps c ∧ Spells piece c.name := by
    obtain ⟨word, inOrder, spells⟩ := exists_of_mem_left spelled mem
    obtain ⟨c, keeps, rfl⟩ := Retention.mem_names.1 (reordered.mem_iff.1 inOrder)
    exact ⟨c, keeps, spells⟩
  -- No name has a comma, so splitting the text gives back the pieces that were joined.
  have noComma : ∀ piece ∈ pieces, ',' ∉ piece.toList := by
    intro piece mem comma
    obtain ⟨c, -, spells⟩ := spellsName mem
    exact c.comma_notMem_name (spells.comma_mem comma)
  apply Retention.parseAll_names
  · intro name mem
    obtain ⟨-, piece, inPieces, rfl⟩ := (mem_namesInVariable_join noComma).1 mem
    obtain ⟨c, keeps, spells⟩ := spellsName inPieces
    exact ⟨c, keeps, spells.trim c.trim_name⟩
  · intro c keeps
    have inOrder : c.name ∈ order := reordered.mem_iff.2 (Retention.mem_names.2 ⟨c, keeps, rfl⟩)
    have flipped : List.Forall₂ (flip Spells) order pieces := List.Forall₂.flip spelled
    obtain ⟨piece, inPieces, spells⟩ := exists_of_mem_left flipped inOrder
    refine ⟨trim piece, (mem_namesInVariable_join noComma).2 ⟨?_, piece, inPieces, rfl⟩,
      spells.trim c.trim_name⟩
    -- A piece that spells a name is not dropped as blank.
    intro empty
    have word := Retention.spells_name.1 spells
    rw [empty] at word
    exact c.name_ne_empty word.symm

/-! ### Settings -/

/--
Settings are read by these rules. A list of names is read if each stands for a set, as the union of
the sets, so only the words in it count; otherwise its first unknown name is the error. A file that
cannot be used is an error whatever the variable says; then the variable decides, if it is set, and
after it the file. A variable without names keeps nothing, and the names of a set, joined by commas
with any padding in any order, give the set back.
-/
theorem retention_from_sources :
    (∀ names, (∃ kept, parseAll names = .ok kept) ↔ ∀ name ∈ names, ∃ set, Stands name set) ∧
    (∀ names outcome, parseAll names = outcome ↔ Reads names outcome) ∧
    (∀ names names' kept, (∀ name ∈ names, ∃ name' ∈ names', SameWord name name') →
      (∀ name' ∈ names', ∃ name ∈ names, SameWord name' name) →
      (parseAll names = .ok kept ↔ parseAll names' = .ok kept)) ∧
    (∀ file setting outcome, load file setting = outcome ↔ Loads file setting outcome) ∧
    (∀ file fromFile value, FileReads file (.ok fromFile) →
      (∀ c ∈ value.toList, isBlank c ∨ c = ',') → load file (some value) = .ok .none) ∧
    (∀ file fromFile kept order pieces, FileReads file (.ok fromFile) →
      order.Perm (Retention.names kept) → List.Forall₂ Spells pieces order →
      load file (some (",".intercalate pieces)) = .ok kept) := by
  refine ⟨Retention.exists_parseAll_iff, fun _ _ => Retention.parseAll_eq_iff,
    fun _ _ _ => Retention.parseAll_of_respelled, fun file setting _ =>
      ⟨fun eq => eq ▸ loads_load file setting, load_of_loads⟩, ?_, ?_⟩
  · intro file fromFile value usable blank
    rw [load_of_usable usable, namesInVariable_of_blank blank]
    rfl
  · intro file fromFile kept order pieces usable reordered spelled
    rw [load_of_usable usable, parseAll_namesInVariable reordered spelled]

/-- With no file, names in any case between any white space are read; a directory never is. -/
theorem retention_from_sources_of_padded :
    parseAll ["Roles", "ALL", " roles "] = .ok .all ∧
    load .directory (some "all") = .error .unreadable ∧
    load .absent (some " , ,") = .ok .none ∧
    load .absent (some "VOICE_states , roles") =
      .ok (Retention.only .roles ∪ Retention.only .voiceStates) := by
  obtain ⟨-, -, respelled, loads, blank, padded⟩ := retention_from_sources
  have same : ∀ word, SameWord word word := fun word => ⟨word, .refl word, .refl word⟩
  have roles : Spells " roles " "roles" := ⟨" ", "roles", " ", rfl, rfl, rfl, rfl⟩
  have capitals : Spells "Roles" "roles" := ⟨"", "Roles", "", rfl, rfl, rfl, by decide⟩
  have spelled : List.Forall₂ Spells ["VOICE_states ", " roles"] ["voice_states", "roles"] :=
    .cons ⟨"", "VOICE_states", " ", rfl, rfl, rfl, by decide⟩
      (.cons ⟨" ", "roles", "", rfl, rfl, rfl, rfl⟩ .nil)
  have space : isBlank ' ' := by decide
  have names : (Retention.only .roles ∪ Retention.only .voiceStates).names =
      ["roles", "voice_states"] := by decide
  refine ⟨?_, (loads _ _ _).2 (.unusable _ .directory), blank .absent _ _ .absent (by simp [space]),
    padded .absent _ _ _ _ .absent (names ▸ .swap _ _ []) spelled⟩
  refine (respelled ["ALL", "Roles"] _ _ ?_ ?_).1 (by decide)
  · simp [same]
  · have sameRoles : SameWord " roles " "Roles" := ⟨"roles", roles, capitals⟩
    simp [same, sameRoles]

end GatewayCache.Settings
