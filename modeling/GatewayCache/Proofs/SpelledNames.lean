import GatewayCache.Proofs.LetterCase
import Mathlib.Data.String.Basic

/-!
How names are spelled in settings: between white space, with ASCII letters of either case, and one
after the other with commas between them.
-/
namespace GatewayCache.Text

open String (ofList utf8Len)

/-! ### Commas -/

/-- Splitting goes on behind what is split already (`l`) and what the next piece has got (`m`). -/
theorem splitOnAux_of_valid (c : Char) (l m r : List Char) (pieces : List String) :
    String.splitOnAux (ofList (l ++ m ++ r)) (ofList [c]) ⟨utf8Len l⟩ ⟨utf8Len (l ++ m)⟩ 0 pieces =
      pieces.reverse ++ (List.splitOnPPrepend (· == c) r m.reverse).map ofList := by
  have mark : String.Pos.Raw.get (ofList [c]) 0 = c := String.get_of_valid [] [c]
  have behindMark : String.Pos.Raw.next (ofList [c]) 0 = ⟨utf8Len [c]⟩ :=
    String.next_of_valid [] c []
  have closed : String.Pos.Raw.atEnd (ofList [c]) ⟨utf8Len [c]⟩ = true := by
    simp only [String.atEnd_iff, String.rawEndPos_ofList, String.Pos.Raw.mk_le_mk, Nat.le_refl]
  -- The induction is on what is not yet looked at; a piece grows or ends with each character of it.
  induction r generalizing l m pieces with
  | nil =>
    have ended : String.Pos.Raw.atEnd (ofList (l ++ m ++ [])) ⟨utf8Len (l ++ m)⟩ = true := by
      simp only [String.atEnd_iff, String.rawEndPos_ofList, String.Pos.Raw.mk_le_mk,
        List.append_nil, Nat.le_refl]
    have piece := String.extract_of_valid l m []
    rw [String.splitOnAux, if_pos ended, String.utf8Len_append, piece, List.reverse_cons,
      List.splitOnPPrepend_nil, List.reverse_reverse, List.map_singleton]
  | cons d r ih =>
    have more : ¬String.Pos.Raw.atEnd (ofList (l ++ m ++ d :: r)) ⟨utf8Len (l ++ m)⟩ = true := by
      have := d.utf8Size_pos
      simp only [String.atEnd_iff, String.rawEndPos_ofList, String.utf8Len_append,
        String.Pos.Raw.mk_le_mk, String.utf8Len_cons]
      omega
    have here : String.Pos.Raw.get (ofList (l ++ m ++ d :: r)) ⟨utf8Len (l ++ m)⟩ = d :=
      String.get_of_valid (l ++ m) (d :: r)
    have behind := String.next_of_valid (l ++ m) d r
    rw [String.splitOnAux, if_neg more, here, mark, List.splitOnPPrepend_cons_eq_if]
    split
    next same =>
      -- The piece ends in front of the separator, and the next one begins behind it.
      obtain rfl : d = c := beq_iff_eq.1 same
      have piece := String.extract_of_valid l m (d :: r)
      have ends : (String.Pos.Raw.mk (utf8Len (l ++ m) + d.utf8Size)).unoffsetBy ⟨utf8Len [d]⟩ =
          ⟨utf8Len l + utf8Len m⟩ := by
        simp [String.Pos.Raw.unoffsetBy]
      have rest := ih (l ++ m ++ [d]) [] (ofList m :: pieces)
      simp only [behindMark, closed, if_true, behind, ends, piece]
      simpa [← Nat.add_assoc, -String.ofList_append, -String.ofList_cons] using rest
    next other =>
      have start : (String.Pos.Raw.mk (utf8Len (l ++ m))).unoffsetBy 0 = ⟨utf8Len (l ++ m)⟩ := rfl
      have rest := ih l (m ++ [d]) pieces
      rw [start, behind]
      simpa [← Nat.add_assoc, -String.ofList_append, -String.ofList_cons] using rest

/-- Splitting at a character splits the list of characters. -/
theorem splitOn_eq (c : Char) (s : String) :
    s.splitOn (ofList [c]) = (s.toList.splitOn c).map ofList := by
  have filled : (ofList [c] == "") = false := by simp
  have split := splitOnAux_of_valid c [] [] s.toList []
  rw [String.splitOn, filled]
  simpa [List.splitOn, -String.ofList_cons] using split

theorem not_mem_of_mem_splitOn {c : Char} {cs piece : List Char} (h : piece ∈ cs.splitOn c) :
    c ∉ piece := by
  induction cs generalizing piece with
  | nil => simp_all
  | cons d cs ih =>
    rw [List.splitOn_cons_eq_if_modifyHead] at h
    split at h
    next =>
      obtain rfl | inRest := List.mem_cons.1 h
      · exact List.not_mem_nil
      · exact ih inRest
    next other =>
      obtain ⟨first, rest, split⟩ := List.exists_cons_of_ne_nil (List.splitOn_ne_nil c cs)
      rw [split, List.modifyHead_cons] at h
      rw [split] at ih
      obtain rfl | inRest := List.mem_cons.1 h
      · simpa [ih List.mem_cons_self] using Ne.symm (by simpa using other)
      · exact ih (List.mem_cons_of_mem _ inRest)

/-- A text is made of pieces without a comma, one after the other with commas between them. -/
structure Separated (text : String) (pieces : List String) : Prop where
  joined : text = ",".intercalate pieces
  nonempty : pieces ≠ []
  noComma : ∀ piece ∈ pieces, ',' ∉ piece.toList

theorem splitOn_eq_iff {text : String} {pieces : List String} :
    text.splitOn "," = pieces ↔ Separated text pieces := by
  have comma : "," = ofList [','] := rfl
  rw [comma, splitOn_eq]
  constructor
  · rintro rfl
    refine ⟨String.toList_injective ?_, by simp, ?_⟩
    · rw [String.toList_intercalate, List.map_map]
      simp [Function.comp_def, List.intercalate_splitOn]
    · intro piece mem
      obtain ⟨cs, inSplit, rfl⟩ := List.mem_map.1 mem
      rw [String.toList_ofList]
      exact not_mem_of_mem_splitOn inSplit
  · rintro ⟨rfl, nonempty, noComma⟩
    rw [String.toList_intercalate, String.toList_ofList, List.splitOn_intercalate, List.map_map]
    · simp [Function.comp_def]
    · simpa using noComma
    · simpa using nonempty

theorem subset_intercalate {separator piece : List Char} {pieces : List (List Char)}
    (h : piece ∈ pieces) : piece ⊆ separator.intercalate pieces := by
  induction pieces with
  | nil => cases h
  | cons first rest ih =>
    cases rest with
    | nil => simp_all [List.intercalate]
    | cons second rest =>
      have joined : separator.intercalate (first :: second :: rest) =
          first ++ (separator ++ separator.intercalate (second :: rest)) := rfl
      rw [joined]
      obtain rfl | inRest := List.mem_cons.1 h
      · exact List.subset_append_left _ _
      · intro c mem
        exact List.mem_append_right _ (List.mem_append_right _ (ih inRest mem))

theorem Separated.mem_toList {text piece : String} {pieces : List String} {c : Char}
    (h : Separated text pieces) (mem : piece ∈ pieces) (inPiece : c ∈ piece.toList) :
    c ∈ text.toList := by
  rw [h.joined, String.toList_intercalate]
  exact subset_intercalate (List.mem_map_of_mem mem) inPiece

/-! ### White space at the ends -/

theorem toList_trim (s : String) :
    (trim s).toList = (dropBlank (dropBlank s.toList).reverse).reverse :=
  String.toList_ofList

theorem dropBlank_eq_nil {cs : List Char} : dropBlank cs = [] ↔ ∀ c ∈ cs, isBlank c :=
  List.dropWhile_eq_nil_iff

theorem mem_allBlank {s : String} : allBlank s ↔ ∀ c ∈ s.toList, isBlank c :=
  List.all_eq_true

theorem lowerAscii_trim (s : String) : lowerAscii (trim s) = trim (lowerAscii s) := by
  simp only [lowerAscii, trim, String.toList_ofList, dropBlank_map_toLower, ← List.map_reverse]

/-- White space around a text does not change what is left of it when it is trimmed. -/
theorem trim_padded {front back : String} (body : String) (blankFront : allBlank front)
    (blankBack : allBlank back) : trim (front ++ body ++ back) = trim body := by
  have blankFront := mem_allBlank.1 blankFront
  have blankBack := mem_allBlank.1 blankBack
  apply String.toList_injective
  rw [toList_trim, toList_trim, String.toList_append, String.toList_append, List.append_assoc,
    dropBlank_append blankFront]
  by_cases empty : dropBlank body.toList = []
  · -- The body is blank, so nothing is left on either side.
    have blankBody := dropBlank_eq_nil.1 empty
    rw [dropBlank_append blankBody, dropBlank_eq_nil.2 blankBack, empty]
  · have kept : dropBlank (body.toList ++ back.toList) = dropBlank body.toList ++ back.toList := by
      rw [dropBlank, List.dropWhile_append, if_neg (by simpa [dropBlank] using empty), dropBlank]
    have blankReversed : ∀ c ∈ back.toList.reverse, isBlank c := by simpa using blankBack
    rw [kept, List.reverse_append, dropBlank_append blankReversed]

theorem trim_of_allBlank {s : String} (blank : allBlank s) : trim s = "" := by
  have padded : trim (s ++ "" ++ "") = trim "" := trim_padded "" blank rfl
  rw [String.append_empty, String.append_empty] at padded
  exact padded.trans (by decide)

/-- A text is what is left of it when it is trimmed, between two pieces of white space. -/
theorem exists_padding (s : String) :
    ∃ front back, s = front ++ trim s ++ back ∧ allBlank front ∧ allBlank back := by
  let rest := dropBlank s.toList
  refine ⟨ofList (s.toList.takeWhile isBlank), ofList (rest.reverse.takeWhile isBlank).reverse,
    ?_, ?_, ?_⟩
  · have left : s.toList.takeWhile isBlank ++ rest = s.toList := List.takeWhile_append_dropWhile
    have right : (dropBlank rest.reverse).reverse ++ (rest.reverse.takeWhile isBlank).reverse =
        rest := by
      rw [← List.reverse_append, dropBlank, List.takeWhile_append_dropWhile, List.reverse_reverse]
    apply String.toList_injective
    rw [String.toList_append, String.toList_append, toList_trim, String.toList_ofList,
      String.toList_ofList, List.append_assoc, right, left]
  · simpa [mem_allBlank] using fun c => List.mem_takeWhile_imp (p := isBlank) (l := s.toList)
  · simpa [mem_allBlank] using fun c => List.mem_takeWhile_imp (p := isBlank) (l := rest.reverse)

/-! ### Spelling -/

/-- A text is a word with white space around it, and with ASCII letters of either case. -/
def Spells (text word : String) : Prop :=
  ∃ front body back, text = front ++ body ++ back ∧ allBlank front ∧ allBlank back ∧
    lowerAscii body = lowerAscii word

theorem Spells.refl (word : String) : Spells word word :=
  ⟨"", word, "", by simp, rfl, rfl, rfl⟩

theorem Spells.lowerAscii_trim_eq {text word : String} (h : Spells text word) :
    lowerAscii (trim text) = lowerAscii (trim word) := by
  obtain ⟨front, body, back, rfl, blankFront, blankBack, same⟩ := h
  rw [trim_padded body blankFront blankBack, lowerAscii_trim, lowerAscii_trim, same]

/-- Two texts that are one word but for white space around it and the case of its letters. -/
def SameWord (text text' : String) : Prop := ∃ word, Spells text word ∧ Spells text' word

theorem SameWord.symm {text text' : String} : SameWord text text' → SameWord text' text
  | ⟨word, spells, spells'⟩ => ⟨word, spells', spells⟩

/-- Which word a text spells is read off it without its white space and in lower case. -/
theorem spells_iff {text word : String} (bare : trim word = word) :
    Spells text word ↔ lowerAscii (trim text) = lowerAscii word := by
  constructor
  · intro spells
    rw [spells.lowerAscii_trim_eq, bare]
  · intro same
    obtain ⟨front, back, padded, blankFront, blankBack⟩ := exists_padding text
    exact ⟨front, trim text, back, padded, blankFront, blankBack, same⟩

theorem Spells.trim {text word : String} (h : Spells text word) (bare : trim word = word) :
    Spells (trim text) word :=
  ⟨"", Text.trim text, "", by simp, rfl, rfl, (spells_iff bare).1 h⟩

/-- A text has a comma only if the word that it spells has one. -/
theorem Spells.comma_mem {text word : String} (h : Spells text word) (comma : ',' ∈ text.toList) :
    ',' ∈ word.toList := by
  obtain ⟨front, body, back, rfl, blankFront, blankBack, same⟩ := h
  -- A comma is no white space and has one case only, so it comes from the word.
  have noBlank : ¬isBlank ',' := by decide
  have inBody : ',' ∈ body.toList := by
    simp only [String.toList_append, List.mem_append] at comma
    obtain (inFront | inBody) | inBack := comma
    · exact absurd (mem_allBlank.1 blankFront _ inFront) noBlank
    · exact inBody
    · exact absurd (mem_allBlank.1 blankBack _ inBack) noBlank
  have lowered : ',' ∈ word.toList.map Char.toLower := by
    have same := congrArg String.toList same
    simp only [lowerAscii, String.toList_ofList] at same
    rw [← same]
    exact List.mem_map.2 ⟨',', inBody, rfl⟩
  obtain ⟨c, mem, eq⟩ := List.mem_map.1 lowered
  rwa [← (toLower_eq_iff (by decide)).1 eq]

end GatewayCache.Text
