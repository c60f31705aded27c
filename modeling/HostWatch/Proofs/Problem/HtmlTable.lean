/-
**The table of reports is read back from its HTML.**

A text is escaped by three replacements, one behind the other. As the ampersand is replaced first, none of them meets what
another one has written, and the three do what one replacement of each character would do. So no escaped text holds a
bracket. When a table is cut at its brackets, only the tags that the table itself has written come out, whatever the texts
of the reports are.

* `toList_escape`: **the three replacements are one**, character by character.
* `Escapes`: the law of escaping. No bracket is left, every ampersand starts an entity, and the text is read back.
* `pieces?`: a text read tag by tag. A bracket in a wrong place is not read over.
* `pieces?_eq_some`: pieces without brackets inside are read as they were written.
* `skeleton`: the tags of a table, which hang on the flags alone.
* `table_readsBack`: **a table shows its tags and its reports**, and two tables are the same only if their reports agree.
-/

import HostWatch.Problem.Html
import HostWatch.Proofs.Text.Words
import Mathlib.Data.List.Basic
import Mathlib.Data.List.Forall2

namespace HostWatch.Html

/-! ### Escaped characters -/

/-- What stands for a character in an escaped text. -/
def entityOf (c : Char) : List Char :=
  match entities.lookup c with
  | some entity => entity.toList
  | none => [c]

/-- A character is special, or it stands for itself. -/
theorem entityOf_cases (c : Char) :
    (∃ entity ∈ entities, entity.1 = c ∧ entityOf c = entity.2.toList) ∨
      (c ≠ '&' ∧ c ≠ '<' ∧ c ≠ '>' ∧ entityOf c = [c]) := by
  by_cases ampersand : c = '&'
  · subst ampersand
    exact .inl ⟨('&', "&amp;"), by decide, rfl, rfl⟩
  by_cases opening : c = '<'
  · subst opening
    exact .inl ⟨('<', "&lt;"), by decide, rfl, rfl⟩
  by_cases closing : c = '>'
  · subst closing
    exact .inl ⟨('>', "&gt;"), by decide, rfl, rfl⟩
  refine .inr ⟨ampersand, opening, closing, ?_⟩
  simp [entityOf, entities, List.lookup_cons, beq_false_of_ne ampersand, beq_false_of_ne opening, beq_false_of_ne closing]

/-- **The three replacements are one**: what one of them writes is left alone by the later ones. -/
theorem toList_escape (s : String) : (escape s).toList = s.toList.flatMap entityOf := by
  have each (c : Char) : replaceChar '>' "&gt;".toList (replaceChar '<' "&lt;".toList (replaceChar '&' "&amp;".toList [c])) =
      entityOf c := by
    rcases entityOf_cases c with ⟨entity, member, rfl, written⟩ | ⟨ampersand, opening, closing, written⟩
    · simp only [entities, List.mem_cons, List.not_mem_nil, or_false] at member
      rcases member with rfl | rfl | rfl <;> rfl
    · simp [replaceChar, written, ampersand, opening, closing]
  simp only [replaceChar, List.flatMap_singleton, List.flatMap_assoc] at each
  simp only [escape, entities, List.foldl_cons, List.foldl_nil, String.toList_ofList, replaceChar, List.flatMap_assoc, each]

theorem notMem_escape {bracket : Char} (absent : ∀ entity ∈ entities, bracket ∉ entity.2.toList) (s : String)
    (bracket_ne : bracket = '<' ∨ bracket = '>') : bracket ∉ (escape s).toList := by
  intro member
  rw [toList_escape, List.mem_flatMap] at member
  obtain ⟨c, _, member⟩ := member
  rcases entityOf_cases c with ⟨entity, among, _, written⟩ | ⟨_, opening, closing, written⟩
  · rw [written] at member
    exact absent entity among member
  · rw [written, List.mem_singleton] at member
    subst member
    rcases bracket_ne with rfl | rfl
    · exact opening rfl
    · exact closing rfl

/-- An ampersand in what stands for a character is the first of its entity. -/
theorem entity_of_ampersand {c : Char} {before after : List Char} (own : entityOf c = before ++ '&' :: after) :
    ∃ entity ∈ entities, entity.2.toList = '&' :: after := by
  rcases entityOf_cases c with ⟨entity, among, _, written⟩ | ⟨ampersand, _, _, written⟩
  · have only : ∀ entity ∈ entities, '&' ∉ entity.2.toList.tail := by decide
    rw [written] at own
    cases before with
    | nil => exact ⟨entity, among, own⟩
    | cons first before =>
      refine absurd ?_ (only entity among)
      rw [own]
      simp
  · rw [written] at own
    have same : '&' ∈ [c] := own ▸ by simp
    exact absurd (List.mem_singleton.1 same).symm ampersand

/-- Every ampersand of an escaped text starts an entity. -/
theorem exists_entity {s before after : List Char} (split : s.flatMap entityOf = before ++ '&' :: after) :
    ∃ entity ∈ entities, entity.2.toList <+: '&' :: after := by
  induction s generalizing before with
  | nil => simp at split
  | cons c s ih =>
    rw [List.flatMap_cons, List.append_eq_append_iff] at split
    -- The ampersand stands behind what stands for `c`, or in it.
    rcases split with ⟨between, _, rest⟩ | ⟨inside, own, rest⟩
    · exact ih rest
    · cases inside with
      | nil =>
        have whole : s.flatMap entityOf = [] ++ '&' :: after := rest.symm
        exact ih whole
      | cons d inside =>
        obtain ⟨rfl, rfl⟩ := List.cons.inj rest
        obtain ⟨entity, among, written⟩ := entity_of_ampersand own
        exact ⟨entity, among, written ▸ List.prefix_append ('&' :: inside) _⟩

/-! ### Reading escaped texts -/

/-- A text with each entity replaced by its character, in one pass from left to right. -/
def unescapeChars : List Char → List Char
  | '&' :: 'l' :: 't' :: ';' :: rest => '<' :: unescapeChars rest
  | '&' :: 'g' :: 't' :: ';' :: rest => '>' :: unescapeChars rest
  | '&' :: 'a' :: 'm' :: 'p' :: ';' :: rest => '&' :: unescapeChars rest
  | c :: rest => c :: unescapeChars rest
  | [] => []

def unescape (s : String) : String := String.ofList (unescapeChars s.toList)

theorem unescapeChars_cons {c : Char} (plain : c ≠ '&') (rest : List Char) :
    unescapeChars (c :: rest) = c :: unescapeChars rest := by
  conv_lhs => unfold unescapeChars
  split <;> simp_all

theorem unescapeChars_entityOf (c : Char) (rest : List Char) :
    unescapeChars (entityOf c ++ rest) = c :: unescapeChars rest := by
  rcases entityOf_cases c with ⟨entity, member, rfl, written⟩ | ⟨ampersand, _, _, written⟩
  · rw [written]
    simp only [entities, List.mem_cons, List.not_mem_nil, or_false] at member
    rcases member with rfl | rfl | rfl <;> rfl
  · rw [written]
    exact unescapeChars_cons ampersand rest

/-- **Unescaping an escaped text gives the text back**, also where it held entities before. -/
theorem unescape_escape (s : String) : unescape (escape s) = s := by
  have chars (s : List Char) : unescapeChars (s.flatMap entityOf) = s := by
    induction s with
    | nil => rfl
    | cons c s ih => rw [List.flatMap_cons, unescapeChars_entityOf, ih]
  unfold unescape
  rw [toList_escape, chars, String.ofList_toList]

/-- No bracket stands in a text. -/
structure Bracketless (s : String) : Prop where
  opening : '<' ∉ s.toList
  closing : '>' ∉ s.toList

instance (s : String) : Decidable (Bracketless s) :=
  decidable_of_iff ('<' ∉ s.toList ∧ '>' ∉ s.toList)
    ⟨fun both => ⟨both.1, both.2⟩, fun both => ⟨both.opening, both.closing⟩⟩

/-- **The law of escaping.** -/
structure Escapes (s : String) : Prop where
  bracketless : Bracketless (escape s)
  ampersand : ∀ before after, (escape s).toList = before ++ '&' :: after →
    ∃ entity ∈ entities, entity.2.toList <+: '&' :: after
  unescape_eq : unescape (escape s) = s

theorem escapes (s : String) : Escapes s := by
  refine ⟨⟨?_, ?_⟩, fun before after split => ?_, unescape_escape s⟩
  · exact notMem_escape (by decide) s (.inl rfl)
  · exact notMem_escape (by decide) s (.inr rfl)
  · rw [toList_escape] at split
    exact exists_entity split

/-! ### Reading tags -/

/-- A tag with the text behind it, as far as the next tag. -/
structure Piece where
  tag : String
  text : String

namespace Piece

/-- A tag with its closing bracket and the text behind it. -/
def inside (piece : Piece) : List Char := piece.tag.toList ++ '>' :: piece.text.toList

/-- A tag in its brackets with the text behind it. -/
def written (piece : Piece) : List Char := '<' :: piece.inside

/-- No bracket stands inside of a piece. -/
structure Plain (piece : Piece) : Prop where
  tag : Bracketless piece.tag
  text : Bracketless piece.text

instance (piece : Piece) : Decidable piece.Plain :=
  decidable_of_iff (Bracketless piece.tag ∧ Bracketless piece.text)
    ⟨fun both => ⟨both.1, both.2⟩, fun both => ⟨both.tag, both.text⟩⟩

end Piece

/-- What stands between two opening brackets is a piece if it holds one closing bracket. -/
def piece? (part : List Char) : Option Piece :=
  match part.splitOn '>' with
  | [tag, text] => some ⟨String.ofList tag, String.ofList text⟩
  | _ => none

/-- A text that starts with a tag, read tag by tag. -/
def pieces? (html : String) : Option (List Piece) :=
  match html.toList.splitOn '<' with
  | [] :: parts => parts.mapM piece?
  | _ => none

theorem piece?_inside {piece : Piece} (plain : piece.Plain) : piece? piece.inside = some piece := by
  have parts : piece.inside = ['>'].intercalate [piece.tag.toList, piece.text.toList] := by
    simp [Piece.inside, List.intercalate]
  have cut : piece.inside.splitOn '>' = [piece.tag.toList, piece.text.toList] := by
    rw [parts]
    refine List.splitOn_intercalate '>' ?_ (List.cons_ne_nil _ _)
    intro part member
    rw [List.mem_pair] at member
    rcases member with rfl | rfl
    · exact plain.tag.closing
    · exact plain.text.closing
  unfold piece?
  rw [cut]
  simp only [String.ofList_toList]

theorem opening_notMem_inside {piece : Piece} (plain : piece.Plain) : '<' ∉ piece.inside := by
  simp [Piece.inside, plain.tag.opening, plain.text.opening]

/-- Pieces are parts with opening brackets between them. -/
theorem intercalate_inside (first : List Char) (pieces : List Piece) :
    ['<'].intercalate (first :: pieces.map Piece.inside) = first ++ pieces.flatMap Piece.written := by
  rw [Text.intercalate_cons, List.flatMap_map]
  rfl

/-- **Pieces without brackets inside are read as they were written.** -/
theorem pieces?_eq_some {html : String} {pieces : List Piece} (plain : ∀ piece ∈ pieces, piece.Plain)
    (written : html.toList = pieces.flatMap Piece.written) : pieces? html = some pieces := by
  have cut : html.toList.splitOn '<' = [] :: pieces.map Piece.inside := by
    rw [written, ← List.nil_append (pieces.flatMap _), ← intercalate_inside]
    refine List.splitOn_intercalate '<' ?_ (List.cons_ne_nil _ _)
    rw [List.forall_mem_cons, List.forall_mem_map]
    exact ⟨List.not_mem_nil, fun piece member => opening_notMem_inside (plain piece member)⟩
  unfold pieces?
  rw [cut]
  clear cut written
  show (pieces.map Piece.inside).mapM piece? = some pieces
  induction pieces with
  | nil => rfl
  | cons piece pieces ih =>
    rw [List.forall_mem_cons] at plain
    rw [List.map_cons, List.mapM_cons, piece?_inside plain.1, ih plain.2]
    rfl

/-! ### The pieces of a table -/

def headTags : List String :=
  ["table border=\"1\"", "thead", "tr", "th", "/th", "th", "/th", "th", "/th", "/tr", "/thead"]

/-- The tag of the status of a report, which shows the flag by its color. -/
def statusTag (flagged : Bool) : String := "td bgcolor=\"" ++ statusColor flagged ++ "\""

def rowTags (flagged : Bool) : List String :=
  ["tr", "td", "/td", statusTag flagged, "/td", "td", "pre", "/pre", "/td", "/tr"]

/-- **The tags of a table**, by the flags of its reports. -/
def skeleton (flags : List Bool) : List String := headTags ++ flags.flatMap rowTags ++ ["/table"]

/-- The head of a table, with the names of its columns. -/
def headPieces : List Piece :=
  [⟨"table border=\"1\"", ""⟩, ⟨"thead", ""⟩, ⟨"tr", ""⟩, ⟨"th", "Problem type"⟩, ⟨"/th", ""⟩, ⟨"th", "Status"⟩, ⟨"/th", ""⟩,
    ⟨"th", "Diagnosis"⟩, ⟨"/th", ""⟩, ⟨"/tr", ""⟩, ⟨"/thead", "\n"⟩]

def rowPieces (report : Report) : List Piece :=
  [⟨"tr", ""⟩, ⟨"td", escape report.title⟩, ⟨"/td", ""⟩, ⟨statusTag report.flagged, statusWord report.flagged⟩, ⟨"/td", ""⟩,
    ⟨"td", ""⟩, ⟨"pre", escape report.diagnosis⟩, ⟨"/pre", ""⟩, ⟨"/td", ""⟩, ⟨"/tr", "\n"⟩]

def tablePieces (reports : List Report) : List Piece :=
  headPieces ++ reports.flatMap rowPieces ++ [⟨"/table", ""⟩]

theorem plain_of_mem_rowPieces (report : Report) : ∀ piece ∈ rowPieces report, piece.Plain := by
  have bare : ∀ tag ∈ ["tr", "td", "/td", "/pre"], Piece.Plain ⟨tag, ""⟩ := by decide
  have cell : Bracketless "td" ∧ Bracketless "pre" := by decide
  have title : Piece.Plain ⟨"td", escape report.title⟩ := ⟨cell.1, (escapes report.title).bracketless⟩
  have status : Piece.Plain ⟨statusTag report.flagged, statusWord report.flagged⟩ := by
    cases report.flagged <;> decide
  have diagnosis : Piece.Plain ⟨"pre", escape report.diagnosis⟩ := ⟨cell.2, (escapes report.diagnosis).bracketless⟩
  have last : Piece.Plain ⟨"/tr", "\n"⟩ := by decide
  simp only [List.forall_mem_cons] at bare
  simp [rowPieces, bare, title, status, diagnosis, last]

theorem plain_of_mem_tablePieces (reports : List Report) : ∀ piece ∈ tablePieces reports, piece.Plain := by
  have head : ∀ piece ∈ headPieces, piece.Plain := by decide
  intro piece member
  rw [tablePieces, List.mem_append, List.mem_append, List.mem_flatMap, List.mem_singleton] at member
  rcases member with (member | ⟨report, _, member⟩) | rfl
  · exact head piece member
  · exact plain_of_mem_rowPieces report piece member
  · decide

theorem written_headPieces : headPieces.flatMap Piece.written = tableHead.toList ++ ['\n'] := by
  decide

theorem written_rowPieces (report : Report) : (rowPieces report).flatMap Piece.written = (tableRow report).toList ++ ['\n'] := by
  unfold rowPieces tableRow statusTag
  simp only [List.flatMap_cons, List.flatMap_nil, Piece.written, Piece.inside, String.toList_append]
  simp

theorem toList_table (reports : List Report) : (table reports).toList = (tablePieces reports).flatMap Piece.written := by
  have rows : (reports.flatMap rowPieces).flatMap Piece.written =
      (reports.map fun report => (tableRow report).toList).flatMap (· ++ ['\n']) := by
    rw [List.flatMap_assoc, List.flatMap_map]
    simp only [written_rowPieces]
  have foot : [Piece.mk "/table" ""].flatMap Piece.written = "</table>".toList := by decide
  have lines : (tableHead :: reports.map tableRow ++ ["</table>"]).map String.toList =
      (tableHead.toList :: reports.map fun report => (tableRow report).toList) ++ ["</table>".toList] := by
    simp only [List.map_append, List.map_cons, List.map_map, List.map_nil]
    rfl
  calc (table reports).toList
      = ['\n'].intercalate ((tableHead.toList :: reports.map fun report => (tableRow report).toList) ++ ["</table>".toList]) := by
        rw [table, String.toList_intercalate, lines]
        rfl
    _ = headPieces.flatMap Piece.written ++ (reports.flatMap rowPieces).flatMap Piece.written ++
          [Piece.mk "/table" ""].flatMap Piece.written := by
        rw [Text.intercalate_append_cons, List.flatMap_cons, List.flatMap_nil, List.append_nil, written_headPieces, rows, foot]
    _ = (tablePieces reports).flatMap Piece.written := by
        rw [tablePieces, List.flatMap_append, List.flatMap_append]

/-- **The pieces of a table are read**, whatever the texts of its reports are. -/
theorem pieces?_table (reports : List Report) : pieces? (table reports) = some (tablePieces reports) :=
  pieces?_eq_some (plain_of_mem_tablePieces reports) (toList_table reports)

theorem tags_tablePieces (reports : List Report) :
    (tablePieces reports).map Piece.tag = skeleton (reports.map Report.flagged) := by
  have row (report : Report) : (rowPieces report).map Piece.tag = rowTags report.flagged := rfl
  rw [tablePieces, List.map_append, List.map_append, List.map_flatMap]
  simp only [row]
  rw [skeleton, List.flatMap_map]
  rfl

/-! ### Reading reports -/

/-- What a row of a table shows of a report. -/
structure Shown where
  title : String
  flagged : Bool
  diagnosis : String

def Shown.of (report : Report) : Shown := ⟨report.title, report.flagged, report.diagnosis⟩

theorem same_iff (a b : Report) : a.same b = true ↔ Shown.of a = Shown.of b := by
  simp [Report.same, Shown.of, and_assoc]

/-- The rows behind the head of a table: the class in the first cell, the flag by the tag of the second one and the diagnosis
in the third one. -/
def readRows : List Piece → Option (List Shown)
  | _ :: title :: _ :: status :: _ :: _ :: diagnosis :: _ :: _ :: _ :: rest => do
    let others ← readRows rest
    return ⟨unescape title.text, status.tag == statusTag true, unescape diagnosis.text⟩ :: others
  | [_] => some []
  | _ => none

theorem readRows_rowPieces (reports : List Report) (foot : Piece) :
    readRows (reports.flatMap rowPieces ++ [foot]) = some (reports.map Shown.of) := by
  induction reports with
  | nil => rfl
  | cons report reports ih =>
    have flag : (statusTag report.flagged == statusTag true) = report.flagged := by
      cases report.flagged <;> decide
    simp [rowPieces, readRows, ih, unescape_escape, flag, Shown.of]

/-- **What is read from the table of reports**: the tags that their flags give, and each report. -/
structure ReadsBack (reports : List Report) (pieces : List Piece) : Prop where
  tags_eq : pieces.map Piece.tag = skeleton (reports.map Report.flagged)
  rows_eq : readRows (pieces.drop headTags.length) = some (reports.map Shown.of)

theorem readsBack_tablePieces (reports : List Report) : ReadsBack reports (tablePieces reports) := by
  refine ⟨tags_tablePieces reports, ?_⟩
  have behind : (tablePieces reports).drop headTags.length = reports.flatMap rowPieces ++ [⟨"/table", ""⟩] := by
    rw [tablePieces, List.append_assoc, show headTags.length = headPieces.length from rfl]
    exact List.drop_left
  rw [behind]
  exact readRows_rowPieces reports _

theorem shown_eq_of_table_eq {a b : List Report} (same : table a = table b) : a.map Shown.of = b.map Shown.of := by
  have pieces : tablePieces a = tablePieces b := by
    have read := pieces?_table a
    rw [same, pieces?_table b] at read
    exact (Option.some.inj read).symm
  have shown := (readsBack_tablePieces a).rows_eq
  rw [pieces, (readsBack_tablePieces b).rows_eq] at shown
  exact (Option.some.inj shown).symm

theorem table_eq_of_shown_eq {a b : List Report} (same : a.map Shown.of = b.map Shown.of) : table a = table b := by
  have rows (reports : List Report) : reports.map tableRow = (reports.map Shown.of).map fun shown =>
      tableRow ⟨shown.title, shown.flagged, shown.diagnosis, "", 0⟩ := by
    rw [List.map_map]
    rfl
  unfold table
  rw [rows a, rows b, same]

/-- **The table of reports is read back.** Tag by tag it holds what the flags of the reports give, its cells show class and
diagnosis of each report, and tables are the same only for reports that agree one by one. What carries this is the law of
escaping. -/
theorem table_readsBack :
    (∀ reports, ∃ pieces, pieces? (table reports) = some pieces ∧ ReadsBack reports pieces) ∧
      (∀ a b, table a = table b ↔ List.Forall₂ (fun report other => report.same other = true) a b) ∧ ∀ s, Escapes s := by
  refine ⟨fun reports => ⟨tablePieces reports, pieces?_table reports, readsBack_tablePieces reports⟩, fun a b => ?_, escapes⟩
  have agree : List.Forall₂ (fun report other => report.same other = true) a b ↔ a.map Shown.of = b.map Shown.of := by
    simp only [same_iff]
    rw [← List.forall₂_eq_eq_eq, List.forall₂_map_left_iff, List.forall₂_map_right_iff]
  rw [agree]
  exact ⟨shown_eq_of_table_eq, table_eq_of_shown_eq⟩

end HostWatch.Html
